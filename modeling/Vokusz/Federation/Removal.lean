import Vokusz.Federation.Fanout
import Vokusz.Federation.Inbox
import Vokusz.Routes.Bans

namespace Vokusz.Federation.Removal

open Db Mapping Permissions Fanout
open Lib (Prog)

section

variable {domain peer spaceId : String} {s : AppState}

theorem outboxFor_fanoutLeave (h : Homed domain spaceId s)
    (hother : eqIgnoreAsciiCase peer domain = false) (userId : String) (targets : List String) :
    outboxFor peer ((Routes.Members.fanoutLeave spaceId userId targets).exec s).2 =
      outboxFor peer s ++
        if targets.any (fun t => eqIgnoreAsciiCase t peer) then
          [(envelope domain spaceId "m.member.leave" (Outbound.memberLeavePayload domain userId)
            s.snowflake).toJson]
        else [] := by
  obtain ⟨fed, hfed, hdomain⟩ := Option.map_eq_some_iff.mp h.federation
  have hfederation : App.federation.exec s = (.ok (some fed), s) := by
    rw [App.exec_federation, hfed]
  rw [Routes.Members.fanoutLeave, Prog.exec_bind_of_ok hfederation]
  simp only [hdomain]
  rw [Prog.exec_bind_of_ok (Prog.exec_attempt _ _)]
  exact outboxFor_fanoutToTargets h hother _ _ _

end

inductive MembershipRemoval where
  | kick (userId : String) (auth : AuthUser)
  | ban (userId : String) (auth : AuthUser) (body : Routes.Bans.CreateBanBody)
  | leave (auth : AuthUser) (deleteData : Bool) (reply : Except AppError Response)
  | leaveThrough (server : String) (auth : AuthUser) (profile : RemoteUserRef) (deleteData : Bool)
      (reply : Except AppError Response)

def leaveRequest (server spaceId : String) (auth : AuthUser) (profile : RemoteUserRef) :
    Forward.LeaveRequest :=
  { actor := { profile with id := qualify auth.userId server }, spaceId := spaceId }

namespace MembershipRemoval

def userId : MembershipRemoval → String
  | .kick userId _ => userId
  | .ban userId _ _ => userId
  | .leave auth _ _ => auth.userId
  | .leaveThrough server auth _ _ _ => qualify auth.userId server

def serve (ourDomain spaceId : String) : MembershipRemoval → App Unit
  | .kick userId auth => do
    let _ ← Routes.Members.kickMember spaceId userId auth
    return ()
  | .ban userId auth body => do
    let _ ← Routes.Bans.createBan spaceId userId auth body
    return ()
  | .leave auth deleteData reply => do
    let _ ← Routes.Members.leaveSpace spaceId auth deleteData reply
    return ()
  | .leaveThrough server auth profile _ _ =>
    Forward.serveLeave ourDomain server (leaveRequest server spaceId auth profile)

def announced : MembershipRemoval → Bool
  | .ban _ _ _ => false
  | _ => true

end MembershipRemoval

def leaveEvent (domain spaceId userId : String) (n : Nat) : Json :=
  (envelope domain spaceId "m.member.leave" (Outbound.memberLeavePayload domain userId) n).toJson

def IsPurgeEvent (domain spaceId : String) (event : Json) : Prop :=
  ∃ payload n, event = (envelope domain spaceId "m.message.delete" payload n).toJson

section

variable {domain peer spaceId userId : String} {s s' : AppState} {α : Type}

theorem announced_after {remove : App Unit} {announce : List String → App α} {a : α}
    (h : Homed domain spaceId s) (hremove : remove.Preserves homeView)
    (hannounce : ∀ t targets, Homed domain spaceId t →
      outboxFor peer ((announce targets).exec t).2 = outboxFor peer t ++
        if targets.any (fun d => eqIgnoreAsciiCase d peer) then
          [leaveEvent domain spaceId userId t.snowflake]
        else [])
    (hexec : (do
      let targets ← App.found? (Db.Federation.interestedServers spaceId)
      remove
      Routes.Members.memberLeave spaceId userId
      announce (targets.getD []) : App α).exec s = (.ok a, s')) :
    ∃ n, outboxFor peer s' = outboxFor peer s ++
      if interested peer spaceId s then [leaveEvent domain spaceId userId n] else [] := by
  rw [Prog.exec_bind_of_ok (App.exec_found? _)] at hexec
  obtain ⟨_, t, hremoved, hexec⟩ := Prog.exec_bind_ok.mp hexec
  obtain ⟨_, u, hsent, hexec⟩ := Prog.exec_bind_ok.mp hexec
  have hview : homeView u = homeView s := by
    have hmember : homeView u = homeView t :=
      (Prog.preserves_modify (fun _ => rfl) :
        (Routes.Members.memberLeave spaceId userId).Preserves homeView).of_exec hsent
    exact hmember.trans (hremove.of_exec hremoved)
  have hqueued := hannounce u ((Db.Federation.interestedServers spaceId s.db).toOption.getD [])
    (h.of_view hview)
  rw [hexec, outboxFor_of_view hview] at hqueued
  exact ⟨u.snowflake, hqueued⟩

theorem fanoutLeave_done (h : Homed domain spaceId s)
    (hother : eqIgnoreAsciiCase peer domain = false) (targets : List String) :
    outboxFor peer ((do
      Routes.Members.fanoutLeave spaceId userId targets
      return Routes.Members.done : App Json).exec s).2 = outboxFor peer s ++
        if targets.any (fun d => eqIgnoreAsciiCase d peer) then
          [leaveEvent domain spaceId userId s.snowflake]
        else [] := by
  rw [Prog.exec_bind_pure]
  exact outboxFor_fanoutLeave h hother userId targets

theorem preserves_removeMember : (Members.removeMember spaceId userId).Preserves homeView :=
  App.preserves_update (fun _ => rfl)

theorem preserves_removeLeaver (deleteData : Bool) :
    (Routes.Members.removeLeaver spaceId userId deleteData).Preserves homeView := by
  refine Prog.preserves_ite ?_ preserves_removeMember
  refine Prog.Preserves.bind ?_ (fun _ => preserves_removeMember)
  apply Members.preserves_removeContent
  intro s db _ hspaces houtbox
  simp [homeView, hspaces, houtbox]

theorem kick_announced {auth : AuthUser} {j : Json} (h : Homed domain spaceId s)
    (hother : eqIgnoreAsciiCase peer domain = false)
    (hexec : (Routes.Members.kickMember spaceId userId auth).exec s = (.ok j, s')) :
    ∃ n, outboxFor peer s' = outboxFor peer s ++
      if interested peer spaceId s then [leaveEvent domain spaceId userId n] else [] := by
  obtain ⟨_, s₁, hpermitted, hexec⟩ := Prog.exec_bind_ok.mp hexec
  obtain ⟨_, s₂, hranked, hexec⟩ := Prog.exec_bind_ok.mp hexec
  obtain ⟨_, rfl⟩ := App.exec_lift_ok.mp hpermitted
  obtain ⟨_, rfl⟩ := App.exec_lift_ok.mp hranked
  exact announced_after h preserves_removeMember
    (fun _ targets ht => fanoutLeave_done ht hother targets) hexec

theorem leave_announced {auth : AuthUser} {deleteData : Bool}
    {reply : Except AppError Response} {j : Json} (h : Homed domain spaceId s)
    (hother : eqIgnoreAsciiCase peer domain = false)
    (hexec : (Routes.Members.leaveSpace spaceId auth deleteData reply).exec s = (.ok j, s')) :
    ∃ n, outboxFor peer s' = outboxFor peer s ++
      if interested peer spaceId s then [leaveEvent domain spaceId auth.userId n] else [] := by
  obtain ⟨_, s₁, hmember, hexec⟩ := Prog.exec_bind_ok.mp hexec
  obtain ⟨space, s₂, hspace, hexec⟩ := Prog.exec_bind_ok.mp hexec
  obtain ⟨_, s₃, howner, hexec⟩ := Prog.exec_bind_ok.mp hexec
  obtain ⟨home, s₄, hhome, hexec⟩ := Prog.exec_bind_ok.mp hexec
  obtain ⟨_, rfl⟩ := App.exec_lift_ok.mp hmember
  obtain ⟨_, rfl⟩ := App.exec_lift_ok.mp hspace
  obtain ⟨_, rfl⟩ := Prog.exec_require_ok.mp howner
  obtain ⟨horigin, rfl⟩ := App.exec_lift_ok.mp hhome
  rw [h.homeSpace] at horigin
  cases horigin
  exact announced_after h (preserves_removeLeaver deleteData)
    (fun _ targets ht => fanoutLeave_done ht hother targets) hexec

theorem serveLeave_announced {server : String} {req : Forward.LeaveRequest} {u : Unit}
    (h : Homed domain req.spaceId s) (hother : eqIgnoreAsciiCase peer domain = false)
    (hexec : (Forward.serveLeave domain server req).exec s = (.ok u, s')) :
    ∃ n, outboxFor peer s' = outboxFor peer s ++
      if interested peer req.spaceId s then [leaveEvent domain req.spaceId req.actor.id n]
      else [] := by
  obtain ⟨_, s₁, hactor, hexec⟩ := Prog.exec_bind_ok.mp hexec
  obtain ⟨_, s₂, hspace, hexec⟩ := Prog.exec_bind_ok.mp hexec
  obtain ⟨_, rfl⟩ := App.exec_liftExcept_ok.mp hactor
  obtain ⟨_, rfl⟩ := App.exec_lift_ok.mp hspace
  exact announced_after h preserves_removeMember
    (fun _ targets ht => outboxFor_fanoutToTargets ht hother _ _ targets) hexec

end

def OnlyPurges (domain peer spaceId : String) (base : List Json) (s : AppState) : Prop :=
  s.federation.map FederationContext.domain = some domain ∧
    ∃ l, outboxFor peer s = base ++ l ∧ ∀ j ∈ l, IsPurgeEvent domain spaceId j

section

variable {domain peer spaceId userId : String} {base : List Json}

theorem OnlyPurges.enqueue {s : AppState} {payload : Json} {item : OutboxItem}
    (h : OnlyPurges domain peer spaceId base s) (hpurge : IsPurgeEvent domain spaceId payload)
    (hitem : item.payload = payload) :
    OnlyPurges domain peer spaceId base
      (s.withDb { s.db with federationOutbox := s.db.federationOutbox ++ [item] }) := by
  obtain ⟨hfederation, l, hl, hall⟩ := h
  refine ⟨hfederation, ?_⟩
  cases htarget : isFor peer item with
  | false =>
    refine ⟨l, ?_, hall⟩
    simpa [outboxFor, htarget] using hl
  | true =>
    refine ⟨l ++ [payload], ?_, ?_⟩
    · have hadded : outboxFor peer (s.withDb { s.db with
          federationOutbox := s.db.federationOutbox ++ [item] }) = outboxFor peer s ++ [payload] := by
        simp [outboxFor, htarget, hitem]
      rw [hadded, hl, List.append_assoc]
    · intro j hj
      rcases List.mem_append.mp hj with hold | hnew
      · exact hall j hold
      · rw [List.mem_singleton.mp hnew]
        exact hpurge

theorem keeps_enqueueTo {payload : Json} (hpurge : IsPurgeEvent domain spaceId payload)
    (target : String) :
    (Sender.enqueueTo payload target).Maintains (OnlyPurges domain peer spaceId base) := by
  refine Prog.Keeps.bind (App.keeps_generateId (fun s hs => hs)) (fun id _ => ?_)
  refine Prog.Keeps.bind (Q := fun _ => True) (Prog.keeps_get (fun _ _ => trivial)) (fun now _ => ?_)
  exact App.keeps_write (fun s hs => hs.enqueue hpurge rfl)

theorem keeps_fanoutPurge (payload : Json) (targets : List String) :
    (Outbound.fanoutToTargets spaceId "m.message.delete" payload targets).Maintains
      (OnlyPurges domain peer spaceId base) := by
  have hcontext : App.federation.Keeps (OnlyPurges domain peer spaceId base)
      (fun fed => fed.map FederationContext.domain = some domain) :=
    Prog.keeps_get (fun s hs => hs.1)
  refine hcontext.bind (fun fed hfed => ?_)
  obtain ⟨fed, rfl, hdomain⟩ := Option.map_eq_some_iff.mp hfed
  refine Prog.keeps_ite trivial ?_
  refine Prog.Keeps.bind (Q := fun _ => True) (App.keeps_lift (fun _ _ _ _ => trivial))
    (fun origin _ => ?_)
  refine Prog.keeps_ite trivial ?_
  refine Prog.Keeps.bind (Q := fun id : String => ∃ n : Nat, id = toString n) ?_ (fun eventId heventId => ?_)
  · exact fun s hs => ⟨hs, s.snowflake, rfl⟩
  · obtain ⟨n, rfl⟩ := heventId
    refine hcontext.bind (fun fed' hfed' => ?_)
    obtain ⟨fed', rfl, _⟩ := Option.map_eq_some_iff.mp hfed'
    apply Prog.keeps_forEach
    intro target _
    apply keeps_enqueueTo
    exact ⟨payload, n, by rw [hdomain]; rfl⟩

theorem keeps_fanoutPurged (purged : List (String × String)) :
    (Routes.Bans.fanoutPurged spaceId purged).Maintains (OnlyPurges domain peer spaceId base) := by
  refine Prog.Keeps.bind (Q := fun _ => True) (Prog.keeps_get (fun _ _ => trivial)) (fun fed _ => ?_)
  cases fed with
  | none => trivial
  | some fed =>
    apply Prog.keeps_forEach
    intro m _
    refine Prog.Keeps.bind (Q := fun _ => True) ?_ (fun _ _ => trivial)
    refine (Prog.Keeps.attempt (Q := fun _ => True) ?_).mono (fun _ _ => trivial)
    exact Prog.Keeps.bind (Q := fun _ => True) (App.keeps_lift (fun _ _ _ _ => trivial))
      (fun targets _ => keeps_fanoutPurge _ _)

theorem preserves_purgeMessage (messageId : String) :
    (Routes.Bans.purgeMessage messageId).Preserves homeView := by
  refine (App.preserves_lift _).bind (fun attachments => ?_)
  refine Prog.Preserves.bind ?_ (fun _ => App.preserves_update (fun _ => rfl))
  apply Prog.preserves_forEach
  intro a _
  exact (Storage.preserves_deleteFile _ (fun _ _ => rfl)).attempt.bind
    (fun _ => Prog.preserves_pure _)

theorem preserves_purgeRecentMessages (seconds : Nat) :
    (Routes.Bans.purgeRecentMessages spaceId userId seconds).Preserves homeView := by
  refine Prog.preserves_ite (Prog.preserves_pure _) ?_
  refine (Prog.preserves_get _).bind (fun cutoff => ?_)
  refine (App.preserves_lift _).bind (fun messages => ?_)
  refine Prog.Preserves.bind ?_ (fun _ => Prog.preserves_pure _)
  exact Prog.preserves_forEach (fun m _ => preserves_purgeMessage m.1)

theorem preserves_banRow (reason : Option String) (bannedBy : String) :
    (Db.Bans.createBan spaceId userId reason bannedBy).Preserves homeView := by
  refine (App.preserves_update (fun _ => rfl)).bind (fun _ => ?_)
  refine (Prog.preserves_get _).bind (fun now => ?_)
  refine Prog.Preserves.bind (App.preserves_write (fun _ => by rfl)) (fun _ => ?_)
  exact App.preserves_lift _

theorem preserves_announceBan (ban : BanRow) (purged : List (String × String)) :
    (Routes.Bans.announceBan spaceId userId ban purged).Preserves homeView := by
  refine Prog.Preserves.bind (Prog.preserves_modify (fun _ => by rfl)) (fun _ => ?_)
  refine Prog.Preserves.bind (Prog.preserves_modify (fun _ => by rfl)) (fun _ => ?_)
  exact Prog.preserves_forEach (fun m _ => Prog.preserves_modify (fun _ => rfl))

theorem ban_only_purges {auth : AuthUser} {body : Routes.Bans.CreateBanBody} {s s' : AppState}
    {j : Json} (h : Homed domain spaceId s)
    (hexec : (Routes.Bans.createBan spaceId userId auth body).exec s = (.ok j, s')) :
    OnlyPurges domain peer spaceId (outboxFor peer s) s' := by
  obtain ⟨_, s₁, hpermitted, hexec⟩ := Prog.exec_bind_ok.mp hexec
  obtain ⟨_, s₂, hranked, hexec⟩ := Prog.exec_bind_ok.mp hexec
  obtain ⟨ban, s₃, hbanned, hexec⟩ := Prog.exec_bind_ok.mp hexec
  obtain ⟨purged, s₄, hpurged, hexec⟩ := Prog.exec_bind_ok.mp hexec
  obtain ⟨_, s₅, hannounced, hexec⟩ := Prog.exec_bind_ok.mp hexec
  obtain ⟨_, s₆, hqueued, hdone⟩ := Prog.exec_bind_ok.mp hexec
  obtain ⟨_, rfl⟩ := App.exec_lift_ok.mp hpermitted
  obtain ⟨_, rfl⟩ := App.exec_lift_ok.mp hranked
  have hlast : s₆ = s' := congrArg Prod.snd hdone
  subst hlast
  have hview : homeView s₅ = homeView s :=
    ((preserves_announceBan ban purged).of_exec hannounced).trans
      (((preserves_purgeRecentMessages _).of_exec hpurged).trans
        ((preserves_banRow _ _).of_exec hbanned))
  have hstart : OnlyPurges domain peer spaceId (outboxFor peer s) s₅ := by
    refine ⟨(h.of_view hview).federation, [], ?_, by simp⟩
    rw [outboxFor_of_view hview, List.append_nil]
  have hkept := ((keeps_fanoutPurged purged).exec hstart).1
  rw [hqueued] at hkept
  exact hkept

end

def Announces (domain peer spaceId : String) (op : MembershipRemoval) (s : AppState)
    (sent : List Json) : Prop :=
  if op.announced then
    ∃ n, sent = if interested peer spaceId s then [leaveEvent domain spaceId op.userId n] else []
  else ∀ j ∈ sent, IsPurgeEvent domain spaceId j

theorem serve_announces {domain peer spaceId : String} {s s' : AppState}
    (op : MembershipRemoval) (h : Homed domain spaceId s)
    (hother : eqIgnoreAsciiCase peer domain = false)
    (hserved : (op.serve domain spaceId).exec s = (.ok (), s')) :
    Announces domain peer spaceId op s (sentTo peer s s') := by
  cases op with
  | kick userId auth =>
    obtain ⟨j, t, hkicked, hdone⟩ := Prog.exec_bind_ok.mp hserved
    cases hdone
    obtain ⟨n, hn⟩ := kick_announced h hother hkicked
    exact ⟨n, sentTo_of_append hn⟩
  | ban userId auth body =>
    obtain ⟨j, t, hbanned, hdone⟩ := Prog.exec_bind_ok.mp hserved
    cases hdone
    obtain ⟨_, l, hl, hall⟩ := ban_only_purges h hbanned
    rw [sentTo_of_append hl]
    exact hall
  | leave auth deleteData reply =>
    obtain ⟨j, t, hleft, hdone⟩ := Prog.exec_bind_ok.mp hserved
    cases hdone
    obtain ⟨n, hn⟩ := leave_announced h hother hleft
    exact ⟨n, sentTo_of_append hn⟩
  | leaveThrough server auth profile deleteData reply =>
    obtain ⟨n, hn⟩ := @serveLeave_announced domain peer s s' server
      (leaveRequest server spaceId auth profile) () h hother hserved
    exact ⟨n, sentTo_of_append hn⟩

def Applied (home : String) (event : Json) (r r' : AppState) : Prop :=
  ∃ env, FederationEnvelope.ofJson event = some env ∧ Authority.check home env = .ok () ∧
    (Inbox.applyEvent home env).exec r = (.ok .ok, r')

inductive Task where
  | deliver (event : Json)
  | leave (auth : AuthUser) (deleteData : Bool) (reply : Except AppError Response)

namespace Task

def Runs (home space : String) : Task → AppState → AppState → Prop
  | .deliver event, r, r' => Applied home event r r'
  | .leave auth deleteData reply, r, r' =>
    ∃ j, (Routes.Members.leaveSpace space auth deleteData reply).exec r = (.ok j, r')

def RunsAll (home space : String) : List Task → AppState → AppState → Prop
  | [], r, r' => r' = r
  | t :: ts, r, r' => ∃ m, t.Runs home space r m ∧ RunsAll home space ts m r'

def dropped : Task → Option String
  | .deliver event =>
    (FederationEnvelope.ofJson event).bind (fun env =>
      if env.eventType = "m.member.leave" then env.payload.reqStr "user_id" else none)
  | .leave auth _ _ => some auth.userId

def Expected (home spaceId : String) : Task → Prop
  | .deliver event =>
    (∃ userId n, event = leaveEvent home spaceId userId n) ∨ IsPurgeEvent home spaceId event
  | .leave _ _ _ => True

end Task

section

variable {home spaceId userId : String} {r r' : AppState}

def replicaView (s : AppState) : List MemberRow × List SpaceRow := (s.db.members, s.db.spaces)

theorem hasMember_removeMember (db : Tables) (space id other : String) :
    (db.removeMember space id).hasMember space other =
      (db.hasMember space other && decide (other ≠ id)) := by
  rw [Bool.eq_iff_iff]
  simp only [Tables.hasMember, Tables.removeMember, List.any_eq_true, List.mem_filter,
    Bool.and_eq_true, decide_eq_true_eq, Bool.not_eq_true', Bool.and_eq_false_iff,
    decide_eq_false_iff_not]
  constructor
  · rintro ⟨m, ⟨hm, hkept⟩, hspace, rfl⟩
    refine ⟨⟨m, hm, hspace, rfl⟩, ?_⟩
    rcases hkept with hother | hother
    · exact absurd hspace hother
    · exact hother
  · rintro ⟨⟨m, hm, hspace, rfl⟩, hne⟩
    exact ⟨m, ⟨hm, .inr hne⟩, hspace, rfl⟩

def DropsOnly (space : String) (id : Option String) (r r' : AppState) : Prop :=
  (∀ other, r'.db.hasMember space other =
    (r.db.hasMember space other && decide (id ≠ some other))) ∧
  r'.db.hasSpace space = r.db.hasSpace space

theorem dropsOnly_none {space : String} (hview : replicaView r' = replicaView r) :
    DropsOnly space none r r' := by
  obtain ⟨hmembers, hspaces⟩ := Prod.mk.inj hview
  constructor
  · intro other
    simp [Tables.hasMember, hmembers]
  · simp [Tables.hasSpace, hspaces]

theorem dropsOnly_removeMember {space id : String} {m : AppState}
    (hbefore : replicaView m = replicaView r)
    (hafter : replicaView r' = replicaView (m.withDb (m.db.removeMember space id))) :
    DropsOnly space (some id) r r' := by
  obtain ⟨hmembers, hspaces⟩ := Prod.mk.inj hbefore
  obtain ⟨hmembers', hspaces'⟩ := Prod.mk.inj hafter
  constructor
  · intro other
    have hdropped := hasMember_removeMember m.db space id other
    simp only [Tables.hasMember, AppState.withDb_db] at hdropped hmembers' ⊢
    rw [hmembers', hdropped, hmembers]
    simp [eq_comm]
  · simp only [Tables.hasSpace, hspaces']
    exact congrArg (Lib.Table.has SpaceRow.id space) hspaces

theorem removal_chain {β : Type} {remove : App Unit} {rest : App β} {space id : String}
    {m : AppState} {b : β} (hremove : ∀ t, replicaView (remove.exec t).2 =
      replicaView (t.withDb (t.db.removeMember space id)))
    (hrest : rest.Preserves replicaView) (hbefore : replicaView m = replicaView r)
    (hexec : (remove >>= fun _ => rest).exec m = (.ok b, r')) :
    DropsOnly space (some id) r r' := by
  obtain ⟨_, t, hremoved, hdone⟩ := Prog.exec_bind_ok.mp hexec
  apply dropsOnly_removeMember hbefore
  have hgone := hremove m
  rw [hremoved] at hgone
  exact (hrest.of_exec hdone).trans hgone

theorem exec_removeMember_view (space id : String) (t : AppState) :
    replicaView ((Members.removeMember space id).exec t).2 =
      replicaView (t.withDb (t.db.removeMember space id)) := by
  rw [Members.removeMember, App.exec_update]

theorem leaveEvent_dropped (userId : String) (n : Nat) :
    (Task.deliver (leaveEvent home spaceId userId n)).dropped = some (qualify userId home) := by
  simp only [Task.dropped, leaveEvent, FederationEnvelope.ofJson_toJson]
  rfl

theorem purge_dropped {event : Json} (h : IsPurgeEvent home spaceId event) :
    (Task.deliver event).dropped = none := by
  obtain ⟨payload, n, rfl⟩ := h
  simp only [Task.dropped, FederationEnvelope.ofJson_toJson]
  rfl

theorem preserves_applyMessageDelete (env : FederationEnvelope) :
    (Apply.applyMessageDelete home env).Preserves replicaView := by
  refine Prog.Preserves.bind ?_ (fun payload => ?_)
  · cases (Apply.RemoteMessageDelete.ofJson env.payload) with
    | none => exact Prog.preserves_fail _
    | some payload => exact Prog.preserves_pure _
  refine (App.preserves_liftExcept _).bind (fun _ => ?_)
  refine (App.preserves_found? _).bind (fun existing => ?_)
  cases existing with
  | none => exact Prog.preserves_pure _
  | some existing =>
    refine Prog.preserves_ite (Prog.preserves_pure _) ?_
    refine Prog.Preserves.bind (App.preserves_update (fun _ => by rfl)) (fun _ => ?_)
    exact Prog.preserves_modify (fun _ => rfl)

theorem applied_purge {event : Json} (h : IsPurgeEvent home spaceId event)
    (happlied : Applied home event r r') : DropsOnly (qualify spaceId home) none r r' := by
  obtain ⟨payload, n, rfl⟩ := h
  obtain ⟨env, hparsed, _, hexec⟩ := happlied
  rw [FederationEnvelope.ofJson_toJson] at hparsed
  cases hparsed
  obtain ⟨_, t, hdeleted, hdone⟩ := Prog.exec_bind_ok.mp hexec
  cases hdone
  exact dropsOnly_none ((preserves_applyMessageDelete _).of_exec hdeleted)

theorem applied_leave {n : Nat} (hspace : r.db.hasSpace (qualify spaceId home) = true)
    (happlied : Applied home (leaveEvent home spaceId userId n) r r') :
    DropsOnly (qualify spaceId home) (some (qualify userId home)) r r' := by
  obtain ⟨env, hparsed, _, hexec⟩ := happlied
  rw [leaveEvent, FederationEnvelope.ofJson_toJson] at hparsed
  cases hparsed
  obtain ⟨_, t, hleft, hdone⟩ := Prog.exec_bind_ok.mp hexec
  cases hdone
  obtain ⟨space, hrow⟩ : ∃ space,
      (App.found? (Spaces.getSpaceRow (qualify spaceId home))).exec r = (.ok (some space), r) := by
    rw [App.exec_found?]
    unfold Spaces.getSpaceRow
    rw [Tables.hasSpace, ← Lib.Table.lookup_isSome, Option.isSome_iff_exists] at hspace
    obtain ⟨space, hspace⟩ := hspace
    exact ⟨space, by rw [hspace]; rfl⟩
  change (App.found? (Spaces.getSpaceRow (qualify spaceId home)) >>= _).exec r = _ at hleft
  rw [Prog.exec_bind_of_ok hrow] at hleft
  refine removal_chain (exec_removeMember_view _ _) ?_ rfl hleft
  exact Prog.preserves_modify (fun _ => rfl)

theorem exec_removeLeaver_view (space id : String) (deleteData : Bool) (t : AppState) :
    replicaView ((Routes.Members.removeLeaver space id deleteData).exec t).2 =
      replicaView (t.withDb (t.db.removeMember space id)) := by
  cases deleteData with
  | false => exact exec_removeMember_view space id t
  | true =>
    obtain ⟨_, u, hcontent⟩ := Members.total_removeContent space id t
    have hkept : (Members.removeContent space id).Preserves replicaView := by
      apply Members.preserves_removeContent
      intro s db hmembers hspaces _
      simp [replicaView, hmembers, hspaces]
    have hremoved : (Routes.Members.removeLeaver space id true).exec t =
        (Members.removeMember space id).exec u := Prog.exec_bind_of_ok hcontent
    obtain ⟨hmembers, hspaces⟩ := Prod.mk.inj (hkept.of_exec hcontent)
    rw [hremoved, exec_removeMember_view]
    simp [replicaView, Tables.removeMember, hmembers, hspaces]

theorem preserves_fanoutLeave (targets : List String) :
    (Routes.Members.fanoutLeave spaceId userId targets).Preserves replicaView := by
  refine (Prog.preserves_get _).bind (fun fed => ?_)
  cases fed with
  | none => exact Prog.preserves_pure _
  | some fed =>
    refine Prog.Preserves.bind (Prog.Preserves.attempt ?_) (fun _ => Prog.preserves_pure _)
    exact Outbound.preserves_fanoutToTargets (fun _ _ => rfl) (fun _ _ => rfl) _ _ _ _

theorem ran_leave {space : String} {auth : AuthUser} {deleteData : Bool}
    {reply : Except AppError Response}
    (hran : (Task.leave auth deleteData reply).Runs home space r r') :
    DropsOnly space (some auth.userId) r r' := by
  obtain ⟨j, hexec⟩ := hran
  obtain ⟨_, s₁, hmember, hexec⟩ := Prog.exec_bind_ok.mp hexec
  obtain ⟨row, s₂, hspace, hexec⟩ := Prog.exec_bind_ok.mp hexec
  obtain ⟨_, s₃, howner, hexec⟩ := Prog.exec_bind_ok.mp hexec
  obtain ⟨origin, s₄, hhome, hlast⟩ := Prog.exec_bind_ok.mp hexec
  obtain ⟨_, rfl⟩ := App.exec_lift_ok.mp hmember
  obtain ⟨_, rfl⟩ := App.exec_lift_ok.mp hspace
  obtain ⟨_, rfl⟩ := Prog.exec_require_ok.mp howner
  obtain ⟨_, rfl⟩ := App.exec_lift_ok.mp hhome
  cases origin with
  | some origin =>
    obtain ⟨actor, s₅, hactor, hlast⟩ := Prog.exec_bind_ok.mp hlast
    obtain ⟨_, s₆, hforwarded, hremoved⟩ := Prog.exec_bind_ok.mp hlast
    obtain ⟨_, rfl⟩ := App.exec_lift_ok.mp hactor
    have hbefore : replicaView s₆ = replicaView r := by
      have hforward : (Forward.forwardLeave origin space actor reply).Preserves replicaView :=
        (Forward.preserves_forward _ _ _ _ _ (fun _ _ => rfl)).bind
          (fun _ => Prog.preserves_pure _)
      exact hforward.of_exec hforwarded
    refine removal_chain (exec_removeMember_view _ _) ?_ hbefore hremoved
    exact Prog.Preserves.bind (Prog.preserves_modify (fun _ => by rfl))
      (fun _ => Prog.preserves_pure _)
  | none =>
    change (App.found? (Db.Federation.interestedServers space) >>= _).exec r = _ at hlast
    rw [Prog.exec_bind_of_ok (App.exec_found? _)] at hlast
    refine removal_chain (exec_removeLeaver_view _ _ deleteData) ?_ rfl hlast
    refine Prog.Preserves.bind (Prog.preserves_modify (fun _ => by rfl)) (fun _ => ?_)
    exact (preserves_fanoutLeave _).bind (fun _ => Prog.preserves_pure _)

theorem Task.Runs.dropsOnly {t : Task} (hexpected : t.Expected home spaceId)
    (hspace : r.db.hasSpace (qualify spaceId home) = true)
    (hran : t.Runs home (qualify spaceId home) r r') :
    DropsOnly (qualify spaceId home) t.dropped r r' := by
  cases t with
  | deliver event =>
    rcases hexpected with ⟨userId, n, rfl⟩ | hpurge
    · rw [leaveEvent_dropped]
      exact applied_leave hspace hran
    · rw [purge_dropped hpurge]
      exact applied_purge hpurge hran
  | leave auth deleteData reply => exact ran_leave hran

theorem Task.RunsAll.hasMember {ts : List Task}
    (hexpected : ∀ t ∈ ts, t.Expected home spaceId)
    (hspace : r.db.hasSpace (qualify spaceId home) = true)
    (hran : Task.RunsAll home (qualify spaceId home) ts r r') (other : String) :
    r'.db.hasMember (qualify spaceId home) other = true ↔
      r.db.hasMember (qualify spaceId home) other = true ∧ ∀ t ∈ ts, t.dropped ≠ some other := by
  induction ts generalizing r with
  | nil =>
    cases hran
    simp
  | cons t ts ih =>
    obtain ⟨m, hfirst, hrest⟩ := hran
    obtain ⟨hdrops, hkept⟩ := hfirst.dropsOnly (hexpected t (by simp)) hspace
    rw [ih (fun u hu => hexpected u (by simp [hu])) (hkept.trans hspace) hrest, hdrops other]
    simp [and_assoc]

end

def idForms (ourDomain id : String) : List String :=
  if isLocal id ourDomain then [localPart id, id] else [id]

namespace MembershipRemoval

def ownTasks (replica : String) : MembershipRemoval → List Task
  | .leaveThrough server auth _ deleteData reply =>
    if eqIgnoreAsciiCase server replica then [.leave auth deleteData reply] else []
  | _ => []

def ownRow (replica : String) : MembershipRemoval → Option String
  | .leaveThrough server auth _ _ _ =>
    if eqIgnoreAsciiCase server replica then some auth.userId else none
  | _ => none

def Reaches (op : MembershipRemoval) (home replica spaceId : String) (s : AppState)
    (row : String) : Prop :=
  (op.announced = true ∧ interested replica spaceId s = true ∧ row = qualify op.userId home) ∨
    op.ownRow replica = some row

def replicaTasks (op : MembershipRemoval) (replica : String) (s s' : AppState) : List Task :=
  op.ownTasks replica ++ (sentTo replica s s').map Task.deliver

def Delivered (op : MembershipRemoval) (home replica spaceId : String) (s s' r r' : AppState) :
    Prop :=
  ∃ order : List Task, order.Perm (op.replicaTasks replica s s') ∧
    Task.RunsAll home (qualify spaceId home) order r r'

end MembershipRemoval

section

open MembershipRemoval

variable {home replica spaceId : String} {s s' : AppState} {op : MembershipRemoval}

theorem ownTasks_dropped (row : String) :
    (∃ t ∈ op.ownTasks replica, t.dropped = some row) ↔ op.ownRow replica = some row := by
  cases op with
  | leaveThrough server auth profile deleteData reply =>
    unfold ownTasks ownRow
    split <;> simp [Task.dropped]
  | kick userId auth => simp [ownTasks, ownRow]
  | ban userId auth body => simp [ownTasks, ownRow]
  | leave auth deleteData reply => simp [ownTasks, ownRow]

theorem ownTasks_expected : ∀ t ∈ op.ownTasks replica, t.Expected home spaceId := by
  intro t ht
  cases op with
  | leaveThrough server auth profile deleteData reply =>
    simp only [ownTasks] at ht
    split at ht
    · rw [List.mem_singleton.mp ht]
      trivial
    · cases ht
  | kick userId auth => cases ht
  | ban userId auth body => cases ht
  | leave auth deleteData reply => cases ht

section

variable (h : Announces home replica spaceId op s (sentTo replica s s'))

include h

theorem sent_dropped (row : String) :
    (∃ event ∈ sentTo replica s s', (Task.deliver event).dropped = some row) ↔
      op.announced = true ∧ interested replica spaceId s = true ∧
        row = qualify op.userId home := by
  unfold Announces at h
  cases hannounced : op.announced with
  | false =>
    simp only [hannounced, Bool.false_eq_true, if_false] at h
    constructor
    · rintro ⟨event, hevent, hrow⟩
      rw [purge_dropped (h event hevent)] at hrow
      cases hrow
    · rintro ⟨hfalse, _⟩
      cases hfalse
  | true =>
    simp only [hannounced, if_true] at h
    obtain ⟨n, hsent⟩ := h
    rw [hsent]
    cases interested replica spaceId s with
    | false => simp
    | true => simp [leaveEvent_dropped, eq_comm]

theorem sent_expected :
    ∀ event ∈ sentTo replica s s', (Task.deliver event).Expected home spaceId := by
  intro event hevent
  unfold Announces at h
  split at h
  · obtain ⟨n, hsent⟩ := h
    rw [hsent] at hevent
    split at hevent
    · exact .inl ⟨op.userId, n, List.mem_singleton.mp hevent⟩
    · cases hevent
  · exact .inr (h event hevent)

theorem replicaTasks_dropped (row : String) :
    (∃ t ∈ op.replicaTasks replica s s', t.dropped = some row) ↔
      op.Reaches home replica spaceId s row := by
  unfold Reaches
  rw [← ownTasks_dropped, ← sent_dropped h]
  constructor
  · rintro ⟨t, ht, hrow⟩
    rcases List.mem_append.mp ht with hown | hsent
    · exact .inr ⟨t, hown, hrow⟩
    · obtain ⟨event, hevent, rfl⟩ := List.mem_map.mp hsent
      exact .inl ⟨event, hevent, hrow⟩
  · rintro (⟨event, hevent, hrow⟩ | ⟨t, hown, hrow⟩)
    · exact ⟨_, List.mem_append_right _ (List.mem_map_of_mem hevent), hrow⟩
    · exact ⟨t, List.mem_append_left _ hown, hrow⟩

theorem replicaTasks_expected :
    ∀ t ∈ op.replicaTasks replica s s', t.Expected home spaceId := by
  intro t ht
  rcases List.mem_append.mp ht with hown | hsent
  · exact ownTasks_expected t hown
  · obtain ⟨event, hevent, rfl⟩ := List.mem_map.mp hsent
    exact sent_expected h event hevent

end

theorem removal_converges_iff {r r' : AppState} (hhome : Homed home spaceId s)
    (hother : eqIgnoreAsciiCase replica home = false)
    (hspace : r.db.hasSpace (qualify spaceId home) = true)
    (hserved : (op.serve home spaceId).exec s = (.ok (), s'))
    (hdelivered : op.Delivered home replica spaceId s s' r r') :
    (∀ row ∈ idForms replica (qualify op.userId home),
        r'.db.hasMember (qualify spaceId home) row = false) ↔
      ∀ row ∈ idForms replica (qualify op.userId home),
        r.db.hasMember (qualify spaceId home) row = true →
          op.Reaches home replica spaceId s row := by
  obtain ⟨order, hperm, hran⟩ := hdelivered
  have hannounces := serve_announces op hhome hother hserved
  have hexpected : ∀ t ∈ order, t.Expected home spaceId :=
    fun t ht => replicaTasks_expected hannounces t (hperm.mem_iff.mp ht)
  have hreached : ∀ row, (∃ t ∈ order, t.dropped = some row) ↔
      op.Reaches home replica spaceId s row := by
    intro row
    rw [← replicaTasks_dropped hannounces]
    simp only [hperm.mem_iff]
  apply forall₂_congr
  intro row _
  rw [← Bool.not_eq_true, hran.hasMember hexpected hspace row, ← hreached row]
  constructor
  · intro hgone hrow
    by_contra hkept
    exact hgone ⟨hrow, fun t ht hdropped => hkept ⟨t, ht, hdropped⟩⟩
  · rintro hreach ⟨hrow, hkept⟩
    obtain ⟨t, ht, hdropped⟩ := hreach hrow
    exact hkept t ht hdropped

theorem delivered_one {r r' : AppState} {userId : String} {n : Nat}
    (hown : op.ownTasks replica = [])
    (hsent : sentTo replica s s' = [leaveEvent home spaceId userId n])
    (happlied : Applied home (leaveEvent home spaceId userId n) r r') :
    op.Delivered home replica spaceId s s' r r' := by
  refine ⟨[.deliver (leaveEvent home spaceId userId n)], ?_, r', happlied, rfl⟩
  rw [replicaTasks, hown, hsent]
  rfl

theorem delivered_none {r : AppState} (hown : op.ownTasks replica = [])
    (hsent : sentTo replica s s' = []) : op.Delivered home replica spaceId s s' r r := by
  refine ⟨[], ?_, rfl⟩
  rw [replicaTasks, hown, hsent]
  rfl

end

def homeServer : AppState :=
  { db :=
      { users := [{ id := "1", username := "ann" },
          { id := "5@r.example", username := "bob@r.example", origin := some "r.example" },
          { id := "7@t.example", username := "eve@t.example", origin := some "t.example" }]
        spaces := [{ id := "s", name := "open", ownerId := "1", federationEnabled := true }]
        members := [{ userId := "1", spaceId := "s" },
          { userId := "5@r.example", spaceId := "s", origin := some "r.example" },
          { userId := "7@t.example", spaceId := "s", origin := some "t.example" }] }
    federation := some { domain := "h.example", publicUrl := "https://h.example" }
    ext := Externals.fixed "2025-01-01 00:00:00"
    snowflake := 100 }

def replicaServer : AppState :=
  { db :=
      { users := [{ id := "5", username := "bob" },
          { id := "1@h.example", username := "ann@h.example", origin := some "h.example" },
          { id := "7@t.example", username := "eve@t.example", origin := some "t.example" }]
        spaces :=
          [{ id := "s@h.example"
             name := "open"
             ownerId := "1@h.example"
             origin := some "h.example" }]
        members := [{ userId := "5", spaceId := "s@h.example" },
          { userId := "7@t.example", spaceId := "s@h.example", origin := some "t.example" }] }
    federation := some { domain := "r.example", publicUrl := "https://r.example" }
    ext := Externals.fixed "2025-01-01 00:00:00" }

def ann : AuthUser := { userId := "1" }

def homeAfter (op : MembershipRemoval) : AppState := ((op.serve "h.example" "s").exec homeServer).2

def kickedEvent (userId : String) : FederationEnvelope :=
  envelope "h.example" "s" "m.member.leave" (Outbound.memberLeavePayload "h.example" userId) 100

def replicaAfterKick (userId : String) : AppState :=
  ((Inbox.applyEvent "h.example" (kickedEvent userId)).exec replicaServer).2

theorem homeServer_homed : Homed "h.example" "s" homeServer where
  federation := rfl
  homeSpace := by decide +kernel
  freshIds := by simp [FreshIds, homeServer]

theorem check_envelope {home spaceId eventType : String} {payload : Json} {n : Nat}
    (hbare : containsAt spaceId = false) :
    Authority.check home (envelope home spaceId eventType payload n) = .ok () := by
  simp [Authority.check, envelope, Authority.requireSpaceHomedOn, Authority.requireHomedOn_ok,
    Authority.homedOn, domainOf_qualify hbare]

theorem kick_applied (userId : String)
    (hok : ((Inbox.applyEvent "h.example" (kickedEvent userId)).exec replicaServer).1 = .ok .ok) :
    Applied "h.example" (leaveEvent "h.example" "s" userId 100) replicaServer
      (replicaAfterKick userId) :=
  ⟨kickedEvent userId, FederationEnvelope.ofJson_toJson _, check_envelope (by decide), Prod.ext hok rfl⟩

theorem kicked_third_server_user_gone :
    (replicaAfterKick "7@t.example").db.hasMember "s@h.example" "7@t.example" = false :=
  (@removal_converges_iff "h.example" "r.example" "s" homeServer
    (homeAfter (.kick "7@t.example" ann)) (.kick "7@t.example" ann) replicaServer
    (replicaAfterKick "7@t.example") homeServer_homed (by decide +kernel) (by decide +kernel)
    (Prod.ext (by decide +kernel) rfl)
    (delivered_one rfl (by decide +kernel) (kick_applied _ (by decide +kernel)))).mpr
    (fun _ hrow _ => .inl ⟨rfl, by decide +kernel, List.mem_singleton.mp hrow⟩)
    "7@t.example" (by decide)

theorem kicked_replica_user_and_banned_user_stay :
    (((MembershipRemoval.kick "5@r.example" ann).serve "h.example" "s").exec homeServer =
        (.ok (), homeAfter (.kick "5@r.example" ann)) ∧
      (MembershipRemoval.kick "5@r.example" ann).Delivered "h.example" "r.example" "s" homeServer
        (homeAfter (.kick "5@r.example" ann)) replicaServer (replicaAfterKick "5@r.example") ∧
      (replicaAfterKick "5@r.example").db.hasMember "s@h.example" "5" = true) ∧
    (((MembershipRemoval.ban "7@t.example" ann {}).serve "h.example" "s").exec homeServer =
        (.ok (), homeAfter (.ban "7@t.example" ann {})) ∧
      (MembershipRemoval.ban "7@t.example" ann {}).Delivered "h.example" "r.example" "s" homeServer
        (homeAfter (.ban "7@t.example" ann {})) replicaServer replicaServer ∧
      replicaServer.db.hasMember "s@h.example" "7@t.example" = true) := by
  refine ⟨⟨?_, ?_, by decide +kernel⟩, ⟨?_, ?_, by decide +kernel⟩⟩
  · exact Prod.ext (by decide +kernel) rfl
  · exact delivered_one rfl (by decide +kernel) (kick_applied _ (by decide +kernel))
  · exact Prod.ext (by decide +kernel) rfl
  · exact delivered_none rfl (by decide +kernel)

end Vokusz.Federation.Removal
