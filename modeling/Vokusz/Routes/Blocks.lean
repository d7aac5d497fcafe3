import Vokusz.Federation.Footprint
import Vokusz.Routes.DirectMessages

namespace Vokusz.Routes.Blocks

open Db Permissions Federation Mapping
open Lib (Prog)
open ChannelEdits (broadcastChannel)
open DirectMessages (CreateDmRequest createDmChannel openLocal checkRecipients remoteRecipient requested
  isParticipant_iff)

def checkAddRecipient (channelId userId : String) (auth : AuthUser) : Query Unit := do
  let channel ← Channels.getChannelRow channelId
  Query.require (channel.channelType = "group_dm")
    (.badRequest "can only add recipients to group DMs")
  requireDmAccess channelId auth.userId
  Query.require (channel.ownerId = some auth.userId)
    (.forbidden "only the group owner can add members")
  let _ ← Users.getUser userId
  let count ← DmParticipants.countParticipants channelId
  Query.require (count < 10) (.badRequest "group DMs cannot have more than 10 participants")

def addRecipient (channelId userId : String) (auth : AuthUser) : App Json := do
  checkAddRecipient channelId userId auth
  DmParticipants.addParticipant channelId userId
  let updated ← Channels.getChannelRow channelId
  let json ← Spaces.channelRowToJsonPub updated
  let ids ← DmParticipants.listParticipantIds channelId
  broadcastChannel none (some ids) "channel.update" json
  return .obj [("data", json)]

def federationDisabled : AppError := .notFound "federation disabled"

def handleOpen (peer : String) (req : Dm.DmOpenRequest) : App Unit := do
  let fed ← App.federation
  match fed with
  | none => Prog.fail federationDisabled
  | some fed =>
    let _ ← Dm.serveOpen fed.domain peer req
    return ()

def handleAnnounce (peer : String) (snapshot : Dm.DmSnapshot) : App Unit := do
  let fed ← App.federation
  match fed with
  | none => Prog.fail federationDisabled
  | some fed => Dm.handleAnnounce fed.domain peer snapshot

structure Blocking where
  blocker : String
  actor : AuthUser
  account : domainOf blocker = none
  distinct : blocker ≠ actor.userId

inductive BlockRequest where
  | create (input : CreateDmRequest) (reply : Except AppError Response)
  | addRecipient (channelId userId : String)
  | dmOpen (peer : String) (profile : RemoteUserRef) (recipientId : String)
  | dmAnnounce (peer : String) (snapshot : Dm.DmSnapshot)
  | meanwhile (next : AppState)

structure Dealing where
  app : AppState
  acted : Bool := false

namespace Blocking

variable (b : Blocking)

def finished {α : Type} (p : App α) (s : AppState) : Dealing :=
  { app := (p.exec s).2, acted := true }

def serve (s : Dealing) : BlockRequest → Dealing
  | .create input reply => finished (createDmChannel b.actor input reply) s.app
  | .addRecipient channelId userId => finished (Blocks.addRecipient channelId userId b.actor) s.app
  | .dmOpen peer profile recipientId =>
    finished (handleOpen peer { opener := { profile with id := b.actor.userId }, recipientId }) s.app
  | .dmAnnounce peer snapshot =>
    finished (Blocks.handleAnnounce peer { snapshot with openerId := b.actor.userId }) s.app
  | .meanwhile next => { app := next }

def serveOne (s : Dealing) (req : BlockRequest) : Option Dealing := some (b.serve s req)

def stands (db : Tables) : Bool :=
  db.relationships.any (fun r =>
    r.userId = b.blocker && r.targetUserId = b.actor.userId && r.kind = 2)

def Respects (s t : Dealing) : Prop :=
  t.acted = true → b.stands s.app.db = true → ∀ channelId,
    t.app.db.isParticipant channelId b.blocker = true →
      s.app.db.isParticipant channelId b.blocker = true

end Blocking

def hasBlocked (db : Tables) (userId otherId : String) : Bool :=
  db.relationships.any (fun r => r.userId = userId && r.targetUserId = otherId && r.kind = 2)

def consents (ourDomain : String) (db : Tables) (snap : Dm.DmSnapshot) (p : RemoteUserRef) : Bool :=
  !isLocal p.id ourDomain || eqIgnoreAsciiCase p.id snap.openerId ||
    snap.participants.all (fun other =>
      eqIgnoreAsciiCase other.id p.id || !hasBlocked db (localPart p.id) other.id)

def mirroredReply (s : AppState) (userId : String) (input : CreateDmRequest)
    (reply : Except AppError Response) : Option Dm.DmSnapshot := do
  let fed ← s.federation
  let ids ← (requested input).toOption
  let rid ← remoteRecipient (some fed) ids
  let response ← reply.toOption
  if eqIgnoreAsciiCase (Dm.homeDomainFor (qualify userId fed.domain) rid) fed.domain then none
  else if response.success then response.json.bind Dm.DmSnapshot.ofJson
  else none

namespace Blocking

variable (b : Blocking)

def leavesOut (s : AppState) (snap : Dm.DmSnapshot) : Bool :=
  s.federation.all (fun fed =>
    s.db.isParticipant snap.channelId b.blocker ||
      snap.participants.all (fun p => Dm.participantStorageId p.id fed.domain ≠ b.blocker) ||
      !snap.participants.all (consents fed.domain s.db snap))

def spares (s : Dealing) : BlockRequest → Bool
  | .create input reply =>
    (mirroredReply s.app b.actor.userId input reply).all (b.leavesOut s.app)
  | .addRecipient channelId userId =>
    userId ≠ b.blocker || s.app.db.isParticipant channelId userId ||
      !(checkAddRecipient channelId userId b.actor s.app.db).isOk
  | .dmAnnounce _ snapshot => b.leavesOut s.app { snapshot with openerId := b.actor.userId }
  | .dmOpen _ _ _ => true
  | .meanwhile _ => true

end Blocking

structure Unjoined (b : Blocking) (start s : AppState) : Prop where
  relationships : s.db.relationships = start.db.relationships
  federation : s.federation = start.federation
  seats : ∀ channelId, s.db.isParticipant channelId b.blocker = true →
    start.db.isParticipant channelId b.blocker = true

section

variable {α : Type} {b : Blocking} {start : AppState} {ourDomain : String} {snap : Dm.DmSnapshot}

theorem Unjoined.hasBlocked_eq {s : AppState} (h : Unjoined b start s) (userId otherId : String) :
    hasBlocked s.db userId otherId = hasBlocked start.db userId otherId := by
  rw [hasBlocked, hasBlocked, h.relationships]

theorem keeps_of_touches {slots : List Slot} {p : App α} (h : App.Touches slots p)
    (hn : Slot.dmParticipants ∉ slots ∧ Slot.relationships ∉ slots ∧ Slot.federation ∉ slots) :
    p.Maintains (Unjoined b start) := by
  have hview : p.Preserves (fun s : AppState =>
      (s.db.dmParticipants, s.db.relationships, s.federation)) :=
    (h .dmParticipants hn.1).pair ((h .relationships hn.2.1).pair (h .federation hn.2.2))
  refine hview.keeps (fun s t hsame hs => ?_)
  simp only [Prod.mk.injEq] at hsame
  obtain ⟨hseats, hblocks, hfed⟩ := hsame
  constructor
  · exact hblocks.trans hs.relationships
  · exact hfed.trans hs.federation
  · intro channelId hseat
    rw [Tables.isParticipant, hseats] at hseat
    exact hs.seats channelId hseat

theorem keeps_pass {p : App α} (h : App.Touches [] p) :
    p.Maintains (Unjoined b start) :=
  keeps_of_touches h (by decide)

theorem keeps_addParticipant {channelId userId : String}
    (h : userId ≠ b.blocker ∨ start.db.isParticipant channelId b.blocker = true) :
    (DmParticipants.addParticipant channelId userId).Maintains (Unjoined b start) := by
  refine App.keeps_write (fun s hs => ⟨hs.relationships, hs.federation, fun id hseat => ?_⟩)
  rcases DirectMessages.isParticipant_seat.mp hseat with hold | ⟨rfl, huser⟩
  · exact hs.seats id hold
  · rcases h with hne | hstart
    · exact absurd huser.symm hne
    · exact hstart

theorem keeps_deleteChannel (channelId : String) :
    (Channels.deleteChannel channelId).Maintains (Unjoined b start) := by
  refine App.keeps_update (fun s hs => ⟨hs.relationships, hs.federation, fun id hseat => ?_⟩)
  apply hs.seats
  rw [isParticipant_iff] at hseat ⊢
  exact (List.mem_filter.mp hseat).1

theorem keeps_createDmChannel {creatorId : String} {recipientIds : List String}
    (hcreator : creatorId ≠ b.blocker) (hrecipients : b.blocker ∉ recipientIds) :
    (DmParticipants.createDmChannel creatorId recipientIds).Maintains (Unjoined b start) := by
  refine Prog.Keeps.bind (keeps_pass (Prog.touches_require _ _)) (fun _ _ => ?_)
  refine Prog.Keeps.bind (keeps_pass (App.touches_lift _)) (fun existing _ => ?_)
  cases existing with
  | some channel => exact (keeps_addParticipant (.inl hcreator)).bind (fun _ _ => trivial)
  | none =>
    refine (keeps_of_touches App.touches_generateId (by decide)).bind (fun id _ => ?_)
    have hinsert := DmParticipants.touches_insertDmChannel id
      (if recipientIds.length = 1 then "dm" else "group_dm") creatorId
    refine (keeps_of_touches hinsert (by decide)).bind (fun _ _ => ?_)
    refine (keeps_addParticipant (.inl hcreator)).bind (fun _ _ => ?_)
    refine (Prog.keeps_forEach (fun rid hrid => keeps_addParticipant (.inl ?_))).bind (fun _ _ => ?_)
    · rintro rfl
      exact hrecipients hrid
    · exact keeps_pass (App.touches_lift _)

theorem keeps_isBlockedBy (userId otherId : String) :
    (MonadLiftT.monadLift (Relationships.isBlockedBy userId otherId) : App Bool).Keeps
      (Unjoined b start) (fun blocked => blocked = hasBlocked start.db userId otherId) := by
  refine App.keeps_lift (fun s hs blocked hblocked => ?_)
  rw [← hs.hasBlocked_eq]
  cases hblocked
  rfl

theorem keeps_requireConsent (p : RemoteUserRef) :
    (Dm.requireConsent snap p).Keeps (Unjoined b start) (fun _ =>
      ∀ other ∈ snap.participants, (eqIgnoreAsciiCase other.id p.id ||
        !hasBlocked start.db (localPart p.id) other.id) = true) := by
  refine Prog.keeps_forEach_all (fun other _ => ?_)
  cases hsame : eqIgnoreAsciiCase other.id p.id with
  | true =>
    rw [if_pos rfl]
    exact Bool.true_or _
  | false =>
    refine (keeps_isBlockedBy (localPart p.id) other.id).bind (fun blocked hblocked => ?_)
    refine Prog.keeps_require.mono (fun _ hallowed => ?_)
    rw [← hblocked, hallowed]
    rfl

theorem keeps_mirrorParticipant (p : RemoteUserRef) :
    (Dm.mirrorParticipant ourDomain snap p).Keeps (Unjoined b start)
      (fun _ => consents ourDomain start.db snap p = true) := by
  unfold Dm.mirrorParticipant consents
  cases hlocal : isLocal p.id ourDomain with
  | false =>
    have hupsert := Users.touches_upsertRemoteUser p.id (homeOf p.id snap.home)
      (handle p.usernameOrId (homeOf p.id snap.home)) p.displayName p.avatar
    exact (keeps_of_touches hupsert (by decide)).bind (fun _ _ => rfl)
  | true =>
    rw [if_pos rfl]
    cases hopener : eqIgnoreAsciiCase p.id snap.openerId with
    | true =>
      rw [if_pos rfl]
      rfl
    | false =>
      rw [if_neg Bool.false_ne_true]
      refine (keeps_requireConsent p).mono (fun _ hall => ?_)
      simpa using hall

def Harmless (b : Blocking) (ourDomain : String) (db : Tables) (snap : Dm.DmSnapshot) : Prop :=
  db.isParticipant snap.channelId b.blocker = true ∨
    (∀ p ∈ snap.participants, Dm.participantStorageId p.id ourDomain ≠ b.blocker) ∨
    ¬ ∀ p ∈ snap.participants, consents ourDomain db snap p = true

theorem leavesOut_harmless {fed : FederationContext} (hfed : start.federation = some fed)
    (h : b.leavesOut start snap = true) : Harmless b fed.domain start.db snap := by
  simp only [Blocking.leavesOut, hfed, Option.all_some, Bool.or_eq_true, Bool.not_eq_true',
    List.all_eq_true, decide_eq_true_eq] at h
  rcases h with (hseated | hnamed) | hrefused
  · exact .inl hseated
  · exact .inr (.inl hnamed)
  · refine .inr (.inr (fun hall => ?_))
    rw [List.all_eq_true.mpr hall] at hrefused
    cases hrefused

theorem keeps_mirrorDm (h : Harmless b ourDomain start.db snap) :
    (Dm.mirrorDm ourDomain snap).Maintains (Unjoined b start) := by
  have hconsent : (Prog.forEach snap.participants (Dm.mirrorParticipant ourDomain snap)).Keeps
      (Unjoined b start)
      (fun _ => ∀ p ∈ snap.participants, consents ourDomain start.db snap p = true) :=
    Prog.keeps_forEach_all (fun p _ => keeps_mirrorParticipant p)
  refine hconsent.bind (fun _ hall => ?_)
  have hseat : ∀ p ∈ snap.participants,
      Dm.participantStorageId p.id ourDomain ≠ b.blocker ∨
        start.db.isParticipant snap.channelId b.blocker = true := by
    intro p hp
    rcases h with hseated | hnamed | hrefused
    · exact .inr hseated
    · exact .inl (hnamed p hp)
    · exact absurd hall hrefused
  have hupsert := Federation.touches_upsertRemoteDmChannel snap.channelId snap.home
    snap.channelType (Dm.participantStorageId snap.ownerId ourDomain)
  refine (keeps_of_touches hupsert (by decide)).bind (fun _ _ => ?_)
  refine (Prog.keeps_forEach (fun p hp => keeps_addParticipant (hseat p hp))).bind (fun _ _ => ?_)
  refine Prog.Keeps.bind (keeps_pass (App.touches_found? _)) (fun channel _ => ?_)
  cases channel with
  | none => trivial
  | some channel => exact keeps_of_touches (Dm.touches_broadcastChannelCreate channel) (by decide)

theorem keeps_requestSigned (domain path : String) (body : Json)
    (reply : Except AppError Response) :
    (Sender.requestSigned domain path body reply).Keeps (Unjoined b start)
      (fun response => reply = .ok response) :=
  Sender.keeps_requestSigned _ _ _ _ (fun _ _ hs => ⟨hs.relationships, hs.federation, hs.seats⟩)

theorem keeps_openDmAsHome {opener : User} {recipientId recipientDomain : String}
    {reply : Except AppError Response} (hopener : opener.id ≠ b.blocker)
    (hrecipient : recipientId ≠ b.blocker) :
    (Dm.openDmAsHome ourDomain opener recipientId recipientDomain reply).Maintains (Unjoined b start) := by
  have hupsert := Users.touches_upsertRemoteUser recipientId recipientDomain recipientId none none
  have hother : b.blocker ∉ [recipientId] := by
    rw [List.mem_singleton]
    exact hrecipient.symm
  refine (keeps_of_touches hupsert (by decide)).bind (fun _ _ => ?_)
  refine (keeps_createDmChannel hopener hother).bind (fun channel _ => ?_)
  refine (keeps_requestSigned _ _ _ _).bind (fun response _ => ?_)
  refine Prog.keeps_ite ?_ ?_
  · exact (keeps_of_touches (Dm.touches_broadcastChannelCreate channel) (by decide)).bind
      (fun _ _ => trivial)
  · exact (keeps_deleteChannel channel.id).attempt.bind (fun _ _ => trivial)

theorem keeps_openDmAsReplica {opener : User} {recipientId home : String}
    {reply : Except AppError Response}
    (h : ∀ response snap, reply = .ok response → response.success = true →
      response.json.bind Dm.DmSnapshot.ofJson = some snap → Harmless b ourDomain start.db snap) :
    (Dm.openDmAsReplica ourDomain opener recipientId home reply).Maintains (Unjoined b start) := by
  refine (keeps_requestSigned _ _ _ _).bind (fun response hreply => ?_)
  refine Prog.keeps_require.bind (fun _ hsuccess => ?_)
  cases hsnap : response.json.bind Dm.DmSnapshot.ofJson with
  | none => trivial
  | some snap =>
    refine (keeps_mirrorDm (h response snap hreply hsuccess hsnap)).bind (fun _ _ => ?_)
    exact keeps_pass (App.touches_lift _)

theorem keeps_federation :
    App.federation.Keeps (Unjoined b start) (fun fed => fed = start.federation) :=
  Prog.keeps_get (fun _ hs => hs.federation)

theorem keeps_openDm {opener : User} {rid : String} {reply : Except AppError Response}
    (hopener : opener.id ≠ b.blocker) (hrid : rid ≠ b.blocker)
    (h : ∀ fed response snap, start.federation = some fed →
      eqIgnoreAsciiCase (Dm.homeDomainFor (qualify opener.id fed.domain) rid) fed.domain = false →
      reply = .ok response → response.success = true →
      response.json.bind Dm.DmSnapshot.ofJson = some snap → Harmless b fed.domain start.db snap) :
    (Dm.openDm opener rid reply).Maintains (Unjoined b start) := by
  refine keeps_federation.bind (fun fed hfed => ?_)
  cases fed with
  | none => trivial
  | some fed =>
    refine App.keeps_check (fun _ => ?_)
    cases domainOf rid with
    | none => trivial
    | some recipientDomain =>
      cases hours : eqIgnoreAsciiCase (Dm.homeDomainFor (qualify opener.id fed.domain) rid)
          fed.domain with
      | true =>
        simp only [hours, if_true]
        exact keeps_openDmAsHome hopener hrid
      | false =>
        simp only [hours]
        refine keeps_openDmAsReplica (fun response snap hreply hsuccess hsnap => ?_)
        exact h fed response snap hfed.symm hours hreply hsuccess hsnap

theorem checkRecipients_ok {userId : String} {db : Tables} {ids : List String}
    (h : checkRecipients userId ids db = .ok ()) : ∀ rid ∈ ids, hasBlocked db rid userId = false := by
  induction ids with
  | nil =>
    intro rid hrid
    cases hrid
  | cons id ids ih =>
    obtain ⟨user, -, h⟩ := (Query.bind_ok db).mp h
    obtain ⟨blocked, hblocked, h⟩ := (Query.bind_ok db).mp h
    obtain ⟨u, hrequire, hrest⟩ := (Query.bind_ok db).mp h
    cases hblocked
    intro rid hrid
    rcases List.mem_cons.mp hrid with rfl | hrid
    · exact Query.require_holds hrequire
    · exact ih hrest rid hrid

theorem keeps_openLocal (hstands : b.stands start.db = true) (ids : List String) :
    (openLocal b.actor ids).Maintains (Unjoined b start) := by
  have hchecked : (MonadLiftT.monadLift (checkRecipients b.actor.userId ids) : App Unit).Keeps
      (Unjoined b start) (fun _ => b.blocker ∉ ids) := by
    refine App.keeps_lift (fun s hs _ hok hnamed => ?_)
    have hfree := checkRecipients_ok hok b.blocker hnamed
    rw [hs.hasBlocked_eq] at hfree
    exact Bool.false_ne_true (hfree.symm.trans hstands)
  exact hchecked.bind (fun _ hids => keeps_createDmChannel b.distinct.symm hids)

theorem remoteRecipient_some {fed : FederationContext} {ids : List String} {rid : String}
    (h : remoteRecipient (some fed) ids = some rid) : domainOf rid ≠ none := by
  cases ids with
  | nil => cases h
  | cons first rest =>
    cases rest with
    | cons second rest => cases h
    | nil =>
      cases hdomain : domainOf first with
      | none =>
        simp only [remoteRecipient, hdomain] at h
        cases h
      | some domain =>
        simp only [remoteRecipient, hdomain] at h
        split at h
        · cases h
        · cases h
          rw [hdomain]
          exact Option.some_ne_none domain

theorem keeps_createDm {input : CreateDmRequest} {reply : Except AppError Response}
    (hstands : b.stands start.db = true)
    (h : (mirroredReply start b.actor.userId input reply).all (b.leavesOut start) = true) :
    (createDmChannel b.actor input reply).Maintains (Unjoined b start) := by
  unfold createDmChannel
  have hids : (MonadLiftT.monadLift (requested input) : App (List String)).Keeps
      (Unjoined b start) (fun ids => requested input = .ok ids) :=
    Prog.keeps_ofExcept (fun _ h => h)
  refine hids.bind (fun ids hrequested => ?_)
  refine Prog.Keeps.bind (keeps_pass (App.touches_lift _)) (fun _ _ => ?_)
  refine keeps_federation.bind (fun fed hfed => ?_)
  cases hremote : remoteRecipient fed ids with
  | none =>
    refine (keeps_openLocal hstands ids).bind (fun channel _ => ?_)
    refine Prog.Keeps.bind (Q := fun _ => True) ?_ (fun json _ => ?_)
    · exact keeps_pass (fun _ _ => Spaces.preserves_channelRowToJsonPub channel)
    refine Prog.Keeps.bind (keeps_pass (App.touches_lift _)) (fun ids _ => ?_)
    exact (keeps_of_touches (App.touches_send _) (by decide)).bind (fun _ _ => trivial)
  | some rid =>
    have hopener : (MonadLiftT.monadLift (Users.getUser b.actor.userId) : App User).Keeps
        (Unjoined b start) (fun u => u.id = b.actor.userId) := by
      refine App.keeps_lift (fun s hs u hu => ?_)
      exact Users.getUser_id hu
    refine hopener.bind (fun opener hid => ?_)
    refine Prog.Keeps.bind (Q := fun _ => True) ?_ (fun channel _ => ?_)
    · refine keeps_openDm ?_ ?_ (fun ours response snap hours haway hreply hsuccess hsnap => ?_)
      · rw [hid]
        exact b.distinct.symm
      · rintro rfl
        cases fed with
        | none => cases hremote
        | some fed => exact remoteRecipient_some hremote b.account
      · rw [hours] at hfed
        rw [hfed] at hremote
        rw [hid] at haway
        simp only [mirroredReply, hours, hrequested, Except.toOption, hremote, hreply, hsuccess,
          haway, hsnap, Option.bind_eq_bind, Option.bind_some, Bool.false_eq_true, if_false,
          if_true, Option.all_some] at h
        exact leavesOut_harmless hours h
    · exact (keeps_pass (fun _ _ => Spaces.preserves_channelRowToJsonPub channel)).bind
        (fun _ _ => trivial)

theorem keeps_serveOpen {peer : String} {req : Dm.DmOpenRequest}
    (hstands : b.stands start.db = true) (hopener : req.opener.id = b.actor.userId) :
    (Dm.serveOpen ourDomain peer req).Maintains (Unjoined b start) := by
  refine App.keeps_check (fun _ => ?_)
  refine Prog.Keeps.bind (keeps_pass (Prog.touches_require _ _)) (fun _ _ => ?_)
  refine Prog.Keeps.bind (keeps_pass (App.touches_lift _)) (fun recipient _ => ?_)
  refine (keeps_isBlockedBy recipient.id req.opener.id).bind (fun blocked hblocked => ?_)
  refine Prog.keeps_require.bind (fun _ hfree => ?_)
  have hother : b.blocker ∉ [recipient.id] := by
    rw [List.mem_singleton]
    intro hsame
    rw [hopener, ← hsame] at hblocked
    exact Bool.false_ne_true (hfree.symm.trans (hblocked.trans hstands))
  have hupsert := Users.touches_upsertRemoteUser req.opener.id peer
    (handle req.opener.usernameOrId peer) req.opener.displayName req.opener.avatar
  refine (keeps_of_touches hupsert (by decide)).bind (fun _ _ => ?_)
  rw [hopener]
  refine (keeps_createDmChannel b.distinct.symm hother).bind (fun channel _ => ?_)
  exact (keeps_of_touches (Dm.touches_broadcastChannelCreate channel) (by decide)).bind
    (fun _ _ => trivial)

theorem keeps_addRecipient {channelId userId : String}
    (h : userId ≠ b.blocker ∨ start.db.isParticipant channelId b.blocker = true) :
    (addRecipient channelId userId b.actor).Maintains (Unjoined b start) := by
  refine Prog.Keeps.bind (keeps_pass (App.touches_lift _)) (fun _ _ => ?_)
  refine (keeps_addParticipant h).bind (fun _ _ => ?_)
  refine Prog.Keeps.bind (keeps_pass (App.touches_lift _)) (fun updated _ => ?_)
  refine Prog.Keeps.bind (Q := fun _ => True) ?_ (fun json _ => ?_)
  · exact keeps_pass (fun _ _ => Spaces.preserves_channelRowToJsonPub updated)
  refine Prog.Keeps.bind (keeps_pass (App.touches_lift _)) (fun ids _ => ?_)
  exact (keeps_of_touches (App.touches_send _) (by decide)).bind (fun _ _ => trivial)

theorem exec_addRecipient_refused {channelId userId : String} {e : AppError}
    (h : checkAddRecipient channelId userId b.actor start.db = .error e) :
    ((addRecipient channelId userId b.actor).exec start).2 = start := by
  rw [addRecipient, Prog.exec_bind, App.exec_lift, h]

theorem keeps_handleOpen {peer : String} {req : Dm.DmOpenRequest}
    (hstands : b.stands start.db = true) (hopener : req.opener.id = b.actor.userId) :
    (handleOpen peer req).Maintains (Unjoined b start) := by
  refine keeps_federation.bind (fun fed _ => ?_)
  cases fed with
  | none => trivial
  | some fed => exact (keeps_serveOpen hstands hopener).bind (fun _ _ => trivial)

theorem keeps_handleAnnounce {peer : String} (h : b.leavesOut start snap = true) :
    (handleAnnounce peer snap).Maintains (Unjoined b start) := by
  refine keeps_federation.bind (fun fed hfed => ?_)
  cases fed with
  | none => trivial
  | some fed =>
    refine App.keeps_check (fun _ => App.keeps_check (fun _ => ?_))
    exact keeps_mirrorDm (leavesOut_harmless hfed.symm h)

end

section

variable {b : Blocking} {s t : Dealing} {req : BlockRequest}

theorem respects_of_keeps {α : Type} {p : App α}
    (h : b.stands s.app.db = true → p.Maintains (Unjoined b s.app)) :
    b.Respects s (Blocking.finished p s.app) := by
  intro _ hstands channelId hseat
  have hstart : Unjoined b s.app s.app := ⟨rfl, rfl, fun _ hseat => hseat⟩
  exact ((h hstands).exec hstart).1.seats channelId hseat

theorem respects_addRecipient {channelId userId : String}
    (h : b.spares s (.addRecipient channelId userId) = true) :
    b.Respects s (b.serve s (.addRecipient channelId userId)) := by
  cases hcheck : checkAddRecipient channelId userId b.actor s.app.db with
  | error e =>
    intro _ _ id hseat
    have hsame := exec_addRecipient_refused hcheck
    simp only [Blocking.serve, Blocking.finished, hsame] at hseat
    exact hseat
  | ok u =>
    simp only [Blocking.spares, hcheck, Except.isOk, Except.toBool, Bool.not_true, Bool.or_false,
      Bool.or_eq_true, decide_eq_true_eq] at h
    refine respects_of_keeps (fun _ => keeps_addRecipient ?_)
    by_cases hother : userId = b.blocker
    · rw [hother] at h
      exact .inr (h.resolve_left (fun hne => hne rfl))
    · exact .inl hother

theorem respects_serve (h : b.spares s req = true) (hstep : b.serveOne s req = some t) :
    b.Respects s t := by
  cases hstep
  cases req with
  | create input reply => exact respects_of_keeps (fun hstands => keeps_createDm hstands h)
  | addRecipient channelId userId => exact respects_addRecipient h
  | dmOpen peer profile recipientId =>
    exact respects_of_keeps (fun hstands => keeps_handleOpen hstands rfl)
  | dmAnnounce peer snapshot => exact respects_of_keeps (fun _ => keeps_handleAnnounce h)
  | meanwhile next =>
    intro hacted
    cases hacted

end

theorem blocks_respected (b : Blocking) (s : Dealing) (reqs : List BlockRequest)
    (h : Lib.meets b.serveOne b.spares s reqs = true) :
    Lib.Along b.serveOne b.Respects s reqs := by
  have hstep : ∀ s req t, True → b.spares s req = true → b.serveOne s req = some t →
      b.Respects s t :=
    fun s req t _ h hstep => respects_serve h hstep
  exact Lib.along_of_meets (fun _ _ _ _ _ _ => trivial) hstep trivial h

def annBlocksBob : Blocking :=
  { blocker := "1"
    actor := { userId := "2", isAdmin := false }
    account := by decide
    distinct := by decide }

def blockedGroup : AppState :=
  { db :=
      { users := [{ id := "1", username := "ann" }, { id := "2", username := "bob" },
          { id := "3", username := "cat" }]
        channels := [{ id := "9", channelType := "group_dm", ownerId := some "2" }]
        dmParticipants := [⟨"9", "2"⟩, ⟨"9", "3"⟩]
        relationships := [{ userId := "1", targetUserId := "2", kind := 2 }] }
    ext := .fixed ""
    snowflake := 20 }

theorem opens_respected : Lib.Along annBlocksBob.serveOne annBlocksBob.Respects
    { app := blockedGroup }
    [.create { recipientId := some "1" } (.error federationDisabled),
      .create { recipients := some ["1", "3"] } (.error federationDisabled),
      .addRecipient "9" "3"] :=
  blocks_respected annBlocksBob _ _ (by decide +kernel)

theorem added_despite_block : ¬ Lib.Along annBlocksBob.serveOne annBlocksBob.Respects
    { app := blockedGroup } [.addRecipient "9" "1"] := by
  intro h
  have hadded := (h _ rfl).1 rfl (by decide +kernel) "9" (by decide +kernel)
  exact absurd hadded (by decide +kernel)

end Vokusz.Routes.Blocks
