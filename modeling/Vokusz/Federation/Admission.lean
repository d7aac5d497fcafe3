import Vokusz.Federation.Fanout
import Vokusz.Permissions.Standing
import Vokusz.Routes.Sending

namespace Vokusz.Federation.Admission

open Db Permissions Forward
open Lib (Prog Table.lookup)
open Fanout (FreshIds)
open Db.Messages (CreateMessage Insertable draft)
open Routes.Reactions (requireNotTimedOutIn)

section

variable {s : AppState}

theorem freshIds_of {t : AppState} (h : FreshIds s)
    (hbox : t.db.federationOutbox = s.db.federationOutbox) (hid : s.snowflake ≤ t.snowflake) :
    FreshIds t := by
  intro item hitem n hn
  rw [hbox] at hitem
  exact h item hitem n (Nat.le_trans hid hn)

theorem fanoutToTargets_succeeds (h : FreshIds s) (spaceId eventType : String) (payload : Json)
    (targets : List String) :
    (Outbound.fanoutToTargets spaceId eventType payload targets).Succeeds s := by
  unfold Prog.Succeeds Outbound.fanoutToTargets
  rw [Prog.exec_bind_of_ok App.exec_federation]
  cases hfed : s.federation with
  | none => exact ⟨(), s, rfl⟩
  | some fed =>
    dsimp only
    split
    · exact ⟨(), s, rfl⟩
    · obtain ⟨origin, horigin⟩ : ∃ origin, Federation.spaceOrigin spaceId s.db = .ok origin :=
        ⟨_, rfl⟩
      rw [Prog.exec_bind_of_ok (App.exec_lift_ok.mpr ⟨horigin, rfl⟩)]
      split
      · exact ⟨(), s, rfl⟩
      · have hnext : FreshIds { s with snowflake := s.snowflake + 1 } :=
          freshIds_of h rfl (Nat.le_succ _)
        have hnextfed : App.federation.exec { s with snowflake := s.snowflake + 1 } =
            (.ok (some fed), { s with snowflake := s.snowflake + 1 }) := by
          rw [App.exec_federation, hfed]
        rw [Prog.exec_bind_of_ok App.exec_generateId, Sender.enqueue,
          Prog.exec_bind_of_ok hnextfed]
        exact ⟨(), _, Fanout.exec_enqueueAll _ hnext⟩

theorem fanoutToSpace_succeeds (h : FreshIds s) (spaceId eventType : String) (payload : Json) :
    (Outbound.fanoutToSpace spaceId eventType payload).Succeeds s := by
  have htargets : (MonadLiftT.monadLift (Federation.interestedServers spaceId) :
      App (List String)).exec s = (.ok (Federation.interestedIn s.db spaceId), s) :=
    App.exec_lift _
  unfold Prog.Succeeds Outbound.fanoutToSpace
  rw [Prog.exec_bind_of_ok htargets]
  exact fanoutToTargets_succeeds h _ _ _ _

theorem fanoutIfSpace_succeeds (h : FreshIds s) (spaceId : Option String) (eventType : String)
    (payload : Json) : (Outbound.fanoutIfSpace spaceId eventType payload).Succeeds s := by
  cases spaceId with
  | none => exact ⟨(), s, rfl⟩
  | some sid => exact fanoutToSpace_succeeds h _ _ _

theorem fanoutMessageCreate_succeeds {msg : MessageRow} (h : FreshIds s)
    (hauthor : s.db.hasUser msg.authorId = true) :
    (Outbound.fanoutMessageCreate msg).Succeeds s := by
  obtain ⟨author, hfound⟩ := Users.getUser_of_has hauthor
  unfold Prog.Succeeds Outbound.fanoutMessageCreate
  rw [Prog.exec_bind_of_ok App.exec_federation]
  cases s.federation with
  | none => exact ⟨(), s, rfl⟩
  | some fed =>
    cases msg.spaceId with
    | none => exact ⟨(), s, rfl⟩
    | some sid =>
      dsimp only
      rw [Prog.exec_bind_of_ok (App.exec_lift_ok.mpr ⟨hfound, rfl⟩)]
      exact fanoutToSpace_succeeds h _ _ _

end

def cached (s : AppState) (users : List User) : AppState := s.withDb (withUsers users s.db)

section

variable {s t : AppState} {peer : String} {actor : RemoteUserRef}

theorem cacheActor_succeeds : (cacheActor peer actor).Succeeds s ↔
    s.db.usernameFree actor.id (Mapping.handle actor.usernameOrId peer) = true :=
  Prog.succeeds_bind_pure.trans Users.upsertRemoteUser_succeeds

theorem cacheActor_ok {a : Unit} (h : (cacheActor peer actor).exec s = (.ok a, t)) :
    ∃ users, t = cached s users ∧ t.db.hasUser actor.id = true := by
  obtain ⟨user, u, hupsert, hrest⟩ := Prog.exec_bind_ok.mp h
  cases hrest
  have huser := Users.upsertRemoteUser_hasUser hupsert
  obtain ⟨_, w, hwrite, hread⟩ := Prog.exec_bind_ok.mp hupsert
  obtain ⟨_, rfl⟩ := App.exec_lift_ok.mp hread
  rw [App.exec_write] at hwrite
  split at hwrite
  · cases hwrite
  · cases hwrite
    exact ⟨_, rfl, huser⟩

end

def asCreate (req : SendRequest) : CreateMessage :=
  { content := req.content, replyTo := req.replyTo }

def repliable (db : Tables) (id : String) (replyTo : Option String) : Bool :=
  replyTo.all (fun r => r = id || db.hasMessage r)

structure Postable (peer : String) (req : SendRequest) (spaceId : String) (s : AppState) :
    Prop where
  homed : Authority.homedOn req.actor.id peer = true
  capped : req.content.length ≤ 4000
  cacheable : s.db.usernameFree req.actor.id (Mapping.handle req.actor.usernameOrId peer) = true
  permitted : requireChannelPermission req.channelId (remoteActorAuth req.actor.id)
    "send_messages" s.db = .ok spaceId
  inSpace : s.db.hasSpace spaceId = true
  reply : repliable s.db (toString s.snowflake) req.replyTo = true
  fresh : s.db.hasMessage (toString s.snowflake) = false

section

variable {s : AppState} {ourDomain peer : String} {req : SendRequest} {spaceId : String}

theorem storeMessage_users (row : MessageRow) (now : Int) (db : Tables) :
    (Db.Messages.storeMessage row now db).users = db.users := by
  unfold Db.Messages.storeMessage
  dsimp only
  split <;> rfl

theorem storeMessage_outbox (row : MessageRow) (now : Int) (db : Tables) :
    (Db.Messages.storeMessage row now db).federationOutbox = db.federationOutbox := by
  unfold Db.Messages.storeMessage
  dsimp only
  split <;> rfl

theorem hasChannel_of_permission {channelId : String} {auth : AuthUser} {perm : String}
    {db : Tables} (h : requireChannelPermission channelId auth perm db = .ok spaceId) :
    db.hasChannel channelId = true := by
  obtain ⟨channel, hchannel, _⟩ := (Query.bind_ok db).mp h
  unfold Channels.getChannelRow at hchannel
  split at hchannel
  · rename_i found hlookup
    rw [Tables.hasChannel, ← Lib.Table.lookup_isSome, hlookup]
    rfl
  · cases hchannel

theorem insertable_cached {users : List User} {cooldownMs : Int}
    (hauthor : (cached s users).db.hasUser req.actor.id = true)
    (hchannel : s.db.hasChannel req.channelId = true) (hcooldown : cooldownMs = 0) :
    Insertable (cached s users).db
        (draft (cached s users) req.channelId req.actor.id (some spaceId) (asCreate req))
        cooldownMs (cached s users).clock ↔
      s.db.hasSpace spaceId = true ∧ repliable s.db (toString s.snowflake) req.replyTo = true ∧
        s.db.hasMessage (toString s.snowflake) = false := by
  have hcooled : Db.Messages.cooldownRefusal (cached s users).db req.channelId req.actor.id
      cooldownMs (cached s users).clock = none := by
    rw [cooldownRefusal_eq, hcooldown]
    simp
  have hrefs : Db.Messages.referencesExist (cached s users).db
      (draft (cached s users) req.channelId req.actor.id (some spaceId) (asCreate req)) =
        (s.db.hasSpace spaceId && repliable s.db (toString s.snowflake) req.replyTo) := by
    have hchannel' : (cached s users).db.hasChannel req.channelId = true := hchannel
    simp only [Db.Messages.referencesExist, draft, Db.Messages.localRow, asCreate, hauthor,
      hchannel', Bool.true_and, Option.all_some, Option.all_none, Bool.and_true]
    rfl
  simp only [Insertable, hrefs, Bool.and_eq_true]
  constructor
  · rintro ⟨_, ⟨hspace, hreply⟩, hfresh⟩
    exact ⟨hspace, hreply, hfresh⟩
  · rintro ⟨hspace, hreply, hfresh⟩
    exact ⟨hcooled, ⟨hspace, hreply⟩, hfresh⟩

theorem postable_of_serveSend (h : (serveSend ourDomain peer req).Succeeds s) :
    ∃ spaceId, Postable peer req spaceId s := by
  obtain ⟨j, s', h⟩ := h
  obtain ⟨_, s₁, hguard, h⟩ := Prog.exec_bind_ok.mp h
  obtain ⟨_, s₂, hcap, h⟩ := Prog.exec_bind_ok.mp h
  obtain ⟨_, s₃, hcached, h⟩ := Prog.exec_bind_ok.mp h
  obtain ⟨spaceId, s₄, hchecked, h⟩ := Prog.exec_bind_ok.mp h
  obtain ⟨msg, s₅, hcreated, h⟩ := Prog.exec_bind_ok.mp h
  obtain ⟨hhomed, rfl⟩ := App.exec_liftExcept_ok.mp hguard
  obtain ⟨hcapped, rfl⟩ := Prog.exec_require_ok.mp hcap
  obtain ⟨users, rfl, hauthor⟩ := cacheActor_ok hcached
  obtain ⟨hpermitted, rfl⟩ := App.exec_lift_ok.mp hchecked
  have hpermitted' : requireChannelPermission req.channelId (remoteActorAuth req.actor.id)
      "send_messages" s.db = .ok spaceId :=
    (requireChannelPermission_users users _ _ _ _).symm.trans hpermitted
  have hinsertable := Db.Messages.createMessage_succeeds.mp ⟨msg, s₅, hcreated⟩
  obtain ⟨hspace, hreply, hfresh⟩ := (insertable_cached hauthor
    (hasChannel_of_permission hpermitted') (Int.max_self 0)).mp hinsertable
  refine ⟨spaceId, ?_, hcapped, cacheActor_succeeds.mp ⟨_, _, hcached⟩, hpermitted', hspace, hreply,
    hfresh⟩
  by_contra hnot
  simp [Authority.requireHomedOn, hnot] at hhomed

theorem serveSend_of_postable (hids : FreshIds s) (h : Postable peer req spaceId s) :
    (serveSend ourDomain peer req).Succeeds s := by
  obtain ⟨_, s₁, hcached⟩ := cacheActor_succeeds.mpr h.cacheable
  obtain ⟨users, rfl, hauthor⟩ := cacheActor_ok hcached
  have hhomed : Authority.requireHomedOn req.actor.id peer "actor" = .ok () := by
    simp [Authority.requireHomedOn, h.homed]
  have hpermitted : requireChannelPermission req.channelId (remoteActorAuth req.actor.id)
      "send_messages" (cached s users).db = .ok spaceId :=
    (requireChannelPermission_users users _ _ _ _).trans h.permitted
  obtain ⟨msg, _, _, hmsgauthor, _, _, hcreated⟩ := Db.Messages.createMessage_of_insertable
    ((insertable_cached hauthor (hasChannel_of_permission h.permitted)
      (Int.max_self 0)).mpr ⟨h.inSpace, h.reply, h.fresh⟩)
  obtain ⟨author, hauthorRow⟩ := Users.getUser_of_has hauthor
  let stored : AppState :=
    { cached s users with
      snowflake := s.snowflake + 1
      db := Db.Messages.storeMessage msg s.clock (cached s users).db }
  have hstoredUsers : stored.db.users = (cached s users).db.users :=
    storeMessage_users msg s.clock _
  have hauthorStored : Users.getUser req.actor.id stored.db = .ok author := by
    simp only [Users.getUser, hstoredUsers]
    exact hauthorRow
  have hfanout : (Outbound.fanoutMessageCreate msg).Succeeds
      { stored with
        gatewayTx := stored.gatewayTx ++
          [{ spaceId := some spaceId
             targetUserIds := none
             event := gatewayEvent "message.create" (Outbound.messagePayload ourDomain msg author)
             intent := "messages" }] } := by
    refine fanoutMessageCreate_succeeds ?_ ?_
    · exact freshIds_of hids (storeMessage_outbox msg s.clock _) (Nat.le_succ _)
    · rw [hmsgauthor, Tables.hasUser]
      exact hstoredUsers ▸ hauthor
  unfold serveSend
  refine Prog.succeeds_bind_of_ok (App.exec_liftExcept_ok.mpr ⟨hhomed, rfl⟩) ?_
  refine Prog.succeeds_bind_of_ok ((Prog.exec_require_ok (u := ())).mpr ⟨h.capped, rfl⟩) ?_
  refine Prog.succeeds_bind_of_ok hcached ?_
  refine Prog.succeeds_bind_of_ok (App.exec_lift_ok.mpr ⟨hpermitted, rfl⟩) ?_
  refine Prog.succeeds_bind_of_ok hcreated ?_
  refine Prog.succeeds_bind_of_ok (App.exec_lift_ok.mpr ⟨hauthorStored, rfl⟩) ?_
  refine Prog.succeeds_bind_of_ok (App.exec_send _) ?_
  exact Prog.succeeds_bind_pure.mpr hfanout

end

structure HomedChannel (s : AppState) (channel : ChannelRow) (spaceId : String) : Prop where
  found : Channels.getChannelRow channel.id s.db = .ok channel
  inSpace : channel.spaceId = some spaceId
  homed : Federation.spaceOrigin spaceId s.db = .ok none
  named : spaceId ≠ ""
  nameless : s.db.hasSpace "" = false

def timedOut (s : AppState) (spaceId userId : String) : Bool :=
  isTimedOut s.ext s.clock ((memberOf s.db spaceId userId).bind MemberRow.timedOutUntil)

section

variable {s : AppState} {channel : ChannelRow} {spaceId userId perm granted : String}

theorem exec_requireNotTimedOut : (requireNotTimedOut spaceId (member userId)).exec s =
    (if timedOut s spaceId userId then .error (.forbidden "you are timed out in this space")
      else .ok (), s) := by
  unfold requireNotTimedOut timedOut
  simp only [member, Bool.false_eq_true, if_false, Prog.exec_bind, App.exec_query, getMemberRow_eq]
  cases memberOf s.db spaceId userId with
  | none => simp only [App.exec_externals, App.exec_nowMillis, Prog.exec_require, ite_not]
  | some row => simp only [App.exec_externals, App.exec_nowMillis, Prog.exec_require, ite_not]

theorem exec_requireNotTimedOutIn {t : AppState} {u : Unit} :
    (requireNotTimedOutIn spaceId (member userId)).exec s = (.ok u, t) ↔
      (spaceId ≠ "" → timedOut s spaceId userId = false) ∧ s = t := by
  unfold requireNotTimedOutIn
  split
  · rename_i hempty
    simp [hempty]
  · rename_i hspace
    rw [exec_requireNotTimedOut]
    cases htimed : timedOut s spaceId userId <;> simp [hspace]

theorem granted_cases (hc : HomedChannel s channel spaceId)
    (h : requireChannelPermission channel.id (member userId) perm s.db = .ok granted) :
    channel.isDm = true ∧ granted = "" ∨ channel.isDm = false ∧ granted = spaceId ∧
      ∃ perms, resolveChannelPermissions channel.id spaceId userId s.db = .ok perms := by
  simp only [requireChannelPermission, Query.bind_apply, member, hc.found, hc.inSpace,
    Bool.false_eq_true, if_false] at h
  cases hdm : channel.isDm with
  | true =>
    simp only [hdm, if_true, Query.bind_ok] at h
    obtain ⟨_, _, hgranted⟩ := h
    cases hgranted
    exact .inl ⟨rfl, rfl⟩
  | false =>
    simp only [hdm, Bool.false_eq_true, if_false, Query.bind_ok] at h
    obtain ⟨perms, hperms, _, _, hgranted⟩ := h
    cases hgranted
    exact .inr ⟨rfl, rfl, perms, hperms⟩

theorem createMessage_succeeds (hc : HomedChannel s channel spaceId) {req : SendRequest}
    {reply : Except AppError Response} {unfurled : Option Json} :
    (Routes.Messages.createMessage channel.id (member userId) (asCreate req) reply
        unfurled).Succeeds s ↔
      ∃ granted,
        requireChannelPermission channel.id (member userId) "send_messages" s.db = .ok granted ∧
        (granted ≠ "" → timedOut s granted userId = false) ∧
        Routes.Messages.WithinLimits (asCreate req) ∧
        (Routes.Messages.createLocal channel (member userId) (asCreate req) unfurled).Succeeds s
    := by
  have hhome : Routes.Messages.homeOfChannel channel s.db = .ok none := by
    simp only [Routes.Messages.homeOfChannel, hc.inSpace]
    exact hc.homed
  have hdirect : Routes.Messages.homeOfDm channel s.db = .ok none := by
    simp [Routes.Messages.homeOfDm, Routes.Messages.isDirect, hc.inSpace]
  constructor
  · rintro ⟨j, t, h⟩
    obtain ⟨granted, s₁, hchecked, h⟩ := Prog.exec_bind_ok.mp h
    obtain ⟨_, s₂, htimed, h⟩ := Prog.exec_bind_ok.mp h
    obtain ⟨_, s₃, hthread, h⟩ := Prog.exec_bind_ok.mp h
    obtain ⟨_, s₄, hcontent, h⟩ := Prog.exec_bind_ok.mp h
    obtain ⟨found, s₅, hfound, h⟩ := Prog.exec_bind_ok.mp h
    obtain ⟨home, s₆, hspace, h⟩ := Prog.exec_bind_ok.mp h
    obtain ⟨hpermitted, rfl⟩ := App.exec_lift_ok.mp hchecked
    obtain ⟨hintime, rfl⟩ := exec_requireNotTimedOutIn.mp htimed
    obtain ⟨_, rfl⟩ := App.exec_lift_ok.mp hthread
    obtain ⟨hwithin, rfl⟩ := Routes.Messages.checkContent_ok.mp hcontent
    obtain ⟨hrow, rfl⟩ := App.exec_lift_ok.mp hfound
    obtain ⟨hspaceHome, rfl⟩ := App.exec_lift_ok.mp hspace
    cases hc.found.symm.trans hrow
    cases hhome.symm.trans hspaceHome
    obtain ⟨home, s₇, hdm, h⟩ := Prog.exec_bind_ok.mp h
    obtain ⟨hdmHome, rfl⟩ := App.exec_lift_ok.mp hdm
    cases hdirect.symm.trans hdmHome
    exact ⟨granted, hpermitted, hintime, hwithin, j, t, h⟩
  · rintro ⟨granted, hpermitted, hintime, hwithin, hlocal⟩
    have hthread : Routes.Messages.requireThreadPermission channel.id (member userId)
        (asCreate req) s.db = .ok () := rfl
    refine Prog.succeeds_bind_of_ok (App.exec_lift_ok.mpr ⟨hpermitted, rfl⟩) ?_
    refine Prog.succeeds_bind_of_ok ((exec_requireNotTimedOutIn (u := ())).mpr ⟨hintime, rfl⟩) ?_
    refine Prog.succeeds_bind_of_ok (App.exec_lift_ok.mpr ⟨hthread, rfl⟩) ?_
    refine Prog.succeeds_bind_of_ok
      ((Routes.Messages.checkContent_ok (u := ())).mpr ⟨hwithin, rfl⟩) ?_
    refine Prog.succeeds_bind_of_ok (App.exec_lift_ok.mpr ⟨hc.found, rfl⟩) ?_
    refine Prog.succeeds_bind_of_ok (App.exec_lift_ok.mpr ⟨hhome, rfl⟩) ?_
    exact Prog.succeeds_bind_of_ok (App.exec_lift_ok.mpr ⟨hdirect, rfl⟩) hlocal

end

structure Twin (s : AppState) (spaceId channelId u v : String) : Prop where
  account : ∃ row, Users.getUser v s.db = .ok row ∧ row.origin = none
  alike : standing s.db spaceId channelId u = standing s.db spaceId channelId v

structure Clear (s : AppState) (channel : ChannelRow) (spaceId userId content : String) : Prop where
  inTime : timedOut s spaceId userId = false
  short : content.utf8ByteSize ≤ 4000
  cooled : ∀ cooldownMs, slowmodeCooldownMs channel (member userId) s.db = .ok cooldownMs →
    Db.Messages.cooldownRefusal s.db channel.id userId (max cooldownMs 0) s.clock = none

section

variable {s : AppState} {channel : ChannelRow} {spaceId u v : String}

theorem timedOut_alike (h : standing s.db spaceId channel.id u = standing s.db spaceId channel.id v) :
    timedOut s spaceId u = timedOut s spaceId v :=
  congrArg (isTimedOut s.ext s.clock) (congrArg Standing.timedOutUntil h)

theorem hasUser_of_getUser {db : Tables} {row : User} (h : Users.getUser v db = .ok row) :
    db.hasUser v = true := by
  rw [Tables.hasUser, ← Lib.Table.lookup_isSome]
  unfold Users.getUser at h
  split at h
  · rename_i found hlookup
    rw [hlookup]
    rfl
  · cases h

theorem slowmode_resolved (hc : HomedChannel s channel spaceId) {perms : List String}
    (hperms : resolveChannelPermissions channel.id spaceId v s.db = .ok perms) :
    ∃ cooldownMs, slowmodeCooldownMs channel (member v) s.db = .ok cooldownMs := by
  simp only [slowmodeCooldownMs, member, hc.inSpace]
  split
  · exact ⟨0, rfl⟩
  · simp only [Query.bind_apply, hperms]
    split
    · exact ⟨0, rfl⟩
    · exact ⟨_, rfl⟩

theorem insertable_twin {req : SendRequest} {peer : String} {cooldownMs : Int}
    (hchannel : req.channelId = channel.id) (hpost : Postable peer req spaceId s)
    (htwin : Twin s spaceId channel.id req.actor.id v) :
    Insertable s.db (draft s channel.id v (some spaceId) (asCreate req)) cooldownMs s.clock ↔
      Db.Messages.cooldownRefusal s.db channel.id req.actor.id cooldownMs s.clock = none := by
  obtain ⟨row, hrow, _⟩ := htwin.account
  have hauthor : s.db.hasUser v = true := hasUser_of_getUser hrow
  have hstored : s.db.hasChannel channel.id = true :=
    hchannel ▸ hasChannel_of_permission hpost.permitted
  have hrefs : Db.Messages.referencesExist s.db
      (draft s channel.id v (some spaceId) (asCreate req)) = true := by
    simp only [Db.Messages.referencesExist, draft, Db.Messages.localRow, asCreate, hauthor, hstored,
      hpost.inSpace, Bool.true_and, Option.all_some, Option.all_none, Bool.and_true]
    exact hpost.reply
  rw [cooldownRefusal_alike htwin.alike]
  constructor
  · intro h
    exact h.1
  · intro h
    exact ⟨h, hrefs, hpost.fresh⟩

theorem postable_in_space (hc : HomedChannel s channel spaceId) {req : SendRequest}
    {peer granted : String} (hchannel : req.channelId = channel.id)
    (hpost : Postable peer req granted s) :
    granted = spaceId ∧
      ∃ perms, resolveChannelPermissions channel.id spaceId req.actor.id s.db = .ok perms := by
  have hpermitted := hpost.permitted
  rw [hchannel] at hpermitted
  rcases granted_cases hc hpermitted with ⟨_, hempty⟩ | ⟨_, hgranted, hperms⟩
  · have hspace := hpost.inSpace
    rw [hempty, hc.nameless] at hspace
    cases hspace
  · exact ⟨hgranted, hperms⟩

theorem send_agrees_iff (hc : HomedChannel s channel spaceId) (hids : FreshIds s)
    {ourDomain peer : String} {req : SendRequest} (hchannel : req.channelId = channel.id)
    (htwin : Twin s spaceId channel.id req.actor.id v) (reply : Except AppError Response)
    (unfurled : Option Json) :
    ((serveSend ourDomain peer req).Succeeds s →
      (Routes.Messages.createMessage channel.id (member v) (asCreate req) reply
        unfurled).Succeeds s) ↔
      ((∃ granted, Postable peer req granted s) → Clear s channel spaceId req.actor.id req.content)
    := by
  have hpermission := requireChannelPermission_alike htwin.alike hc.found hc.inSpace
    "send_messages"
  have hslowmode := slowmodeCooldownMs_alike htwin.alike rfl hc.inSpace
  have htimed := timedOut_alike htwin.alike
  constructor
  · rintro hagrees ⟨granted, hpost⟩
    obtain ⟨rfl, _⟩ := postable_in_space hc hchannel hpost
    obtain ⟨granted', hpermitted, hintime, hwithin, hlocal⟩ :=
      (createMessage_succeeds hc).mp (hagrees (serveSend_of_postable hids hpost))
    have hpermitted' := hpost.permitted
    rw [hchannel] at hpermitted'
    cases hpermitted.symm.trans (hpermission.symm.trans hpermitted')
    obtain ⟨cooldownMs, hcooldown, hinsertable⟩ := Routes.Messages.createLocal_succeeds.mp hlocal
    rw [hc.inSpace] at hinsertable
    refine ⟨htimed.trans (hintime hc.named), hwithin.content, ?_⟩
    intro cooldownMs' hcooldown'
    cases (hcooldown.symm.trans hslowmode.symm).trans hcooldown'
    exact (insertable_twin hchannel hpost htwin).mp hinsertable
  · intro hclear hserved
    obtain ⟨granted, hpost⟩ := postable_of_serveSend hserved
    obtain ⟨rfl, perms, hperms⟩ := postable_in_space hc hchannel hpost
    obtain ⟨hintime, hshort, hcooled⟩ := hclear ⟨_, hpost⟩
    have hpermitted := hpost.permitted
    rw [hchannel] at hpermitted
    obtain ⟨cooldownMs, hcooldown⟩ := slowmode_resolved hc hperms
    refine (createMessage_succeeds hc).mpr ⟨granted, hpermission.symm.trans hpermitted,
      fun _ => htimed.symm.trans hintime, ⟨hshort, by simp [asCreate], by simp [asCreate],
        by simp [asCreate]⟩, ?_⟩
    refine Routes.Messages.createLocal_succeeds.mpr
      ⟨cooldownMs, hslowmode.symm.trans hcooldown, ?_⟩
    rw [hc.inSpace]
    exact (insertable_twin hchannel hpost htwin).mpr (hcooled cooldownMs hcooldown)

end

def reactPermission (req : ReactRequest) (userId : String) : Query String :=
  if req.remove then requireChannelMembership req.channelId userId
  else requireChannelPermission req.channelId (remoteActorAuth userId) "add_reactions"

structure Reactable (peer : String) (req : ReactRequest) (granted : String) (s : AppState) :
    Prop where
  homed : Authority.homedOn req.actor.id peer = true
  cacheable : s.db.usernameFree req.actor.id (Mapping.handle req.actor.usernameOrId peer) = true
  permitted : reactPermission req req.actor.id s.db = .ok granted
  inChannel : ∃ m, Db.Messages.getMessageRow req.messageId s.db = .ok m ∧
    m.channelId = req.channelId

section

variable {s : AppState} {ourDomain peer : String} {req : ReactRequest} {channel : ChannelRow}
  {spaceId granted u v : String}

theorem reactPermission_users (users : List User) (userId : String) (db : Tables) :
    reactPermission req userId (withUsers users db) = reactPermission req userId db := by
  unfold reactPermission
  split <;> exact requireChannelPermission_users users _ _ _ db

theorem reactPermission_alike (hc : HomedChannel s channel spaceId)
    (hchannel : req.channelId = channel.id)
    (h : standing s.db spaceId channel.id u = standing s.db spaceId channel.id v) :
    reactPermission req u s.db = reactPermission req v s.db := by
  unfold reactPermission
  rw [hchannel]
  split
  · exact requireChannelPermission_alike h hc.found hc.inSpace _
  · exact requireChannelPermission_alike h hc.found hc.inSpace _

theorem reactable_of_serveReact (h : (serveReact ourDomain peer req).Succeeds s) :
    ∃ granted, Reactable peer req granted s := by
  obtain ⟨_, s', h⟩ := h
  obtain ⟨_, s₁, hguard, h⟩ := Prog.exec_bind_ok.mp h
  obtain ⟨_, s₂, hcached, h⟩ := Prog.exec_bind_ok.mp h
  obtain ⟨granted, s₃, hchecked, h⟩ := Prog.exec_bind_ok.mp h
  obtain ⟨m, s₄, hread, h⟩ := Prog.exec_bind_ok.mp h
  obtain ⟨_, s₅, hsame, h⟩ := Prog.exec_bind_ok.mp h
  obtain ⟨hhomed, rfl⟩ := App.exec_liftExcept_ok.mp hguard
  obtain ⟨users, rfl, hauthor⟩ := cacheActor_ok hcached
  rw [App.exec_query, Prod.mk.injEq] at hchecked
  obtain ⟨hpermitted, rfl⟩ := hchecked
  obtain ⟨hrow, rfl⟩ := App.exec_lift_ok.mp hread
  obtain ⟨hchannel, rfl⟩ := Prog.exec_require_ok.mp hsame
  refine ⟨granted, ?_, cacheActor_succeeds.mp ⟨_, _, hcached⟩,
    (reactPermission_users users _ _).symm.trans hpermitted, m, hrow, hchannel⟩
  by_contra hnot
  simp [Authority.requireHomedOn, hnot] at hhomed

theorem preserves_changeReaction (add : Bool) (messageId userId emoji : String) :
    (Db.Messages.changeReaction add messageId userId emoji).Preserves
      (fun s => (s.db.federationOutbox, s.snowflake)) := by
  cases add with
  | true =>
    simp only [Db.Messages.changeReaction, if_true, Db.Messages.addReaction]
    exact App.preserves_write (fun _ => rfl)
  | false =>
    simp only [Db.Messages.changeReaction, Bool.false_eq_true, if_false,
      Db.Messages.removeReaction]
    exact App.preserves_update (fun _ => rfl)

theorem serveReact_of_reactable (hids : FreshIds s) (h : Reactable peer req granted s) :
    (serveReact ourDomain peer req).Succeeds s := by
  obtain ⟨_, s₁, hcached⟩ := cacheActor_succeeds.mpr h.cacheable
  obtain ⟨users, rfl, hauthor⟩ := cacheActor_ok hcached
  obtain ⟨m, hrow, hchannel⟩ := h.inChannel
  have hhomed : Authority.requireHomedOn req.actor.id peer "actor" = .ok () := by
    simp [Authority.requireHomedOn, h.homed]
  have hpermitted : reactPermission req req.actor.id (cached s users).db = .ok granted :=
    (reactPermission_users users _ _).trans h.permitted
  have hmessage : (cached s users).db.hasMessage req.messageId = true := by
    have hlookup := Db.Messages.getMessageRow_ok.mp hrow
    rw [Tables.hasMessage, ← Lib.Table.lookup_isSome]
    exact Option.isSome_iff_exists.mpr ⟨m, hlookup⟩
  obtain ⟨t, hreacted⟩ := Db.Messages.exec_changeReaction (!req.remove) req.emoji hmessage hauthor
  unfold serveReact
  refine Prog.succeeds_bind_of_ok (App.exec_liftExcept_ok.mpr ⟨hhomed, rfl⟩) ?_
  refine Prog.succeeds_bind_of_ok hcached ?_
  refine Prog.succeeds_bind_of_ok ((App.exec_query _).trans (congrArg (Prod.mk · _) hpermitted)) ?_
  refine Prog.succeeds_bind_of_ok (App.exec_lift_ok.mpr ⟨hrow, rfl⟩) ?_
  refine Prog.succeeds_bind_of_ok ((Prog.exec_require_ok (u := ())).mpr ⟨hchannel, rfl⟩) ?_
  refine Prog.succeeds_bind_of_ok hreacted ?_
  refine Prog.succeeds_bind_of_ok (App.exec_send _) ?_
  refine fanoutIfSpace_succeeds ?_ _ _ _
  have hframe := (preserves_changeReaction (!req.remove) req.messageId req.actor.id
    req.emoji).of_exec hreacted
  exact freshIds_of hids (congrArg Prod.fst hframe) (Nat.le_of_eq (congrArg Prod.snd hframe).symm)

section

variable (hc : HomedChannel s channel spaceId)

include hc

theorem homeOfSpace_granted {perm : String}
    (h : requireChannelPermission channel.id (member v) perm s.db = .ok granted) :
    Routes.Reactions.homeOfSpace granted s.db = .ok none := by
  unfold Routes.Reactions.homeOfSpace
  rcases granted_cases hc h with ⟨_, rfl⟩ | ⟨_, rfl, _⟩
  · rfl
  · rw [if_neg hc.named]
    exact hc.homed

theorem addReaction_succeeds {messageId emoji : String} {reply : Except AppError Response} :
    (Routes.Reactions.addReaction channel.id messageId emoji (member v) reply).Succeeds s ↔
      ∃ granted,
        requireChannelPermission channel.id (member v) "add_reactions" s.db = .ok granted ∧
        (granted ≠ "" → timedOut s granted v = false) ∧
        (s.db.hasMessage messageId && s.db.hasUser v) = true := by
  constructor
  · rintro ⟨j, t, h⟩
    obtain ⟨granted, s₁, hchecked, h⟩ := Prog.exec_bind_ok.mp h
    obtain ⟨_, s₂, htimed, h⟩ := Prog.exec_bind_ok.mp h
    obtain ⟨home, s₃, hspace, h⟩ := Prog.exec_bind_ok.mp h
    obtain ⟨hpermitted, rfl⟩ := App.exec_lift_ok.mp hchecked
    obtain ⟨hintime, rfl⟩ := exec_requireNotTimedOutIn.mp htimed
    obtain ⟨hhome, rfl⟩ := App.exec_lift_ok.mp hspace
    cases (homeOfSpace_granted hc hpermitted).symm.trans hhome
    obtain ⟨_, s₄, hwrite, _⟩ := Prog.exec_bind_ok.mp h
    refine ⟨granted, hpermitted, hintime, ?_⟩
    rw [Db.Messages.addReaction, App.exec_write] at hwrite
    split at hwrite
    · cases hwrite
    · rename_i hrefs
      exact App.foreignKey_none.mp hrefs
  · rintro ⟨granted, hpermitted, hintime, hrefs⟩
    have hwrite : (Db.Messages.addReaction messageId v emoji).exec s = (.ok (), _) :=
      App.exec_write_of_none (App.foreignKey_none.mpr hrefs)
    refine Prog.succeeds_bind_of_ok (App.exec_lift_ok.mpr ⟨hpermitted, rfl⟩) ?_
    refine Prog.succeeds_bind_of_ok ((exec_requireNotTimedOutIn (u := ())).mpr ⟨hintime, rfl⟩) ?_
    refine Prog.succeeds_bind_of_ok
      (App.exec_lift_ok.mpr ⟨homeOfSpace_granted hc hpermitted, rfl⟩) ?_
    refine Prog.succeeds_bind_of_ok hwrite ?_
    exact Routes.Reactions.total_announce _ _ _ _ _ _ _ _ _

theorem removeOwnReaction_succeeds {messageId emoji : String} {reply : Except AppError Response}
    (h : requireChannelMembership channel.id v s.db = .ok granted) :
    (Routes.Reactions.removeOwnReaction channel.id messageId emoji (member v) reply).Succeeds s
    := by
  refine Prog.succeeds_bind_of_ok (App.exec_lift_ok.mpr ⟨h, rfl⟩) ?_
  refine Prog.succeeds_bind_of_ok (App.exec_lift_ok.mpr ⟨homeOfSpace_granted hc h, rfl⟩) ?_
  exact ((App.total_update _).bind (fun _ => Routes.Reactions.total_announce _ _ _ _ _ _ _ _)) _

theorem react_agrees_iff (hids : FreshIds s) (hchannel : req.channelId = channel.id)
    (htwin : Twin s spaceId channel.id req.actor.id v) (reply : Except AppError Response) :
    ((serveReact ourDomain peer req).Succeeds s →
      ((Routes.Reactions.reactOperation req.remove).serve channel.id req.messageId req.emoji
        (member v) reply).Succeeds s) ↔
      (∀ granted, Reactable peer req granted s → req.remove = false → granted ≠ "" →
        timedOut s granted req.actor.id = false) := by
  have hpermission := reactPermission_alike hc hchannel htwin.alike
  obtain ⟨row, hrow, _⟩ := htwin.account
  have hauthor : s.db.hasUser v = true := hasUser_of_getUser hrow
  have hstored : ∀ granted, Reactable peer req granted s → s.db.hasMessage req.messageId = true := by
    intro granted hreact
    obtain ⟨m, hm, _⟩ := hreact.inChannel
    rw [Tables.hasMessage, ← Lib.Table.lookup_isSome, Db.Messages.getMessageRow_ok.mp hm]
    rfl
  cases hremove : req.remove with
  | true =>
    refine iff_of_true (fun hserved => ?_) (fun _ _ hadd => by cases hadd)
    obtain ⟨granted, hreact⟩ := reactable_of_serveReact hserved
    have hpermitted := hpermission.symm.trans hreact.permitted
    simp only [reactPermission, hremove, if_true, hchannel] at hpermitted
    exact removeOwnReaction_succeeds hc hpermitted
  | false =>
    constructor
    · intro hagrees granted hreact _ hspace
      obtain ⟨granted', hpermitted, hintime, _⟩ :=
        (addReaction_succeeds hc).mp (hagrees (serveReact_of_reactable hids hreact))
      have hpermitted' := hpermission.symm.trans hreact.permitted
      simp only [reactPermission, hremove, Bool.false_eq_true, if_false, hchannel] at hpermitted'
      cases hpermitted.symm.trans hpermitted'
      rcases granted_cases hc hpermitted with ⟨_, hempty⟩ | ⟨_, rfl, _⟩
      · exact absurd hempty hspace
      · exact (timedOut_alike htwin.alike).trans (hintime hspace)
    · intro hclear hserved
      obtain ⟨granted, hreact⟩ := reactable_of_serveReact hserved
      have hpermitted := hpermission.symm.trans hreact.permitted
      simp only [reactPermission, hremove, Bool.false_eq_true, if_false, hchannel] at hpermitted
      refine (addReaction_succeeds hc).mpr ⟨granted, hpermitted, fun hspace => ?_, ?_⟩
      · rcases granted_cases hc hpermitted with ⟨_, hempty⟩ | ⟨_, rfl, _⟩
        · exact absurd hempty hspace
        · exact (timedOut_alike htwin.alike).symm.trans (hclear _ hreact rfl hspace)
      · rw [hstored granted hreact, hauthor]
        rfl

end

end

theorem admission_agrees_iff {s : AppState} {channel : ChannelRow} {spaceId u v : String}
    (hc : HomedChannel s channel spaceId) (hids : FreshIds s)
    (htwin : Twin s spaceId channel.id u v) (ourDomain peer : String)
    (reply : Except AppError Response) (unfurled : Option Json) :
    (∀ req : SendRequest, req.actor.id = u → req.channelId = channel.id →
      (((serveSend ourDomain peer req).Succeeds s →
        (Routes.Messages.createMessage channel.id (member v) (asCreate req) reply
          unfurled).Succeeds s) ↔
        ((∃ granted, Postable peer req granted s) → Clear s channel spaceId u req.content))) ∧
    (∀ req : ReactRequest, req.actor.id = u → req.channelId = channel.id →
      (((serveReact ourDomain peer req).Succeeds s →
        ((Routes.Reactions.reactOperation req.remove).serve channel.id req.messageId req.emoji
          (member v) reply).Succeeds s) ↔
        (∀ granted, Reactable peer req granted s → req.remove = false → granted ≠ "" →
          timedOut s granted u = false))) := by
  constructor
  · rintro req rfl hchannel
    exact send_agrees_iff hc hids hchannel htwin reply unfurled
  · rintro req rfl hchannel
    exact react_agrees_iff hc hids hchannel htwin reply

def guild (rateLimit : Int) (timedOutUntil : Option String) : AppState :=
  { db :=
      { users := [{ id := "1", username := "ann" }, { id := "2", username := "eve" },
          { id := "5@r.example", username := "bob@r.example", origin := some "r.example" }]
        spaces := [{ id := "s", name := "open", ownerId := "1", federationEnabled := true }]
        channels := [{ id := "c", spaceId := some "s", rateLimit := rateLimit }]
        roles :=
          [{ id := "r"
             spaceId := "s"
             name := "everyone"
             permissions := ["view_channel", "send_messages", "add_reactions"] }]
        members := [{ userId := "2", spaceId := "s", timedOutUntil := timedOutUntil },
          { userId := "5@r.example"
            spaceId := "s"
            timedOutUntil := timedOutUntil
            origin := some "r.example" }]
        messages := [{ id := "m", channelId := "c", spaceId := some "s", authorId := "1",
                       content := "hi" }]
        messageCooldowns := [{ channelId := "c", userId := "2", lastSentMs := 1000 },
          { channelId := "c", userId := "5@r.example", lastSentMs := 1000 }] }
    federation := some { domain := "h.example", publicUrl := "https://h.example" }
    ext := { Externals.fixed "2025-01-01 00:00:00" with parseRfc3339 := fun _ => some 90000 }
    clock := 2000
    snowflake := 100 }

def guildChannel : ChannelRow := { id := "c", spaceId := some "s" }

def bob : RemoteUserRef := { id := "5@r.example", username := some "bob" }

def post : SendRequest := { actor := bob, channelId := "c", content := "hello" }

def wave : ReactRequest := { actor := bob, channelId := "c", messageId := "m", emoji := "x" }

def lateness : Option String := some "2025-01-01T00:01:30Z"

theorem guild_homed : HomedChannel (guild 0 none) guildChannel "s" where
  found := by decide +kernel
  inSpace := rfl
  homed := by decide +kernel
  named := by decide
  nameless := by decide +kernel

theorem bob_posts_as_eve :
    (Routes.Messages.createMessage "c" (member "2") (asCreate post) (.error .rowNotFound)
      none).Succeeds (guild 0 none) := by
  have hslowmode : slowmodeCooldownMs guildChannel (member "5@r.example") (guild 0 none).db =
    .ok 0 := by decide +kernel
  have hserved : (serveSend "h.example" "r.example" post).Succeeds (guild 0 none) := by
    decide +kernel
  refine ((admission_agrees_iff guild_homed (by simp [FreshIds, guild])
    ⟨⟨_, rfl, rfl⟩, by decide +kernel⟩ "h.example" "r.example" (.error .rowNotFound) none).1 post
    rfl rfl).mpr (fun _ => ⟨by decide +kernel, by decide +kernel, ?_⟩) hserved
  intro cooldownMs hcooldown
  cases hslowmode.symm.trans hcooldown
  decide +kernel

theorem timed_out_and_slowed_members_admitted :
    standing (guild 0 lateness).db "s" "c" "5@r.example" =
        standing (guild 0 lateness).db "s" "c" "2" ∧
      timedOut (guild 0 lateness) "s" "5@r.example" = true ∧
      (serveSend "h.example" "r.example" post).Succeeds (guild 0 lateness) ∧
      ¬ (Routes.Messages.createMessage "c" (member "2") (asCreate post) (.error .rowNotFound)
        none).Succeeds (guild 0 lateness) ∧
      (serveReact "h.example" "r.example" wave).Succeeds (guild 0 lateness) ∧
      ¬ (Routes.Reactions.addReaction "c" "m" "x" (member "2") (.error .rowNotFound)).Succeeds
        (guild 0 lateness) ∧
      standing (guild 60 none).db "s" "c" "5@r.example" =
        standing (guild 60 none).db "s" "c" "2" ∧
      (serveSend "h.example" "r.example" post).Succeeds (guild 60 none) ∧
      ¬ (Routes.Messages.createMessage "c" (member "2") (asCreate post) (.error .rowNotFound)
        none).Succeeds (guild 60 none) := by
  decide +kernel

end Vokusz.Federation.Admission
