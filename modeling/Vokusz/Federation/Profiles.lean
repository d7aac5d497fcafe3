import Vokusz.Federation.Footprint
import Vokusz.Lib.Transition

namespace Vokusz.Federation

open App Db Mapping
open Lib (Prog)

structure Profile where
  username : String
  displayName : Option String
  avatar : Option String
  deriving DecidableEq, Repr

namespace Profiles

def ofUser (u : User) : Profile :=
  { username := u.username, displayName := u.displayName, avatar := u.avatar }

def shown (userId : String) (s : AppState) : Option Profile :=
  (Lib.Table.lookup User.id userId s.db.users).map ofUser

def carried (domain : String) (u : RemoteUserRef) : Profile :=
  { username := handle u.usernameOrId domain
    displayName := some (u.displayName.getD (handle u.usernameOrId domain))
    avatar := u.avatar }

def placeholder (recipientId : String) : Profile :=
  { username := recipientId, displayName := some recipientId, avatar := none }

section

variable {ourDomain userId : String} {p : Profile} {α : Type}

structure Shows (ourDomain userId : String) (p : Profile) (s : AppState) : Prop where
  domain : s.federation.map FederationContext.domain = some ourDomain
  profile : shown userId s = some p

theorem keeps_of_touches {slots : List Slot} {q : App α} (h : Touches slots q)
    (hn : Slot.users ∉ slots ∧ Slot.federation ∉ slots) :
    q.Maintains (Shows ourDomain userId p) := by
  have hpair : q.Preserves (fun s : AppState => (s.db.users, s.federation)) :=
    (h .users hn.1).pair (h .federation hn.2)
  refine hpair.keeps (fun s t hview hs => ?_)
  obtain ⟨husers, hfed⟩ := Prod.mk.inj hview
  refine ⟨hfed ▸ hs.domain, ?_⟩
  rw [← hs.profile]
  unfold shown
  rw [husers]

theorem keeps_pass {q : App α} (h : Touches [] q) :
    q.Maintains (Shows ourDomain userId p) :=
  keeps_of_touches h (by decide)

variable {β : Type} {Q : β → Prop}

theorem keeps_then {slots : List Slot} {q : App α} {f : α → App β} (h : Touches slots q)
    (hn : Slot.users ∉ slots ∧ Slot.federation ∉ slots) (hf : ∀ a, (f a).Keeps (Shows ourDomain userId p) Q) :
    (q >>= f).Keeps (Shows ourDomain userId p) Q :=
  (keeps_of_touches h hn).bind (fun a _ => hf a)

theorem keeps_read {q : App α} {f : α → App β} (h : Touches [] q)
    (hf : ∀ a, (f a).Keeps (Shows ourDomain userId p) Q) : (q >>= f).Keeps (Shows ourDomain userId p) Q :=
  keeps_then h (by decide) hf

theorem keeps_requestSigned (domain path : String) (body : Json)
    (reply : Except AppError Response) :
    (Sender.requestSigned domain path body reply).Keeps (Shows ourDomain userId p)
      (fun response => reply = .ok response) := by
  refine keeps_read (Prog.touches_get _) (fun fed => ?_)
  refine Prog.keeps_require.bind (fun _ _ => ?_)
  refine keeps_read (touches_lift _) (fun peer => ?_)
  cases peer with
  | none => trivial
  | some peer =>
    refine Prog.keeps_require.bind (fun _ _ => ?_)
    refine Prog.Keeps.bind (Prog.keeps_modify (fun s hs => ⟨hs.domain, hs.profile⟩)) (fun _ _ => ?_)
    exact Prog.keeps_ofExcept (fun _ h => h)

theorem keeps_parsed {I : AppState → Prop} {what : String} {parsed : Option α} {f : α → App β}
    (hf : ∀ a, parsed = some a → (f a).Keeps I Q) : (orBadRequest what parsed >>= f).Keeps I Q := by
  cases parsed with
  | none => trivial
  | some a => exact hf a rfl

theorem keeps_ensureRemoteUser (id origin handle : String) (displayName avatar : Option String) :
    (Users.ensureRemoteUser id origin handle displayName avatar).Maintains (Shows ourDomain userId p) := by
  apply App.keeps_write
  intro s hs
  obtain ⟨u, hu, hprofile⟩ := Option.map_eq_some_iff.mp hs.profile
  refine ⟨hs.domain, Option.map_eq_some_iff.mpr ⟨u, ?_, hprofile⟩⟩
  exact Lib.Table.lookup_insertNew_of_some hu

theorem keeps_upsertRemoteUser {id origin handle : String} {displayName avatar : Option String}
    (h : id = userId → p =
      { username := handle, displayName := some (displayName.getD handle), avatar := avatar }) :
    (Users.upsertRemoteUser id origin handle displayName avatar).Maintains (Shows ourDomain userId p) := by
  refine Prog.Keeps.bind (App.keeps_write ?_)
    (fun _ _ => keeps_pass (touches_lift _))
  intro s hs
  obtain ⟨u, hu, hprofile⟩ := Option.map_eq_some_iff.mp hs.profile
  refine ⟨hs.domain, Option.map_eq_some_iff.mpr
    ⟨_, Lib.Table.lookup_upsert_of_some hu (fun _ => rfl), ?_⟩⟩
  split
  · rename_i hid
    rw [h hid]
    rfl
  · exact hprofile

theorem keeps_mirrorRef {domain : String} {user : RemoteUserRef}
    (hqualified : containsAt user.id = true) (hforeign : Authority.homedOn userId domain = false) :
    (mirrorRef domain user).Maintains (Shows ourDomain userId p) := by
  have hupsert : (mirrorForeignUser domain user.id
      (handle user.usernameOrId (homeOf user.id domain)) user.displayName user.avatar).Maintains
      (Shows ourDomain userId p) := by
    unfold mirrorForeignUser
    dsimp only
    split
    · rename_i hhome
      refine Prog.Keeps.bind (keeps_upsertRemoteUser ?_) (fun _ _ => trivial)
      rintro rfl
      obtain ⟨d, hd⟩ : ∃ d, domainOf user.id = some d := by
        rw [← Option.isSome_iff_exists, Option.isSome_iff_ne_none]
        intro hnone
        rw [domainOf_eq_none, hqualified] at hnone
        cases hnone
      simp [Authority.homedOn, homeOf, hd] at hforeign hhome
      rw [hhome] at hforeign
      cases hforeign
    · exact keeps_ensureRemoteUser _ _ _ _ _
  refine keeps_read (Prog.touches_get _) (fun fed => ?_)
  cases fed with
  | none => exact hupsert
  | some fed =>
    refine Prog.keeps_ite ?_ hupsert
    refine keeps_read (touches_found? _) (fun found => ?_)
    cases found with
    | none => trivial
    | some user =>
      refine Prog.keeps_ite trivial (keeps_ensureRemoteUser _ _ _ _ _)

theorem keeps_storeMessage {peer : String} (payload : Apply.RemoteMessagePayload)
    (channel : ChannelRow) (hqualified : containsAt payload.author.id = true)
    (hforeign : Authority.homedOn userId peer = false) :
    (Apply.storeMessage peer payload channel).Maintains (Shows ourDomain userId p) := by
  refine Prog.Keeps.bind (keeps_mirrorRef hqualified hforeign) (fun _ _ => ?_)
  refine Prog.keeps_require.bind (fun _ _ => ?_)
  refine keeps_then (Messages.touches_insertRemoteMessage _) (by decide) (fun row => ?_)
  cases row with
  | none => trivial
  | some row => exact keeps_of_touches (touches_broadcastSpace _ _ _ _) (by decide)

section

variable {peer : String} (env : FederationEnvelope)

include env

theorem keeps_applyMessageCreate (hforeign : Authority.homedOn userId peer = false) :
    (Apply.applyMessageCreate peer env).Maintains (Shows ourDomain userId p) := by
  refine keeps_read (touches_orBadRequest _ _) (fun payload => ?_)
  unfold Apply.checkMessageCreate
  simp only [bind_assoc]
  refine keeps_check (fun _ => ?_)
  refine keeps_check (fun _ => ?_)
  refine keeps_check (fun _ => ?_)
  refine keeps_check (fun hremote => ?_)
  refine Prog.keeps_require.bind (fun _ _ => ?_)
  refine Prog.keeps_require.bind (fun _ _ => ?_)
  refine Prog.keeps_require.bind (fun _ _ => ?_)
  refine Prog.keeps_require.bind (fun _ _ => ?_)
  refine keeps_read (touches_validateOptionalUrl _ _) (fun _ => ?_)
  refine keeps_read (touches_found? _) (fun channel => ?_)
  cases channel with
  | none => trivial
  | some channel =>
    exact keeps_storeMessage _ _ (Authority.requireRemoteTarget_ok.mp hremote) hforeign

theorem keeps_applyMemberJoin (hforeign : Authority.homedOn userId peer = false) :
    (Apply.applyMemberJoin peer env).Maintains (Shows ourDomain userId p) := by
  unfold Apply.applyMemberJoin
  cases env.spaceId with
  | none => trivial
  | some spaceId =>
    refine keeps_read (touches_orBadRequest _ _) (fun user => ?_)
    refine keeps_read (touches_found? _) (fun space => ?_)
    cases space with
    | none => trivial
    | some space =>
      refine keeps_check (fun hremote => ?_)
      refine (keeps_mirrorRef (Authority.requireRemoteTarget_ok.mp hremote) hforeign).bind
        (fun _ _ => ?_)
      refine keeps_then (Federation.touches_addMemberWithOrigin _) (by decide) (fun _ => ?_)
      exact keeps_of_touches (touches_broadcastSpace _ _ _ _) (by decide)

theorem keeps_applyReaction (add : Bool) :
    (Apply.applyReaction peer env add).Maintains (Shows ourDomain userId p) := by
  refine keeps_read (touches_orBadRequest _ _) (fun payload => ?_)
  refine keeps_check (fun _ => ?_)
  refine keeps_check (fun _ => ?_)
  refine keeps_check (fun _ => ?_)
  refine Prog.keeps_require.bind (fun _ _ => ?_)
  refine keeps_read (touches_found? _) (fun msg => ?_)
  cases msg with
  | none => trivial
  | some msg =>
    refine (keeps_ensureRemoteUser _ _ _ _ _).bind (fun _ _ => ?_)
    refine keeps_then (Messages.touches_changeReaction _ _) (by decide) (fun _ => ?_)
    exact keeps_of_touches (touches_broadcastSpace _ _ _ _) (by decide)

theorem keeps_dmApplyMessageCreate
    (h : ∀ payload, Apply.RemoteMessagePayload.ofJson env.payload = some payload → payload.author.id = userId → p = carried (homeOf payload.author.id peer) payload.author) :
    (Dm.applyMessageCreate peer env).Maintains (Shows ourDomain userId p) := by
  refine keeps_parsed (fun payload hpayload => ?_)
  refine keeps_read (Dm.touches_checkDmMessageCreate _) (fun _ => ?_)
  refine keeps_read (touches_found? _) (fun channel => ?_)
  cases channel with
  | none => trivial
  | some channel =>
    refine (keeps_upsertRemoteUser (h payload hpayload)).bind (fun _ _ => ?_)
    refine keeps_then (Messages.touches_insertRemoteMessage _) (by decide) (fun row => ?_)
    cases row with
    | none => trivial
    | some row => exact keeps_of_touches (Dm.touches_broadcastMessage _ _ _) (by decide)

end

theorem keeps_applied {q : App Unit} (h : q.Maintains (Shows ourDomain userId p)) :
    (q >>= fun _ => (pure Apply.Applied.ok : App Apply.Applied)).Maintains (Shows ourDomain userId p) :=
  h.bind (fun _ _ => trivial)

def dmMessageAuthor (env : FederationEnvelope) : Option RemoteUserRef :=
  if env.eventType = "m.dm.message.create" then
    (Apply.RemoteMessagePayload.ofJson env.payload).map Apply.RemoteMessagePayload.author
  else none

theorem keeps_applyEvent {peer : String} (env : FederationEnvelope)
    (hforeign : Authority.homedOn userId peer = false)
    (h : ∀ author ∈ dmMessageAuthor env, author.id = userId →
      p = carried (homeOf author.id peer) author) :
    (Inbox.applyEvent peer env).Maintains (Shows ourDomain userId p) := by
  unfold Inbox.applyEvent
  split
  · exact keeps_applied (keeps_applyMessageCreate env hforeign)
  · exact keeps_applied (keeps_of_touches touches_applyMessageUpdate (by decide))
  · exact keeps_applied (keeps_of_touches touches_applyMessageDelete (by decide))
  · exact keeps_applied (keeps_applyReaction env true)
  · exact keeps_applied (keeps_applyReaction env false)
  · exact keeps_applied (keeps_applyMemberJoin env hforeign)
  · exact keeps_applied (keeps_of_touches touches_applyMemberLeave (by decide))
  · exact keeps_applied (keeps_of_touches (touches_applyEmojiUpsert true) (by decide))
  · exact keeps_applied (keeps_of_touches (touches_applyEmojiUpsert false) (by decide))
  · exact keeps_applied (keeps_of_touches touches_applyEmojiDelete (by decide))
  · exact keeps_applied (keeps_of_touches touches_applyTyping (by decide))
  · rename_i hkind
    refine keeps_applied (keeps_dmApplyMessageCreate env (fun payload hpayload => ?_))
    apply h
    rw [dmMessageAuthor, if_pos hkind, hpayload]
    rfl
  · trivial

theorem keeps_handleInbox {peer : String} (env : FederationEnvelope)
    (hforeign : Authority.homedOn userId peer = false)
    (h : ∀ author ∈ dmMessageAuthor env, author.id = userId →
      p = carried (homeOf author.id peer) author) :
    (Inbox.handleInbox peer env).Maintains (Shows ourDomain userId p) := by
  unfold Inbox.handleInbox
  split
  · trivial
  · refine keeps_then (Federation.touches_dedupFirstSeen _ _).attempt (by decide) (fun fresh => ?_)
    rcases fresh with e | _ | _
    · trivial
    · trivial
    · refine Prog.keeps_ite trivial ?_
      refine (keeps_applyEvent env hforeign h).attempt.bind (fun result _ => ?_)
      exact keeps_of_touches (touches_respond result) (by decide)

theorem ne_of_homedOn {id peer : String} (hid : Authority.homedOn id peer = true)
    (hforeign : Authority.homedOn userId peer = false) : id ≠ userId := by
  rintro rfl
  rw [hid] at hforeign
  cases hforeign

theorem keeps_cacheActor {peer : String} {actor : RemoteUserRef}
    (hactor : Authority.homedOn actor.id peer = true)
    (hforeign : Authority.homedOn userId peer = false) :
    (Forward.cacheActor peer actor).Maintains (Shows ourDomain userId p) :=
  (keeps_upsertRemoteUser (fun hid => (ne_of_homedOn hactor hforeign hid).elim)).bind
    (fun _ _ => trivial)

section

open Forward

variable {peer : String} (hforeign : Authority.homedOn userId peer = false)

include hforeign

theorem keeps_serveSend (req : SendRequest) :
    (serveSend ourDomain peer req).Maintains (Shows ourDomain userId p) := by
  refine keeps_check (fun hactor => ?_)
  refine Prog.keeps_require.bind (fun _ _ => ?_)
  refine (keeps_cacheActor (Authority.requireHomedOn_ok.mp hactor) hforeign).bind (fun _ _ => ?_)
  refine keeps_read (touches_lift _) (fun spaceId => ?_)
  refine keeps_then (Messages.touches_createMessage _ _ _ _) (by decide) (fun msg => ?_)
  refine keeps_read (touches_lift _) (fun author => ?_)
  refine keeps_then (touches_broadcastSpace _ _ _ _) (by decide) (fun _ => ?_)
  exact keeps_then (touches_fanoutMessageCreate _) (by decide) (fun _ => trivial)

theorem keeps_serveReact (req : ReactRequest) :
    (serveReact ourDomain peer req).Maintains (Shows ourDomain userId p) := by
  refine keeps_check (fun hactor => ?_)
  refine (keeps_cacheActor (Authority.requireHomedOn_ok.mp hactor) hforeign).bind (fun _ _ => ?_)
  refine keeps_read (touches_appQuery _) (fun spaceId => ?_)
  refine keeps_read (touches_lift _) (fun message => ?_)
  refine Prog.keeps_require.bind (fun _ _ => ?_)
  refine keeps_then (Messages.touches_changeReaction _ _) (by decide) (fun _ => ?_)
  refine keeps_then (touches_broadcastSpace _ _ _ _) (by decide) (fun _ => ?_)
  exact keeps_of_touches (touches_fanoutIfSpace _ _ _) (by decide)

end

section

open Handshake

theorem ownerRef_id (snap : Snapshot) : (ownerRef snap).id = snap.space.ownerId := by
  unfold ownerRef
  cases hfind : snap.members.find? (fun m => m.id = snap.space.ownerId) with
  | none => rfl
  | some m => simpa using List.find?_some hfind

variable {homeDomain : String} (hforeign : Authority.homedOn userId homeDomain = false)

include hforeign

theorem keeps_handleJoin (join : JoinRequest) :
    (handleJoin ourDomain homeDomain join).Maintains (Shows ourDomain userId p) := by
  unfold handleJoin
  split
  · rename_i huser
    refine keeps_read (touches_lift _) (fun space => ?_)
    refine keeps_read (touches_lift _) (fun enabled => ?_)
    refine Prog.keeps_require.bind (fun _ _ => ?_)
    refine keeps_read (touches_found? _) (fun ban => ?_)
    refine Prog.keeps_require.bind (fun _ _ => ?_)
    refine (keeps_upsertRemoteUser
      (fun hid => (ne_of_homedOn huser hforeign hid).elim)).bind (fun _ _ => ?_)
    refine keeps_then (Federation.touches_addMemberWithOrigin _) (by decide) (fun _ => ?_)
    refine keeps_read (Prog.touches_get _) (fun fed => ?_)
    exact keeps_pass (touches_lift _)
  · trivial

theorem keeps_applySnapshotMessage (m : SnapshotMessage) :
    (applySnapshotMessage homeDomain m).Maintains (Shows ourDomain userId p) := by
  unfold applySnapshotMessage
  split
  · rename_i hchecked
    simp only [Bool.and_eq_true] at hchecked
    refine (keeps_mirrorRef hchecked.2 hforeign).bind (fun _ _ => ?_)
    exact keeps_then (Messages.touches_insertRemoteMessage _) (by decide) (fun _ => trivial)
  · trivial

theorem keeps_mirrorMember (m : RemoteUserRef) :
    (mirrorMember homeDomain m).Maintains (Shows ourDomain userId p) :=
  keeps_check (fun hremote => keeps_mirrorRef (Authority.requireRemoteTarget_ok.mp hremote) hforeign)

theorem keeps_applySnapshot (localUserId : String) (snapshot : Json) :
    (applySnapshot homeDomain localUserId snapshot).Maintains (Shows ourDomain userId p) := by
  refine keeps_read (touches_orBadRequest _ _) (fun snap => ?_)
  refine keeps_check (fun _ => ?_)
  refine keeps_check (fun howner => ?_)
  have hqualified : containsAt (ownerRef snap).id = true := by
    rw [ownerRef_id]
    exact Authority.homedOn_qualified (Authority.requireHomedOn_ok.mp howner)
  refine (keeps_mirrorRef hqualified hforeign).bind (fun _ _ => ?_)
  refine (Prog.keeps_forEach (fun m _ => keeps_mirrorMember hforeign m)).bind (fun _ _ => ?_)
  refine keeps_then (Federation.touches_upsertRemoteSpace _ _ _ _ _) (by decide) (fun _ => ?_)
  refine keeps_then (touches_snapshotChannels _) (by decide) (fun _ => ?_)
  refine keeps_then (touches_snapshotRoles _) (by decide) (fun _ => ?_)
  refine keeps_then (touches_snapshotEmojis _) (by decide) (fun _ => ?_)
  refine (Prog.keeps_forEach (fun m _ => keeps_applySnapshotMessage hforeign m)).bind
    (fun _ _ => ?_)
  exact keeps_then (Federation.touches_addMemberWithOrigin _) (by decide) (fun _ => trivial)

theorem keeps_initiateJoin (homeSpaceId : String) (user : User)
    (reply : Except AppError Response) :
    (Forward.initiateJoin homeDomain homeSpaceId user reply).Maintains (Shows ourDomain userId p) := by
  refine keeps_then (touches_forward _ _ _ _ _) (by decide) (fun response => ?_)
  cases response.json with
  | none => trivial
  | some snapshot => exact keeps_applySnapshot hforeign _ _

end

section

open Dm

variable {peer : String}

theorem keeps_serveOpen (hforeign : Authority.homedOn userId peer = false)
    (req : DmOpenRequest) :
    (serveOpen ourDomain peer req).Maintains (Shows ourDomain userId p) := by
  refine keeps_check (fun hopener => ?_)
  refine Prog.keeps_require.bind (fun _ _ => ?_)
  refine keeps_read (touches_lift _) (fun recipient => ?_)
  refine keeps_read (touches_lift _) (fun blocked => ?_)
  refine Prog.keeps_require.bind (fun _ _ => ?_)
  refine (keeps_upsertRemoteUser (fun hid =>
    (ne_of_homedOn (Authority.requireHomedOn_ok.mp hopener) hforeign hid).elim)).bind
    (fun _ _ => ?_)
  refine keeps_then (DmParticipants.touches_createDmChannel _ _) (by decide) (fun channel => ?_)
  exact keeps_then (touches_broadcastChannelCreate _) (by decide) (fun _ => trivial)

theorem keeps_dmServeSend (hforeign : Authority.homedOn userId peer = false)
    (req : DmSendRequest) :
    (serveSend ourDomain peer req).Maintains (Shows ourDomain userId p) := by
  refine keeps_check (fun hactor => ?_)
  refine Prog.keeps_require.bind (fun _ _ => ?_)
  refine keeps_read (touches_lift _) (fun channel => ?_)
  refine Prog.keeps_require.bind (fun _ _ => ?_)
  refine keeps_read (touches_lift _) (fun isMember => ?_)
  refine Prog.keeps_require.bind (fun _ _ => ?_)
  refine (keeps_upsertRemoteUser (fun hid =>
    (ne_of_homedOn (Authority.requireHomedOn_ok.mp hactor) hforeign hid).elim)).bind
    (fun _ _ => ?_)
  refine keeps_then (Messages.touches_createMessage _ _ _ _) (by decide) (fun msg => ?_)
  refine keeps_read (touches_lift _) (fun author => ?_)
  refine keeps_then (touches_broadcastMessage _ _ _) (by decide) (fun _ => ?_)
  exact keeps_then (touches_fanoutDmMessage _ _) (by decide) (fun _ => trivial)

theorem touches_requireConsent (snap : DmSnapshot) (q : RemoteUserRef) :
    Touches [] (requireConsent snap q) := by
  apply Prog.touches_forEach
  intro other _
  refine Prog.touches_ite (Prog.touches_pure _) ?_
  exact (touches_lift _).bind (fun _ => Prog.touches_require _ _)

def remoteParticipants (ourDomain : String) (snap : DmSnapshot) : List RemoteUserRef :=
  snap.participants.filter (fun q => !isLocal q.id ourDomain)

theorem keeps_mirrorDm {snap : DmSnapshot}
    (h : ∀ q ∈ remoteParticipants ourDomain snap, q.id = userId →
      p = carried (homeOf q.id snap.home) q) :
    (mirrorDm ourDomain snap).Maintains (Shows ourDomain userId p) := by
  have hparticipant : ∀ q ∈ snap.participants,
      (mirrorParticipant ourDomain snap q).Maintains (Shows ourDomain userId p) := by
    intro q hq
    unfold mirrorParticipant
    split
    · refine Prog.keeps_ite trivial ?_
      exact keeps_of_touches (touches_requireConsent _ _) (by decide)
    · rename_i hremote
      refine (keeps_upsertRemoteUser (h q ?_)).bind (fun _ _ => trivial)
      exact List.mem_filter.mpr ⟨hq, by simpa using hremote⟩
  refine (Prog.keeps_forEach hparticipant).bind (fun _ _ => ?_)
  refine keeps_then (Federation.touches_upsertRemoteDmChannel _ _ _ _) (by decide) (fun _ => ?_)
  refine (Prog.keeps_forEach (fun q _ => keeps_of_touches
    DmParticipants.touches_addParticipant (by decide))).bind (fun _ _ => ?_)
  refine keeps_read (touches_found? _) (fun channel => ?_)
  cases channel with
  | none => trivial
  | some channel => exact keeps_of_touches (touches_broadcastChannelCreate _) (by decide)

theorem keeps_handleAnnounce {snap : DmSnapshot}
    (h : ∀ q ∈ remoteParticipants ourDomain snap, q.id = userId →
      p = carried (homeOf q.id snap.home) q) :
    (handleAnnounce ourDomain peer snap).Maintains (Shows ourDomain userId p) :=
  keeps_check (fun _ => keeps_check (fun _ => keeps_mirrorDm h))

theorem keeps_openDmAsHome {opener : User} {recipientId recipientDomain : String}
    {reply : Except AppError Response} (h : recipientId = userId → p = placeholder recipientId) :
    (openDmAsHome ourDomain opener recipientId recipientDomain reply).Maintains
      (Shows ourDomain userId p) := by
  refine (keeps_upsertRemoteUser h).bind (fun _ _ => ?_)
  refine keeps_then (DmParticipants.touches_createDmChannel _ _) (by decide) (fun channel => ?_)
  refine keeps_then (touches_requestSigned _ _ _ _) (by decide) (fun response => ?_)
  refine Prog.keeps_ite ?_ ?_
  · exact keeps_then (touches_broadcastChannelCreate _) (by decide) (fun _ => trivial)
  · exact keeps_then Channels.touches_deleteChannel.attempt (by decide) (fun _ => trivial)

theorem keeps_openDmAsReplica {opener : User} {recipientId home : String}
    {reply : Except AppError Response}
    (h : ∀ response snap, reply = .ok response → response.json.bind DmSnapshot.ofJson = some snap →
      ∀ q ∈ remoteParticipants ourDomain snap, q.id = userId →
        p = carried (homeOf q.id snap.home) q) :
    (openDmAsReplica ourDomain opener recipientId home reply).Maintains
      (Shows ourDomain userId p) := by
  refine Prog.Keeps.bind (keeps_requestSigned _ _ _ _) (fun response hreply => ?_)
  refine Prog.keeps_require.bind (fun _ _ => ?_)
  split
  · trivial
  · rename_i snap hsnap
    refine (keeps_mirrorDm (h response snap hreply hsnap)).bind (fun _ _ => ?_)
    exact keeps_pass (touches_lift _)

theorem keeps_openDm {opener : User} {recipientId : String} {reply : Except AppError Response}
    (hhome : eqIgnoreAsciiCase (homeDomainFor (qualify opener.id ourDomain) recipientId)
      ourDomain = true → recipientId = userId → p = placeholder recipientId)
    (hreplica : eqIgnoreAsciiCase (homeDomainFor (qualify opener.id ourDomain) recipientId)
      ourDomain = false → ∀ response snap, reply = .ok response →
      response.json.bind DmSnapshot.ofJson = some snap →
      ∀ q ∈ remoteParticipants ourDomain snap, q.id = userId →
        p = carried (homeOf q.id snap.home) q) :
    (openDm opener recipientId reply).Maintains (Shows ourDomain userId p) := by
  refine Prog.Keeps.bind (Prog.keeps_get
    (Q := fun fed => fed.map FederationContext.domain = some ourDomain) (fun _ hs => hs.domain))
    (fun fed hfed => ?_)
  cases fed with
  | none => trivial
  | some fed =>
    obtain rfl : fed.domain = ourDomain := Option.some.inj hfed
    refine keeps_check (fun _ => ?_)
    cases domainOf recipientId with
    | none => trivial
    | some recipientDomain =>
      cases hours : eqIgnoreAsciiCase (homeDomainFor (qualify opener.id fed.domain) recipientId)
          fed.domain with
      | true =>
        simp only [hours, if_true]
        exact keeps_openDmAsHome (hhome hours)
      | false =>
        simp only [hours]
        exact keeps_openDmAsReplica (hreplica hours)

end

end

inductive Request where
  | inbox (peer : String) (env : FederationEnvelope)
  | join (peer : String) (req : Handshake.JoinRequest)
  | send (peer : String) (req : Forward.SendRequest)
  | react (peer : String) (req : Forward.ReactRequest)
  | leave (peer : String) (req : Forward.LeaveRequest)
  | edit (peer : String) (req : Forward.EditRequest)
  | delete (peer : String) (req : Forward.DeleteRequest)
  | typing (peer : String) (req : Forward.TypingRequest)
  | dmOpen (peer : String) (req : Dm.DmOpenRequest)
  | dmAnnounce (peer : String) (snapshot : Dm.DmSnapshot)
  | dmSend (peer : String) (req : Dm.DmSendRequest)
  | openDm (opener : User) (recipientId : String) (reply : Except AppError Response)
  | initiateJoin (homeDomain homeSpaceId : String) (user : User)
      (reply : Except AppError Response)

namespace Request

def finished (q : App α) : App Unit := do
  let _ ← q
  return ()

def program (ourDomain : String) : Request → App Unit
  | .inbox peer env => finished (Inbox.handleInbox peer env)
  | .join peer req => finished (Handshake.handleJoin ourDomain peer req)
  | .send peer req => finished (Forward.serveSend ourDomain peer req)
  | .react peer req => Forward.serveReact ourDomain peer req
  | .leave peer req => Forward.serveLeave ourDomain peer req
  | .edit peer req => finished (Forward.serveEdit ourDomain peer req)
  | .delete peer req => Forward.serveDelete ourDomain peer req
  | .typing peer req => Forward.serveTyping ourDomain peer req
  | .dmOpen peer req => finished (Dm.serveOpen ourDomain peer req)
  | .dmAnnounce peer snapshot => Dm.handleAnnounce ourDomain peer snapshot
  | .dmSend peer req => finished (Dm.serveSend ourDomain peer req)
  | .openDm opener recipientId reply => finished (Dm.openDm opener recipientId reply)
  | .initiateJoin homeDomain homeSpaceId user reply =>
    finished (Forward.initiateJoin homeDomain homeSpaceId user reply)

def authority (ourDomain : String) : Request → Option String
  | .inbox peer _ => some peer
  | .join peer _ => some peer
  | .send peer _ => some peer
  | .react peer _ => some peer
  | .leave peer _ => some peer
  | .edit peer _ => some peer
  | .delete peer _ => some peer
  | .typing peer _ => some peer
  | .dmOpen peer _ => some peer
  | .dmAnnounce peer _ => some peer
  | .dmSend peer _ => some peer
  | .openDm opener recipientId _ =>
    let home := Dm.homeDomainFor (qualify opener.id ourDomain) recipientId
    if eqIgnoreAsciiCase home ourDomain then none else some home
  | .initiateJoin homeDomain _ _ _ => some homeDomain

def snapshotProfiles (ourDomain : String) (snap : Dm.DmSnapshot) : List (String × Profile) :=
  (remoteParticipants ourDomain snap).map (fun q => (q.id, carried (homeOf q.id snap.home) q))

def unchecked (ourDomain : String) : Request → List (String × Profile)
  | .inbox peer env =>
    (dmMessageAuthor env).toList.map (fun q => (q.id, carried (homeOf q.id peer) q))
  | .dmAnnounce _ snap => snapshotProfiles ourDomain snap
  | .openDm opener recipientId reply =>
    if eqIgnoreAsciiCase (Dm.homeDomainFor (qualify opener.id ourDomain) recipientId) ourDomain then
      [(recipientId, placeholder recipientId)]
    else
      match reply with
      | .error _ => []
      | .ok response =>
        ((response.json.bind Dm.DmSnapshot.ofJson).map (snapshotProfiles ourDomain)).getD []
  | _ => []

def Speaks (authority : Option String) (userId : String) : Bool :=
  authority.any (Authority.homedOn userId)

def Vouched (ourDomain : String) (s : AppState) (req : Request) : Prop :=
  ∀ w ∈ req.unchecked ourDomain, Speaks (req.authority ourDomain) w.1 = true ∨
    shown w.1 s = none ∨ shown w.1 s = some w.2

instance (ourDomain : String) (s : AppState) (req : Request) :
    Decidable (req.Vouched ourDomain s) :=
  inferInstanceAs (Decidable (∀ w ∈ req.unchecked ourDomain, _ ∨ _ ∨ _))

variable {ourDomain userId : String} {p : Profile} {s : AppState} {req : Request}

theorem keeps_finished {α : Type} {q : App α}
    (h : q.Maintains (Shows ourDomain userId p)) :
    (finished q).Maintains (Shows ourDomain userId p) :=
  h.bind (fun _ _ => trivial)

theorem Vouched.agrees (h : req.Vouched ourDomain s) (hs : shown userId s = some p)
    (hforeign : Speaks (req.authority ourDomain) userId = false) {w : String × Profile}
    (hw : w ∈ req.unchecked ourDomain) (hid : w.1 = userId) : p = w.2 := by
  rcases h w hw with hspeaks | hnone | hsame
  · rw [hid, hforeign] at hspeaks
    cases hspeaks
  · rw [hid, hs] at hnone
    cases hnone
  · rw [hid, hs] at hsame
    exact Option.some.inj hsame

theorem mem_snapshotProfiles {snap : Dm.DmSnapshot} {q : RemoteUserRef}
    (h : q ∈ remoteParticipants ourDomain snap) :
    (q.id, carried (homeOf q.id snap.home) q) ∈ snapshotProfiles ourDomain snap :=
  List.mem_map_of_mem h

theorem keeps_program (hs : shown userId s = some p) (h : req.Vouched ourDomain s)
    (hforeign : Speaks (req.authority ourDomain) userId = false) :
    (req.program ourDomain).Maintains (Shows ourDomain userId p) := by
  have hagrees : ∀ w ∈ req.unchecked ourDomain, w.1 = userId → p = w.2 :=
    fun w hw => h.agrees hs hforeign hw
  cases req with
  | inbox peer env =>
    refine keeps_finished (keeps_handleInbox env hforeign (fun author hauthor hid => ?_))
    refine hagrees (author.id, carried (homeOf author.id peer) author) ?_ hid
    simp only [unchecked, Option.mem_def.mp hauthor, Option.toList_some, List.map_cons,
      List.map_nil, List.mem_singleton]
  | join peer req => exact keeps_finished (keeps_handleJoin hforeign req)
  | send peer req => exact keeps_finished (keeps_serveSend hforeign req)
  | react peer req => exact keeps_serveReact hforeign req
  | leave peer req => exact keeps_of_touches (touches_serveLeave req) (by decide)
  | edit peer req => exact keeps_finished (keeps_of_touches (touches_serveEdit req) (by decide))
  | delete peer req => exact keeps_of_touches (touches_serveDelete req) (by decide)
  | typing peer req => exact keeps_of_touches (touches_serveTyping req) (by decide)
  | dmOpen peer req => exact keeps_finished (keeps_serveOpen hforeign req)
  | dmAnnounce peer snap =>
    exact keeps_handleAnnounce (fun q hq hid => hagrees _ (mem_snapshotProfiles hq) hid)
  | dmSend peer req => exact keeps_finished (keeps_dmServeSend hforeign req)
  | openDm opener recipientId reply =>
    refine keeps_finished (keeps_openDm (fun hours hid => ?_)
      (fun htheirs response snap hreply hsnap q hq hid => ?_))
    · refine hagrees (recipientId, placeholder recipientId) ?_ hid
      simp only [unchecked, hours, if_true, List.mem_singleton]
    · refine hagrees (q.id, carried (homeOf q.id snap.home) q) ?_ hid
      simp only [unchecked, htheirs, Bool.false_eq_true, if_false, hreply, hsnap, Option.map_some,
        Option.getD_some]
      exact mem_snapshotProfiles hq
  | initiateJoin homeDomain homeSpaceId user reply =>
    exact keeps_finished (keeps_initiateJoin hforeign homeSpaceId user reply)

def Serves (ourDomain : String) (s : AppState) (req : Request) (t : AppState) : Prop :=
  ∃ q, Relation.ReflTransGen Prog.Step (req.program ourDomain, s) (q, t)

end Request

open Request

variable {ourDomain : String}

theorem serves_keeps {userId : String} {p : Profile} {s t : AppState} {req : Request}
    (hs : Shows ourDomain userId p s) (hvouched : req.Vouched ourDomain s)
    (hforeign : Speaks (req.authority ourDomain) userId = false)
    (hserves : req.Serves ourDomain s t) : Shows ourDomain userId p t := by
  obtain ⟨q, hrun⟩ := hserves
  exact ((keeps_program hs.profile hvouched hforeign).run hs hrun).1

theorem profile_authority {userId : String} {p : Profile} {s t : AppState}
    {reqs : List Request} (hdomain : s.federation.map FederationContext.domain = some ourDomain)
    (hshown : shown userId s = some p)
    (hrun : Lib.Runs (fun s req t => req.Vouched ourDomain s ∧
      Speaks (req.authority ourDomain) userId = false ∧ req.Serves ourDomain s t) s reqs t) :
    shown userId t = some p :=
  (Lib.Runs.invariant (I := Shows ourDomain userId p)
    (fun _ _ _ hs hstep => serves_keeps hs hstep.1 hstep.2.1 hstep.2.2)
    ⟨hdomain, hshown⟩ hrun).profile

def alice : Profile :=
  { username := "alice@q.example", displayName := some "Alice", avatar := none }

def mirrorServer : AppState where
  db :=
    { users :=
        [{ id := "1", username := "bob" },
          { id := "7@q.example"
            username := "alice@q.example"
            displayName := some "Alice"
            origin := some "q.example" }]
      channels := [{ id := "3@p.example", channelType := "dm", origin := some "p.example" }]
      federationPeers :=
        [{ domain := "q.example"
           publicKey := "key"
           inboxUrl := "https://q.example/federation/v1/inbox"
           trustState := "trusted" }] }
  federation := some { domain := "h.example", publicUrl := "https://h.example" }
  ext := Externals.fixed "2026-01-01 00:00:00"

def served (req : Request) : AppState := ((req.program "h.example").exec mirrorServer).2

theorem serves_exec (req : Request) : req.Serves "h.example" mirrorServer (served req) := by
  obtain ⟨q, hrun, _⟩ := Prog.exec_steps (req.program "h.example") mirrorServer
  exact ⟨q, hrun⟩

def mallory : RemoteUserRef :=
  { id := "7@q.example", username := some "mallory", displayName := some "Mallory" }

def dmMessage (author : RemoteUserRef) : Request :=
  .inbox "p.example"
    { eventId := "1"
      origin := "p.example"
      spaceId := none
      eventType := "m.dm.message.create"
      payload :=
        .obj [("id", .str "4@p.example"), ("channel_id", .str "3@p.example"),
          ("author", author.toJson), ("content", .str "hi"),
          ("created_at", .str "2026-01-01 00:00:00")] }

def forgedAnnounce : Request :=
  .dmAnnounce "p.example"
    { channelId := "3@p.example"
      home := "p.example"
      channelType := "dm"
      openerId := "9@p.example"
      ownerId := "1@h.example"
      participants := [mallory] }

def accepted : Response := { success := true, status := "200 OK", json := none }

def reopened : Request := .openDm { id := "1", username := "bob" } "7@q.example" (.ok accepted)

theorem shown_after_own_message :
    shown "7@q.example" (served (dmMessage { id := "9@p.example" })) = some alice :=
  profile_authority (by decide) (by decide)
    (.cons ⟨by decide, by decide, serves_exec (dmMessage { id := "9@p.example" })⟩ (.nil _))

def Overwrites (req : Request) : Prop :=
  Speaks (req.authority "h.example") "7@q.example" = false ∧
    shown "7@q.example" mirrorServer = some alice ∧
    ∃ t, req.Serves "h.example" mirrorServer t ∧ shown "7@q.example" t ≠ some alice

theorem foreign_profile_overwritten :
    Overwrites (dmMessage mallory) ∧ Overwrites forgedAnnounce ∧ Overwrites reopened := by
  have hspeaks : ∀ req ∈ [dmMessage mallory, forgedAnnounce, reopened],
      Speaks (req.authority "h.example") "7@q.example" = false := by decide +kernel
  have hchanged : ∀ req ∈ [dmMessage mallory, forgedAnnounce, reopened],
      shown "7@q.example" (served req) ≠ some alice := by decide +kernel
  have hoverwrites : ∀ req ∈ [dmMessage mallory, forgedAnnounce, reopened], Overwrites req := by
    intro req hreq
    exact ⟨hspeaks req hreq, by decide, served req, serves_exec req, hchanged req hreq⟩
  exact ⟨hoverwrites _ (by simp), hoverwrites _ (by simp), hoverwrites _ (by simp)⟩

end Profiles

end Vokusz.Federation
