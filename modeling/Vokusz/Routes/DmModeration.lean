import Vokusz.Routes.Messages

namespace Vokusz.Routes.Messages

open Db Permissions Federation
open Lib (Prog Table.Distinct Table.lookup)

def SameExceptReply (m m' : MessageRow) : Prop := { m' with replyTo := m.replyTo } = m

def Undisturbed (m : MessageRow) (db : Tables) : Prop :=
  (∃ m', Table.lookup MessageRow.id m.id db.messages = some m' ∧ SameExceptReply m m') ∨
    (db.hasMessage m.id = false ∧ ∃ t, m.threadId = some t ∧ db.hasMessage t = false)

structure Outsider (m : MessageRow) (userId : String) (db : Tables) : Prop where
  distinct : Table.Distinct MessageRow.id db.messages
  undisturbed : Undisturbed m db
  dm : ∃ c, Table.lookup ChannelRow.id m.channelId db.channels = some c ∧ c.isDm = true
  outside : db.isParticipant m.channelId userId = false

theorem SameExceptReply.unlinkReply {m m' : MessageRow} (h : SameExceptReply m m')
    (gone : List String) : SameExceptReply m (Tables.unlinkReply gone m') := by
  unfold Tables.unlinkReply
  split
  · exact h
  · exact h

section

variable {db : Tables} {channelId : String} {c : ChannelRow}

theorem dm_permission_iff (hchannel : Table.lookup ChannelRow.id channelId db.channels = some c)
    (hdm : c.isDm = true) (auth : AuthUser) (perm spaceId : String) :
    requireChannelPermission channelId auth perm db = .ok spaceId ↔
      auth.isGuest = false ∧ db.isParticipant channelId auth.userId = true ∧ spaceId = "" := by
  have hrow : Channels.getChannelRow channelId db = .ok c := by
    simp [Channels.getChannelRow, hchannel]
  unfold requireChannelPermission
  rw [Query.bind_apply, hrow]
  cases hguest : auth.isGuest with
  | true => simp [requireGuestChannelPermission, hdm]
  | false =>
    cases hmember : db.isParticipant channelId auth.userId with
    | true =>
      simp [hdm, requireDmAccess, Query.bind_apply, DmParticipants.isParticipant, hmember,
        eq_comm]
    | false =>
      simp [hdm, requireDmAccess, Query.bind_apply, DmParticipants.isParticipant, hmember]

theorem Outsider.refused {m : MessageRow} {auth : AuthUser} (h : Outsider m auth.userId db)
    (perm spaceId : String) : requireChannelPermission m.channelId auth perm db ≠ .ok spaceId := by
  obtain ⟨c, hchannel, hdm⟩ := h.dm
  intro hok
  have hmember := ((dm_permission_iff hchannel hdm auth perm spaceId).mp hok).2.1
  rw [h.outside] at hmember
  cases hmember

end

section

variable {m : MessageRow} {userId : String} {db : Tables}

theorem Undisturbed.of_update {id : String} {f : MessageRow → MessageRow} (h : Undisturbed m db)
    (hid : id ≠ m.id) (hf : ∀ r, r.id = id → (f r).id = r.id) :
    Undisturbed m (db.updateMessage id f) := by
  have hkeep : ∀ r : MessageRow, r.id = id → (f r).id = id := fun r hr => (hf r hr).trans hr
  have hhas : ∀ k, (db.updateMessage id f).hasMessage k = db.hasMessage k := by
    intro k
    rw [Tables.hasMessage, Tables.hasMessage, Lib.Table.has_eq_contains,
      Lib.Table.has_eq_contains]
    exact congrArg (·.contains k) (Lib.Table.map_key_update hf)
  rcases h with ⟨m', hm', hsame⟩ | ⟨hgone, t, ht, hroot⟩
  · left
    refine ⟨m', ?_, hsame⟩
    exact (Lib.Table.lookup_update_ne hid.symm hkeep).trans hm'
  · exact .inr ⟨(hhas _).trans hgone, t, ht, (hhas t).trans hroot⟩

theorem Undisturbed.of_delete {id : String} (h : Undisturbed m db)
    (hdistinct : Table.Distinct MessageRow.id db.messages) (hid : id ≠ m.id) :
    Undisturbed m (db.deleteMessages [id]) := by
  rcases h with ⟨m', hm', hsame⟩ | ⟨hgone, t, ht, hroot⟩
  · have hkey : m'.id = m.id := Lib.Table.lookup_key hm'
    by_cases hdeleted : m.id ∈ db.deletedWith [id]
    · rcases Tables.mem_deletedWith hdeleted with hself | ⟨r, hr, hrid, t, ht, hroot⟩
      · exact absurd (List.mem_singleton.mp hself).symm hid
      · have hrow : r = m' := by
          have hlookup := hdistinct.lookup_eq hr
          rw [hrid, hm'] at hlookup
          exact (Option.some.inj hlookup).symm
        subst hrow
        have hthread : m.threadId = some t := by
          rw [← hsame]
          exact ht
        right
        refine ⟨?_, t, hthread, ?_⟩
        · simp [Tables.hasMessage_deleteMessages, hdeleted]
        · simp [Tables.hasMessage_deleteMessages, hroot]
    · exact .inl ⟨_, Tables.lookup_deleteMessages hm' hdeleted, hsame.unlinkReply _⟩
  · right
    refine ⟨?_, t, ht, ?_⟩
    · simp [Tables.hasMessage_deleteMessages, hgone]
    · simp [Tables.hasMessage_deleteMessages, hroot]

theorem Outsider.update {id : String} {f : MessageRow → MessageRow} (h : Outsider m userId db)
    (hid : id ≠ m.id) (hf : ∀ r, r.id = id → (f r).id = r.id) :
    Outsider m userId (db.updateMessage id f) where
  distinct := h.distinct.update hf
  undisturbed := h.undisturbed.of_update hid hf
  dm := h.dm
  outside := h.outside

theorem Outsider.delete {id : String} (h : Outsider m userId db) (hid : id ≠ m.id) :
    Outsider m userId (db.deleteMessages [id]) where
  distinct := Tables.distinct_deleteMessages h.distinct
  undisturbed := h.undisturbed.of_delete h.distinct hid
  dm := h.dm
  outside := h.outside

end

inductive ModerationRequest where
  | update (channelId messageId : String) (auth : AuthUser) (input : Db.Messages.UpdateMessage)
      (reply : Except AppError Response)
  | delete (channelId messageId : String) (auth : AuthUser) (reply : Except AppError Response)
  | bulkDelete (channelId : String) (auth : AuthUser) (messages : List String)
  | serveEdit (ourDomain peer : String) (req : Forward.EditRequest)
  | serveDelete (ourDomain peer : String) (req : Forward.DeleteRequest)

namespace ModerationRequest

def actorId : ModerationRequest → String
  | .update _ _ auth _ _ => auth.userId
  | .delete _ _ auth _ => auth.userId
  | .bulkDelete _ auth _ => auth.userId
  | .serveEdit _ _ req => req.actor.id
  | .serveDelete _ _ req => req.actor.id

def serve : ModerationRequest → App Json
  | .update channelId messageId auth input reply =>
    updateMessage channelId messageId auth input reply
  | .delete channelId messageId auth reply => deleteMessage channelId messageId auth reply
  | .bulkDelete channelId auth messages => bulkDeleteMessages channelId auth messages
  | .serveEdit ourDomain peer req => Forward.serveEdit ourDomain peer req
  | .serveDelete ourDomain peer req => do
    Forward.serveDelete ourDomain peer req
    return .null

end ModerationRequest

def moderationView (s : AppState) : List MessageRow × List ChannelRow × List DmParticipant :=
  (s.db.messages, s.db.channels, s.db.dmParticipants)

theorem preserves_fanoutChange (channel : ChannelRow) (eventType : String)
    (payload : String → Json) : (fanoutChange channel eventType payload).Preserves moderationView := by
  refine (Prog.preserves_get _).bind (fun fed => ?_)
  cases fed with
  | none => exact Prog.preserves_pure _
  | some fed =>
    refine Prog.Preserves.bind (Prog.Preserves.attempt ?_) (fun _ => Prog.preserves_pure _)
    exact Outbound.preserves_fanoutIfSpace (fun _ _ => rfl) (fun _ _ => rfl) _ _ _

theorem preserves_forwardUpdate (home messageId : String) (auth : AuthUser)
    (input : Db.Messages.UpdateMessage) (reply : Except AppError Response) :
    (forwardUpdate home messageId auth input reply).Preserves moderationView := by
  unfold forwardUpdate
  cases input.content with
  | none => exact Prog.preserves_fail _
  | some content =>
    refine (App.preserves_lift _).bind (fun actor => ?_)
    refine Prog.Preserves.bind ?_ (fun _ => Prog.preserves_pure _)
    refine (Forward.preserves_forward _ _ _ _ _ (fun _ _ => rfl)).bind (fun response => ?_)
    unfold Forward.parsedReply
    cases response.json with
    | none => exact Prog.preserves_fail _
    | some j => exact Prog.preserves_pure _

theorem preserves_forwardDeletion (home messageId : String) (auth : AuthUser)
    (reply : Except AppError Response) :
    (forwardDeletion home messageId auth reply).Preserves moderationView := by
  refine (App.preserves_lift _).bind (fun actor => ?_)
  refine Prog.Preserves.bind ?_ (fun _ => Prog.preserves_pure _)
  exact (Forward.preserves_forward _ _ _ _ _ (fun _ _ => rfl)).bind (fun _ => Prog.preserves_pure _)

theorem preserves_deleteFiles (attachments : List AttachmentRow) :
    (Prog.forEach attachments (fun a => do
      let _ ← (Storage.deleteFile a.url).attempt
      return ())).Preserves moderationView := by
  apply Prog.preserves_forEach
  intro a _
  exact (Storage.preserves_deleteFile _ (fun _ _ => rfl)).attempt.bind
    (fun _ => Prog.preserves_pure _)

section

variable {m : MessageRow} {userId : String} {α : Type}

theorem keeps_of_preserves {p : App α} (h : p.Preserves moderationView) :
    p.Maintains (fun s => Outsider m userId s.db) := by
  apply h.keeps
  intro s t hview hs
  obtain ⟨hmessages, hrest⟩ := Prod.mk.inj hview
  obtain ⟨hchannels, hparticipants⟩ := Prod.mk.inj hrest
  obtain ⟨hdistinct, hundisturbed, hdm, houtside⟩ := hs
  refine ⟨?_, ?_, ?_, ?_⟩
  · rw [hmessages]
    exact hdistinct
  · unfold Undisturbed Tables.hasMessage
    rw [hmessages]
    exact hundisturbed
  · rw [hchannels]
    exact hdm
  · unfold Tables.isParticipant
    rw [hparticipants]
    exact houtside

theorem keeps_checked {auth : AuthUser} (perm channelId : String) :
    (MonadLiftT.monadLift (requireChannelPermission channelId auth perm) : App String).Keeps
      (fun s => Outsider m auth.userId s.db) (fun _ => channelId ≠ m.channelId) := by
  apply App.keeps_lift
  rintro s hs spaceId hok rfl
  exact hs.refused perm spaceId hok

theorem SameExceptReply.channelId {m m' : MessageRow} (h : SameExceptReply m m') :
    m'.channelId = m.channelId := by
  rw [← h]

theorem SameExceptReply.authorId {m m' : MessageRow} (h : SameExceptReply m m') :
    m'.authorId = m.authorId := by
  rw [← h]

theorem Outsider.target {db : Tables} (h : Outsider m userId db) {messageId : String}
    {existing : MessageRow} (hrow : Db.Messages.getMessageRow messageId db = .ok existing)
    (htarget : messageId = m.id) : SameExceptReply m existing := by
  subst htarget
  unfold Db.Messages.getMessageRow at hrow
  rcases h.undisturbed with ⟨m', hm', hsame⟩ | ⟨hgone, _⟩
  · rw [hm'] at hrow
    cases hrow
    exact hsame
  · rw [Lib.Table.lookup_none_of_not_has hgone] at hrow
    cases hrow

theorem keeps_messageIn (channelId messageId : String) :
    (MonadLiftT.monadLift (messageIn channelId messageId) : App MessageRow).Keeps
      (fun s => Outsider m userId s.db)
      (fun existing => existing.channelId = channelId ∧
        (messageId = m.id → SameExceptReply m existing)) := by
  apply App.keeps_lift
  intro s hs existing hok
  obtain ⟨row, hrow, hok⟩ := (Query.bind_ok _).mp hok
  obtain ⟨_, hchannel, hok⟩ := (Query.bind_ok _).mp hok
  cases hok
  refine ⟨?_, hs.target hrow⟩
  by_contra hne
  simp [hne] at hchannel

theorem keeps_requireAuthorOrManage {auth : AuthUser} {existing : MessageRow}
    {channelId messageId : String} (hchannel : existing.channelId = channelId)
    (hsame : messageId = m.id → SameExceptReply m existing) (hauthor : m.authorId ≠ auth.userId) :
    (MonadLiftT.monadLift (requireAuthorOrManage existing channelId auth) : App Unit).Keeps
      (fun s => Outsider m auth.userId s.db) (fun _ => messageId ≠ m.id) := by
  apply App.keeps_lift
  rintro s hs _ hok htarget
  have hm := hsame htarget
  have hforeign : existing.authorId ≠ auth.userId := by
    rw [hm.authorId]
    exact hauthor
  rw [requireAuthorOrManage, if_pos hforeign] at hok
  obtain ⟨spaceId, hpermitted, _⟩ := (Query.bind_ok _).mp hok
  rw [← hchannel, hm.channelId] at hpermitted
  exact hs.refused _ spaceId hpermitted

theorem keeps_assignColumn {value : Option α} {messageId : String}
    {set : α → MessageRow → MessageRow} (hset : ∀ v r, (set v r).id = r.id)
    (hid : messageId ≠ m.id) :
    (Db.Messages.assignColumn value messageId set).Maintains (fun s => Outsider m userId s.db) := by
  cases value with
  | none => trivial
  | some v => exact App.keeps_update (fun s hs => hs.update hid (fun r _ => hset v r))

theorem keeps_updateMessage {messageId : String} (input : Db.Messages.UpdateMessage)
    (hid : messageId ≠ m.id) :
    (Db.Messages.updateMessage messageId input).Maintains (fun s => Outsider m userId s.db) := by
  refine Prog.Keeps.bind (Q := fun _ => True) (Prog.keeps_get (fun _ _ => trivial)) (fun now _ => ?_)
  refine Prog.Keeps.bind (keeps_assignColumn (fun _ _ => by rfl) hid) (fun _ _ => ?_)
  refine Prog.Keeps.bind (keeps_assignColumn (fun _ _ => by rfl) hid) (fun _ _ => ?_)
  refine Prog.Keeps.bind (keeps_assignColumn (fun _ _ => by rfl) hid) (fun _ _ => ?_)
  exact App.keeps_lift (fun _ _ _ _ => trivial)

theorem keeps_deleteMessage {messageId : String} (hid : messageId ≠ m.id) :
    (Db.Messages.deleteMessage messageId).Maintains (fun s => Outsider m userId s.db) :=
  App.keeps_update (fun _ hs => hs.delete hid)

theorem keeps_bulkDelete {channelId : String} (messageIds : List String)
    (hchannel : channelId ≠ m.channelId) :
    (Db.Messages.bulkDeleteMessages channelId messageIds).Maintains
      (fun s => Outsider m userId s.db) := by
  apply Prog.keeps_forEach
  intro id _
  apply App.keeps_update
  intro s hs
  by_cases hfound : s.db.messages.any (fun r => r.id = id && r.channelId = channelId) = true
  · rw [if_pos hfound]
    apply hs.delete
    rintro rfl
    simp only [List.any_eq_true, Bool.and_eq_true, decide_eq_true_eq] at hfound
    obtain ⟨r, hr, hid, hrc⟩ := hfound
    have hrow : Db.Messages.getMessageRow m.id s.db = .ok r := by
      rw [← hid, Db.Messages.getMessageRow, hs.distinct.lookup_eq hr]
    exact hchannel (hrc.symm.trans (hs.target hrow rfl).channelId)
  · rw [if_neg hfound]
    exact hs

theorem keeps_query {β : Type} (q : Query β) :
    (MonadLiftT.monadLift q : App β).Maintains (fun s => Outsider m userId s.db) :=
  App.keeps_lift (fun _ _ _ _ => trivial)

theorem keeps_broadcastSpace (spaceId : Option String) (eventType : String) (data : Json)
    (intent : String) :
    (broadcastSpace spaceId eventType data intent).Maintains (fun s => Outsider m userId s.db) :=
  keeps_of_preserves (Prog.preserves_modify (fun _ => rfl))

theorem keeps_fanoutIfSpace (spaceId : Option String) (eventType : String) (payload : Json) :
    (Outbound.fanoutIfSpace spaceId eventType payload).Maintains (fun s => Outsider m userId s.db) :=
  keeps_of_preserves (Outbound.preserves_fanoutIfSpace (fun _ _ => rfl) (fun _ _ => rfl) _ _ _)

end

section

variable {m : MessageRow} {auth : AuthUser}

theorem keeps_updateLocal {channelId messageId : String} {existing : MessageRow}
    (input : Db.Messages.UpdateMessage) (hid : messageId ≠ m.id) :
    (updateLocal channelId messageId auth existing input).Maintains
      (fun s => Outsider m auth.userId s.db) := by
  refine (keeps_query _).bind (fun _ _ => ?_)
  refine Prog.keeps_require.bind (fun _ _ => ?_)
  refine (keeps_updateMessage input hid).bind (fun msg _ => ?_)
  refine (keeps_query _).bind (fun attachments _ => ?_)
  refine (keeps_query _).bind (fun channel _ => ?_)
  refine (keeps_broadcastSpace _ _ _ _).bind (fun _ _ => ?_)
  exact (keeps_of_preserves (preserves_fanoutChange _ _ _)).bind (fun _ _ => trivial)

theorem keeps_update (channelId messageId : String) (input : Db.Messages.UpdateMessage)
    (reply : Except AppError Response) :
    (updateMessage channelId messageId auth input reply).Maintains
      (fun s => Outsider m auth.userId s.db) := by
  have hmembership : (MonadLiftT.monadLift (requireChannelMembership channelId auth.userId) :
      App String).Keeps (fun s => Outsider m auth.userId s.db)
        (fun _ => channelId ≠ m.channelId) :=
    @keeps_checked m (member auth.userId) "view_channel" channelId
  refine Prog.Keeps.bind hmembership (fun _ hforeign => ?_)
  refine (keeps_messageIn channelId messageId).bind (fun existing hexisting => ?_)
  obtain ⟨hchannel, hsame⟩ := hexisting
  have hid : messageId ≠ m.id := by
    intro htarget
    exact hforeign (hchannel.symm.trans (hsame htarget).channelId)
  refine (keeps_query _).bind (fun home _ => ?_)
  cases home with
  | some home => exact keeps_of_preserves (preserves_forwardUpdate _ _ _ _ _)
  | none => exact keeps_updateLocal input hid

theorem keeps_deleteLocal {channelId messageId : String} {existing : MessageRow}
    (hchannel : existing.channelId = channelId)
    (hsame : messageId = m.id → SameExceptReply m existing) (hauthor : m.authorId ≠ auth.userId) :
    (deleteLocal channelId messageId auth existing).Maintains
      (fun s => Outsider m auth.userId s.db) := by
  refine (keeps_requireAuthorOrManage hchannel hsame hauthor).bind (fun _ hid => ?_)
  refine (keeps_query _).bind (fun attachments _ => ?_)
  refine (keeps_of_preserves (preserves_deleteFiles attachments)).bind (fun _ _ => ?_)
  refine (keeps_deleteMessage hid).bind (fun _ _ => ?_)
  refine (keeps_query _).bind (fun channel _ => ?_)
  refine (keeps_broadcastSpace _ _ _ _).bind (fun _ _ => ?_)
  exact (keeps_of_preserves (preserves_fanoutChange _ _ _)).bind (fun _ _ => trivial)

theorem keeps_delete (channelId messageId : String) (reply : Except AppError Response)
    (hauthor : m.authorId ≠ auth.userId) :
    (deleteMessage channelId messageId auth reply).Maintains
      (fun s => Outsider m auth.userId s.db) := by
  refine (keeps_messageIn channelId messageId).bind (fun existing hexisting => ?_)
  obtain ⟨hchannel, hsame⟩ := hexisting
  refine (keeps_query _).bind (fun home _ => ?_)
  cases home with
  | some home => exact keeps_of_preserves (preserves_forwardDeletion _ _ _ _)
  | none => exact keeps_deleteLocal hchannel hsame hauthor

theorem keeps_bulk (channelId : String) (messages : List String) :
    (bulkDeleteMessages channelId auth messages).Maintains
      (fun s => Outsider m auth.userId s.db) := by
  refine (keeps_checked "manage_messages" channelId).bind (fun _ hforeign => ?_)
  refine Prog.keeps_require.bind (fun _ _ => ?_)
  exact (keeps_bulkDelete messages hforeign).bind (fun _ _ => trivial)

theorem keeps_served {actorId messageId : String} (hauthor : m.authorId ≠ actorId) {β : Type}
    {rest : MessageRow → App β}
    (hrest : messageId ≠ m.id → ∀ existing,
      (rest existing).Maintains (fun s => Outsider m actorId s.db)) :
    (do
      let existing ← Db.Messages.getMessageRow messageId
      Forward.requireAuthorOrManage existing.channelId existing.authorId actorId
      rest existing : App β).Maintains (fun s => Outsider m actorId s.db) := by
  have hfound : (MonadLiftT.monadLift (Db.Messages.getMessageRow messageId) :
      App MessageRow).Keeps (fun s => Outsider m actorId s.db)
        (fun existing => messageId = m.id → SameExceptReply m existing) :=
    App.keeps_lift (fun s hs existing hrow => hs.target hrow)
  refine hfound.bind (fun existing hsame => ?_)
  have hchecked : (MonadLiftT.monadLift (Forward.requireAuthorOrManage existing.channelId
      existing.authorId actorId) : App Unit).Keeps (fun s => Outsider m actorId s.db)
        (fun _ => messageId ≠ m.id) := by
    apply App.keeps_lift
    rintro s hs _ hok htarget
    have hm := hsame htarget
    have hforeign : existing.authorId ≠ actorId := by
      rw [hm.authorId]
      exact hauthor
    rw [Forward.requireAuthorOrManage, if_pos hforeign, hm.channelId] at hok
    obtain ⟨spaceId, hpermitted, _⟩ := (Query.bind_ok _).mp hok
    exact @Outsider.refused _ m (Forward.remoteActorAuth actorId) hs _ spaceId hpermitted
  exact hchecked.bind (fun _ hid => hrest hid existing)

theorem keeps_serveEdit (ourDomain peer : String) (req : Forward.EditRequest)
    (hauthor : m.authorId ≠ req.actor.id) :
    (Forward.serveEdit ourDomain peer req).Maintains (fun s => Outsider m req.actor.id s.db) := by
  refine Prog.Keeps.bind (Q := fun _ => True) (Prog.keeps_ofExcept (fun _ _ => trivial))
    (fun _ _ => ?_)
  refine Prog.keeps_require.bind (fun _ _ => ?_)
  apply keeps_served hauthor
  intro hid existing
  refine (keeps_updateMessage _ hid).bind (fun msg _ => ?_)
  refine (keeps_broadcastSpace _ _ _ _).bind (fun _ _ => ?_)
  exact (keeps_fanoutIfSpace _ _ _).bind (fun _ _ => trivial)

theorem keeps_serveDelete (ourDomain peer : String) (req : Forward.DeleteRequest)
    (hauthor : m.authorId ≠ req.actor.id) :
    (Forward.serveDelete ourDomain peer req).Maintains (fun s => Outsider m req.actor.id s.db) := by
  refine Prog.Keeps.bind (Q := fun _ => True) (Prog.keeps_ofExcept (fun _ _ => trivial))
    (fun _ _ => ?_)
  apply keeps_served hauthor
  intro hid existing
  refine (keeps_deleteMessage hid).bind (fun _ _ => ?_)
  refine (keeps_broadcastSpace _ _ _ _).bind (fun _ _ => ?_)
  exact keeps_fanoutIfSpace _ _ _

end

theorem ModerationRequest.keeps {m : MessageRow} (r : ModerationRequest)
    (hauthor : m.authorId ≠ r.actorId) :
    r.serve.Maintains (fun s => Outsider m r.actorId s.db) := by
  cases r with
  | update channelId messageId auth input reply => exact keeps_update _ _ _ _
  | delete channelId messageId auth reply => exact keeps_delete _ _ _ hauthor
  | bulkDelete channelId auth messages => exact keeps_bulk _ _
  | serveEdit ourDomain peer req => exact keeps_serveEdit _ _ _ hauthor
  | serveDelete ourDomain peer req =>
    exact (keeps_serveDelete _ _ _ hauthor).bind (fun _ _ => trivial)

theorem dm_moderation_needs_participation {s : AppState} {m : MessageRow} {c : ChannelRow}
    (hdistinct : Table.Distinct MessageRow.id s.db.messages) (hmessage : m ∈ s.db.messages)
    (hchannel : Table.lookup ChannelRow.id m.channelId s.db.channels = some c)
    (hdm : c.isDm = true) :
    (∀ auth spaceId, requireChannelPermission m.channelId auth "manage_messages" s.db =
        .ok spaceId ↔
      auth.isGuest = false ∧ s.db.isParticipant m.channelId auth.userId = true ∧ spaceId = "") ∧
    ∀ r : ModerationRequest, m.authorId ≠ r.actorId →
      s.db.isParticipant m.channelId r.actorId = false →
      ∀ q s', Relation.ReflTransGen Prog.Step (r.serve, s) (q, s') → Undisturbed m s'.db := by
  constructor
  · intro auth spaceId
    exact dm_permission_iff hchannel hdm auth _ spaceId
  · intro r hauthor houtside q s' hrun
    have hundisturbed : Undisturbed m s.db := .inl ⟨m, hdistinct.lookup_eq hmessage, rfl⟩
    have hstart : Outsider m r.actorId s.db :=
      ⟨hdistinct, hundisturbed, ⟨c, hchannel, hdm⟩, houtside⟩
    exact ((r.keeps hauthor).run hstart hrun).1.undisturbed

def annsMessage : MessageRow :=
  { id := "m"
    channelId := "d"
    spaceId := none
    authorId := "1"
    content := "hi"
    createdAt := "2025-01-01 00:00:00" }

def dmServer : AppState :=
  { db :=
      { users := [{ id := "1", username := "ann" }, { id := "2", username := "bob" },
          { id := "3", username := "eve" }]
        channels := [{ id := "d", channelType := "dm" }]
        dmParticipants := [{ channelId := "d", userId := "1" }, { channelId := "d", userId := "2" }]
        messages := [annsMessage] }
    ext := Externals.fixed "2025-01-01 00:00:00" }

theorem eve_bulk_delete_leaves_message :
    Undisturbed annsMessage
      ((bulkDeleteMessages "d" { userId := "3" } ["m"]).exec dmServer).2.db := by
  obtain ⟨q, hsteps, _⟩ :=
    Prog.exec_steps (bulkDeleteMessages "d" { userId := "3" } ["m"]) dmServer
  exact (dm_moderation_needs_participation (s := dmServer) (m := annsMessage)
    (c := { id := "d", channelType := "dm" }) (by simp [dmServer, Table.Distinct])
    (by simp [dmServer]) (by decide +kernel) (by decide)).2
    (.bulkDelete "d" { userId := "3" } ["m"]) (by decide) (by decide +kernel) q _ hsteps

def bobsRequests : List ModerationRequest :=
  [.update "d" "m" { userId := "2" } { content := some "forged" } (.error .rowNotFound),
    .delete "d" "m" { userId := "2" } (.error .rowNotFound),
    .bulkDelete "d" { userId := "2" } ["m"]]

theorem participant_moderates_others_message :
    annsMessage.authorId ≠ "2" ∧ (∀ r ∈ bobsRequests, r.actorId = "2") ∧
      bobsRequests.map (fun r => (r.serve.exec dmServer).2.db.messages.map MessageRow.content) =
        [["forged"], [], []] := by
  decide +kernel

end Vokusz.Routes.Messages
