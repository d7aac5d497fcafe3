import Vokusz.Db.Footprint
import Vokusz.Federation.Forward
import Vokusz.Federation.Inbox

namespace Vokusz.Federation

open App Db
open Lib (Prog)

variable {slots : List Slot} {peer : String} {env : FederationEnvelope}

theorem touches_orBadRequest {α : Type} (what : String) (parsed : Option α) :
    Touches slots (orBadRequest what parsed) := by
  cases parsed with
  | none => exact Prog.touches_fail _
  | some a => exact Prog.touches_pure a

theorem touches_broadcastSpace (spaceId : Option String) (eventType : String) (data : Json)
    (intent : String) : Touches [.gatewayTx] (broadcastSpace spaceId eventType data intent) :=
  touches_send _

theorem slot_outbox {n : Slot} (hn : n ∉ [Slot.federationOutbox, .snowflake]) (s : AppState)
    (box : List OutboxItem) :
    (s.withDb { s.db with federationOutbox := box }).slot n = s.slot n := by
  cases n <;> first | rfl | simp at hn

theorem slot_snowflake {n : Slot} (hn : n ∉ [Slot.federationOutbox, .snowflake]) (s : AppState)
    (m : Nat) : AppState.slot n { s with snowflake := m } = s.slot n := by
  cases n <;> first | rfl | simp at hn

theorem touches_enqueue (envelope : FederationEnvelope) (targets : List String) :
    Touches [.federationOutbox, .snowflake] (Sender.enqueue envelope targets) :=
  fun _ hn => Sender.preserves_enqueue _ _ (slot_outbox hn) (slot_snowflake hn)

theorem touches_fanoutToTargets (spaceId eventType : String) (payload : Json)
    (targets : List String) :
    Touches [.federationOutbox, .snowflake]
      (Outbound.fanoutToTargets spaceId eventType payload targets) :=
  fun _ hn => Outbound.preserves_fanoutToTargets (slot_outbox hn) (slot_snowflake hn) _ _ _ _

theorem touches_fanoutIfSpace (spaceId : Option String) (eventType : String) (payload : Json) :
    Touches [.federationOutbox, .snowflake] (Outbound.fanoutIfSpace spaceId eventType payload) :=
  fun _ hn => Outbound.preserves_fanoutIfSpace (slot_outbox hn) (slot_snowflake hn) _ _ _

theorem touches_fanoutMessageCreate (msg : MessageRow) :
    Touches [.federationOutbox, .snowflake] (Outbound.fanoutMessageCreate msg) :=
  fun _ hn => Outbound.preserves_fanoutMessageCreate _ (slot_outbox hn) (slot_snowflake hn)

theorem slot_requests {n : Slot} (hn : n ∉ [Slot.requests]) (s : AppState)
    (rs : List SignedRequest) : AppState.slot n { s with requests := rs } = s.slot n := by
  cases n <;> first | rfl | simp at hn

theorem touches_requestSigned (domain path : String) (body : Json)
    (reply : Except AppError Response) :
    Touches [.requests] (Sender.requestSigned domain path body reply) :=
  fun _ hn => Sender.preserves_requestSigned _ _ _ _ (slot_requests hn)

theorem touches_forward (domain path what : String) (body : FederationContext → Json)
    (reply : Except AppError Response) :
    Touches [.requests] (Forward.forward domain path what body reply) :=
  fun _ hn => Forward.preserves_forward _ _ _ _ _ (slot_requests hn)

theorem touches_validateRemoteUrl (url what : String) :
    Touches slots (Apply.validateRemoteUrl url what) := by
  refine (Prog.touches_get _).bind (fun ext => ?_)
  exact (Prog.touches_require _ _).bind (fun _ => Prog.touches_require _ _)

theorem touches_validateOptionalUrl (url : Option String) (what : String) :
    Touches slots (Apply.validateOptionalUrl url what) := by
  cases url with
  | none => exact Prog.touches_pure _
  | some url => exact touches_validateRemoteUrl _ _

theorem touches_checkMessageCreate (payload : Apply.RemoteMessagePayload) :
    Touches slots (Apply.checkMessageCreate peer payload) := by
  refine (touches_liftExcept _).bind (fun _ => ?_)
  refine (touches_liftExcept _).bind (fun _ => ?_)
  refine (touches_liftExcept _).bind (fun _ => ?_)
  refine (touches_liftExcept _).bind (fun _ => ?_)
  refine (Prog.touches_require _ _).bind (fun _ => ?_)
  refine (Prog.touches_require _ _).bind (fun _ => ?_)
  refine (Prog.touches_require _ _).bind (fun _ => ?_)
  exact (Prog.touches_require _ _).bind (fun _ => touches_validateOptionalUrl _ _)

theorem touches_mirrorForeignUser (domain id userHandle : String)
    (displayName avatar : Option String) :
    Touches [.users] (mirrorForeignUser domain id userHandle displayName avatar) := by
  refine Prog.touches_ite ?_ (Users.touches_ensureRemoteUser _ _ _ _ _)
  exact (Users.touches_upsertRemoteUser _ _ _ _ _).bind (fun _ => Prog.touches_pure _)

theorem touches_mirrorRef (domain : String) (user : RemoteUserRef) :
    Touches [.users] (mirrorRef domain user) := by
  refine (Prog.touches_get _).bind (fun fed => ?_)
  cases fed with
  | none => exact touches_mirrorForeignUser _ _ _ _ _
  | some fed =>
    refine Prog.touches_ite ?_ (touches_mirrorForeignUser _ _ _ _ _)
    refine (touches_found? _).bind (fun found => ?_)
    cases found with
    | none => exact Prog.touches_fail _
    | some user =>
      exact Prog.touches_ite (Prog.touches_fail _) (Users.touches_ensureRemoteUser _ _ _ _ _)

theorem touches_rebroadcastUpdate (messageId : String) :
    Touches [.gatewayTx] (Apply.rebroadcastUpdate messageId) := by
  refine (touches_found? _).bind (fun row => ?_)
  cases row with
  | none => exact Prog.touches_pure _
  | some row => exact touches_broadcastSpace _ _ _ _

theorem touches_applyMessageUpdate :
    Touches [.messages, .gatewayTx] (Apply.applyMessageUpdate peer env) := by
  refine (touches_orBadRequest _ _).bind (fun payload => ?_)
  refine (touches_liftExcept _).bind (fun _ => ?_)
  refine (Prog.touches_require _ _).bind (fun _ => ?_)
  refine (touches_found? _).bind (fun existing => ?_)
  cases existing with
  | none => exact Prog.touches_pure _
  | some existing =>
    refine Prog.touches_ite (Prog.touches_pure _) ?_
    refine ((Messages.touches_editRemoteMessage _ _).mono (by decide)).bind (fun _ => ?_)
    exact (touches_rebroadcastUpdate _).mono (by decide)

theorem touches_applyMessageDelete :
    Touches [.messages, .reactions, .attachments, .attachmentDeletions, .pinnedMessages, .gatewayTx]
      (Apply.applyMessageDelete peer env) := by
  refine (touches_orBadRequest _ _).bind (fun payload => ?_)
  refine (touches_liftExcept _).bind (fun _ => ?_)
  refine (touches_found? _).bind (fun existing => ?_)
  cases existing with
  | none => exact Prog.touches_pure _
  | some existing =>
    refine Prog.touches_ite (Prog.touches_pure _) ?_
    refine (Messages.touches_deleteMessage.mono (by decide)).bind (fun _ => ?_)
    exact (touches_broadcastSpace _ _ _ _).mono (by decide)

theorem touches_applyMemberLeave :
    Touches [.members, .memberRoles, .gatewayTx] (Apply.applyMemberLeave env) := by
  unfold Apply.applyMemberLeave
  cases env.spaceId with
  | none => exact Prog.touches_fail _
  | some spaceId =>
    refine (touches_orBadRequest _ _).bind (fun userId => ?_)
    refine (touches_found? _).bind (fun space => ?_)
    cases space with
    | none => exact Prog.touches_pure _
    | some space =>
      refine (Members.touches_removeMember.mono (by decide)).bind (fun _ => ?_)
      exact (touches_broadcastSpace _ _ _ _).mono (by decide)

theorem touches_applyEmojiUpsert (created : Bool) :
    Touches [.emojis, .emojiRoles, .gatewayTx] (Apply.applyEmojiUpsert peer env created) := by
  refine (touches_orBadRequest _ _).bind (fun payload => ?_)
  refine (touches_liftExcept _).bind (fun _ => ?_)
  refine (touches_liftExcept _).bind (fun _ => ?_)
  refine (Prog.touches_require _ _).bind (fun _ => ?_)
  refine (Prog.touches_require _ _).bind (fun _ => ?_)
  refine (touches_validateOptionalUrl _ _).bind (fun _ => ?_)
  refine (touches_found? _).bind (fun space => ?_)
  cases space with
  | none => exact Prog.touches_pure _
  | some space =>
    refine ((Emojis.touches_upsertRemoteEmoji _ _ _ _ _ _).mono (by decide)).bind (fun _ => ?_)
    refine (touches_found? _).bind (fun emoji => ?_)
    exact (touches_broadcastSpace _ _ _ _).mono (by decide)

theorem touches_applyEmojiDelete :
    Touches [.emojis, .emojiRoles, .gatewayTx] (Apply.applyEmojiDelete peer env) := by
  refine (touches_orBadRequest _ _).bind (fun id => ?_)
  refine (touches_liftExcept _).bind (fun _ => ?_)
  refine (touches_lift _).bind (fun origin => ?_)
  refine Prog.touches_ite (Prog.touches_pure _) ?_
  refine (touches_lift _).bind (fun spaceId => ?_)
  refine ((Emojis.touches_deleteEmoji _).mono (by decide)).bind (fun _ => ?_)
  exact (touches_broadcastSpace _ _ _ _).mono (by decide)

theorem touches_storeMessage (payload : Apply.RemoteMessagePayload) (channel : ChannelRow) :
    Touches [.users, .messages, .channels, .gatewayTx]
      (Apply.storeMessage peer payload channel) := by
  refine ((touches_mirrorRef _ _).mono (by decide)).bind (fun _ => ?_)
  refine (Prog.touches_require _ _).bind (fun _ => ?_)
  refine ((Messages.touches_insertRemoteMessage _).mono (by decide)).bind (fun row => ?_)
  cases row with
  | none => exact Prog.touches_pure _
  | some row => exact (touches_broadcastSpace _ _ _ _).mono (by decide)

theorem touches_applyMessageCreate :
    Touches [.users, .messages, .channels, .gatewayTx] (Apply.applyMessageCreate peer env) := by
  refine (touches_orBadRequest _ _).bind (fun payload => ?_)
  refine (touches_checkMessageCreate _).bind (fun _ => ?_)
  refine (touches_found? _).bind (fun channel => ?_)
  cases channel with
  | none => exact Prog.touches_pure _
  | some channel => exact touches_storeMessage _ _

theorem touches_applyReaction (add : Bool) :
    Touches [.users, .reactions, .gatewayTx] (Apply.applyReaction peer env add) := by
  refine (touches_orBadRequest _ _).bind (fun payload => ?_)
  refine (touches_liftExcept _).bind (fun _ => ?_)
  refine (touches_liftExcept _).bind (fun _ => ?_)
  refine (touches_liftExcept _).bind (fun _ => ?_)
  refine (Prog.touches_require _ _).bind (fun _ => ?_)
  refine (touches_found? _).bind (fun msg => ?_)
  cases msg with
  | none => exact Prog.touches_pure _
  | some msg =>
    refine ((Users.touches_ensureRemoteUser _ _ _ _ _).mono (by decide)).bind (fun _ => ?_)
    refine ((Messages.touches_changeReaction _ _).mono (by decide)).bind (fun _ => ?_)
    exact (touches_broadcastSpace _ _ _ _).mono (by decide)

theorem touches_applyMemberJoin :
    Touches [.users, .members, .gatewayTx] (Apply.applyMemberJoin peer env) := by
  unfold Apply.applyMemberJoin
  cases env.spaceId with
  | none => exact Prog.touches_fail _
  | some spaceId =>
    refine (touches_orBadRequest _ _).bind (fun user => ?_)
    refine (touches_found? _).bind (fun space => ?_)
    cases space with
    | none => exact Prog.touches_pure _
    | some space =>
      refine (touches_liftExcept _).bind (fun _ => ?_)
      refine ((touches_mirrorRef _ _).mono (by decide)).bind (fun _ => ?_)
      refine ((Federation.touches_addMemberWithOrigin _).mono (by decide)).bind (fun _ => ?_)
      exact (touches_broadcastSpace _ _ _ _).mono (by decide)

theorem touches_applyTyping : Touches [.gatewayTx] (Apply.applyTyping env) :=
  touches_broadcastSpace _ _ _ _

theorem touches_respond (result : Except AppError Apply.Applied) :
    Touches [.federationInboxDedup] (Inbox.respond env result) := by
  have hrollback : Touches [.federationInboxDedup] (Inbox.rollbackDedup env) :=
    (Federation.touches_dedupRemove _ _).attempt.bind (fun _ => Prog.touches_pure _)
  rcases result with e | _ | _
  · exact hrollback.bind (fun _ => Prog.touches_pure _)
  · exact Prog.touches_pure _
  · exact hrollback.bind (fun _ => Prog.touches_pure _)

section

open Forward Handshake

variable {ourDomain homeDomain spaceId : String}

theorem touches_serveLeave (req : LeaveRequest) :
    Touches [.members, .memberRoles, .gatewayTx, .federationOutbox, .snowflake]
      (serveLeave ourDomain peer req) := by
  refine (touches_liftExcept _).bind (fun _ => ?_)
  refine (touches_lift _).bind (fun _ => ?_)
  refine (touches_found? _).bind (fun targets => ?_)
  refine (Members.touches_removeMember.mono (by decide)).bind (fun _ => ?_)
  refine ((touches_broadcastSpace _ _ _ _).mono (by decide)).bind (fun _ => ?_)
  exact (touches_fanoutToTargets _ _ _ _).mono (by decide)

theorem touches_serveEdit (req : EditRequest) :
    Touches [.messages, .gatewayTx, .federationOutbox, .snowflake]
      (serveEdit ourDomain peer req) := by
  refine (touches_liftExcept _).bind (fun _ => ?_)
  refine (Prog.touches_require _ _).bind (fun _ => ?_)
  refine (touches_lift _).bind (fun existing => ?_)
  refine (touches_lift _).bind (fun _ => ?_)
  refine ((Messages.touches_updateMessage _).mono (by decide)).bind (fun msg => ?_)
  refine ((touches_broadcastSpace _ _ _ _).mono (by decide)).bind (fun _ => ?_)
  exact ((touches_fanoutIfSpace _ _ _).mono (by decide)).bind (fun _ => Prog.touches_pure _)

theorem touches_serveDelete (req : DeleteRequest) :
    Touches [.messages, .reactions, .attachments, .attachmentDeletions, .pinnedMessages, .gatewayTx,
      .federationOutbox, .snowflake] (serveDelete ourDomain peer req) := by
  refine (touches_liftExcept _).bind (fun _ => ?_)
  refine (touches_lift _).bind (fun existing => ?_)
  refine (touches_lift _).bind (fun _ => ?_)
  refine (Messages.touches_deleteMessage.mono (by decide)).bind (fun _ => ?_)
  refine ((touches_broadcastSpace _ _ _ _).mono (by decide)).bind (fun _ => ?_)
  exact (touches_fanoutIfSpace _ _ _).mono (by decide)

theorem touches_serveTyping (req : TypingRequest) :
    Touches [.gatewayTx, .federationOutbox, .snowflake] (serveTyping ourDomain peer req) := by
  refine (touches_liftExcept _).bind (fun _ => ?_)
  refine (touches_lift _).bind (fun spaceId => ?_)
  refine ((touches_broadcastSpace _ _ _ _).mono (by decide)).bind (fun _ => ?_)
  exact (touches_fanoutIfSpace _ _ _).mono (by decide)

theorem touches_snapshotChannels (channels : List SnapshotChannel) :
    Touches [.channels] (Prog.forEach channels (applySnapshotChannel homeDomain spaceId)) :=
  Prog.touches_forEach (fun _ _ =>
    (touches_liftExcept _).bind (fun _ => Federation.touches_upsertRemoteChannel _ _ _ _ _))

theorem touches_snapshotRoles (roles : List SnapshotRole) :
    Touches [.roles] (Prog.forEach roles (applySnapshotRole homeDomain spaceId)) :=
  Prog.touches_forEach (fun _ _ =>
    (touches_liftExcept _).bind (fun _ => Federation.touches_upsertRemoteRole _ _ _ _ _))

theorem touches_snapshotEmojis (emojis : List SnapshotEmoji) :
    Touches [.emojis, .emojiRoles]
      (Prog.forEach emojis (applySnapshotEmoji homeDomain spaceId)) :=
  Prog.touches_forEach (fun _ _ =>
    Prog.touches_ite (Emojis.touches_upsertRemoteEmoji _ _ _ _ _ _) (Prog.touches_pure _))

end

namespace Dm

theorem touches_broadcastToParticipants (channelId eventType : String) (data : Json)
    (intent : String) :
    Touches [.gatewayTx] (broadcastToParticipants channelId eventType data intent) := by
  refine (touches_found? _).bind (fun ids => ?_)
  exact Prog.touches_ite (Prog.touches_pure _) (touches_send _)

theorem touches_broadcastMessage (channelId eventType : String) (data : Json) :
    Touches [.gatewayTx] (broadcastMessage channelId eventType data) :=
  touches_broadcastToParticipants _ _ _ _

theorem touches_broadcastChannelCreate (channel : ChannelRow) :
    Touches [.gatewayTx] (broadcastChannelCreate channel) :=
  (touches_appQuery _).bind (fun _ => touches_broadcastToParticipants _ _ _ _)

theorem touches_fanoutDmMessage (channel : ChannelRow) (payload : Json) :
    Touches [.federationOutbox, .snowflake] (fanoutDmMessage channel payload) := by
  refine (Prog.touches_get _).bind (fun fed => ?_)
  cases fed with
  | none => exact Prog.touches_pure _
  | some fed =>
    refine (touches_lift _).bind (fun ids => ?_)
    refine Prog.touches_ite (Prog.touches_pure _) ?_
    exact (touches_generateId.mono (by decide)).bind (fun _ => touches_enqueue _ _)

theorem touches_checkDmMessageCreate (payload : Apply.RemoteMessagePayload) :
    Touches slots (checkDmMessageCreate peer payload) := by
  refine (touches_liftExcept _).bind (fun _ => ?_)
  refine (touches_liftExcept _).bind (fun _ => ?_)
  exact (touches_liftExcept _).bind (fun _ => Prog.touches_require _ _)

theorem touches_applyMessageCreate :
    Touches [.users, .messages, .channels, .gatewayTx] (applyMessageCreate peer env) := by
  refine (touches_orBadRequest _ _).bind (fun payload => ?_)
  refine (touches_checkDmMessageCreate _).bind (fun _ => ?_)
  refine (touches_found? _).bind (fun channel => ?_)
  cases channel with
  | none => exact Prog.touches_pure _
  | some channel =>
    refine ((Users.touches_upsertRemoteUser _ _ _ _ _).mono (by decide)).bind (fun _ => ?_)
    refine ((Messages.touches_insertRemoteMessage _).mono (by decide)).bind (fun row => ?_)
    cases row with
    | none => exact Prog.touches_pure _
    | some row => exact (touches_broadcastMessage _ _ _).mono (by decide)

end Dm

def dedupRows (s : AppState) : List DedupRow := s.db.federationInboxDedup

def eventSlots : List Slot :=
  [.users, .channels, .messages, .reactions, .attachments, .attachmentDeletions, .pinnedMessages,
    .members, .memberRoles, .emojis, .emojiRoles, .gatewayTx]

theorem touches_applied {q : App Unit} (h : Touches slots q) (hsub : slots ⊆ eventSlots) :
    Touches eventSlots (q >>= fun _ => (pure Apply.Applied.ok : App Apply.Applied)) :=
  (h.mono hsub).bind (fun _ => Prog.touches_pure _)

theorem touches_applyEvent (peer : String) (env : FederationEnvelope) :
    Touches eventSlots (Inbox.applyEvent peer env) := by
  unfold Inbox.applyEvent
  split
  · exact touches_applied touches_applyMessageCreate (by decide)
  · exact touches_applied touches_applyMessageUpdate (by decide)
  · exact touches_applied touches_applyMessageDelete (by decide)
  · exact touches_applied (touches_applyReaction true) (by decide)
  · exact touches_applied (touches_applyReaction false) (by decide)
  · exact touches_applied touches_applyMemberJoin (by decide)
  · exact touches_applied touches_applyMemberLeave (by decide)
  · exact touches_applied (touches_applyEmojiUpsert true) (by decide)
  · exact touches_applied (touches_applyEmojiUpsert false) (by decide)
  · exact touches_applied touches_applyEmojiDelete (by decide)
  · exact touches_applied touches_applyTyping (by decide)
  · exact touches_applied Dm.touches_applyMessageCreate (by decide)
  · exact Prog.touches_pure _

theorem dedup_applyEvent (peer : String) (env : FederationEnvelope) :
    (Inbox.applyEvent peer env).Preserves dedupRows :=
  touches_applyEvent peer env .federationInboxDedup (by decide)

end Vokusz.Federation
