import Vokusz.Routes.Sending

namespace Vokusz

open App Db Permissions Federation
open Lib (Prog)

variable {slots : List Slot}

namespace Storage

theorem slot_files {n : Slot} (hn : n ∉ [Slot.files]) (s : AppState) (fs : List (List String)) :
    AppState.slot n { s with files := fs } = s.slot n := by
  cases n <;> first | rfl | simp at hn

theorem touches_deleteFile (url : String) : Touches [.files] (deleteFile url) :=
  fun _ hn => preserves_deleteFile url (slot_files hn)

theorem touches_writeFile (fault : AppError) (path : List String) :
    Touches [.files] (writeFile fault path) :=
  Prog.touches_statement (fun _ hn s => slot_files hn s _)

theorem touches_saveAttachment (isAlphanumeric : Char → Bool)
    (channelId attachmentId filename : String) (size maxSize : Nat) :
    Touches [.files]
      (saveAttachment isAlphanumeric channelId attachmentId filename size maxSize) := by
  refine (Prog.touches_require _ _).bind (fun _ => ?_)
  refine (Prog.touches_get _).bind (fun storagePath => ?_)
  exact (touches_writeFile _ _).bind (fun _ => Prog.touches_pure _)

end Storage

namespace Federation

theorem touches_parsedReply (response : Response) :
    Touches slots (Forward.parsedReply response) := by
  unfold Forward.parsedReply
  cases response.json with
  | none => exact Prog.touches_fail _
  | some j => exact Prog.touches_pure _

theorem touches_forwardMessage (home channelId : String) (author : User) (content : String)
    (replyTo : Option String) (reply : Except AppError Response) :
    Touches [.requests] (Forward.forwardMessage home channelId author content replyTo reply) :=
  (touches_forward _ _ _ _ _).bind (fun _ => touches_parsedReply _)

theorem touches_forwardEdit (home messageId : String) (actor : User) (content : String)
    (reply : Except AppError Response) :
    Touches [.requests] (Forward.forwardEdit home messageId actor content reply) :=
  (touches_forward _ _ _ _ _).bind (fun _ => touches_parsedReply _)

theorem touches_forwardDelete (home messageId : String) (actor : User)
    (reply : Except AppError Response) :
    Touches [.requests] (Forward.forwardDelete home messageId actor reply) :=
  (touches_forward _ _ _ _ _).bind (fun _ => Prog.touches_pure _)

theorem touches_forwardReaction (home channelId messageId : String) (actor : User)
    (emoji : String) (remove : Bool) (reply : Except AppError Response) :
    Touches [.requests]
      (Forward.forwardReaction home channelId messageId actor emoji remove reply) :=
  (touches_forward _ _ _ _ _).bind (fun _ => Prog.touches_pure _)

theorem touches_forwardDmMessage (home channelId : String) (author : User) (content : String)
    (replyTo : Option String) (reply : Except AppError Response) :
    Touches [.requests] (Dm.forwardDmMessage home channelId author content replyTo reply) := by
  refine Prog.Touches.bind (fun _ _ => Sender.preserves_requireFederation) (fun fed => ?_)
  refine (touches_requestSigned _ _ _ _).bind (fun response => ?_)
  refine (Prog.touches_require _ _).bind (fun _ => ?_)
  cases response.json with
  | none => exact Prog.touches_fail _
  | some j => exact Prog.touches_pure _

end Federation

namespace Db

theorem Attachments.touches_insertAttachment (a : AttachmentRow) :
    Touches [.attachments] (Attachments.insertAttachment a) := by
  apply touches_write
  intro n hn s
  cases n <;> first | rfl | simp at hn

theorem ReadStates.touches_incrementMentionCount (userId channelId : String) :
    Touches [.readStates] (ReadStates.incrementMentionCount userId channelId) := by
  apply touches_write
  intro n hn s
  cases n <;> first | rfl | simp at hn

end Db

namespace Routes.Reactions

theorem touches_reactionEvent (spaceId eventType : String) (data : List (String × Json)) :
    Touches [.gatewayTx] (reactionEvent spaceId eventType data) :=
  touches_broadcastSpace _ _ _ _

theorem touches_fanoutReaction (spaceId eventType channelId messageId userId emoji : String) :
    Touches [.federationOutbox, .snowflake]
      (fanoutReaction spaceId eventType channelId messageId userId emoji) := by
  refine (Prog.touches_get _).bind (fun fed => ?_)
  cases fed with
  | none => exact Prog.touches_pure _
  | some fed => exact (touches_fanoutIfSpace _ _ _).attempt.bind (fun _ => Prog.touches_pure _)

theorem touches_forwardToHome (home channelId messageId emoji : String) (auth : AuthUser)
    (remove : Bool) (reply : Except AppError Response) :
    Touches [.requests] (forwardToHome home channelId messageId emoji auth remove reply) := by
  refine (touches_lift _).bind (fun actor => ?_)
  exact (touches_forwardReaction _ _ _ _ _ _ _).bind (fun _ => Prog.touches_pure _)

theorem touches_requireNotTimedOutIn (spaceId : String) (auth : AuthUser) :
    Touches slots (requireNotTimedOutIn spaceId auth) := by
  refine Prog.touches_ite (Prog.touches_pure _) ?_
  refine Prog.touches_ite (Prog.touches_pure _) ?_
  refine (touches_appQuery _).bind (fun member => ?_)
  refine (Prog.touches_get _).bind (fun ext => ?_)
  exact (Prog.touches_get _).bind (fun now => Prog.touches_require _ _)

end Routes.Reactions

namespace Routes.Messages

theorem touches_fanoutChange (channel : ChannelRow) (eventType : String)
    (payload : String → Json) :
    Touches [.federationOutbox, .snowflake] (fanoutChange channel eventType payload) := by
  refine (Prog.touches_get _).bind (fun fed => ?_)
  cases fed with
  | none => exact Prog.touches_pure _
  | some fed => exact (touches_fanoutIfSpace _ _ _).attempt.bind (fun _ => Prog.touches_pure _)

theorem touches_forwardUpdate (home messageId : String) (auth : AuthUser)
    (input : Db.Messages.UpdateMessage) (reply : Except AppError Response) :
    Touches [.requests] (forwardUpdate home messageId auth input reply) := by
  unfold forwardUpdate
  cases input.content with
  | none => exact Prog.touches_fail _
  | some content =>
    refine (touches_lift _).bind (fun actor => ?_)
    exact (touches_forwardEdit _ _ _ _ _).bind (fun _ => Prog.touches_pure _)

theorem touches_forwardDeletion (home messageId : String) (auth : AuthUser)
    (reply : Except AppError Response) :
    Touches [.requests] (forwardDeletion home messageId auth reply) := by
  refine (touches_lift _).bind (fun actor => ?_)
  exact (touches_forwardDelete _ _ _ _).bind (fun _ => Prog.touches_pure _)

theorem touches_applyMentionCounts (msg : MessageRow) :
    Touches [.readStates] (applyMentionCounts msg) := by
  refine Prog.touches_forEach (fun uid _ => Prog.touches_ite (Prog.touches_pure _) ?_)
  exact (ReadStates.touches_incrementMentionCount _ _).attempt.bind (fun _ => Prog.touches_pure _)

theorem touches_broadcastTo (channel : ChannelRow) (targets : Option (List String))
    (eventType : String) (data : Json) :
    Touches [.gatewayTx] (broadcastTo channel targets eventType data) :=
  touches_send _

theorem touches_directTargets (channel : ChannelRow) :
    Touches slots (directTargets channel) := by
  refine Prog.touches_ite ?_ (Prog.touches_pure _)
  exact (touches_found? _).bind (fun _ => Prog.touches_pure _)

theorem touches_broadcastThreadParent (channel : ChannelRow) (threadId : String) :
    Touches [.gatewayTx] (broadcastThreadParent channel threadId) := by
  refine (touches_found? _).bind (fun parent => ?_)
  cases parent with
  | none => exact Prog.touches_pure _
  | some parent =>
    refine (touches_found? _).bind (fun replyCount => ?_)
    exact (touches_found? _).bind (fun attachments => touches_broadcastTo _ _ _ _)

theorem touches_fanoutDm (channel : ChannelRow) (auth : AuthUser) (msg : MessageRow) :
    Touches [.federationOutbox, .snowflake] (fanoutDm channel auth msg) := by
  refine (Prog.touches_get _).bind (fun fed => ?_)
  cases fed with
  | none => exact Prog.touches_pure _
  | some fed =>
    refine (touches_found? _).bind (fun author => ?_)
    cases author with
    | none => exact Prog.touches_pure _
    | some author =>
      exact (Dm.touches_fanoutDmMessage _ _).attempt.bind (fun _ => Prog.touches_pure _)

theorem touches_whenSome {α : Type} {value : Option α} {act : α → App Unit}
    (h : ∀ a, Touches slots (act a)) : Touches slots (whenSome value act) := by
  cases value with
  | none => exact Prog.touches_pure _
  | some a => exact h a

theorem touches_fanoutCreated (channel : ChannelRow) (auth : AuthUser) (msg : MessageRow) :
    Touches [.federationOutbox, .snowflake] (fanoutCreated channel auth msg) := by
  refine (touches_fanoutMessageCreate _).attempt.bind (fun _ => ?_)
  exact Prog.touches_ite (touches_fanoutDm _ _ _) (Prog.touches_pure _)

theorem touches_checkContent (input : Db.Messages.CreateMessage) :
    Touches slots (checkContent input) := by
  refine (Prog.touches_require _ _).bind (fun _ => (Prog.touches_require _ _).bind (fun _ => ?_))
  exact (Prog.touches_require _ _).bind (fun _ => Prog.touches_require _ _)

variable (up : Uploads)

theorem touches_enqueue (channel : ChannelRow) (messageId authorId : String)
    (files : List UploadFile) :
    Touches [.automodUploads, .snowflake] (up.enqueue channel messageId authorId files) := by
  have hids : Touches [.snowflake] (Uploads.enqueue.generateIds files) := by
    induction files with
    | nil => exact Prog.touches_pure _
    | cons file files ih =>
      exact touches_generateId.bind (fun id => ih.bind (fun ids => Prog.touches_pure _))
  refine (hids.mono (by decide)).bind (fun ids => ?_)
  refine (touches_liftExcept _).bind (fun _ => ?_)
  refine (Prog.touches_get _).bind (fun now => ?_)
  refine Prog.Touches.bind (touches_update ?_) (fun _ => Prog.touches_pure _)
  intro n hn s
  cases n <;> first | rfl | simp at hn

theorem touches_saveFile (channelId messageId : String) (file : UploadFile) :
    Touches [.attachments, .snowflake, .files] (up.saveFile channelId messageId file) := by
  refine (touches_generateId.mono (by decide)).bind (fun attachmentId => ?_)
  refine ((Storage.touches_saveAttachment _ _ _ _ _ _).mono (by decide)).bind (fun url => ?_)
  refine ((Attachments.touches_insertAttachment _).mono (by decide)).bind (fun _ => ?_)
  exact Prog.touches_pure _

theorem touches_saveFiles (channelId messageId : String) (files : List UploadFile) :
    Touches [.attachments, .snowflake, .files] (up.saveFiles channelId messageId files) := by
  induction files with
  | nil => exact Prog.touches_pure _
  | cons file files ih =>
    refine (touches_saveFile up _ _ _).bind (fun attachment => ?_)
    exact ih.bind (fun attachments => Prog.touches_pure _)

end Routes.Messages

end Vokusz
