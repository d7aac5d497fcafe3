import Vokusz.Db.Federation
import Vokusz.Footprint

namespace Vokusz.Db

open App
open Lib (Prog)

variable {channelId messageId spaceId userId : String}

namespace Users

theorem touches_upsertRemoteUser (id origin handle : String) (displayName avatar : Option String) :
    Touches [.users] (upsertRemoteUser id origin handle displayName avatar) := by
  refine Prog.Touches.bind (touches_write ?_) (fun _ => touches_lift _)
  intro n hn s
  cases n <;> first | rfl | simp at hn

theorem touches_ensureRemoteUser (id origin handle : String) (displayName avatar : Option String) :
    Touches [.users] (ensureRemoteUser id origin handle displayName avatar) := by
  apply touches_write
  intro n hn s
  cases n <;> first | rfl | simp at hn

end Users

namespace Messages

theorem touches_insertRemoteMessage (msg : RemoteMessageInsert) :
    Touches [.messages, .channels] (insertRemoteMessage msg) := by
  refine Prog.Touches.bind (touches_writeCounted ?_) (fun stored => ?_)
  · intro n hn s
    cases n <;> first | rfl | simp at hn
  · refine Prog.touches_ite ?_ (Prog.touches_pure _)
    refine Prog.Touches.bind (touches_update ?_) (fun _ => ?_)
    · intro n hn s
      cases n <;> first | rfl | simp at hn
    · exact (touches_lift _).bind (fun _ => Prog.touches_pure _)

theorem touches_assignColumn {α : Type} (value : Option α) (set : α → MessageRow → MessageRow) :
    Touches [.messages] (assignColumn value messageId set) := by
  cases value with
  | none => exact Prog.touches_pure _
  | some v =>
    apply touches_update
    intro n hn s
    cases n <;> first | rfl | simp at hn

theorem touches_editRemoteMessage (content editedAt : Option String) :
    Touches [.messages] (editRemoteMessage messageId content editedAt) :=
  (touches_assignColumn _ _).bind (fun _ => touches_assignColumn _ _)

theorem touches_updateMessage (input : UpdateMessage) :
    Touches [.messages] (updateMessage messageId input) := by
  refine (Prog.touches_get _).bind (fun now => ?_)
  refine (touches_assignColumn _ _).bind (fun _ => ?_)
  refine (touches_assignColumn _ _).bind (fun _ => ?_)
  exact (touches_assignColumn _ _).bind (fun _ => touches_lift _)

theorem touches_deleteMessage :
    Touches [.messages, .reactions, .attachments, .attachmentDeletions, .pinnedMessages]
      (deleteMessage messageId) := by
  apply touches_update
  intro n hn s
  cases n <;> first | rfl | simp at hn

theorem touches_changeReaction (add : Bool) (emoji : String) :
    Touches [.reactions] (changeReaction add messageId userId emoji) := by
  refine Prog.touches_ite (touches_write ?_) (touches_update ?_)
  all_goals
    intro n hn s
    cases n <;> first | rfl | simp at hn

theorem confined_insertMessage (row : MessageRow) (cooldownMs now : Int) :
    Confined [.messages, .messageCooldowns, .channels]
      (fun db => (insertMessage row cooldownMs now db).2) := by
  intro n hn s
  dsimp only
  rcases insertMessage_cases row cooldownMs now s.db with ⟨e, he⟩ | ⟨hok, _⟩
  · rw [he]
    rfl
  · rw [hok]
    unfold storeMessage
    dsimp only
    split
    all_goals cases n <;> first | rfl | simp at hn

theorem touches_createMessage (authorId : String) (inSpace : Option String)
    (input : CreateMessage) (cooldownMs : Int) :
    Touches [.messages, .messageCooldowns, .channels, .snowflake]
      (createMessage channelId authorId inSpace input cooldownMs) := by
  intro n hn
  have hslots : n ∉ [Slot.messages, .messageCooldowns, .channels] := by
    simp only [List.mem_cons, not_or] at hn ⊢
    exact ⟨hn.1, hn.2.1, hn.2.2.1, hn.2.2.2.2⟩
  refine preserves_createMessage _ _ _ _ _ ?_ ?_
  · exact fun s row cooldown now => confined_insertMessage row cooldown now n hslots s
  · intro s m
    cases n <;> first | rfl | simp at hn

end Messages

namespace Channels

theorem touches_deleteChannel :
    Touches [.messages, .reactions, .attachments, .attachmentDeletions, .pinnedMessages,
      .channels, .dmParticipants, .permissionOverwrites, .messageCooldowns] (deleteChannel channelId) := by
  apply touches_update
  intro n hn s
  cases n <;> first | rfl | simp at hn

end Channels

namespace DmParticipants

theorem touches_addParticipant :
    Touches [.dmParticipants] (addParticipant channelId userId) := by
  apply touches_write
  intro n hn s
  cases n <;> first | rfl | simp at hn

theorem touches_insertDmChannel (id channelType ownerId : String) :
    Touches [.channels] (insertDmChannel id channelType ownerId) := by
  apply touches_write
  intro n hn s
  cases n <;> first | rfl | simp at hn

theorem touches_createDmChannel (creatorId : String) (recipientIds : List String) :
    Touches [.snowflake, .channels, .dmParticipants] (createDmChannel creatorId recipientIds) := by
  refine (Prog.touches_require _ _).bind (fun _ => ?_)
  refine (touches_lift _).bind (fun existing => ?_)
  cases existing with
  | some channel =>
    exact (touches_addParticipant.mono (by decide)).bind (fun _ => Prog.touches_pure _)
  | none =>
    refine (touches_generateId.mono (by decide)).bind (fun id => ?_)
    refine ((touches_insertDmChannel _ _ _).mono (by decide)).bind (fun _ => ?_)
    refine (touches_addParticipant.mono (by decide)).bind (fun _ => ?_)
    refine (Prog.touches_forEach (fun rid _ => ?_)).bind (fun _ => touches_lift _)
    exact touches_addParticipant.mono (by decide)

end DmParticipants

namespace Members

theorem touches_removeMember : Touches [.members, .memberRoles] (removeMember spaceId userId) := by
  apply touches_update
  intro n hn s
  cases n <;> first | rfl | simp at hn

end Members

namespace Emojis

theorem touches_upsertRemoteEmoji (id origin name : String) (animated : Bool)
    (imageUrl : Option String) (roleIds : List String) :
    Touches [.emojis, .emojiRoles]
      (upsertRemoteEmoji id origin spaceId name animated imageUrl roleIds) := by
  refine Prog.Touches.bind (touches_write ?_) (fun _ => ?_)
  · intro n hn s
    cases n <;> first | rfl | simp at hn
  · refine Prog.Touches.bind (touches_update ?_) (fun _ => ?_)
    · intro n hn s
      cases n <;> first | rfl | simp at hn
    · apply Prog.touches_forEach
      intro roleId _
      refine (touches_appQuery _).bind (fun found => ?_)
      refine Prog.touches_ite (touches_update ?_) (Prog.touches_pure _)
      intro n hn s
      cases n <;> first | rfl | simp at hn

theorem touches_deleteEmoji (emojiId : String) :
    Touches [.emojis, .emojiRoles] (deleteEmoji emojiId) := by
  refine (touches_appQuery _).bind (fun imagePath => ?_)
  refine Prog.Touches.bind (touches_update ?_) (fun _ => Prog.touches_pure _)
  intro n hn s
  cases n <;> first | rfl | simp at hn

end Emojis

namespace Federation

theorem touches_dedupInsert (eventId origin now : String) :
    Touches [.federationInboxDedup] (dedupInsert eventId origin now) := by
  apply touches_writeCounted
  intro n hn s
  cases n <;> first | rfl | simp at hn

theorem touches_dedupFirstSeen (eventId origin : String) :
    Touches [.federationInboxDedup] (dedupFirstSeen eventId origin) :=
  (Prog.touches_get _).bind (fun _ => touches_dedupInsert _ _ _)

theorem touches_dedupRemove (eventId origin : String) :
    Touches [.federationInboxDedup] (dedupRemove eventId origin) := by
  apply touches_update
  intro n hn s
  cases n <;> first | rfl | simp at hn

theorem touches_upsertRemoteSpace (id origin name slug ownerId : String) :
    Touches [.spaces] (upsertRemoteSpace id origin name slug ownerId) := by
  apply touches_write
  intro n hn s
  cases n <;> first | rfl | simp at hn

theorem touches_upsertRemoteChannel (id origin name channelType : String) (position : Int) :
    Touches [.channels] (upsertRemoteChannel id origin spaceId name channelType position) := by
  apply touches_write
  intro n hn s
  cases n <;> first | rfl | simp at hn

theorem touches_upsertRemoteRole (id origin name : String) (position : Int)
    (permissions : List String) :
    Touches [.roles] (upsertRemoteRole id origin spaceId name position permissions) := by
  apply touches_write
  intro n hn s
  cases n <;> first | rfl | simp at hn

theorem touches_addMemberWithOrigin (origin : Option String) :
    Touches [.members] (addMemberWithOrigin spaceId userId origin) := by
  apply touches_write
  intro n hn s
  cases n <;> first | rfl | simp at hn

theorem touches_upsertRemoteDmChannel (id origin channelType ownerId : String) :
    Touches [.channels] (upsertRemoteDmChannel id origin channelType ownerId) := by
  apply touches_write
  intro n hn s
  cases n <;> first | rfl | simp at hn

end Federation

end Vokusz.Db
