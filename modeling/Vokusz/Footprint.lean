import Vokusz.Lib.Footprint
import Vokusz.State

namespace Vokusz

open Lib (Prog)

inductive Slot where
  | users | spaces | channels | roles | members | memberRoles | messages | reactions
  | attachments | attachmentDeletions | automodUploads | automodPolicies | automodHashes | reports
  | pinnedMessages | messageCooldowns | dmParticipants
  | readStates | channelMutes | invites | permissionOverwrites | bans | emojis | emojiRoles
  | relationships | pluginSessions | federationPeers | federationInboxDedup | federationOutbox
  | federation | ext | clock | snowflake | gatewayTx | requests | presences | maxAvatarSize
  | storagePath | files
  deriving DecidableEq, Repr

def Slot.Value : Slot → Type
  | .users => List Db.User
  | .spaces => List Db.SpaceRow
  | .channels => List Db.ChannelRow
  | .roles => List Db.RoleRow
  | .members => List Db.MemberRow
  | .memberRoles => List Db.MemberRole
  | .messages => List Db.MessageRow
  | .reactions => List Db.ReactionRow
  | .attachments => List Db.AttachmentRow
  | .attachmentDeletions => List String
  | .automodUploads => List Db.AutomodUpload
  | .automodPolicies => List Db.AutomodPolicy
  | .automodHashes => List Db.AutomodHash
  | .reports => List Db.ReportRow
  | .pinnedMessages => List Db.PinnedMessage
  | .messageCooldowns => List Db.MessageCooldown
  | .dmParticipants => List Db.DmParticipant
  | .readStates => List Db.ReadState
  | .channelMutes => List Db.ChannelMute
  | .invites => List Db.Invite
  | .permissionOverwrites => List Db.PermissionOverwrite
  | .bans => List Db.BanRow
  | .emojis => List Db.EmojiRow
  | .emojiRoles => List Db.EmojiRole
  | .relationships => List Db.Relationship
  | .pluginSessions => List Db.PluginSession
  | .federationPeers => List Db.Peer
  | .federationInboxDedup => List Db.DedupRow
  | .federationOutbox => List Db.OutboxItem
  | .federation => Option FederationContext
  | .ext => Externals
  | .clock => Nat
  | .snowflake => Nat
  | .gatewayTx => List GatewayBroadcast
  | .requests => List SignedRequest
  | .presences => List (String × String)
  | .maxAvatarSize => Nat
  | .storagePath => List String
  | .files => List (List String)

namespace AppState

def slot : (n : Slot) → AppState → n.Value
  | .users => fun s => s.db.users
  | .spaces => fun s => s.db.spaces
  | .channels => fun s => s.db.channels
  | .roles => fun s => s.db.roles
  | .members => fun s => s.db.members
  | .memberRoles => fun s => s.db.memberRoles
  | .messages => fun s => s.db.messages
  | .reactions => fun s => s.db.reactions
  | .attachments => fun s => s.db.attachments
  | .attachmentDeletions => fun s => s.db.attachmentDeletions
  | .automodUploads => fun s => s.db.automodUploads
  | .automodPolicies => fun s => s.db.automodPolicies
  | .automodHashes => fun s => s.db.automodHashes
  | .reports => fun s => s.db.reports
  | .pinnedMessages => fun s => s.db.pinnedMessages
  | .messageCooldowns => fun s => s.db.messageCooldowns
  | .dmParticipants => fun s => s.db.dmParticipants
  | .readStates => fun s => s.db.readStates
  | .channelMutes => fun s => s.db.channelMutes
  | .invites => fun s => s.db.invites
  | .permissionOverwrites => fun s => s.db.permissionOverwrites
  | .bans => fun s => s.db.bans
  | .emojis => fun s => s.db.emojis
  | .emojiRoles => fun s => s.db.emojiRoles
  | .relationships => fun s => s.db.relationships
  | .pluginSessions => fun s => s.db.pluginSessions
  | .federationPeers => fun s => s.db.federationPeers
  | .federationInboxDedup => fun s => s.db.federationInboxDedup
  | .federationOutbox => fun s => s.db.federationOutbox
  | .federation => AppState.federation
  | .ext => AppState.ext
  | .clock => AppState.clock
  | .snowflake => AppState.snowflake
  | .gatewayTx => AppState.gatewayTx
  | .requests => AppState.requests
  | .presences => AppState.presences
  | .maxAvatarSize => AppState.maxAvatarSize
  | .storagePath => AppState.storagePath
  | .files => AppState.files

end AppState

namespace App

variable {α : Type} {slots : List Slot}

abbrev Touches (slots : List Slot) (p : App α) : Prop := Prog.Touches AppState.slot slots p

def Confined (slots : List Slot) (f : Db.Tables → Db.Tables) : Prop :=
  ∀ n, n ∉ slots → ∀ s : AppState, (s.withDb (f s.db)).slot n = s.slot n

theorem touches_lift (q : Query α) : Touches slots (MonadLiftT.monadLift q : App α) :=
  fun _ _ => preserves_lift q

theorem touches_appQuery (q : Query α) : Touches slots (query q) := fun _ _ => preserves_query q

theorem touches_liftExcept (r : Except AppError α) :
    Touches slots (MonadLiftT.monadLift r : App α) :=
  fun _ _ => preserves_liftExcept r

theorem touches_found? (q : Query α) : Touches slots (found? q) :=
  fun _ _ => preserves_found? q

theorem touches_write {check : Db.Tables → Option AppError} {f : Db.Tables → Db.Tables}
    (h : Confined slots f) : Touches slots (write check f) :=
  fun n hn => preserves_write (h n hn)

theorem touches_update {f : Db.Tables → Db.Tables} (h : Confined slots f) :
    Touches slots (update f) :=
  touches_write h

theorem touches_writeCounted {check : Db.Tables → Option AppError} {affected : Db.Tables → Bool}
    {f : Db.Tables → Db.Tables} (h : Confined slots f) :
    Touches slots (writeCounted check affected f) :=
  fun n hn => preserves_writeCounted (h n hn)

theorem touches_generateId : Touches [.snowflake] generateId := by
  intro n hn
  apply preserves_generateId
  intro s m
  cases n <;> first | rfl | simp at hn

theorem touches_send (b : GatewayBroadcast) : Touches [.gatewayTx] (send b) := by
  apply Prog.touches_modify
  intro n hn s
  cases n <;> first | rfl | simp at hn

end App

end Vokusz
