import Vokusz.Automod.Rules
import Vokusz.Json

namespace Vokusz.Db

structure User where
  id : String
  username : String
  displayName : Option String := none
  avatar : Option String := none
  banner : Option String := none
  accentColor : Option Int := none
  bio : Option String := none
  bot : Bool := false
  system : Bool := false
  isAdmin : Bool := false
  disabled : Bool := false
  createdAt : String := ""
  origin : Option String := none
  deriving DecidableEq, Repr

structure SpaceRow where
  id : String
  name : String
  slug : String := ""
  description : Option String := none
  icon : Option String := none
  banner : Option String := none
  ownerId : String
  isPublic : Bool := false
  allowGuestAccess : Bool := true
  origin : Option String := none
  federationEnabled : Bool := false
  deriving DecidableEq, Repr

structure ChannelRow where
  id : String
  channelType : String := "text"
  spaceId : Option String := none
  name : String := ""
  description : String := ""
  topic : Option String := none
  position : Int := 0
  parentId : Option String := none
  nsfw : Bool := false
  rateLimit : Int := 0
  bitrate : Option Int := none
  userLimit : Option Int := none
  ownerId : Option String := none
  lastMessageId : Option String := none
  archived : Bool := false
  autoArchiveAfter : Option Int := none
  allowAnonymousRead : Bool := false
  createdAt : String := ""
  origin : Option String := none
  deriving DecidableEq, Repr

structure RoleRow where
  id : String
  spaceId : String
  name : String
  position : Int := 0
  permissions : List String := []
  color : Int := 0
  hoist : Bool := false
  icon : Option String := none
  managed : Bool := false
  mentionable : Bool := false
  origin : Option String := none
  deriving DecidableEq, Repr

structure MemberRow where
  userId : String
  spaceId : String
  nickname : Option String := none
  avatar : Option String := none
  deaf : Bool := false
  mute : Bool := false
  joinedAt : String := ""
  timedOutUntil : Option String := none
  origin : Option String := none
  deriving DecidableEq, Repr

structure MemberRole where
  userId : String
  spaceId : String
  roleId : String
  deriving DecidableEq, Repr

structure MessageRow where
  id : String
  channelId : String
  spaceId : Option String := none
  authorId : String
  content : String
  messageType : String := "default"
  createdAt : String := ""
  editedAt : Option String := none
  tts : Bool := false
  pinned : Bool := false
  mentionEveryone : Bool := false
  mentions : List String := []
  mentionRoles : List String := []
  embeds : Json := .arr []
  replyTo : Option String := none
  flags : Int := 0
  webhookId : Option String := none
  threadId : Option String := none
  title : Option String := none
  origin : Option String := none
  deriving DecidableEq, Repr

structure ReactionRow where
  messageId : String
  userId : String
  emojiId : Option String := none
  emojiName : String
  deriving DecidableEq, Repr

structure AttachmentRow where
  id : String
  messageId : String
  filename : String
  description : Option String := none
  contentType : Option String := none
  size : Int := 0
  url : String
  width : Option Int := none
  height : Option Int := none
  contentHash : Option String := none
  deriving DecidableEq, Repr

structure AutomodUpload where
  id : String
  messageId : String
  channelId : String
  spaceId : Option String
  authorId : String
  filename : String
  contentType : String
  size : Int
  hash : String
  status : String
  reason : String := ""
  result : Option Automod.ScanResult := none
  ruleId : Option String := none
  createdAt : Nat
  expiresAt : Nat
  nextAttempt : Nat
  attempts : Nat := 0
  fileRemoved : Bool := false
  deriving DecidableEq, Repr

structure AutomodPolicy where
  scopeId : String
  policy : Automod.Policy
  deriving DecidableEq, Repr

structure AutomodHash where
  scopeId : String
  hash : String
  reason : String
  addedBy : Option String := none
  createdAt : Option Nat := none
  deriving DecidableEq, Repr

structure ReportRow where
  id : String
  spaceId : Option String
  reporterId : String
  targetType : String
  targetId : String
  channelId : Option String
  category : String
  description : Option String
  status : String := "pending"
  actionedBy : Option String := none
  actionTaken : Option String := none
  createdAt : String
  resolvedAt : Option String := none
  deriving DecidableEq, Repr

structure PinnedMessage where
  channelId : String
  messageId : String
  deriving DecidableEq, Repr

structure MessageCooldown where
  channelId : String
  userId : String
  lastSentMs : Int
  deriving DecidableEq, Repr

structure DmParticipant where
  channelId : String
  userId : String
  deriving DecidableEq, Repr

structure ReadState where
  userId : String
  channelId : String
  lastReadMessageId : Option String := none
  mentionCount : Int := 0
  deriving DecidableEq, Repr

structure ChannelMute where
  userId : String
  channelId : String
  deriving DecidableEq, Repr

structure Invite where
  code : String
  spaceId : String
  channelId : Option String := none
  inviterId : Option String := none
  maxUses : Option Int := none
  uses : Int := 0
  maxAge : Option Int := none
  temporary : Bool := false
  createdAt : String := ""
  expiresAt : Option String := none
  deriving DecidableEq, Repr

structure PermissionOverwrite where
  id : String
  channelId : String
  overwriteType : String
  allow : List String := []
  deny : List String := []
  deriving DecidableEq, Repr

structure BanRow where
  userId : String
  spaceId : String
  reason : Option String := none
  bannedBy : Option String := none
  createdAt : String := ""
  deriving DecidableEq, Repr

structure EmojiRow where
  id : String
  spaceId : String
  name : String
  animated : Bool := false
  imagePath : Option String := none
  creatorId : Option String := none
  origin : Option String := none
  deriving DecidableEq, Repr

structure EmojiRole where
  emojiId : String
  roleId : String
  deriving DecidableEq, Repr

structure Relationship where
  userId : String
  targetUserId : String
  kind : Nat
  createdAt : String := ""
  deriving DecidableEq, Repr

structure Peer where
  domain : String
  publicKey : String
  inboxUrl : String
  trustState : String
  deriving DecidableEq, Repr

structure DedupRow where
  eventId : String
  origin : String
  receivedAt : String
  deriving DecidableEq, Repr

structure OutboxItem where
  id : String
  targetDomain : String
  payload : Json
  attempts : Nat := 0
  nextAttemptAt : Nat
  deriving DecidableEq, Repr

structure PluginSession where
  id : String
  channelId : String
  deriving DecidableEq, Repr

structure Tables where
  users : List User := []
  spaces : List SpaceRow := []
  channels : List ChannelRow := []
  roles : List RoleRow := []
  members : List MemberRow := []
  memberRoles : List MemberRole := []
  messages : List MessageRow := []
  reactions : List ReactionRow := []
  attachments : List AttachmentRow := []
  attachmentDeletions : List String := []
  automodUploads : List AutomodUpload := []
  automodPolicies : List AutomodPolicy := []
  automodHashes : List AutomodHash := []
  reports : List ReportRow := []
  pinnedMessages : List PinnedMessage := []
  messageCooldowns : List MessageCooldown := []
  dmParticipants : List DmParticipant := []
  readStates : List ReadState := []
  channelMutes : List ChannelMute := []
  invites : List Invite := []
  permissionOverwrites : List PermissionOverwrite := []
  bans : List BanRow := []
  emojis : List EmojiRow := []
  emojiRoles : List EmojiRole := []
  relationships : List Relationship := []
  pluginSessions : List PluginSession := []
  federationPeers : List Peer := []
  federationInboxDedup : List DedupRow := []
  federationOutbox : List OutboxItem := []

end Vokusz.Db
