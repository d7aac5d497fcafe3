import Vokusz.Federation.Apply
import Vokusz.Federation.Outbound

namespace Vokusz.Federation.Handshake

open Db Mapping
open Lib (Prog)

def joinPath : String := "/federation/v1/join"

def snapshotMessagesPerChannel : Nat := 50

structure SnapshotSpace where
  id : String
  name : String
  slug : String
  ownerId : String
  deriving DecidableEq, Repr

structure SnapshotChannel where
  id : String
  spaceId : Option String
  name : Option String
  channelType : String
  position : Int
  deriving DecidableEq, Repr

structure SnapshotRole where
  id : String
  spaceId : String
  name : String
  position : Int
  permissions : String
  deriving DecidableEq, Repr

structure SnapshotMessage where
  id : String
  channelId : String
  spaceId : Option String
  author : RemoteUserRef
  content : String
  mentionEveryone : Bool
  mentions : List String
  embeds : Json
  replyTo : Option String
  createdAt : String
  deriving DecidableEq, Repr

structure SnapshotEmoji where
  id : String
  name : String
  animated : Bool
  imageUrl : Option String
  roleIds : List String
  deriving DecidableEq, Repr

structure Snapshot where
  space : SnapshotSpace
  channels : List SnapshotChannel := []
  roles : List SnapshotRole := []
  members : List RemoteUserRef := []
  messages : List SnapshotMessage := []
  emojis : List SnapshotEmoji := []
  deriving DecidableEq, Repr

def SnapshotSpace.ofJson (j : Json) : Option SnapshotSpace := do
  let id ← j.reqStr "id"
  let name ← j.reqStr "name"
  let slug ← j.reqStr "slug"
  let ownerId ← j.reqStr "owner_id"
  return { id, name, slug, ownerId }

def SnapshotSpace.toJson (s : SnapshotSpace) : Json :=
  .obj [("id", .str s.id), ("name", .str s.name), ("slug", .str s.slug),
    ("owner_id", .str s.ownerId)]

def SnapshotChannel.ofJson (j : Json) : Option SnapshotChannel := do
  let id ← j.reqStr "id"
  let spaceId ← j.optStr "space_id"
  let name ← j.optStr "name"
  let channelType ← j.reqStr "type"
  let position ← j.intOr 0 "position"
  return { id, spaceId, name, channelType, position }

def SnapshotChannel.toJson (c : SnapshotChannel) : Json :=
  .obj [("id", .str c.id), ("space_id", .ofOption c.spaceId), ("name", .ofOption c.name),
    ("type", .str c.channelType), ("position", .num c.position)]

def SnapshotRole.ofJson (j : Json) : Option SnapshotRole := do
  let id ← j.reqStr "id"
  let spaceId ← j.reqStr "space_id"
  let name ← j.reqStr "name"
  let position ← j.intOr 0 "position"
  let permissions ← j.reqStr "permissions"
  return { id, spaceId, name, position, permissions }

def SnapshotRole.toJson (r : SnapshotRole) : Json :=
  .obj [("id", .str r.id), ("space_id", .str r.spaceId), ("name", .str r.name),
    ("position", .num r.position), ("permissions", .str r.permissions)]

def SnapshotMessage.ofJson (j : Json) : Option SnapshotMessage := do
  let id ← j.reqStr "id"
  let channelId ← j.reqStr "channel_id"
  let spaceId ← j.optStr "space_id"
  let author ← (j.field? "author").bind RemoteUserRef.ofJson
  let content ← j.reqStr "content"
  let mentionEveryone ← j.boolOr false "mention_everyone"
  let mentions ← j.listOr Json.asStr? "mentions"
  let replyTo ← j.optStr "reply_to"
  let createdAt ← j.reqStr "created_at"
  return { id, channelId, spaceId, author, content, mentionEveryone, mentions,
           embeds := (j.field? "embeds").getD .null, replyTo, createdAt }

def SnapshotMessage.toJson (m : SnapshotMessage) : Json :=
  .obj [("id", .str m.id), ("channel_id", .str m.channelId), ("space_id", .ofOption m.spaceId),
    ("author", m.author.toJson), ("content", .str m.content),
    ("mention_everyone", .bool m.mentionEveryone), ("mentions", .strings m.mentions),
    ("embeds", m.embeds), ("reply_to", .ofOption m.replyTo), ("created_at", .str m.createdAt)]

def SnapshotEmoji.ofJson (j : Json) : Option SnapshotEmoji := do
  let id ← j.reqStr "id"
  let name ← j.reqStr "name"
  let animated ← j.boolOr false "animated"
  let imageUrl ← j.optStr "image_url"
  let roleIds ← j.listOr Json.asStr? "role_ids"
  return { id, name, animated, imageUrl, roleIds }

def SnapshotEmoji.toJson (spaceId : String) (e : SnapshotEmoji) : Json :=
  .obj [("id", .str e.id), ("space_id", .str spaceId), ("name", .str e.name),
    ("animated", .bool e.animated), ("image_url", .ofOption e.imageUrl),
    ("role_ids", .strings e.roleIds)]

def Snapshot.ofJson (j : Json) : Option Snapshot := do
  let space ← (j.field? "space").bind SnapshotSpace.ofJson
  let channels ← j.listOr SnapshotChannel.ofJson "channels"
  let roles ← j.listOr SnapshotRole.ofJson "roles"
  let members ← j.listOr RemoteUserRef.ofJson "members"
  let messages ← j.listOr SnapshotMessage.ofJson "messages"
  let emojis ← j.listOr SnapshotEmoji.ofJson "emojis"
  return { space, channels, roles, members, messages, emojis }

def Snapshot.toJson (s : Snapshot) : Json :=
  .obj [("space", s.space.toJson), ("channels", .arr (s.channels.map SnapshotChannel.toJson)),
    ("roles", .arr (s.roles.map SnapshotRole.toJson)),
    ("members", .arr (s.members.map RemoteUserRef.toJson)),
    ("messages", .arr (s.messages.map SnapshotMessage.toJson)),
    ("emojis", .arr (s.emojis.map (SnapshotEmoji.toJson s.space.id)))]

structure JoinRequest where
  user : RemoteUserRef
  spaceId : String
  deriving DecidableEq, Repr

def snapshotChannel (ourDomain : String) (c : ChannelRow) : SnapshotChannel :=
  { id := qualify c.id ourDomain
    spaceId := c.spaceId.map (fun sid => qualify sid ourDomain)
    name := some c.name
    channelType := c.channelType
    position := c.position }

def snapshotRole (ourDomain : String) (r : RoleRow) : SnapshotRole :=
  { id := qualify r.id ourDomain
    spaceId := qualify r.spaceId ourDomain
    name := r.name
    position := r.position
    permissions := (Json.strings r.permissions).toText }

def snapshotEmoji (ourDomain publicUrl : String) (e : Emojis.Emoji) : SnapshotEmoji :=
  { id := qualify (e.id.getD "") ourDomain
    name := e.name
    animated := e.animated
    imageUrl := e.imageUrl.map (Outbound.absoluteCdnUrl publicUrl)
    roleIds := e.roleIds.map (fun r => qualify r ourDomain) }

def snapshotMember (ourDomain : String) (u : User) : RemoteUserRef :=
  { id := qualify u.id ourDomain
    username := some (handle u.username (u.origin.getD ourDomain))
    displayName := u.displayName
    avatar := u.avatar }

def snapshotAuthor (ourDomain : String) (author : Option User) (authorId : String) :
    RemoteUserRef :=
  let authorDomain := (author.bind User.origin).getD ourDomain
  { id := qualify authorId ourDomain
    username := author.map (fun a => handle a.username authorDomain)
    displayName := author.bind User.displayName
    avatar := author.bind User.avatar }

def snapshotMessage (db : Tables) (ourDomain : String) (m : MessageRow) : SnapshotMessage :=
  { id := qualify m.id ourDomain
    channelId := qualify m.channelId ourDomain
    spaceId := m.spaceId.map (fun sid => qualify sid ourDomain)
    author := snapshotAuthor ourDomain (Users.getUser m.authorId db).toOption m.authorId
    content := m.content
    mentionEveryone := m.mentionEveryone
    mentions := m.mentions
    embeds := m.embeds
    replyTo := m.replyTo.map (fun r => qualify r ourDomain)
    createdAt := m.createdAt }

def memberUsers (db : Tables) (spaceId : String) : List User :=
  (db.members.filter (fun m => m.spaceId = spaceId)).flatMap (fun m =>
    db.users.filter (fun u => u.id = m.userId && !u.system))

def recentMessages (db : Tables) (channels : List ChannelRow) : List MessageRow :=
  channels.flatMap (fun c =>
    ((Messages.listMessages c.id none snapshotMessagesPerChannel none db).toOption).getD [])

def buildSnapshot (ourDomain publicUrl : String) (space : SpaceRow) : Query Snapshot := do
  let channels ← Channels.listChannelsInSpace space.id
  let roles ← Roles.listRoles space.id
  let emojis ← Emojis.listEmojis space.id
  fun db => .ok
    { space :=
        { id := qualify space.id ourDomain
          name := space.name
          slug := space.slug
          ownerId := qualify space.ownerId ourDomain }
      channels := channels.map (snapshotChannel ourDomain)
      roles := roles.map (snapshotRole ourDomain)
      members := (memberUsers db space.id).map (snapshotMember ourDomain)
      messages := (recentMessages db channels).map (snapshotMessage db ourDomain)
      emojis := emojis.map (snapshotEmoji ourDomain publicUrl) }

def serveJoin (ourDomain peer : String) (join : JoinRequest) : App Snapshot := do
  let space ← Spaces.getSpaceRow join.spaceId
  let enabled ← Federation.spaceFederationEnabled join.spaceId
  Prog.require enabled (.forbidden "space is not federated")
  let ban ← App.found? (Bans.getBan join.spaceId join.user.id)
  Prog.require ban.isNone (.forbidden "user is banned from this space")
  let _ ← Users.upsertRemoteUser join.user.id peer (handle join.user.usernameOrId peer)
    join.user.displayName join.user.avatar
  Federation.addMemberWithOrigin join.spaceId join.user.id (some peer)
  let fed ← App.federation
  buildSnapshot ourDomain ((fed.map FederationContext.publicUrl).getD "") space

def handleJoin (ourDomain peer : String) (join : JoinRequest) : App Snapshot := do
  if Authority.homedOn join.user.id peer then serveJoin ourDomain peer join
  else Prog.fail (.forbidden "authority check failed")

def ownerRef (snap : Snapshot) : RemoteUserRef :=
  (snap.members.find? (fun m => m.id = snap.space.ownerId)).getD
    { id := snap.space.ownerId, username := some snap.space.ownerId }

def mirrorMember (homeDomain : String) (m : RemoteUserRef) : App Unit := do
  Authority.requireRemoteTarget m.id
  mirrorRef homeDomain m

def applySnapshotChannel (homeDomain spaceId : String) (c : SnapshotChannel) : App Unit := do
  Authority.requireHomedOn c.id homeDomain "channel"
  Federation.upsertRemoteChannel c.id homeDomain spaceId (c.name.getD "") c.channelType c.position

def applySnapshotRole (homeDomain spaceId : String) (r : SnapshotRole) : App Unit := do
  Authority.requireHomedOn r.id homeDomain "role"
  Federation.upsertRemoteRole r.id homeDomain spaceId r.name r.position
    ((Json.parseStringArray r.permissions).getD [])

def applySnapshotEmoji (homeDomain spaceId : String) (e : SnapshotEmoji) : App Unit := do
  if Authority.homedOn e.id homeDomain then
    Emojis.upsertRemoteEmoji e.id homeDomain spaceId e.name e.animated e.imageUrl e.roleIds
  else return ()

def snapshotInsert (homeDomain : String) (m : SnapshotMessage) : Messages.RemoteMessageInsert :=
  { id := m.id
    channelId := m.channelId
    spaceId := m.spaceId
    authorId := m.author.id
    content := m.content
    createdAt := m.createdAt
    mentionEveryone := m.mentionEveryone
    mentions := m.mentions
    embeds := if m.embeds.isNull then .arr [] else m.embeds
    replyTo := m.replyTo
    origin := homeDomain }

def applySnapshotMessage (homeDomain : String) (m : SnapshotMessage) : App Unit := do
  if Authority.homedOn m.id homeDomain && containsAt m.author.id then
    mirrorRef homeDomain m.author
    let _ ← Messages.insertRemoteMessage (snapshotInsert homeDomain m)
    return ()
  else return ()

def applyParsedSnapshot (homeDomain localUserId : String) (snap : Snapshot) : App String := do
  Authority.requireHomedOn snap.space.id homeDomain "space"
  Authority.requireHomedOn snap.space.ownerId homeDomain "owner"
  mirrorRef homeDomain (ownerRef snap)
  Prog.forEach snap.members (mirrorMember homeDomain)
  Federation.upsertRemoteSpace snap.space.id homeDomain snap.space.name snap.space.slug
    snap.space.ownerId
  Prog.forEach snap.channels (applySnapshotChannel homeDomain snap.space.id)
  Prog.forEach snap.roles (applySnapshotRole homeDomain snap.space.id)
  Prog.forEach snap.emojis (applySnapshotEmoji homeDomain snap.space.id)
  Prog.forEach snap.messages (applySnapshotMessage homeDomain)
  Federation.addMemberWithOrigin snap.space.id localUserId none
  return snap.space.id

def applySnapshot (homeDomain localUserId : String) (snapshot : Json) : App String := do
  let snap ← orBadRequest "snapshot" (Snapshot.ofJson snapshot)
  applyParsedSnapshot homeDomain localUserId snap

end Vokusz.Federation.Handshake
