import Vokusz.Routes.Spaces

namespace Vokusz.Db.Channels

open Lib

structure CreateChannel where
  name : String
  channelType : String := "text"
  topic : Option String := none
  parentId : Option String := none
  nsfw : Option Bool := none
  bitrate : Option Int := none
  userLimit : Option Int := none
  rateLimit : Option Int := none
  position : Option Int := none
  allowAnonymousRead : Option Bool := none
  deriving DecidableEq, Repr

structure UpdateChannel where
  name : Option String := none
  channelType : Option String := none
  topic : Option String := none
  position : Option Int := none
  parentId : Option (Option String) := none
  nsfw : Option Bool := none
  rateLimit : Option Int := none
  bitrate : Option Int := none
  userLimit : Option Int := none
  archived : Option Bool := none
  allowAnonymousRead : Option Bool := none
  deriving DecidableEq, Repr

def validateRateLimit (value : Option Int) : Query Unit :=
  Query.require (∀ v ∈ value, 0 ≤ v ∧ v ≤ 21600) (.badRequest "rate_limit must be 0–21600 seconds")

def validateParent (spaceId : Option String) (kind : String) (parentId : Option String) :
    Query Unit :=
  match parentId with
  | none => return ()
  | some parentId => do
    let parent ← getChannelRow parentId
    Query.require (kind ≠ "category" ∧ parent.channelType = "category" ∧ spaceId.isSome ∧
      parent.spaceId = spaceId) (.badRequest "parent must be a category in the same domain")

def newChannel (spaceId id : String) (input : CreateChannel) : ChannelRow :=
  { id := id
    name := input.name
    channelType := input.channelType
    spaceId := some spaceId
    topic := input.topic
    parentId := input.parentId
    nsfw := input.nsfw.getD false
    bitrate := input.bitrate
    userLimit := input.userLimit
    rateLimit := input.rateLimit.getD 0
    position := input.position.getD 0
    allowAnonymousRead := input.allowAnonymousRead.getD false }

def checkCreate (spaceId : String) (input : CreateChannel) : Query Unit := do
  validateRateLimit input.rateLimit
  validateParent (some spaceId) input.channelType input.parentId

def insertChannel (row : ChannelRow) : App Unit :=
  App.write
    (fun db => App.unique (!db.hasChannel row.id) <|>
      App.foreignKey (row.spaceId.all db.hasSpace && row.parentId.all db.hasChannel))
    (fun db => { db with channels := db.channels ++ [row] })

def createChannel (spaceId : String) (input : CreateChannel) : App ChannelRow := do
  checkCreate spaceId input
  let id ← App.generateId
  insertChannel (newChannel spaceId id input)
  getChannelRow id

def UpdateChannel.apply (input : UpdateChannel) (c : ChannelRow) : ChannelRow :=
  { c with
    name := input.name.getD c.name
    channelType := input.channelType.getD c.channelType
    topic := input.topic.orElse (fun _ => c.topic)
    parentId := input.parentId.getD c.parentId
    position := input.position.getD c.position
    nsfw := input.nsfw.getD c.nsfw
    rateLimit := input.rateLimit.getD c.rateLimit
    bitrate := input.bitrate.orElse (fun _ => c.bitrate)
    userLimit := input.userLimit.orElse (fun _ => c.userLimit)
    archived := input.archived.getD c.archived
    allowAnonymousRead := input.allowAnonymousRead.getD c.allowAnonymousRead }

def checkParentUpdate (channelId : String) (input : UpdateChannel) : Query Unit :=
  match input.parentId with
  | none => return ()
  | some parent => do
    let channel ← getChannelRow channelId
    validateParent channel.spaceId (input.channelType.getD channel.channelType) parent

def checkUpdate (channelId : String) (input : UpdateChannel) : Query Unit := do
  validateRateLimit input.rateLimit
  checkParentUpdate channelId input

-- An update that sets nothing leaves the row as it is, so the statement it saves is not modelled.
def updateRow (channelId : String) (input : UpdateChannel) : App Unit :=
  App.write
    (fun db => App.foreignKey (((input.parentId.getD none).all db.hasChannel)))
    (fun db => { db with channels := Table.update ChannelRow.id channelId input.apply db.channels })

def updateChannel (channelId : String) (input : UpdateChannel) : App ChannelRow := do
  checkUpdate channelId input
  updateRow channelId input
  getChannelRow channelId

def checkOrder (spaceId : String) : List String → List (String × Int) → Query Unit
  | _, [] => return ()
  | seen, u :: updates => do
    let channel ← getChannelRow u.1
    Query.require (channel.spaceId = some spaceId ∧ 0 ≤ u.2 ∧ u.1 ∉ seen)
      (.badRequest "invalid domain channel order")
    checkOrder spaceId (u.1 :: seen) updates

def moveRow (spaceId : String) (rows : List ChannelRow) (u : String × Int) : List ChannelRow :=
  rows.map (fun c => if c.id = u.1 ∧ c.spaceId = some spaceId then { c with position := u.2 } else c)

def reorderChannels (spaceId : String) (updates : List (String × Int)) : App Unit := do
  checkOrder spaceId [] updates
  App.update (fun db => { db with channels := updates.foldl (moveRow spaceId) db.channels })

end Vokusz.Db.Channels

namespace Vokusz.Db.DmParticipants

def removeParticipant (channelId userId : String) : App Unit :=
  App.update (fun db =>
    { db with
      dmParticipants := db.dmParticipants.filter
        (fun p => !(p.channelId = channelId && p.userId = userId)) })

def countParticipants (channelId : String) : Query Nat :=
  fun db => .ok (participantIds db channelId).length

def setOwner (channelId ownerId : String) : App Unit :=
  App.write (fun db => App.foreignKey (db.hasUser ownerId))
    (fun db =>
      { db with
        channels := Lib.Table.update ChannelRow.id channelId
          (fun c => { c with ownerId := some ownerId }) db.channels })

end Vokusz.Db.DmParticipants

namespace Vokusz.Routes.ChannelEdits

open Db Permissions Federation
open Lib (Prog)
open Db.Channels (CreateChannel UpdateChannel)

def broadcastChannel (spaceId : Option String) (targets : Option (List String)) (eventType : String)
    (data : Json) : App Unit :=
  App.send
    { spaceId := spaceId
      targetUserIds := targets
      event := gatewayEvent eventType data
      intent := "channels" }

def done : Json := .obj [("data", .null)]

def checkCreate (spaceId : String) (auth : AuthUser) (input : CreateChannel) : Query Unit := do
  requirePermission spaceId auth "manage_channels"
  Query.require (trim input.name ≠ "" ∧ (trim input.name).utf8ByteSize ≤ 100)
    (.badRequest "channel name must be between 1 and 100 characters")
  Query.require (∀ topic ∈ input.topic, topic.utf8ByteSize ≤ 1024)
    (.badRequest "topic must be at most 1024 characters")
  Query.require (∀ bitrate ∈ input.bitrate, 0 ≤ bitrate ∧ bitrate ≤ 384000)
    (.badRequest "bitrate must be between 0 and 384000")
  Query.require (∀ userLimit ∈ input.userLimit, 0 ≤ userLimit ∧ userLimit ≤ 99)
    (.badRequest "user_limit must be between 0 and 99")

def createChannel (spaceId : String) (auth : AuthUser) (input : CreateChannel) : App Json := do
  checkCreate spaceId auth input
  let channel ← Db.Channels.createChannel spaceId input
  let json ← Spaces.channelRowToJsonPub channel
  broadcastChannel (some spaceId) none "channel.create" json
  return .obj [("data", json)]

def textLike : List String := ["text", "announcement"]

def isNonDestructiveTypeChange (old new : String) : Bool := old ∈ textLike && new ∈ textLike

def requireEditable (existing : ChannelRow) (auth : AuthUser) : Query Unit := do
  if existing.channelType = "group_dm" then
    requireDmAccess existing.id auth.userId
    Query.require (existing.ownerId = some auth.userId)
      (.forbidden "only the group owner can rename")
  else if existing.channelType = "dm" then Query.fail (.badRequest "cannot rename a 1:1 DM")
  else
    let _ ← requireChannelPermission existing.id auth "manage_channels"
    return ()

def checkTypeChange (existing : ChannelRow) (newType : Option String) : Query Unit :=
  match newType with
  | none => return ()
  | some newType =>
    Query.require (newType = existing.channelType ∨
        isNonDestructiveTypeChange existing.channelType newType)
      (.badRequest ("cannot change channel type from '" ++ existing.channelType ++ "' to '" ++
        newType ++ "'"))

def checkUpdate (channelId : String) (auth : AuthUser) (input : UpdateChannel) :
    Query ChannelRow := do
  let existing ← Db.Channels.getChannelRow channelId
  requireEditable existing auth
  checkTypeChange existing input.channelType
  return existing

def announceUpdate (existing : ChannelRow) (json : Json) : App Unit := do
  if existing.isDm then
    let ids ← DmParticipants.listParticipantIds existing.id
    broadcastChannel none (some ids) "channel.update" json
  else
    match existing.spaceId with
    | some spaceId => broadcastChannel (some spaceId) none "channel.update" json
    | none => return ()

def updateChannel (channelId : String) (auth : AuthUser) (input : UpdateChannel) : App Json := do
  let existing ← checkUpdate channelId auth input
  let channel ← Db.Channels.updateChannel channelId input
  let json ← Spaces.channelRowToJsonPub channel
  announceUpdate existing json
  return .obj [("data", json)]

def channelsJson : List ChannelRow → App (List Json)
  | [] => return []
  | c :: cs => do
    let json ← Spaces.channelRowToJsonPub c
    let rest ← channelsJson cs
    return json :: rest

def reorderChannels (spaceId : String) (auth : AuthUser) (updates : List (String × Int)) :
    App Json := do
  requirePermission spaceId auth "manage_channels"
  Db.Channels.reorderChannels spaceId updates
  let channels ← Db.Channels.listChannelsInSpace spaceId
  let data ← channelsJson channels
  broadcastChannel (some spaceId) none "channel.reorder"
    (.obj [("space_id", .str spaceId), ("channels", .arr data)])
  return .obj [("data", .arr data)]

def passOn (existing : ChannelRow) (auth : AuthUser) : App Unit := do
  if existing.channelType = "group_dm" ∧ existing.ownerId = some auth.userId then
    let ids ← DmParticipants.listParticipantIds existing.id
    match ids with
    | newOwner :: _ => DmParticipants.setOwner existing.id newOwner
    | [] => return ()
  else return ()

def settleLeft (existing : ChannelRow) (auth : AuthUser) : App Unit := do
  let remaining ← DmParticipants.countParticipants existing.id
  if remaining = 0 then Db.Channels.deleteChannel existing.id
  else passOn existing auth

def announceLeft (channelId : String) : App Unit := do
  let ids ← DmParticipants.listParticipantIds channelId
  if ids.isEmpty then return ()
  else
    let updated ← Db.Channels.getChannelRow channelId
    let json ← Spaces.channelRowToJsonPub updated
    broadcastChannel none (some ids) "channel.update" json

def leaveDm (existing : ChannelRow) (auth : AuthUser) : App Json := do
  requireDmAccess existing.id auth.userId
  DmParticipants.removeParticipant existing.id auth.userId
  settleLeft existing auth
  announceLeft existing.id
  return done

def announceDelete (existing : ChannelRow) : App Unit :=
  match existing.spaceId with
  | some spaceId =>
    broadcastChannel (some spaceId) none "channel.delete"
      (.obj [("id", .str existing.id), ("space_id", .str spaceId)])
  | none => return ()

def deleteSpaceChannel (existing : ChannelRow) (auth : AuthUser) : App Json := do
  let _ ← requireChannelPermission existing.id auth "manage_channels"
  announceDelete existing
  Db.Channels.deleteChannel existing.id
  return done

def deleteChannel (channelId : String) (auth : AuthUser) : App Json := do
  let existing ← Db.Channels.getChannelRow channelId
  if existing.isDm then leaveDm existing auth else deleteSpaceChannel existing auth

end Vokusz.Routes.ChannelEdits
