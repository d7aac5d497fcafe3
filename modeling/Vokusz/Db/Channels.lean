import Vokusz.Db.Spaces

namespace Vokusz.Db

open Lib

namespace Tables

def hasChannel (db : Tables) (id : String) : Bool := Table.has ChannelRow.id id db.channels

def isParticipant (db : Tables) (channelId userId : String) : Bool :=
  db.dmParticipants.any (fun p => p.channelId = channelId && p.userId = userId)

end Tables

def ChannelRow.isDm (c : ChannelRow) : Bool := c.channelType = "dm" || c.channelType = "group_dm"

namespace Channels

def getChannelRow (channelId : String) : Query ChannelRow :=
  fun db =>
    match Table.lookup ChannelRow.id channelId db.channels with
    | some c => .ok c
    | none => .error (.notFound "unknown_channel")

theorem getChannelRow_ok {channelId : String} {db : Tables} {row : ChannelRow}
    (h : getChannelRow channelId db = .ok row) : row ∈ db.channels ∧ row.id = channelId := by
  unfold getChannelRow at h
  cases hlookup : Table.lookup ChannelRow.id channelId db.channels with
  | none =>
    rw [hlookup] at h
    cases h
  | some found =>
    rw [hlookup] at h
    cases h
    exact ⟨Table.lookup_mem hlookup, Table.lookup_key hlookup⟩

def inSpace (db : Tables) (spaceId : String) : List ChannelRow :=
  Table.orderBy ChannelRow.position (db.channels.filter (fun c => c.spaceId = some spaceId))

def listChannelsInSpace (spaceId : String) : Query (List ChannelRow) :=
  fun db => .ok (inSpace db spaceId)

end Channels

namespace PermissionOverwrites

def ofChannel (db : Tables) (channelId : String) : List PermissionOverwrite :=
  db.permissionOverwrites.filter (fun o => o.channelId = channelId)

def listOverwrites (channelId : String) : Query (List PermissionOverwrite) :=
  fun db => .ok (ofChannel db channelId)

def overwriteKey (o : PermissionOverwrite) : String × String := (o.id, o.channelId)

def upsertRow (row : PermissionOverwrite) (db : Tables) : Tables :=
  { db with
    permissionOverwrites := Table.upsert overwriteKey row
      (fun o =>
        { o with
          overwriteType := row.overwriteType
          allow := row.allow
          deny := row.deny })
      db.permissionOverwrites }

def deleteRow (channelId overwriteId : String) (db : Tables) : Tables :=
  { db with
    permissionOverwrites := Table.delete overwriteKey (overwriteId, channelId)
      db.permissionOverwrites }

def upsertOverwrite (row : PermissionOverwrite) : App Unit :=
  App.write (fun db => App.foreignKey (db.hasChannel row.channelId)) (upsertRow row)

def deleteOverwrite (channelId overwriteId : String) : App Unit :=
  App.update (deleteRow channelId overwriteId)

end PermissionOverwrites

namespace DmParticipants

def isParticipant (channelId userId : String) : Query Bool :=
  fun db => .ok (db.isParticipant channelId userId)

def participantIds (db : Tables) (channelId : String) : List String :=
  (db.dmParticipants.filter (fun p => p.channelId = channelId)).map DmParticipant.userId

def listParticipantIds (channelId : String) : Query (List String) :=
  fun db => .ok (participantIds db channelId)

def getParticipantUsers (channelId : String) : Query (List User) :=
  fun db => .ok ((participantIds db channelId).filterMap (fun id => (Users.getUser id db).toOption))

def addParticipant (channelId userId : String) : App Unit :=
  App.write
    (fun db => App.foreignKey
      (db.isParticipant channelId userId || (db.hasChannel channelId && db.hasUser userId)))
    (fun db =>
      { db with
        dmParticipants := Table.insertNew (fun p : DmParticipant => (p.channelId, p.userId))
          { channelId := channelId, userId := userId } db.dmParticipants })

def findExistingDm (userA userB : String) : Query (Option ChannelRow) :=
  fun db =>
    .ok ((db.channels.find? (fun c =>
        db.isParticipant c.id userA && db.isParticipant c.id userB && c.channelType = "dm")).map
      (fun c => { c with allowAnonymousRead := false }))

def insertDmChannel (id channelType ownerId : String) : App Unit :=
  App.write
    (fun db => App.unique (!db.hasChannel id) <|> App.foreignKey (db.hasUser ownerId))
    (fun db =>
      { db with
        channels := db.channels ++
          [{ id := id, channelType := channelType, ownerId := some ownerId }] })

def existingDmWith (creatorId : String) (recipientIds : List String) : Query (Option ChannelRow) :=
  match recipientIds with
  | [recipient] => findExistingDm creatorId recipient
  | _ => return none

def createDmChannel (creatorId : String) (recipientIds : List String) : App ChannelRow := do
  Prog.require (recipientIds ≠ []) (.badRequest "at least one recipient is required")
  let existing ← existingDmWith creatorId recipientIds
  match existing with
  | some channel =>
    addParticipant channel.id creatorId
    return channel
  | none =>
    let id ← App.generateId
    insertDmChannel id (if recipientIds.length = 1 then "dm" else "group_dm") creatorId
    addParticipant id creatorId
    Prog.forEach recipientIds (fun rid => addParticipant id rid)
    Channels.getChannelRow id

end DmParticipants

end Vokusz.Db
