import Vokusz.Db.Messages

namespace Vokusz.Db

open Lib

def Peer.isTrusted (p : Peer) : Bool := p.trustState = "trusted"

namespace Federation

def getPeer (domain : String) : Query (Option Peer) :=
  fun db => .ok (Table.lookup Peer.domain domain db.federationPeers)

def dedupKey (r : DedupRow) : String × String := (r.eventId, r.origin)

def dedupInsert (eventId origin now : String) : App Bool :=
  App.writeCounted (fun _ => none)
    (fun db => !Table.has dedupKey (eventId, origin) db.federationInboxDedup)
    (fun db =>
      { db with
        federationInboxDedup := Table.insertNew dedupKey
          { eventId := eventId, origin := origin, receivedAt := now } db.federationInboxDedup })

def dedupFirstSeen (eventId origin : String) : App Bool := do
  let now ← App.now
  dedupInsert eventId origin now

def dedupRemove (eventId origin : String) : App Unit :=
  App.update (fun db =>
    { db with
      federationInboxDedup := Table.delete dedupKey (eventId, origin) db.federationInboxDedup })

def upsertRemoteSpace (id origin name slug ownerId : String) : App Unit :=
  let qualifiedSlug := slug ++ "@" ++ origin
  App.write
    (fun db =>
      App.unique (db.hasSpace id || db.spaces.all (fun sp => sp.slug ≠ qualifiedSlug)) <|>
        App.foreignKey (db.hasUser ownerId))
    (fun db =>
      { db with
        spaces := Table.upsert SpaceRow.id
          { id := id
            name := name
            slug := qualifiedSlug
            description := some ""
            ownerId := ownerId
            isPublic := false
            allowGuestAccess := false
            origin := some origin
            federationEnabled := true }
          (fun sp => { sp with name := name, ownerId := ownerId, origin := some origin })
          db.spaces })

def upsertRemoteChannel (id origin spaceId name channelType : String) (position : Int) :
    App Unit :=
  App.write
    (fun db => App.foreignKey (db.hasChannel id || db.hasSpace spaceId))
    (fun db =>
      { db with
        channels := Table.upsert ChannelRow.id
          { id := id
            name := name
            channelType := channelType
            spaceId := some spaceId
            position := position
            origin := some origin }
          (fun c => { c with name := name, position := position, origin := some origin })
          db.channels })

def upsertRemoteRole (id origin spaceId name : String) (position : Int)
    (permissions : List String) : App Unit :=
  App.write
    (fun db => App.foreignKey (Table.has RoleRow.id id db.roles || db.hasSpace spaceId))
    (fun db =>
      { db with
        roles := Table.upsert RoleRow.id
          { id := id
            spaceId := spaceId
            name := name
            position := position
            permissions := permissions
            origin := some origin }
          (fun r =>
            { r with
              name := name
              position := position
              permissions := permissions
              origin := some origin })
          db.roles })

def addMemberWithOrigin (spaceId userId : String) (origin : Option String) : App Unit :=
  App.write
    (fun db => App.foreignKey (db.hasUser userId && db.hasSpace spaceId))
    (Members.insertMember { userId := userId, spaceId := spaceId, origin := origin })

def spaceOrigin (spaceId : String) : Query (Option String) :=
  fun db => .ok ((Table.lookup SpaceRow.id spaceId db.spaces).bind SpaceRow.origin)

def channelOrigin (channelId : String) : Query (Option String) :=
  fun db =>
    .ok ((Table.lookup ChannelRow.id channelId db.channels).bind ChannelRow.origin)

def upsertRemoteDmChannel (id origin channelType ownerId : String) : App Unit :=
  App.write
    (fun db => App.foreignKey (db.hasChannel id || db.hasUser ownerId))
    (fun db =>
      { db with
        channels := Table.upsert ChannelRow.id
          { id := id
            channelType := channelType
            ownerId := some ownerId
            origin := some origin }
          (fun c => { c with origin := some origin })
          db.channels })

def spaceFederationEnabled (spaceId : String) : Query Bool :=
  fun db =>
    .ok ((Table.lookup SpaceRow.id spaceId db.spaces).any SpaceRow.federationEnabled)

def interestedIn (db : Tables) (spaceId : String) : List String :=
  ((db.members.filter (fun m => m.spaceId = spaceId)).filterMap MemberRow.origin).dedup

def interestedServers (spaceId : String) : Query (List String) :=
  fun db => .ok (interestedIn db spaceId)

def outboxEnqueue (id targetDomain : String) (payload : Json) : App Unit := do
  let now ← App.nowSeconds
  App.write
    (fun db => App.unique (!Table.has OutboxItem.id id db.federationOutbox))
    (fun db =>
      { db with
        federationOutbox := db.federationOutbox ++
          [{ id := id, targetDomain := targetDomain, payload := payload, nextAttemptAt := now }] })

def dueAt (db : Tables) (now limit : Nat) : List OutboxItem :=
  (Table.orderBy OutboxItem.nextAttemptAt
    (db.federationOutbox.filter (fun item => item.nextAttemptAt ≤ now))).take limit

def outboxClaimDue (limit : Nat) : App (List OutboxItem) := do
  let now ← App.nowSeconds
  App.query (fun db => .ok (dueAt db now limit))

def outboxDelete (id : String) : App Unit :=
  App.update (fun db =>
    { db with federationOutbox := Table.delete OutboxItem.id id db.federationOutbox })

def outboxReschedule (id : String) (attempts delaySecs : Nat) : App Unit := do
  let now ← App.nowSeconds
  App.update (fun db =>
    { db with
      federationOutbox := Table.update OutboxItem.id id
        (fun item => { item with attempts := attempts, nextAttemptAt := now + delaySecs })
        db.federationOutbox })

end Federation

end Vokusz.Db
