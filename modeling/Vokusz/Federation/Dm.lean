import Vokusz.Federation.Apply
import Vokusz.Federation.Outbound

namespace Vokusz.Federation.Dm

open Db Mapping
open Lib (Prog)

def dmOpenPath : String := "/federation/v1/dm/open"
def dmAnnouncePath : String := "/federation/v1/dm/announce"
def dmSendPath : String := "/federation/v1/dm/send"

def maxContentChars : Nat := 4000

def homeDomainFor (aQualified bQualified : String) : String :=
  let a := toAsciiLowercase aQualified
  let b := toAsciiLowercase bQualified
  let lower := if a ≤ b then a else b
  (domainOf lower).getD lower

section

variable {a b a' b' A B : String}

theorem homeDomainFor_congr (ha : eqIgnoreAsciiCase a' a = true)
    (hb : eqIgnoreAsciiCase b' b = true) : homeDomainFor a' b' = homeDomainFor a b := by
  rw [homeDomainFor, homeDomainFor, toAsciiLowercase_eq.mpr ha, toAsciiLowercase_eq.mpr hb]

theorem homeDomainFor_swap (a b : String) : homeDomainFor b a = homeDomainFor a b := by
  have hlower : (if toAsciiLowercase b ≤ toAsciiLowercase a then toAsciiLowercase b
      else toAsciiLowercase a) = if toAsciiLowercase a ≤ toAsciiLowercase b then toAsciiLowercase a
      else toAsciiLowercase b := by
    by_cases hab : toAsciiLowercase a ≤ toAsciiLowercase b
    · by_cases hba : toAsciiLowercase b ≤ toAsciiLowercase a
      · rw [if_pos hab, if_pos hba, String.le_antisymm hab hba]
      · rw [if_pos hab, if_neg hba]
    · have hba : toAsciiLowercase b ≤ toAsciiLowercase a :=
        (String.le_total _ _).resolve_left hab
      rw [if_neg hab, if_pos hba]
  simp only [homeDomainFor, hlower]

theorem homeDomainFor_mem (ha : domainOf a = some A) (hb : domainOf b = some B) :
    homeDomainFor a b = toAsciiLowercase A ∨ homeDomainFor a b = toAsciiLowercase B := by
  have hlowerA : domainOf (toAsciiLowercase a) = some (toAsciiLowercase A) := by
    rw [domainOf_toAsciiLowercase, ha, Option.map_some]
  have hlowerB : domainOf (toAsciiLowercase b) = some (toAsciiLowercase B) := by
    rw [domainOf_toAsciiLowercase, hb, Option.map_some]
  by_cases hab : toAsciiLowercase a ≤ toAsciiLowercase b
  · simp [homeDomainFor, hab, hlowerA]
  · simp [homeDomainFor, hab, hlowerB]

theorem homes_agree (ha : domainOf a = some A) (hb : domainOf b = some B) :
    homeDomainFor a b = homeDomainFor b a ∧
      (homeDomainFor a b = toAsciiLowercase A ∨ homeDomainFor a b = toAsciiLowercase B) ∧
      ∀ a' b', eqIgnoreAsciiCase a' a = true → eqIgnoreAsciiCase b' b = true →
        homeDomainFor a' b' = homeDomainFor a b ∧ homeDomainFor b' a' = homeDomainFor a b := by
  refine ⟨(homeDomainFor_swap a b).symm, homeDomainFor_mem ha hb, ?_⟩
  intro a' b' hcaseA hcaseB
  have hsame := homeDomainFor_congr hcaseA hcaseB
  exact ⟨hsame, (homeDomainFor_swap a' b').trans hsame⟩

theorem homes_agree_ann :
    homeDomainFor "1@A.example" "9@b.example" = homeDomainFor "9@b.example" "1@A.example" ∧
      (homeDomainFor "1@A.example" "9@b.example" = toAsciiLowercase "A.example" ∨
        homeDomainFor "1@A.example" "9@b.example" = toAsciiLowercase "b.example") ∧
      ∀ a' b', eqIgnoreAsciiCase a' "1@A.example" = true →
        eqIgnoreAsciiCase b' "9@b.example" = true →
        homeDomainFor a' b' = homeDomainFor "1@A.example" "9@b.example" ∧
          homeDomainFor b' a' = homeDomainFor "1@A.example" "9@b.example" :=
  homes_agree (by decide) (by decide)
end

structure DmSnapshot where
  channelId : String
  home : String
  channelType : String
  openerId : String
  ownerId : String
  participants : List RemoteUserRef
  deriving DecidableEq, Repr

def DmSnapshot.ofJson (j : Json) : Option DmSnapshot := do
  let channelId ← j.reqStr "channel_id"
  let home ← j.reqStr "home"
  let channelType ← j.reqStr "channel_type"
  let openerId ← j.reqStr "opener_id"
  let ownerId ← j.reqStr "owner_id"
  let participants ← (j.field? "participants").bind (fun ps =>
    ps.asArray?.bind (fun xs => xs.mapM RemoteUserRef.ofJson))
  return { channelId, home, channelType, openerId, ownerId, participants }

def DmSnapshot.toJson (snap : DmSnapshot) : Json :=
  .obj [("channel_id", .str snap.channelId), ("home", .str snap.home),
    ("channel_type", .str snap.channelType), ("opener_id", .str snap.openerId),
    ("owner_id", .str snap.ownerId),
    ("participants", .arr (snap.participants.map RemoteUserRef.toJson))]

def actorRef (domain : String) (user : User) : RemoteUserRef :=
  { id := qualify user.id domain
    username := some user.username
    displayName := user.displayName
    avatar := user.avatar }

def participantStorageId (qualifiedId ourDomain : String) : String :=
  if isLocal qualifiedId ourDomain then localPart qualifiedId else qualifiedId

def channelRowJson (db : Tables) (row : ChannelRow) : Json :=
  .obj [("id", .str row.id), ("type", .str row.channelType), ("space_id", .ofOption row.spaceId),
    ("name", .str row.name), ("topic", .ofOption row.topic), ("position", .num row.position),
    ("parent_id", .ofOption row.parentId), ("nsfw", .bool row.nsfw),
    ("rate_limit", .num row.rateLimit), ("bitrate", .ofOptionInt row.bitrate),
    ("user_limit", .ofOptionInt row.userLimit), ("owner_id", .ofOption row.ownerId),
    ("last_message_id", .ofOption row.lastMessageId),
    ("permission_overwrites", .arr ((PermissionOverwrites.ofChannel db row.id).map (fun o =>
      .obj [("id", .str o.id), ("type", .str o.overwriteType), ("allow", .strings o.allow),
        ("deny", .strings o.deny)]))),
    ("archived", .bool row.archived), ("auto_archive_after", .ofOptionInt row.autoArchiveAfter),
    ("allow_anonymous_read", .bool row.allowAnonymousRead), ("created_at", .str row.createdAt)]

def broadcastToParticipants (channelId eventType : String) (data : Json) (intent : String) :
    App Unit := do
  let ids ← App.found? (DmParticipants.listParticipantIds channelId)
  let participantIds := ids.getD []
  if participantIds.isEmpty then return ()
  else
    App.send
      { spaceId := none
        targetUserIds := some participantIds
        event := gatewayEvent eventType data
        intent := intent }

def broadcastChannelCreate (channel : ChannelRow) : App Unit := do
  let json ← App.query (fun db => .ok (channelRowJson db channel))
  broadcastToParticipants channel.id "channel.create" json "channels"

def broadcastMessage (channelId eventType : String) (data : Json) : App Unit :=
  broadcastToParticipants channelId eventType data "messages"

def requireConsent (snap : DmSnapshot) (p : RemoteUserRef) : App Unit :=
  Prog.forEach snap.participants (fun other => do
    if eqIgnoreAsciiCase other.id p.id then return ()
    else
      let blocked ← Relationships.isBlockedBy (localPart p.id) other.id
      Prog.require (blocked = false) (.forbidden "recipient is not accepting DMs from this user"))

def mirrorParticipant (ourDomain : String) (snap : DmSnapshot) (p : RemoteUserRef) :
    App Unit := do
  if isLocal p.id ourDomain then
    if eqIgnoreAsciiCase p.id snap.openerId then return ()
    else requireConsent snap p
  else
    let domain := homeOf p.id snap.home
    let _ ← Users.upsertRemoteUser p.id domain (handle p.usernameOrId domain) p.displayName p.avatar
    return ()

def mirrorDm (ourDomain : String) (snap : DmSnapshot) : App Unit := do
  Prog.forEach snap.participants (mirrorParticipant ourDomain snap)
  Federation.upsertRemoteDmChannel snap.channelId snap.home snap.channelType
    (participantStorageId snap.ownerId ourDomain)
  Prog.forEach snap.participants (fun p =>
    DmParticipants.addParticipant snap.channelId (participantStorageId p.id ourDomain))
  let channel ← App.found? (Channels.getChannelRow snap.channelId)
  match channel with
  | some channel => broadcastChannelCreate channel
  | none => return ()

def announceSnapshot (ourDomain : String) (opener : User) (recipientId : String)
    (channel : ChannelRow) : DmSnapshot :=
  { channelId := qualify channel.id ourDomain
    home := ourDomain
    channelType := channel.channelType
    openerId := qualify opener.id ourDomain
    ownerId := qualify (channel.ownerId.getD opener.id) ourDomain
    participants := [actorRef ourDomain opener, { id := recipientId, username := some recipientId }] }

def openDmAsHome (ourDomain : String) (opener : User) (recipientId recipientDomain : String)
    (reply : Except AppError Response) : App ChannelRow := do
  let _ ← Users.upsertRemoteUser recipientId recipientDomain recipientId none none
  let channel ← DmParticipants.createDmChannel opener.id [recipientId]
  let snapshot := announceSnapshot ourDomain opener recipientId channel
  let response ← Sender.requestSigned recipientDomain dmAnnouncePath snapshot.toJson reply
  if response.success then
    broadcastChannelCreate channel
    return channel
  else
    let _ ← (Channels.deleteChannel channel.id).attempt
    Prog.fail (.forbidden ("recipient server rejected the DM: " ++ response.text))

def openDmAsReplica (ourDomain : String) (opener : User) (recipientId home : String)
    (reply : Except AppError Response) : App ChannelRow := do
  let body := Json.obj [("opener", (actorRef ourDomain opener).toJson),
    ("recipient_id", .str recipientId)]
  let response ← Sender.requestSigned home dmOpenPath body reply
  Prog.require response.success
    (.badRequest ("home server rejected the DM open: " ++ response.text))
  match response.json.bind DmSnapshot.ofJson with
  | none => Prog.fail (.internal "invalid dm snapshot")
  | some snapshot =>
    mirrorDm ourDomain snapshot
    Channels.getChannelRow snapshot.channelId

def openDm (opener : User) (recipientId : String) (reply : Except AppError Response) :
    App ChannelRow := do
  let fed ← App.federation
  match fed with
  | none => Prog.fail (.badRequest "federation is not enabled")
  | some fed =>
    Authority.requireRemoteTarget recipientId
    match domainOf recipientId with
    | none => Prog.fail (.badRequest "recipient must be a qualified id")
    | some recipientDomain =>
      let home := homeDomainFor (qualify opener.id fed.domain) recipientId
      if eqIgnoreAsciiCase home fed.domain then
        openDmAsHome fed.domain opener recipientId recipientDomain reply
      else openDmAsReplica fed.domain opener recipientId home reply

structure DmOpenRequest where
  opener : RemoteUserRef
  recipientId : String
  deriving DecidableEq, Repr

def serveOpen (ourDomain peer : String) (req : DmOpenRequest) : App DmSnapshot := do
  Authority.requireHomedOn req.opener.id peer "opener"
  Prog.require (isLocal req.recipientId ourDomain)
    (.badRequest "recipient is not homed on this server")
  let recipient ← Users.getUser (localPart req.recipientId)
  let blocked ← Relationships.isBlockedBy recipient.id req.opener.id
  Prog.require (blocked = false) (.forbidden "recipient is not accepting DMs from this user")
  let _ ← Users.upsertRemoteUser req.opener.id peer (handle req.opener.usernameOrId peer)
    req.opener.displayName req.opener.avatar
  let channel ← DmParticipants.createDmChannel req.opener.id [recipient.id]
  broadcastChannelCreate channel
  return {
    channelId := qualify channel.id ourDomain
    home := ourDomain
    channelType := channel.channelType
    openerId := req.opener.id
    ownerId := qualify (channel.ownerId.getD req.opener.id) ourDomain
    participants := [req.opener, actorRef ourDomain recipient] }

def handleAnnounce (ourDomain peer : String) (snapshot : DmSnapshot) : App Unit := do
  Authority.requireHomedOn snapshot.channelId peer "dm channel"
  Authority.requireHomedOn snapshot.openerId peer "dm opener"
  mirrorDm ourDomain snapshot

structure DmSendRequest where
  actor : RemoteUserRef
  channelId : String
  content : String
  replyTo : Option String
  deriving DecidableEq, Repr

def remoteParticipantDomains (ourDomain : String) : List String → List String → List String
  | _, [] => []
  | seen, id :: ids =>
    match domainOf id with
    | none => remoteParticipantDomains ourDomain seen ids
    | some domain =>
      if eqIgnoreAsciiCase domain ourDomain || seen.contains (toAsciiLowercase domain) then
        remoteParticipantDomains ourDomain seen ids
      else domain :: remoteParticipantDomains ourDomain (toAsciiLowercase domain :: seen) ids

def fanoutDmMessage (channel : ChannelRow) (payload : Json) : App Unit := do
  let fed ← App.federation
  match fed with
  | none => return ()
  | some fed =>
    let ids ← DmParticipants.listParticipantIds channel.id
    let targets := remoteParticipantDomains fed.domain [] ids
    if targets.isEmpty then return ()
    else
      let eventId ← App.generateId
      Sender.enqueue
        { eventId := eventId
          origin := fed.domain
          spaceId := none
          eventType := "m.dm.message.create"
          payload := payload }
        targets

def serveSend (ourDomain peer : String) (req : DmSendRequest) : App Json := do
  Authority.requireHomedOn req.actor.id peer "actor"
  Prog.require (req.content.length ≤ maxContentChars) (.badRequest "message content too long")
  let channel ← Channels.getChannelRow req.channelId
  Prog.require channel.isDm (.badRequest "not a dm channel")
  let isMember ← DmParticipants.isParticipant req.channelId req.actor.id
  Prog.require isMember (.forbidden "actor is not a participant in this dm")
  let _ ← Users.upsertRemoteUser req.actor.id peer (handle req.actor.usernameOrId peer)
    req.actor.displayName req.actor.avatar
  let msg ← Messages.createMessage req.channelId req.actor.id none
    { content := req.content, replyTo := req.replyTo } 0
  let author ← Users.getUser req.actor.id
  let payload := Outbound.messagePayload ourDomain msg author
  broadcastMessage req.channelId "message.create" (messageRowToJson msg)
  fanoutDmMessage channel payload
  return payload

def forwardDmMessage (home channelId : String) (author : User) (content : String)
    (replyTo : Option String) (reply : Except AppError Response) : App Json := do
  let fed ← Sender.requireFederation
  let body := Json.obj [("actor", (actorRef fed.domain author).toJson),
    ("channel_id", .str (localPart channelId)), ("content", .str content),
    ("reply_to", .ofOption (replyTo.map localPart))]
  let response ← Sender.requestSigned home dmSendPath body reply
  Prog.require response.success
    (.badRequest ("home server rejected dm message (" ++ response.status ++ ")"))
  match response.json with
  | some j => return j
  | none => Prog.fail (.internal "invalid home response")

def checkDmMessageCreate (peer : String) (payload : Apply.RemoteMessagePayload) : App Unit := do
  Authority.requireHomedOn payload.id peer "message"
  Authority.requireHomedOn payload.channelId peer "dm channel"
  Authority.requireRemoteTarget payload.author.id
  Prog.require (payload.content.length ≤ maxContentChars) (.badRequest "dm message too long")

def applyMessageCreate (peer : String) (env : FederationEnvelope) : App Unit := do
  let payload ← orBadRequest "dm message payload" (Apply.RemoteMessagePayload.ofJson env.payload)
  checkDmMessageCreate peer payload
  let channel ← App.found? (Channels.getChannelRow payload.channelId)
  match channel with
  | none => return ()
  | some _ =>
    let authorDomain := homeOf payload.author.id peer
    let _ ← Users.upsertRemoteUser payload.author.id authorDomain
      (handle payload.author.usernameOrId authorDomain) payload.author.displayName
      payload.author.avatar
    let row ← Messages.insertRemoteMessage (Apply.remoteInsert peer payload none)
    match row with
    | none => return ()
    | some row => broadcastMessage payload.channelId "message.create" (messageRowToJson row)

end Vokusz.Federation.Dm
