import Vokusz.Permissions

namespace Vokusz.Voice

open Lib Db Permissions

structure VoiceState where
  userId : String
  spaceId : Option String
  channelId : Option String
  sessionId : String
  deaf : Bool := false
  mute : Bool := false
  selfDeaf : Bool := false
  selfMute : Bool := false
  selfStream : Bool := false
  selfVideo : Bool := false
  suppress : Bool := false
deriving DecidableEq, Repr

def VoiceState.toJson (vs : VoiceState) : Json :=
  .obj [("user_id", .str vs.userId), ("space_id", .ofOption vs.spaceId),
    ("channel_id", .ofOption vs.channelId), ("session_id", .str vs.sessionId),
    ("deaf", .bool vs.deaf), ("mute", .bool vs.mute), ("self_deaf", .bool vs.selfDeaf),
    ("self_mute", .bool vs.selfMute), ("self_stream", .bool vs.selfStream),
    ("self_video", .bool vs.selfVideo), ("suppress", .bool vs.suppress)]

structure Flags where
  selfMute : Bool := false
  selfDeaf : Bool := false
  selfVideo : Bool := false
  selfStream : Bool := false
deriving DecidableEq, Repr

structure Rooms where
  app : AppState
  voices : List VoiceState := []
  livekit : Bool

namespace Rooms

variable (r : Rooms)

def withVoices (voices : List VoiceState) : Rooms := { r with voices := voices }

def send (b : GatewayBroadcast) : Rooms :=
  { r with app := { r.app with gatewayTx := r.app.gatewayTx ++ [b] } }

@[simp] theorem withVoices_app (voices : List VoiceState) : (r.withVoices voices).app = r.app := rfl

@[simp] theorem withVoices_voices (voices : List VoiceState) :
    (r.withVoices voices).voices = voices := rfl

@[simp] theorem send_voices (b : GatewayBroadcast) : (r.send b).voices = r.voices := rfl

@[simp] theorem send_db (b : GatewayBroadcast) : (r.send b).app.db = r.app.db := rfl

@[simp] theorem send_gatewayTx (b : GatewayBroadcast) :
    (r.send b).app.gatewayTx = r.app.gatewayTx ++ [b] := rfl

def getUserVoiceState (userId : String) : Option VoiceState :=
  Table.lookup VoiceState.userId userId r.voices

def getChannelVoiceStates (channelId : String) : List VoiceState :=
  r.voices.filter (fun vs => vs.channelId = some channelId)

def joinVoiceChannel (userId : String) (spaceId : Option String) (channelId sessionId : String)
    (flags : Flags) : VoiceState × Option String × Rooms :=
  let previousChannel := (r.getUserVoiceState userId).bind VoiceState.channelId
  let voiceState : VoiceState :=
    { userId := userId
      spaceId := spaceId
      channelId := some channelId
      sessionId := sessionId
      selfDeaf := flags.selfDeaf
      selfMute := flags.selfMute
      selfStream := flags.selfStream
      selfVideo := flags.selfVideo }
  (voiceState, previousChannel,
    r.withVoices (Table.upsert VoiceState.userId voiceState (fun _ => voiceState) r.voices))

def setFlags (flags : Flags) (vs : VoiceState) : VoiceState :=
  { vs with
    selfMute := flags.selfMute
    selfDeaf := flags.selfDeaf
    selfVideo := flags.selfVideo
    selfStream := flags.selfStream }

def updateVoiceState (userId : String) (flags : Flags) : Option VoiceState × Rooms :=
  ((r.getUserVoiceState userId).map (setFlags flags),
    r.withVoices (Table.update VoiceState.userId userId (setFlags flags) r.voices))

def takeMembership (userId : String) (onlyIfChannel : Option String) : Option VoiceState × Rooms :=
  match r.getUserVoiceState userId with
  | none => (none, r)
  | some vs =>
    if onlyIfChannel.all (fun channelId => vs.channelId = some channelId) then
      (some vs, r.withVoices (Table.delete VoiceState.userId userId r.voices))
    else (none, r)

def leaveVoiceChannel (userId : String) : Option VoiceState × Rooms := r.takeMembership userId none

def leaveVoiceChannelIfCurrent (userId channelId : String) : Option VoiceState × Rooms :=
  r.takeMembership userId (some channelId)

def voiceStateUpdate (channelId : String) (spaceId : Option String) (vs : VoiceState) :
    GatewayBroadcast :=
  { spaceId := spaceId
    targetUserIds :=
      match spaceId with
      | some _ => none
      | none => some (DmParticipants.participantIds r.app.db channelId)
    event := .obj [("op", .num 0), ("type", .str "voice.state_update"), ("data", vs.toJson)]
    intent := "voice_states" }

def broadcastVoiceStateUpdate (channelId : String) (spaceId : Option String) (vs : VoiceState) :
    Rooms :=
  r.send (r.voiceStateUpdate channelId spaceId vs)

def callEvent (channelId eventType : String) (data : Json) : GatewayBroadcast :=
  { spaceId := none
    targetUserIds := some (DmParticipants.participantIds r.app.db channelId)
    event := .obj [("op", .num 0), ("type", .str eventType), ("data", data)]
    intent := "voice_states" }

def broadcastCallEvent (channelId eventType : String) (data : Json) : Rooms :=
  if (DmParticipants.participantIds r.app.db channelId).isEmpty then r
  else r.send (r.callEvent channelId eventType data)

end Rooms

structure JoinVoiceRequest where
  selfMute : Option Bool := none
  selfDeaf : Option Bool := none

structure MoveMemberRequest where
  userId : String
  sourceChannelId : String

structure VoiceStateUpdateData where
  spaceId : Option String := none
  channelId : Option String := none
  selfMute : Option Bool := none
  selfDeaf : Option Bool := none
  selfVideo : Option Bool := none
  selfStream : Option Bool := none

def VoiceStateUpdateData.flags (vsu : VoiceStateUpdateData) : Flags :=
  { selfMute := vsu.selfMute.getD false
    selfDeaf := vsu.selfDeaf.getD false
    selfVideo := vsu.selfVideo.getD false
    selfStream := vsu.selfStream.getD false }

structure VoiceClient where
  userId : String
  sessionId : String
  isBot : Bool := false
  isAdmin : Bool := false
  isGuest : Bool := false
  spaceIds : List String := []

def VoiceClient.auth (client : VoiceClient) : AuthUser :=
  { userId := client.userId
    isAdmin := client.isAdmin
    isBot := client.isBot
    isGuest := client.isGuest
    guestSpaceId := none }

def leftState (old : VoiceState) (userId sessionId : String) : VoiceState :=
  { userId := userId
    spaceId := old.spaceId
    channelId := none
    sessionId := sessionId }

def scopeOf (channel : ChannelRow) : Option String := if channel.isDm then none else channel.spaceId

namespace Rooms

variable (r : Rooms)

def notTimedOut (spaceId : String) (auth : AuthUser) : Except AppError Unit :=
  ((requireNotTimedOut spaceId auth).exec r.app).1

def joinScope (channelId : String) (auth : AuthUser) : Except AppError (Option String) := do
  let _ ← requireChannelPermission channelId auth "connect" r.app.db
  let channel ← Channels.getChannelRow channelId r.app.db
  if channel.isDm then .ok none
  else if channel.channelType ≠ "voice" then .error (.badRequest "channel_not_voice")
  else
    match channel.spaceId with
    | none => .error (.badRequest "channel_has_no_space")
    | some sid => do
      r.notTimedOut sid auth
      .ok (some sid)

def generateId : String × Rooms :=
  (toString r.app.snowflake, { r with app := { r.app with snowflake := r.app.snowflake + 1 } })

def joinVoice (channelId : String) (auth : AuthUser) (input : JoinVoiceRequest) :
    Except AppError VoiceState × Rooms :=
  match r.joinScope channelId auth with
  | .error e => (.error e, r)
  | .ok spaceId =>
    let joined := r.generateId.2.joinVoiceChannel auth.userId spaceId channelId r.generateId.1
      { selfMute := input.selfMute.getD false, selfDeaf := input.selfDeaf.getD false }
    if r.livekit then
      (.ok joined.1, joined.2.2.broadcastVoiceStateUpdate channelId spaceId joined.1)
    else (.error (.badRequest "voice_not_configured"), joined.2.2)

def endDmCallIfEmpty (oldVs : VoiceState) (channelId userId : String) : Rooms :=
  if oldVs.spaceId.isSome || !(r.getChannelVoiceStates channelId).isEmpty then r
  else
    r.broadcastCallEvent channelId "call.end"
      (.obj [("channel_id", .str channelId), ("user_id", .str userId)])

def announceLeft (old : VoiceState) (userId sessionId : String) : Rooms :=
  match old.channelId with
  | none => r
  | some leftChannel =>
    (r.broadcastVoiceStateUpdate leftChannel old.spaceId
      (leftState old userId sessionId)).endDmCallIfEmpty old leftChannel userId

def leaveVoice (channelId : String) (auth : AuthUser) : Except AppError Unit × Rooms :=
  match requireChannelPermission channelId auth "connect" r.app.db with
  | .error e => (.error e, r)
  | .ok _ =>
    match r.leaveVoiceChannelIfCurrent auth.userId channelId with
    | (some vs, r') => (.ok (), r'.announceLeft vs auth.userId vs.sessionId)
    | (none, r') => (.ok (), r')

def checkMove (channelId : String) (auth : AuthUser) (input : MoveMemberRequest) :
    Except AppError (VoiceState × AuthUser) := do
  if !r.livekit then .error (.badRequest "voice_not_configured")
  else
    let spaceId ← requireChannelPermission channelId auth "move_members" r.app.db
    let destination ← Channels.getChannelRow channelId r.app.db
    if destination.channelType ≠ "voice" || spaceId.isEmpty then
      .error (.badRequest "destination must be a domain voice channel")
    else
      match r.getUserVoiceState input.userId with
      | none => .error (.badRequest "member is not in voice")
      | some source =>
        if source.spaceId ≠ some spaceId || source.channelId ≠ some input.sourceChannelId then
          .error (.badRequest "member moved or belongs to another domain")
        else do
          let _ ← requireChannelPermission input.sourceChannelId auth "move_members" r.app.db
          if input.userId ≠ auth.userId then requireHierarchy spaceId auth input.userId r.app.db
          let user ← Users.getUser input.userId r.app.db
          if user.disabled then .error (.forbidden "account disabled")
          else
            .ok (source,
              { userId := input.userId
                isAdmin := user.isAdmin
                isBot := user.bot
                isGuest := false
                guestSpaceId := none })

def moveMember (channelId : String) (auth : AuthUser) (input : MoveMemberRequest) :
    Except AppError VoiceState × Rooms :=
  match r.checkMove channelId auth input with
  | .error e => (.error e, r)
  | .ok (source, target) =>
    r.joinVoice channelId target
      { selfMute := some source.selfMute, selfDeaf := some source.selfDeaf }

def updateScope (client : VoiceClient) (channelId : String) (claimed : Option String) :
    Option (ChannelRow × Option String) := do
  let channel ← (Channels.getChannelRow channelId r.app.db).toOption
  let scope ←
    if channel.isDm then some none
    else (channel.spaceId.filter (fun sid => sid ∈ client.spaceIds)).map some
  if claimed.all (fun sid => scope = some sid) then
    let _ ← (requireChannelPermission channelId client.auth "connect" r.app.db).toOption
    some (channel, scope)
  else none

def mayConnect (client : VoiceClient) (channel : ChannelRow) (scope : Option String) : Bool :=
  channel.isDm || (channel.channelType = "voice" &&
    scope.any (fun sid => (r.notTimedOut sid client.auth).isOk))

def gatewayJoin (client : VoiceClient) (channelId : String) (vsu : VoiceStateUpdateData) : Rooms :=
  match r.updateScope client channelId vsu.spaceId with
  | none => r
  | some (channel, scope) =>
    if (r.getUserVoiceState client.userId).bind VoiceState.channelId = some channelId then
      match r.updateVoiceState client.userId vsu.flags with
      | (some voiceState, r') => r'.broadcastVoiceStateUpdate channelId scope voiceState
      | (none, r') => r'
    else if r.mayConnect client channel scope then
      let joined := r.joinVoiceChannel client.userId scope channelId client.sessionId vsu.flags
      joined.2.2.broadcastVoiceStateUpdate channelId scope joined.1
    else r

def gatewayLeave (client : VoiceClient) : Rooms :=
  match r.leaveVoiceChannel client.userId with
  | (some old, r') => r'.announceLeft old client.userId client.sessionId
  | (none, r') => r'

def voiceStateUpdateOp (client : VoiceClient) (vsu : VoiceStateUpdateData) : Rooms :=
  match vsu.channelId with
  | some channelId => r.gatewayJoin client channelId vsu
  | none => r.gatewayLeave client

def dropVoiceSession (queued : VoiceState → Bool) (old : VoiceState) : Rooms :=
  match old.channelId with
  | none => r
  | some channel =>
    if !queued old then r
    else
      match r.getUserVoiceState old.userId with
      | none => r
      | some current =>
        if current.channelId = old.channelId && current.sessionId = old.sessionId then
          (r.withVoices (Table.delete VoiceState.userId old.userId
            r.voices)).broadcastVoiceStateUpdate channel old.spaceId { old with channelId := none }
        else r

def revokeVoiceSessions (queued selected : VoiceState → Bool) : Rooms :=
  (r.voices.filter selected).foldl (fun r old => r.dropVoiceSession queued old) r

def stillAllowed (old : VoiceState) : Bool :=
  match old.channelId with
  | none => true
  | some channel =>
    match Users.getUser old.userId r.app.db with
    | .error _ => false
    | .ok user =>
      !user.disabled &&
        (requireChannelPermission channel { userId := old.userId, isAdmin := user.isAdmin }
          "connect" r.app.db).isOk

end Rooms

inductive Revocation where
  | space (spaceId : String) (userId : Option String)
  | channel (channelId : String) (userId : Option String)
  | user (userId : String)
  | lapsed

def targetsUser (userId : Option String) (candidate : String) : Bool :=
  userId.all (fun id => candidate = id)

def Revocation.selects (r : Rooms) : Revocation → VoiceState → Bool
  | .space spaceId userId, vs => vs.spaceId = some spaceId && targetsUser userId vs.userId
  | .channel channelId userId, vs => vs.channelId = some channelId && targetsUser userId vs.userId
  | .user userId, vs => vs.userId = userId
  | .lapsed, vs => !r.stillAllowed vs

end Vokusz.Voice
