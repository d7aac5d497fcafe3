import Vokusz.Federation.Handshake
import Vokusz.Permissions

namespace Vokusz.Federation.Forward

open Db Mapping Permissions
open Lib (Prog)

def sendPath : String := "/federation/v1/send"
def reactPath : String := "/federation/v1/react"
def leavePath : String := "/federation/v1/leave"
def editPath : String := "/federation/v1/edit"
def deletePath : String := "/federation/v1/delete"
structure SendRequest where
  actor : RemoteUserRef
  channelId : String
  content : String
  replyTo : Option String := none
  deriving DecidableEq, Repr

structure ReactRequest where
  actor : RemoteUserRef
  channelId : String
  messageId : String
  emoji : String
  remove : Bool := false
  deriving DecidableEq, Repr

structure LeaveRequest where
  actor : RemoteUserRef
  spaceId : String
  deriving DecidableEq, Repr

structure EditRequest where
  actor : RemoteUserRef
  messageId : String
  content : String
  deriving DecidableEq, Repr

structure DeleteRequest where
  actor : RemoteUserRef
  messageId : String
  deriving DecidableEq, Repr

structure TypingRequest where
  actor : RemoteUserRef
  channelId : String
  deriving DecidableEq, Repr

def spaceOpt (spaceId : String) : Option String := if spaceId = "" then none else some spaceId

def remoteActorAuth (userId : String) : AuthUser := { userId := userId }

def requireAuthorOrManage (channelId authorId actorId : String) : Query Unit := do
  if authorId ≠ actorId then
    let _ ← requireChannelPermission channelId (remoteActorAuth actorId) "manage_messages"
    return ()
  else
    let _ ← requireChannelMembership channelId actorId
    return ()

def cacheActor (peer : String) (actor : RemoteUserRef) : App Unit := do
  let _ ← Users.upsertRemoteUser actor.id peer (handle actor.usernameOrId peer) actor.displayName
    actor.avatar
  return ()

def serveSend (ourDomain peer : String) (req : SendRequest) : App Json := do
  Authority.requireHomedOn req.actor.id peer "actor"
  Prog.require (req.content.length ≤ 4000) (.badRequest "message content too long")
  cacheActor peer req.actor
  let spaceId ← requireChannelPermission req.channelId (remoteActorAuth req.actor.id)
    "send_messages"
  let msg ← Messages.createMessage req.channelId req.actor.id (some spaceId)
    { content := req.content, replyTo := req.replyTo } 0
  let author ← Users.getUser req.actor.id
  let payload := Outbound.messagePayload ourDomain msg author
  broadcastSpace (some spaceId) "message.create" payload "messages"
  Outbound.fanoutMessageCreate msg
  return payload

def serveReact (ourDomain peer : String) (req : ReactRequest) : App Unit := do
  Authority.requireHomedOn req.actor.id peer "actor"
  cacheActor peer req.actor
  let spaceId ← App.query (
    if req.remove then requireChannelMembership req.channelId req.actor.id
    else requireChannelPermission req.channelId (remoteActorAuth req.actor.id) "add_reactions")
  let message ← Messages.getMessageRow req.messageId
  Prog.require (message.channelId = req.channelId) (.notFound "unknown_message")
  Messages.changeReaction (!req.remove) req.messageId req.actor.id req.emoji
  let payload := Outbound.reactionPayload ourDomain req.channelId req.messageId req.actor.id
    req.emoji
  broadcastSpace (spaceOpt spaceId) (if req.remove then "reaction.remove" else "reaction.add")
    payload "message_reactions"
  Outbound.fanoutIfSpace (spaceOpt spaceId)
    (if req.remove then "m.reaction.remove" else "m.reaction.add") payload

def serveLeave (ourDomain peer : String) (req : LeaveRequest) : App Unit := do
  Authority.requireHomedOn req.actor.id peer "actor"
  let _ ← Spaces.getSpaceRow req.spaceId
  let targets ← App.found? (Federation.interestedServers req.spaceId)
  Members.removeMember req.spaceId req.actor.id
  broadcastSpace (some req.spaceId) "member.leave"
    (Apply.memberEventJson req.spaceId req.actor.id) "members"
  Outbound.fanoutToTargets req.spaceId "m.member.leave"
    (Outbound.memberLeavePayload ourDomain req.actor.id) (targets.getD [])

def serveEdit (ourDomain peer : String) (req : EditRequest) : App Json := do
  Authority.requireHomedOn req.actor.id peer "actor"
  Prog.require (req.content.length ≤ 4000) (.badRequest "message content too long")
  let existing ← Messages.getMessageRow req.messageId
  requireAuthorOrManage existing.channelId existing.authorId req.actor.id
  let msg ← Messages.updateMessage req.messageId { content := some req.content }
  let payload := messageRowToJson msg
  broadcastSpace existing.spaceId "message.update" payload "messages"
  Outbound.fanoutIfSpace existing.spaceId "m.message.update"
    (Outbound.messageEditPayload ourDomain msg req.messageId)
  return payload

def serveDelete (ourDomain peer : String) (req : DeleteRequest) : App Unit := do
  Authority.requireHomedOn req.actor.id peer "actor"
  let existing ← Messages.getMessageRow req.messageId
  requireAuthorOrManage existing.channelId existing.authorId req.actor.id
  Messages.deleteMessage req.messageId
  let data := Outbound.messageDeletePayload ourDomain req.messageId existing.channelId
  broadcastSpace existing.spaceId "message.delete" data "messages"
  Outbound.fanoutIfSpace existing.spaceId "m.message.delete" data

def serveTyping (ourDomain peer : String) (req : TypingRequest) : App Unit := do
  Authority.requireHomedOn req.actor.id peer "actor"
  let spaceId ← requireChannelMembership req.channelId req.actor.id
  let data := Json.obj [("channel_id", .str (qualify req.channelId ourDomain)),
    ("user_id", .str req.actor.id)]
  broadcastSpace (spaceOpt spaceId) "typing.start" data "message_typing"
  Outbound.fanoutIfSpace (spaceOpt spaceId) "m.typing" data

def forward (homeDomain path what : String) (body : FederationContext → Json)
    (reply : Except AppError Response) : App Response := do
  let fed ← Sender.requireFederation
  let response ← Sender.requestSigned homeDomain path (body fed) reply
  Prog.require response.success
    (.badRequest ("home server rejected " ++ what ++ " (" ++ response.status ++ ")"))
  return response

theorem preserves_forward {γ : Type} {view : AppState → γ} (homeDomain path what : String)
    (body : FederationContext → Json) (reply : Except AppError Response)
    (hrequests : ∀ (s : AppState) rs, view { s with requests := rs } = view s) :
    (forward homeDomain path what body reply).Preserves view := by
  refine Sender.preserves_requireFederation.bind (fun fed => ?_)
  refine (Sender.preserves_requestSigned _ _ _ _ hrequests).bind (fun response => ?_)
  exact (Prog.preserves_require _ _).bind (fun _ => Prog.preserves_pure _)

def parsedReply (response : Response) : App Json :=
  match response.json with
  | some j => return j
  | none => Prog.fail (.internal "invalid home response")

def forwardMessage (homeDomain channelId : String) (author : User) (content : String)
    (replyTo : Option String) (reply : Except AppError Response) : App Json := do
  let response ← forward homeDomain sendPath "message"
    (fun fed => .obj [("actor", Outbound.userJson fed.domain author),
      ("channel_id", .str (localPart channelId)), ("content", .str content),
      ("reply_to", .ofOption (replyTo.map localPart))]) reply
  parsedReply response

def forwardReaction (homeDomain channelId messageId : String) (actor : User) (emoji : String)
    (remove : Bool) (reply : Except AppError Response) : App Unit := do
  let _ ← forward homeDomain reactPath "reaction"
    (fun fed => .obj [("actor", Outbound.userJson fed.domain actor),
      ("channel_id", .str (localPart channelId)), ("message_id", .str (localPart messageId)),
      ("emoji", .str emoji), ("remove", .bool remove)]) reply
  return ()

def forwardLeave (homeDomain spaceId : String) (actor : User)
    (reply : Except AppError Response) : App Unit := do
  let _ ← forward homeDomain leavePath "leave"
    (fun fed => .obj [("actor", Outbound.userJson fed.domain actor),
      ("space_id", .str (localPart spaceId))]) reply
  return ()

def forwardEdit (homeDomain messageId : String) (actor : User) (content : String)
    (reply : Except AppError Response) : App Json := do
  let response ← forward homeDomain editPath "edit"
    (fun fed => .obj [("actor", Outbound.userJson fed.domain actor),
      ("message_id", .str (localPart messageId)), ("content", .str content)]) reply
  parsedReply response

def forwardDelete (homeDomain messageId : String) (actor : User)
    (reply : Except AppError Response) : App Unit := do
  let _ ← forward homeDomain deletePath "delete"
    (fun fed => .obj [("actor", Outbound.userJson fed.domain actor),
      ("message_id", .str (localPart messageId))]) reply
  return ()

def initiateJoin (homeDomain homeSpaceId : String) (user : User)
    (reply : Except AppError Response) : App String := do
  let response ← forward homeDomain Handshake.joinPath "join"
    (fun fed => .obj [("user", Outbound.userJson fed.domain user),
      ("space_id", .str homeSpaceId)]) reply
  match response.json with
  | none => Prog.fail (.internal "invalid snapshot")
  | some snapshot => Handshake.applySnapshot homeDomain user.id snapshot

end Vokusz.Federation.Forward
