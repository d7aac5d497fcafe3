import Vokusz.Federation.Forward
import Vokusz.Storage

namespace Vokusz.Routes.Messages

open Db Permissions Federation
open Lib (Prog)

def attachmentJson (a : AttachmentRow) : Json :=
  .obj [("id", .str a.id), ("filename", .str a.filename), ("description", .ofOption a.description),
    ("content_type", .ofOption a.contentType), ("size", .num a.size),
    ("content_hash", .ofOption a.contentHash), ("url", .str a.url),
    ("width", .ofOptionInt a.width), ("height", .ofOptionInt a.height)]

def homeOfMessage (message : MessageRow) : Query (Option String) :=
  match message.spaceId with
  | some sid => Federation.spaceOrigin sid
  | none => return none

def requireAuthorOrManage (message : MessageRow) (channelId : String) (auth : AuthUser) :
    Query Unit := do
  if message.authorId ≠ auth.userId then
    let _ ← requireChannelPermission channelId auth "manage_messages"
    return ()
  else return ()

def messageIn (channelId messageId : String) : Query MessageRow := do
  let existing ← Db.Messages.getMessageRow messageId
  Query.require (existing.channelId = channelId) (.notFound "unknown_message")
  return existing

def fanoutChange (channel : ChannelRow) (eventType : String) (payload : String → Json) :
    App Unit := do
  let fed ← App.federation
  match fed with
  | none => return ()
  | some fed =>
    let _ ← (Outbound.fanoutIfSpace channel.spaceId eventType (payload fed.domain)).attempt
    return ()

def forwardUpdate (home messageId : String) (auth : AuthUser) (input : Db.Messages.UpdateMessage)
    (reply : Except AppError Response) : App Json := do
  match input.content with
  | none => Prog.fail (.badRequest "federated edits require content")
  | some content =>
    let actor ← Users.getUser auth.userId
    let payload ← Forward.forwardEdit home messageId actor content reply
    return .obj [("data", payload)]

def updateLocal (channelId messageId : String) (auth : AuthUser) (existing : MessageRow)
    (input : Db.Messages.UpdateMessage) : App Json := do
  requireAuthorOrManage existing channelId auth
  Prog.require (∀ title ∈ input.title, title.utf8ByteSize ≤ 100)
    (.badRequest "title must be at most 100 characters")
  let msg ← Db.Messages.updateMessage messageId input
  let attachments ← Attachments.getAttachmentsForMessage messageId
  let json := messageRowToJson msg (attachments.map attachmentJson)
  let channel ← Channels.getChannelRow channelId
  broadcastSpace channel.spaceId "message.update" json "messages"
  fanoutChange channel "m.message.update" (fun domain =>
    Outbound.messageEditPayload domain msg messageId)
  return .obj [("data", json)]

def updateMessage (channelId messageId : String) (auth : AuthUser)
    (input : Db.Messages.UpdateMessage) (reply : Except AppError Response) : App Json := do
  let _ ← requireChannelMembership channelId auth.userId
  let existing ← messageIn channelId messageId
  let home ← homeOfMessage existing
  match home with
  | some home => forwardUpdate home messageId auth input reply
  | none => updateLocal channelId messageId auth existing input

def forwardDeletion (home messageId : String) (auth : AuthUser)
    (reply : Except AppError Response) : App Json := do
  let actor ← Users.getUser auth.userId
  Forward.forwardDelete home messageId actor reply
  return .obj [("data", .null)]

def deleteLocal (channelId messageId : String) (auth : AuthUser) (existing : MessageRow) :
    App Json := do
  requireAuthorOrManage existing channelId auth
  let attachments ← Attachments.getAttachmentsForMessage messageId
  Prog.forEach attachments (fun a => do
    let _ ← (Storage.deleteFile a.url).attempt
    return ())
  Db.Messages.deleteMessage messageId
  let channel ← Channels.getChannelRow channelId
  broadcastSpace channel.spaceId "message.delete"
    (.obj [("id", .str messageId), ("channel_id", .str channelId),
      ("space_id", .ofOption channel.spaceId)]) "messages"
  fanoutChange channel "m.message.delete" (fun domain =>
    Outbound.messageDeletePayload domain messageId channelId)
  return .obj [("data", .null)]

def deleteMessage (channelId messageId : String) (auth : AuthUser)
    (reply : Except AppError Response) : App Json := do
  let existing ← messageIn channelId messageId
  let home ← homeOfMessage existing
  match home with
  | some home => forwardDeletion home messageId auth reply
  | none => deleteLocal channelId messageId auth existing

def bulkDeleteMessages (channelId : String) (auth : AuthUser) (messages : List String) :
    App Json := do
  let _ ← requireChannelPermission channelId auth "manage_messages"
  Prog.require (messages.length ≤ 100)
    (.badRequest "cannot bulk delete more than 100 messages")
  Db.Messages.bulkDeleteMessages channelId messages
  return .obj [("data", .null)]

end Vokusz.Routes.Messages
