import Vokusz.Federation.Footprint
import Vokusz.Routes.Reactions
import Vokusz.Routes.Messages

namespace Vokusz.Routes.Messages

open Db Permissions Federation
open Lib (Prog)
open Db.Messages (CreateMessage)
open Routes.Reactions (requireNotTimedOutIn)

def applyMentionCounts (msg : MessageRow) : App Unit :=
  Prog.forEach msg.mentions (fun uid => do
    if uid = msg.authorId then return ()
    else
      let _ ← (ReadStates.incrementMentionCount uid msg.channelId).attempt
      return ())

def requireThreadPermission (channelId : String) (auth : AuthUser) (input : CreateMessage) :
    Query Unit := do
  if input.threadId.isSome then
    let _ ← requireChannelPermission channelId auth "send_in_threads"
    return ()
  else return ()

def homeOfChannel (channel : ChannelRow) : Query (Option String) :=
  match channel.spaceId with
  | some sid => Federation.spaceOrigin sid
  | none => return none

def isDirect (channel : ChannelRow) : Bool := channel.spaceId.isNone && channel.isDm

def homeOfDm (channel : ChannelRow) : Query (Option String) :=
  if isDirect channel then Federation.channelOrigin channel.id
  else return none

def broadcastTo (channel : ChannelRow) (targets : Option (List String)) (eventType : String)
    (data : Json) : App Unit :=
  App.send
    { spaceId := channel.spaceId
      targetUserIds := targets
      event := gatewayEvent eventType data
      intent := "messages" }

def directTargets (channel : ChannelRow) : App (Option (List String)) := do
  if isDirect channel then
    let ids ← App.found? (DmParticipants.listParticipantIds channel.id)
    return some (ids.getD [])
  else return none

def broadcastThreadParent (channel : ChannelRow) (threadId : String) : App Unit := do
  let parent ← App.found? (Db.Messages.getMessageRow threadId)
  match parent with
  | none => return ()
  | some parent =>
    let replyCount ← App.found? (Db.Messages.getThreadReplyCount threadId)
    let attachments ← App.found? (Attachments.getAttachmentsForMessage threadId)
    broadcastTo channel none "message.update"
      (messageRowToJson parent ((attachments.getD []).map attachmentJson) []
        (replyCount.getD 0))

def fanoutDm (channel : ChannelRow) (auth : AuthUser) (msg : MessageRow) : App Unit := do
  let fed ← App.federation
  match fed with
  | none => return ()
  | some fed =>
    let author ← App.found? (Users.getUser auth.userId)
    match author with
    | none => return ()
    | some author =>
      let _ ← (Dm.fanoutDmMessage channel
        (Outbound.messagePayload fed.domain msg author)).attempt
      return ()

def unfurl (channel : ChannelRow) (messageId : String) (embeds : Json) : App Unit := do
  let updated ← App.ok? (Db.Messages.updateMessage messageId { embeds := some embeds })
  match updated with
  | none => return ()
  | some updated =>
    let attachments ← App.found? (Attachments.getAttachmentsForMessage messageId)
    broadcastTo channel none "message.update"
      (messageRowToJson updated ((attachments.getD []).map attachmentJson))

def whenSome {α : Type} (value : Option α) (act : α → App Unit) : App Unit :=
  match value with
  | some a => act a
  | none => return ()

def fanoutCreated (channel : ChannelRow) (auth : AuthUser) (msg : MessageRow) : App Unit := do
  let _ ← (Outbound.fanoutMessageCreate msg).attempt
  if isDirect channel then fanoutDm channel auth msg else return ()

def createLocal (channel : ChannelRow) (auth : AuthUser) (input : CreateMessage)
    (unfurled : Option Json) : App Json := do
  let cooldownMs ← slowmodeCooldownMs channel auth
  let msg ← Db.Messages.createMessage channel.id auth.userId channel.spaceId input cooldownMs
  applyMentionCounts msg
  let json := messageRowToJson msg
  let targets ← directTargets channel
  broadcastTo channel targets "message.create" json
  whenSome input.threadId (broadcastThreadParent channel)
  fanoutCreated channel auth msg
  whenSome unfurled (unfurl channel msg.id)
  return .obj [("data", json)]

section

variable (channel : ChannelRow) (auth : AuthUser) (msg : MessageRow)

theorem total_applyMentionCounts : (applyMentionCounts msg).Total := by
  refine Prog.total_forEach (fun uid => ?_)
  exact Prog.total_ite (Prog.total_pure _)
    ((Prog.total_attempt _).bind (fun _ => Prog.total_pure _))

theorem total_broadcastTo (targets : Option (List String)) (eventType : String) (data : Json) :
    (broadcastTo channel targets eventType data).Total :=
  Prog.total_modify _

theorem total_directTargets : (directTargets channel).Total :=
  Prog.total_ite ((App.total_found? _).bind (fun _ => Prog.total_pure _)) (Prog.total_pure _)

theorem total_broadcastThreadParent (threadId : String) :
    (broadcastThreadParent channel threadId).Total := by
  refine (App.total_found? _).bind (fun parent => ?_)
  cases parent with
  | none => exact Prog.total_pure _
  | some parent =>
    refine (App.total_found? _).bind (fun _ => ?_)
    exact (App.total_found? _).bind (fun _ => total_broadcastTo _ _ _ _)

theorem total_fanoutDm : (fanoutDm channel auth msg).Total := by
  refine (Prog.total_get _).bind (fun fed => ?_)
  cases fed with
  | none => exact Prog.total_pure _
  | some fed =>
    refine (App.total_found? _).bind (fun author => ?_)
    cases author with
    | none => exact Prog.total_pure _
    | some author => exact (Prog.total_attempt _).bind (fun _ => Prog.total_pure _)

theorem total_fanoutCreated : (fanoutCreated channel auth msg).Total := by
  refine (Prog.total_attempt _).bind (fun _ => ?_)
  exact Prog.total_ite (total_fanoutDm _ _ _) (Prog.total_pure _)

theorem total_unfurl (messageId : String) (embeds : Json) :
    (unfurl channel messageId embeds).Total := by
  refine (App.total_ok? _).bind (fun updated => ?_)
  cases updated with
  | none => exact Prog.total_pure _
  | some updated => exact (App.total_found? _).bind (fun _ => total_broadcastTo _ _ _ _)

theorem total_whenSome {α : Type} {value : Option α} {act : α → App Unit}
    (h : ∀ a, (act a).Total) : (whenSome value act).Total := by
  cases value with
  | none => exact Prog.total_pure _
  | some a => exact h a

end

theorem createLocal_succeeds {channel : ChannelRow} {auth : AuthUser} {input : CreateMessage}
    {unfurled : Option Json} {s : AppState} :
    (createLocal channel auth input unfurled).Succeeds s ↔
      ∃ cooldownMs, slowmodeCooldownMs channel auth s.db = .ok cooldownMs ∧
        Db.Messages.Insertable s.db
          (Db.Messages.draft s channel.id auth.userId channel.spaceId input) (max cooldownMs 0)
          s.clock := by
  constructor
  · rintro ⟨j, t, h⟩
    obtain ⟨cooldownMs, s₁, hread, h⟩ := Prog.exec_bind_ok.mp h
    obtain ⟨msg, s₂, hcreated, _⟩ := Prog.exec_bind_ok.mp h
    obtain ⟨hcooldown, rfl⟩ := App.exec_lift_ok.mp hread
    exact ⟨cooldownMs, hcooldown, Db.Messages.createMessage_succeeds.mp ⟨msg, s₂, hcreated⟩⟩
  · rintro ⟨cooldownMs, hcooldown, hinsertable⟩
    obtain ⟨msg, t, hcreated⟩ := Db.Messages.createMessage_succeeds.mpr hinsertable
    refine Prog.succeeds_bind_of_ok (App.exec_lift_ok.mpr ⟨hcooldown, rfl⟩) ?_
    refine Prog.succeeds_bind_of_ok hcreated ?_
    refine ((total_applyMentionCounts _).bind (fun _ => ?_)) t
    refine (total_directTargets _).bind (fun targets => ?_)
    refine (total_broadcastTo _ _ _ _).bind (fun _ => ?_)
    refine (total_whenSome (total_broadcastThreadParent _)).bind (fun _ => ?_)
    refine (total_fanoutCreated _ _ _).bind (fun _ => ?_)
    exact (total_whenSome (total_unfurl _ _)).bind (fun _ => Prog.total_pure _)

def checkContent (input : CreateMessage) : App Unit := do
  Prog.require (input.content.utf8ByteSize ≤ 4000)
    (.badRequest "message content must be at most 4000 characters")
  Prog.require (∀ title ∈ input.title, title ≠ "") (.badRequest "title must not be empty")
  Prog.require (∀ title ∈ input.title, title.utf8ByteSize ≤ 100)
    (.badRequest "title must be at most 100 characters")
  Prog.require (∀ embeds ∈ input.embeds, ((embeds.asArray?).getD []).length ≤ 10)
    (.badRequest "at most 10 embeds per message")

structure WithinLimits (input : CreateMessage) : Prop where
  content : input.content.utf8ByteSize ≤ 4000
  titled : ∀ title ∈ input.title, title ≠ ""
  title : ∀ title ∈ input.title, title.utf8ByteSize ≤ 100
  embeds : ∀ embeds ∈ input.embeds, ((embeds.asArray?).getD []).length ≤ 10

theorem checkContent_ok {input : CreateMessage} {u : Unit} {s t : AppState} :
    (checkContent input).exec s = (.ok u, t) ↔ WithinLimits input ∧ s = t := by
  constructor
  · intro h
    obtain ⟨_, s₁, hfirst, h⟩ := Prog.exec_bind_ok.mp h
    obtain ⟨_, s₂, hsecond, h⟩ := Prog.exec_bind_ok.mp h
    obtain ⟨_, s₃, hthird, h⟩ := Prog.exec_bind_ok.mp h
    obtain ⟨hcontent, rfl⟩ := Prog.exec_require_ok.mp hfirst
    obtain ⟨htitled, rfl⟩ := Prog.exec_require_ok.mp hsecond
    obtain ⟨htitle, rfl⟩ := Prog.exec_require_ok.mp hthird
    obtain ⟨hembeds, rfl⟩ := Prog.exec_require_ok.mp h
    exact ⟨⟨hcontent, htitled, htitle, hembeds⟩, rfl⟩
  · rintro ⟨hwithin, rfl⟩
    refine Prog.exec_bind_ok.mpr ⟨(), s, Prog.exec_require_ok.mpr ⟨hwithin.content, rfl⟩, ?_⟩
    refine Prog.exec_bind_ok.mpr ⟨(), s, Prog.exec_require_ok.mpr ⟨hwithin.titled, rfl⟩, ?_⟩
    refine Prog.exec_bind_ok.mpr ⟨(), s, Prog.exec_require_ok.mpr ⟨hwithin.title, rfl⟩, ?_⟩
    exact Prog.exec_require_ok.mpr ⟨hwithin.embeds, rfl⟩

def createMessage (channelId : String) (auth : AuthUser) (input : CreateMessage)
    (reply : Except AppError Response) (unfurled : Option Json) : App Json := do
  let spaceId ← requireChannelPermission channelId auth "send_messages"
  requireNotTimedOutIn spaceId auth
  requireThreadPermission channelId auth input
  checkContent input
  let channel ← Channels.getChannelRow channelId
  let home ← homeOfChannel channel
  match home with
  | some home =>
    let author ← Users.getUser auth.userId
    Forward.forwardMessage home channelId author input.content input.replyTo reply
  | none =>
    let home ← homeOfDm channel
    match home with
    | some home =>
      let author ← Users.getUser auth.userId
      Dm.forwardDmMessage home channelId author input.content input.replyTo reply
    | none => createLocal channel auth input unfurled

structure UploadFile where
  filename : String
  contentType : String
  bytes : List UInt8
  hash : String
  deriving DecidableEq, Repr

inductive Field where
  | payloadJson (chunks : List (List UInt8))
  | file (filename contentType : Option String) (chunks : List (List UInt8))
  | other
  deriving DecidableEq, Repr

structure Uploads where
  maxAttachments : Nat
  maxAttachmentSize : Nat
  charge : List (Nat × Nat) → Except AppError Unit
  parse : List UInt8 → Except String CreateMessage
  contentHash : List UInt8 → String
  isAlphanumeric : Char → Bool
  dimensions : List UInt8 → Option Int × Option Int
  preflight : Except AppError Bool
  retentionDays : Nat
  enqueued : Except AppError Unit

namespace Uploads

def maxMetadata : Nat := 2 * 1024 * 1024

def readMetadata : List (List UInt8) → List UInt8 → Except AppError (List UInt8)
  | [], bytes => .ok bytes
  | chunk :: chunks, bytes =>
    if bytes.length + chunk.length > maxMetadata then
      .error (.payloadTooLarge "payload_json exceeds maximum size")
    else readMetadata chunks (bytes ++ chunk)

variable (up : Uploads)

def readFile : List (List UInt8) → List UInt8 → List (Nat × Nat) →
    Except AppError (List UInt8 × List (Nat × Nat))
  | [], bytes, charged => .ok (bytes, charged)
  | chunk :: chunks, bytes, charged =>
    if bytes.length + chunk.length > up.maxAttachmentSize then
      .error (.payloadTooLarge "attachment exceeds maximum size")
    else do
      let charged := charged ++ [(0, chunk.length)]
      up.charge charged
      readFile chunks (bytes ++ chunk) charged

def readForm : List Field → Option CreateMessage → List UploadFile → List (Nat × Nat) →
    Except AppError (CreateMessage × List UploadFile)
  | [], some input, files, _ => .ok (input, files)
  | [], none, _, _ => .error (.badRequest "missing payload_json field in multipart request")
  | .payloadJson chunks :: fields, _, files, charged => do
    let metadata ← readMetadata chunks []
    match up.parse metadata with
    | .ok input => readForm fields (some input) files charged
    | .error e => .error (.badRequest ("invalid payload_json: " ++ e))
  | .file filename contentType chunks :: fields, input, files, charged =>
    if files.length ≥ up.maxAttachments then
      .error (.badRequest ("maximum " ++ toString up.maxAttachments ++ " attachments per message"))
    else do
      let (bytes, charged) ← up.readFile chunks [] charged
      let file :=
        { filename := filename.getD "attachment"
          contentType := contentType.getD "application/octet-stream"
          bytes := bytes
          hash := up.contentHash bytes }
      readForm fields input (files ++ [file]) charged
  | .other :: fields, input, files, charged => readForm fields input files charged

def receive (fields : List Field) : Except AppError (CreateMessage × List UploadFile) := do
  up.charge [(1, 0)]
  up.readForm fields none [] [(1, 0)]

def pendingUpload (channel : ChannelRow) (messageId authorId : String) (now : Nat) (id : String)
    (file : UploadFile) : AutomodUpload :=
  { id := id
    messageId := messageId
    channelId := channel.id
    spaceId := channel.spaceId
    authorId := authorId
    filename := file.filename
    contentType := file.contentType
    size := file.bytes.length
    hash := file.hash
    status := "pending"
    createdAt := now
    expiresAt := now + up.retentionDays * 86400
    nextAttempt := now }

def enqueue (channel : ChannelRow) (messageId authorId : String) (files : List UploadFile) :
    App (List String) := do
  let ids ← generateIds files
  up.enqueued
  let now ← App.nowMillis
  App.update (fun db =>
    { db with
      automodUploads := db.automodUploads ++
        List.zipWith (up.pendingUpload channel messageId authorId (now / 1000)) ids files })
  return ids
where
  generateIds : List UploadFile → App (List String)
  | [] => return []
  | _ :: files => do
    let id ← App.generateId
    let ids ← generateIds files
    return id :: ids

def saveFile (channelId messageId : String) (file : UploadFile) : App AttachmentRow := do
  let attachmentId ← App.generateId
  let url ← Storage.saveAttachment up.isAlphanumeric channelId attachmentId file.filename
    file.bytes.length up.maxAttachmentSize
  let (width, height) :=
    if Outbound.startsWith "image/" file.contentType then up.dimensions file.bytes
    else (none, none)
  let attachment : AttachmentRow :=
    { id := attachmentId
      messageId := messageId
      filename := file.filename
      contentType := some file.contentType
      size := file.bytes.length
      url := url
      width := width
      height := height
      contentHash := some file.hash }
  Attachments.insertAttachment attachment
  return attachment

def saveFiles (channelId messageId : String) : List UploadFile → App (List AttachmentRow)
  | [] => return []
  | file :: files => do
    let attachment ← up.saveFile channelId messageId file
    let attachments ← saveFiles channelId messageId files
    return attachment :: attachments

def store (channel : ChannelRow) (auth : AuthUser) (input : CreateMessage)
    (files : List UploadFile) (cooldownMs : Int) : App (MessageRow × Bool × List String) := do
  let held ← if files.isEmpty then pure false else up.preflight
  let msg ← Db.Messages.createMessage channel.id auth.userId channel.spaceId input cooldownMs
  if held then
    let queued ← (up.enqueue channel msg.id auth.userId files).attempt
    match queued with
    | .ok ids => return (msg, held, ids)
    | .error e =>
      Db.Messages.deleteMessage msg.id
      Prog.fail e
  else return (msg, held, [])

end Uploads

def createMessageMultipart (up : Uploads) (channelId : String) (auth : AuthUser)
    (fields : List Field) : App Json := do
  let spaceId ← requireChannelPermission channelId auth "send_messages"
  requireNotTimedOutIn spaceId auth
  let (input, files) ← up.receive fields
  requireThreadPermission channelId auth input
  let channel ← Channels.getChannelRow channelId
  let cooldownMs ← slowmodeCooldownMs channel auth
  let (msg, held, pendingIds) ← up.store channel auth input files cooldownMs
  applyMentionCounts msg
  let attachments ← if held then pure [] else up.saveFiles channelId msg.id files
  let json := messageRowToJson msg (attachments.map attachmentJson)
  broadcastTo channel none "message.create" json
  return .obj [("data", json), ("pending_attachments", .strings pendingIds)]

def pinMessage (channelId messageId : String) (auth : AuthUser) : App Json := do
  let _ ← requireChannelPermission channelId auth "manage_messages"
  Db.Messages.pinMessage channelId messageId
  return .obj [("data", .null)]

def unpinMessage (channelId messageId : String) (auth : AuthUser) : App Json := do
  let _ ← requireChannelPermission channelId auth "manage_messages"
  Db.Messages.unpinMessage channelId messageId
  return .obj [("data", .null)]

end Vokusz.Routes.Messages
