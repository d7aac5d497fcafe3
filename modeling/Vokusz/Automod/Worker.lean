import Vokusz.Automod.Policy
import Vokusz.Lib.RelyGuarantee
import Vokusz.Routes.Reports

namespace Vokusz.Automod

open Db Permissions
open Lib (Prog Task Table.lookup Table.update Table.has Table.delete Table.orderBy)
open Federation (gatewayEvent messageRowToJson)
open Routes.Messages (attachmentJson)

inductive Mutex where
  | admission
  | processing
  | publication
  deriving DecidableEq, Repr

abbrev Work := Task Mutex AppState AppError

structure Originals where
  digest : String → String
  length : String → Nat
  dimensions : String → Option Int × Option Int
  isAlphanumeric : Char → Bool

def privatePath (storagePath : Storage.FilePath) (id : String) : Storage.FilePath :=
  storagePath ++ ["automod", id]

structure Decision where
  rule : Option Rule := none
  result : Option ScanResult := none
  reviewer : Option String := none
  deriving DecidableEq, Repr

def ScanResult.score (result : ScanResult) (category : String) : Option Rat :=
  (result.scores.find? (fun s => s.1 = category)).map Prod.snd

def sampleCount : Nat := 5

def ScanResult.valid (result : ScanResult) : Bool :=
  (result.sampledTimestampsMs.isEmpty || result.sampledTimestampsMs.length = sampleCount) &&
    result.modelVersion ≠ "" && result.modelVersion.utf8ByteSize ≤ 256 &&
    !result.scores.isEmpty && result.scores.length ≤ 64 &&
    result.scores.all (fun s =>
      s.1 ≠ "" && s.1.utf8ByteSize ≤ 64 && decide (0 ≤ s.2) && decide (s.2 ≤ 1))

def get (id : String) : Query AutomodUpload :=
  fun db =>
    match Lib.Table.lookup AutomodUpload.id id db.automodUploads with
    | some upload => .ok upload
    | none => .error AppError.rowNotFound

def standing (channel : ChannelRow) (author : AuthUser) : App Bool := do
  let allowed ← App.found? (requireChannelPermission channel.id author "send_messages")
  match channel.spaceId.filter (fun space => space ≠ "") with
  | none => return allowed.isSome
  | some space =>
    let spoken ← App.ok? (requireNotTimedOut space author)
    return allowed.isSome && spoken.isSome

def authorHold (upload : AutomodUpload) (channel : ChannelRow) : App (Option String) := do
  let author ← App.query (fun db =>
    match Users.getUser upload.authorId db with
    | .ok user => .ok (if user.disabled then none else some user)
    | .error (.notFound _) => .ok none
    | .error e => .error e)
  match author with
  | none => return some "uploader is unavailable"
  | some user =>
    let allowed ← standing channel { userId := user.id, isAdmin := user.isAdmin, isBot := user.bot }
    return if allowed then none else some "uploader no longer has permission to post"

inductive Verdict where
  | unmatched
  | matched (rule : Rule)
  | unsupported (rule : Rule)
  | needsScan
  deriving DecidableEq, Repr

def mediaFires (result : ScanResult) (categories : List String) (threshold : Rat) : Bool :=
  categories.any (fun c => (result.score c).any (fun score => threshold ≤ score))

def evaluate (upload : AutomodUpload) (channel : ChannelRow) (result : Option ScanResult) :
    List Rule → App Verdict
  | [] => return .unmatched
  | rule :: rules =>
    match rule.trigger with
    | .media categories threshold =>
      match result with
      | none => return .needsScan
      | some scan =>
        if categories.any (fun c => (scan.score c).isNone) then return .unsupported rule
        else if mediaFires scan categories threshold then return .matched rule
        else evaluate upload channel result rules
    | _ => do
      let fires ← nonMediaMatch rule channel upload.authorId upload.hash
      if fires then return .matched rule else evaluate upload channel result rules

inductive Turn where
  | gone
  | decided (upload : AutomodUpload) (status reason : String) (decision : Decision)
  | scan (upload : AutomodUpload)
  deriving DecidableEq, Repr

def Action.status : Action → String
  | .flag => "published"
  | .reject => "rejected"
  | .quarantine => "quarantined"
  | .timeout _ => "quarantined"

def Verdict.turn (upload : AutomodUpload) (result : Option ScanResult) : Verdict → Turn
  | .unmatched => .decided upload "published" "no rule matched" { result := result }
  | .matched rule =>
    .decided upload rule.action.status "automod rule matched"
      { rule := some rule, result := result }
  | .unsupported rule =>
    .decided upload "quarantined" "scanner does not support a configured category"
      { rule := some rule, result := result }
  | .needsScan => .scan upload

def pendingUpload (id : String) : Query (Option AutomodUpload) :=
  fun db =>
    .ok ((Lib.Table.lookup AutomodUpload.id id db.automodUploads).filter
      (fun u => u.status = "pending"))

def originalChannel (upload : AutomodUpload) : Query (Option ChannelRow) :=
  fun db =>
    match Channels.getChannelRow upload.channelId db with
    | .ok channel => .ok (some channel)
    | .error (.notFound _) => .ok none
    | .error e => .error e

def hold (upload : AutomodUpload) (channel : ChannelRow) (policy : Policy) :
    App (Option String) := do
  if policy.enabled then
    let blocked ← hashBlocked channel upload.hash
    if blocked && !policy.hasHashRule channel then return some "attachment hash is blocked"
    else authorHold upload channel
  else return some "policy disabled while upload was pending; review required"

def rule (upload : AutomodUpload) (channel : ChannelRow) (policy : Policy)
    (result : Option ScanResult) : App Turn := do
  let verdict ← evaluate upload channel result (policy.rules.filter (fun r => r.applies channel))
  return verdict.turn upload result

def judge (upload : AutomodUpload) (channel : ChannelRow) (policy : Policy)
    (result : Option ScanResult) : App Turn := do
  let held ← hold upload channel policy
  match held with
  | some reason => return .decided upload "quarantined" reason {}
  | none => rule upload channel policy result

def turn (id : String) (result : Option ScanResult) : App Turn := do
  let upload ← pendingUpload id
  match upload with
  | none => return .gone
  | some upload =>
    let channel ← originalChannel upload
    let policy ← Policy.load upload.spaceId
    let now ← App.nowSeconds
    if upload.expiresAt ≤ now then
      return .decided upload "removed" "retention window expired" {}
    else
      match channel with
      | none => return .decided upload "quarantined" "original channel was deleted" {}
      | some channel => judge upload channel policy result

structure PublicFile where
  url : String
  dimensions : Option Int × Option Int
  deriving DecidableEq, Repr

def io : AppError := .internal "automod storage"

def messageStands (upload : AutomodUpload) : Query Bool :=
  fun db =>
    match Db.Messages.getMessageRow upload.messageId db with
    | .ok message => .ok (message.channelId = upload.channelId)
    | .error (.notFound _) => .ok false
    | .error e => .error e

def hasOriginal (id : String) : App Bool :=
  Prog.get (fun s => s.files.contains (privatePath s.storagePath id))

def publicCopy (m : Originals) (upload : AutomodUpload) : App (Option PublicFile) := do
  let stands ← messageStands upload
  if stands then
    let stored ← hasOriginal upload.id
    Prog.require stored io
    Prog.require (m.digest upload.id = upload.hash) (.internal "stored upload hash mismatch")
    let size := m.length upload.id
    let url ← Storage.saveAttachment m.isAlphanumeric upload.channelId upload.id upload.filename
      size size
    let dimensions :=
      if Federation.Outbound.startsWith "image/" upload.contentType then m.dimensions upload.id
      else (none, none)
    return some { url := url, dimensions := dimensions }
  else return none

def withdraws (upload : AutomodUpload) (status : String) : Bool :=
  upload.status = "published" && status ≠ "published"

def publicRow (upload : AutomodUpload) (file : PublicFile) : AttachmentRow :=
  { id := upload.id
    messageId := upload.messageId
    filename := upload.filename
    contentType := some upload.contentType
    size := upload.size
    url := file.url
    width := file.dimensions.1
    height := file.dimensions.2
    contentHash := some upload.hash }

def flagReport (actor : String) (upload : AutomodUpload) (rule : Rule) :
    Db.Reports.CreateReport :=
  { spaceId := upload.spaceId
    reporterId := actor
    targetType := "message"
    targetId := upload.messageId
    channelId := some upload.channelId
    category := "nsfw"
    description := some ("AutoMod rule " ++ rule.id ++ ": attachment " ++ upload.id) }

structure Commit where
  upload : AutomodUpload
  status : String
  reason : String
  expiresAt : Nat
  decision : Decision
  file : Option PublicFile
  report : Option ReportRow
  timedOutUntil : Option String

namespace Commit

variable (c : Commit)

def decides (u : AutomodUpload) : AutomodUpload :=
  { u with
    status := c.status
    reason := c.reason
    expiresAt := c.expiresAt
    fileRemoved := false
    ruleId := (c.decision.rule.map Rule.id).or u.ruleId
    result := c.decision.result.or u.result }

def current (u : AutomodUpload) : Bool := u.id = c.upload.id && u.status = c.upload.status

def hasOriginalMessage (db : Tables) : Bool :=
  db.messages.any (fun m => m.id = c.upload.messageId && m.channelId = c.upload.channelId)

def refusal (db : Tables) : Option AppError :=
  if db.automodUploads.any c.current then
    if c.file.isSome && !c.hasOriginalMessage db then
      some (.conflict "original message was deleted")
    else if c.file.isSome && Lib.Table.has AttachmentRow.id c.upload.id db.attachments then
      some AppError.uniqueViolation
    else c.report.bind (fun row => Db.Reports.insertRefusal row db)
  else some (.conflict "upload decision changed; reload before reviewing")

def withdrawn (db : Tables) : Tables :=
  { db with
    attachments := Lib.Table.delete AttachmentRow.id c.upload.id db.attachments
    attachmentDeletions := Tables.queueDeletions
      (db.attachments.filter (fun a => a.id = c.upload.id)) db.attachmentDeletions }

def punishes (db : Tables) (until_ : String) (row : MemberRow) : Bool :=
  c.upload.spaceId = some row.spaceId && row.userId = c.upload.authorId &&
    row.timedOutUntil.all (fun t => t < until_) &&
    !db.spaces.any (fun s => s.id = row.spaceId && s.ownerId = row.userId) &&
    !db.users.any (fun u => u.isAdmin && u.id = row.userId)

def effect (db : Tables) : Tables :=
  let held := if withdraws c.upload c.status then c.withdrawn db else db
  { held with
    automodUploads := db.automodUploads.map (fun u => if c.current u then c.decides u else u)
    attachments := held.attachments ++ c.file.toList.map (publicRow c.upload)
    reports := db.reports ++ c.report.toList
    members := db.members.map (fun row =>
      if c.timedOutUntil.any (fun t => c.punishes db t row) then
        { row with timedOutUntil := c.timedOutUntil }
      else row) }

end Commit

def newExpiry (upload : AutomodUpload) : App Nat := do
  if upload.status = "published" then
    let policy ← Policy.load upload.spaceId
    let now ← App.nowSeconds
    return now + policy.retentionDays * 86400
  else return upload.expiresAt

def flagged (actor : String) (upload : AutomodUpload) (status : String) (rule : Option Rule) :
    App (Option ReportRow) := do
  match rule with
  | none => return none
  | some rule =>
    if rule.action = .flag ∧ status = "published" then
      let id ← App.generateId
      let createdAt ← App.now
      return some (Db.Reports.reportRow id createdAt (flagReport actor upload rule))
    else return none

def timeoutEnd (rule : Option Rule) : App (Option String) := do
  match rule.map Rule.action with
  | some (.timeout seconds) =>
    let ext ← App.externals
    let now ← App.nowSeconds
    return some (ext.formatRfc3339 (now + seconds))
  | _ => return none

def removeOriginal (id : String) : App Unit := do
  let storagePath ← Prog.get AppState.storagePath
  Storage.removeFile (privatePath storagePath id)

def uploadJson (upload : AutomodUpload) (status : String) : Json :=
  .obj [("id", .str upload.id), ("message_id", .str upload.messageId),
    ("channel_id", .str upload.channelId), ("space_id", .ofOption upload.spaceId),
    ("status", .str status)]

def notify (upload : AutomodUpload) (status : String) : App Unit := do
  App.send
    { spaceId := upload.spaceId
      targetUserIds := none
      event := gatewayEvent "automod.upload_update" (uploadJson upload status)
      intent := "moderation"
      requiredPermission := some "moderate_members" }
  App.send
    { spaceId := upload.spaceId
      targetUserIds := some [upload.authorId]
      event := gatewayEvent "automod.upload_status" (uploadJson upload status)
      intent := "messages" }

def broadcastMessage (upload : AutomodUpload) : App Unit := do
  let message ← App.found? (Db.Messages.getMessageRow upload.messageId)
  match message with
  | none => return ()
  | some message =>
    let attachments ← Attachments.getAttachmentsForMessage upload.messageId
    App.send
      { spaceId := upload.spaceId
        targetUserIds := none
        event := gatewayEvent "message.update"
          (messageRowToJson message (attachments.map attachmentJson))
        intent := "messages" }

def announce (upload : AutomodUpload) (status : String) : App Unit := do
  whenever (status = "published" ∨ status = "removed") (removeOriginal upload.id)
  whenever (status = "published" ∨ upload.status = "published") (broadcastMessage upload)
  notify upload status

def actorOf (decision : Decision) : App String :=
  match decision.reviewer with
  | some id => return id
  | none => Users.getOrCreateSystemUser

def settle (m : Originals) (upload : AutomodUpload) (status reason : String) :
    App (String × String × Option PublicFile) := do
  if status = "published" then
    let file ← publicCopy m upload
    match file with
    | some file => return (status, reason, some file)
    | none => return ("quarantined", "original message was deleted; cannot release", none)
  else return (status, reason, none)

def Commit.write (c : Commit) : App Unit := App.write c.refusal c.effect

def store (upload : AutomodUpload) (actor status reason : String) (file : Option PublicFile)
    (decision : Decision) : App Unit := do
  let expiresAt ← newExpiry upload
  let report ← flagged actor upload status decision.rule
  let timedOutUntil ← timeoutEnd decision.rule
  Commit.write
    { upload := upload
      status := status
      reason := reason
      expiresAt := expiresAt
      decision := decision
      file := file
      report := report
      timedOutUntil := timedOutUntil }

def finishLocked (m : Originals) (upload : AutomodUpload) (requested reason : String)
    (decision : Decision) : App Unit := do
  let actor ← actorOf decision
  let (status, reason, file) ← settle m upload requested reason
  store upload actor status reason file decision
  announce upload status

def finish (m : Originals) (upload : AutomodUpload) (requested reason : String)
    (decision : Decision) : Work Unit :=
  Task.locked .publication (finishLocked m upload requested reason decision)

def retryDelaySecs : Nat := 60

def scanFailed (upload : AutomodUpload) (error : String) : App Unit := do
  let now ← App.nowSeconds
  App.update (fun db =>
    { db with
      automodUploads := db.automodUploads.map (fun u =>
        if u.id = upload.id && u.status = "pending" then
          { u with
            reason := error
            attempts := u.attempts + 1
            nextAttempt := now + retryDelaySecs }
        else u) })
  whenever (upload.reason ≠ error) (notify upload "pending")

def candidate : App (Option String) := do
  let now ← App.nowSeconds
  App.query (fun db =>
    let rows := db.automodUploads.filter (fun u => u.status = "pending" && u.nextAttempt ≤ now)
    let queue := Lib.Table.orderBy AutomodUpload.nextAttempt (Lib.Table.orderBy AutomodUpload.id rows)
    .ok (queue.head?.map AutomodUpload.id))

def settled (m : Originals) : Turn → Work (Option AutomodUpload)
  | .gone => return none
  | .decided upload status reason decision => do
    finish m upload status reason decision
    return none
  | .scan upload => return some upload

def claimOnce (m : Originals) (id : String) (result : Option ScanResult) :
    Work (Option AutomodUpload) :=
  Task.locked .processing (do
    let t ← (turn id result : App Turn)
    settled m t)

def claim (m : Originals) (scan : AutomodUpload → Except String ScanResult) (id : String) :
    Nat → Option ScanResult → Work (Option Bool)
  | 0, _ => return none
  | claims + 1, result => do
    let unscanned ← claimOnce m id result
    match unscanned with
    | none => return some true
    | some upload =>
      match scan upload with
      | .error e => do
        (scanFailed upload e : App Unit)
        return some true
      | .ok result => claim m scan id claims (some result)

def processOne (m : Originals) (scan : AutomodUpload → Except String ScanResult) (claims : Nat) :
    Work (Option Bool) := do
  let found ← Task.locked .processing (Task.locked .admission (candidate : App (Option String)))
  match found with
  | none => return some false
  | some id => claim m scan id claims none

def expired (db : Tables) (now : Nat) : List AutomodUpload :=
  (db.automodUploads.filter (fun u => withheld u.status && u.expiresAt ≤ now)).take 100

def unremoved (db : Tables) : List String :=
  ((db.automodUploads.filter (fun u =>
    (u.status = "published" || u.status = "removed") && !u.fileRemoved)).take 100).map
    AutomodUpload.id

def expireAll (m : Originals) : List AutomodUpload → Work Unit
  | [] => return ()
  | upload :: uploads => do
    finish m upload "removed" "retention window expired" {}
    expireAll m uploads

def unlinkOriginals : List String → App Unit
  | [] => return ()
  | id :: ids => do
    removeOriginal id
    App.update (fun db =>
      { db with
        automodUploads := Lib.Table.update AutomodUpload.id id
          (fun u => { u with fileRemoved := true }) db.automodUploads })
    unlinkOriginals ids

def cleanup (m : Originals) : Work Unit :=
  Task.locked .processing (do
    let now ← (App.nowSeconds : App Nat)
    let uploads ← (App.query (fun db => .ok (expired db now)) : App (List AutomodUpload))
    expireAll m uploads
    let ids ← (App.query (fun db => .ok (unremoved db)) : App (List String))
    (unlinkOriginals ids : App Unit))

end Vokusz.Automod
