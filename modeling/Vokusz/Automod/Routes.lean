import Vokusz.Automod.Worker

namespace Vokusz.Automod

open Db Permissions
open Lib (Prog Task Table.lookup Table.update Table.upsert Table.delete)

def requireServerAdmin (auth : AuthUser) : Except AppError Unit :=
  if auth.isAdmin then .ok () else .error (.forbidden "server admin privileges required")

def authorize (scope : String) (auth : AuthUser) (configure : Bool) : App Unit := do
  if scope = "*" then requireServerAdmin auth
  else requirePermission scope auth (if configure then "manage_space" else "moderate_members")

def storePolicy (scope : String) (policy : Policy) (db : Tables) : Tables :=
  { db with
    automodPolicies := Lib.Table.upsert AutomodPolicy.scopeId { scopeId := scope, policy := policy }
      (fun p => { p with policy := policy }) db.automodPolicies }

def setPolicy (scope : String) (auth : AuthUser) (policy : Policy) : Work Unit := do
  (authorize scope auth true : App Unit)
  (policy.validate : App Unit)
  Task.locked .processing (App.update (storePolicy scope policy) : App Unit)

def dropPolicy (scope : String) (db : Tables) : Tables :=
  { db with automodPolicies := Lib.Table.delete AutomodPolicy.scopeId scope db.automodPolicies }

def resetPolicy (scope : String) (auth : AuthUser) : Work Unit := do
  (authorize scope auth true : App Unit)
  Task.locked .processing (App.update (dropPolicy scope) : App Unit)

structure Review where
  action : String
  reason : String

def reviewReason (reason : String) : Bool := trim reason ≠ "" && reason.utf8ByteSize ≤ 2000

def reviewStatus (action : String) : Except AppError String :=
  if action = "release" then .ok "published"
  else if action = "reject" then .ok "rejected"
  else if action = "remove" then .ok "removed"
  else if action = "quarantine" then .ok "quarantined"
  else if action = "retry" then .ok "pending"
  else .error (.badRequest "action must be release, reject, remove, quarantine, or retry")

def attachmentUrl (id : String) : Query String :=
  fun db =>
    match Lib.Table.lookup AttachmentRow.id id db.attachments with
    | some a => .ok a.url
    | none => .error AppError.rowNotFound

def recoverOriginal (id : String) : App Unit := do
  let url ← attachmentUrl id
  Prog.require ("/cdn/attachments/".toList.isPrefixOf url.toList)
    (.badRequest "not a local attachment")
  let relative := Storage.stripPrefix "/cdn/attachments/" url
  let storagePath ← Prog.get AppState.storagePath
  let stored ← Prog.get (fun s =>
    s.files.contains (Storage.joined (storagePath ++ ["attachments"]) relative))
  Prog.require stored io
  Storage.writeFile io (privatePath storagePath id)

def reviewable (id : String) (auth : AuthUser) (action : String) :
    App (AutomodUpload × String) := do
  let upload ← get id
  authorize (scopeKey upload.spaceId) auth false
  let now ← App.nowSeconds
  Prog.require (¬ (upload.status = "removed" ∨
      (upload.status ≠ "published" ∧ upload.expiresAt ≤ now)))
    (.conflict "upload retention window has expired")
  let next ← reviewStatus action
  Prog.require (¬ (upload.status = "published" ∧ next = "published"))
    (.conflict "attachment already published")
  whenever (upload.status = "published") (recoverOriginal id)
  return (upload, next)

def retryNow (id : String) : App Unit := do
  let now ← App.nowSeconds
  App.update (fun db =>
    { db with
      automodUploads := Lib.Table.update AutomodUpload.id id
        (fun u => { u with nextAttempt := now }) db.automodUploads })

def review (m : Originals) (id : String) (auth : AuthUser) (request : Review) : Work Unit := do
  (Prog.require (reviewReason request.reason)
    (.badRequest "review reason must be 1–2000 bytes") : App Unit)
  Task.locked .processing (do
    let (upload, next) ← (reviewable id auth request.action : App (AutomodUpload × String))
    finish m upload next request.reason { reviewer := some auth.userId }
    (whenever (next = "pending") (retryNow id) : App Unit)
    let _ ← ((get id : Query AutomodUpload) : App AutomodUpload))

def isHexDigit (c : Char) : Bool := ('0' ≤ c && c ≤ '9') || ('a' ≤ c && c ≤ 'f')

def validateHash (hash : String) : Except AppError Unit :=
  if hash.utf8ByteSize = 64 ∧ hash.toList.all isHexDigit then .ok ()
  else .error (.badRequest "hash must be a lowercase SHA-256 hex digest")

def blockRow (scope hash reason actor : String) (now : Nat) : AutomodHash :=
  { scopeId := scope
    hash := hash
    reason := reason
    addedBy := some actor
    createdAt := some now }

def hashKey (h : AutomodHash) : String × String := (h.scopeId, h.hash)

def insertBlock (row : AutomodHash) (attachment : Option String) (db : Tables) : Tables :=
  { db with
    automodHashes := Lib.Table.upsert hashKey row (fun _ => row) db.automodHashes
    attachments := db.attachments.map (fun a =>
      if attachment = some a.id then { a with contentHash := some row.hash } else a) }

def storeBlock (scope hash reason actor : String) (attachment : Option String) : App Unit := do
  Prog.require (reviewReason reason) (.badRequest "reason must be 1–2000 bytes")
  let now ← App.nowSeconds
  App.update (insertBlock (blockRow scope hash reason actor now) attachment)

def blockHash (scope hash reason : String) (auth : AuthUser) : Work Unit := do
  (authorize scope auth true : App Unit)
  (validateHash hash : App Unit)
  Task.locked .processing (Task.locked .admission
    (storeBlock scope hash reason auth.userId none : App Unit))

def attachmentInMessage (id : String) : Query (AttachmentRow × MessageRow) :=
  fun db =>
    match Lib.Table.lookup AttachmentRow.id id db.attachments with
    | none => .error AppError.rowNotFound
    | some a =>
      match Lib.Table.lookup MessageRow.id a.messageId db.messages with
      | none => .error AppError.rowNotFound
      | some message => .ok (a, message)

def authorizeBlock (scope : String) (auth : AuthUser) (message : MessageRow) : App Unit := do
  if scope = "*" then requireServerAdmin auth
  else
    Prog.require (message.spaceId = some scope) (.notFound "attachment not found in this space")
    let _ ← requireChannelPermission message.channelId auth "manage_messages"
    return ()

def blockAttachment (scope id reason : String) (auth : AuthUser)
    (legacy : Except AppError String) : Work Unit := do
  let (a, message) ← ((attachmentInMessage id : Query _) : App (AttachmentRow × MessageRow))
  (authorizeBlock scope auth message : App Unit)
  let hash ← ((match a.contentHash with
    | some hash => .ok hash
    | none => legacy : Except AppError String) : App String)
  Task.locked .processing (Task.locked .admission
    (storeBlock scope hash reason auth.userId (some id) : App Unit))

def dropBlock (scope hash : String) (db : Tables) : Tables :=
  { db with automodHashes := Lib.Table.delete hashKey (scope, hash) db.automodHashes }

def unblockHash (scope hash : String) (auth : AuthUser) : Work Unit := do
  (authorize scope auth true : App Unit)
  (validateHash hash : App Unit)
  Task.locked .processing (App.update (dropBlock scope hash) : App Unit)

end Vokusz.Automod
