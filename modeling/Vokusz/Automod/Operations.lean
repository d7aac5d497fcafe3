import Vokusz.Automod.Rulings
import Vokusz.Routes.Bans
import Vokusz.Storage.Urls

namespace Vokusz.Automod

open Db Permissions
open Lib (Prog Task Table.lookup)
open Storage (PlainName StoredAs carriedId fileOf)

def cdnAttachments : String := "/cdn/attachments/"

def localUrl (url : String) : Bool := cdnAttachments.toList.isPrefixOf url.toList

def liveUrls (rows : List String) : App (List String) :=
  if rows.isEmpty then return []
  else App.query (fun db => .ok ((db.attachments.map AttachmentRow.url).filter rows.contains))

def unqueue (url : String) : App Unit :=
  App.update (fun db =>
    { db with attachmentDeletions := db.attachmentDeletions.filter (fun u => u ≠ url) })

def drainRows (live : List String) : List String → App Unit
  | [] => return ()
  | url :: urls => do
    whenever (localUrl url ∧ url ∉ live) (Storage.deleteFile url)
    unqueue url
    drainRows live urls

def drainQueue : App Unit := do
  let rows ← App.query (fun db => .ok (db.attachmentDeletions.dedup.take 100))
  let live ← liveUrls (rows.filter localUrl)
  drainRows live rows

def queued : App Nat := App.query (fun db => .ok db.attachmentDeletions.length)

def drainAttachmentDeletions : Work Unit := do
  let count ← queued
  if count = 0 then return ()
  else Task.locked .publication drainQueue

def plainPath (path : String) : Bool :=
  !"/".toList.isPrefixOf path.toList && (Storage.components path).head? ≠ some "." &&
    !(Storage.components path).contains ".."

def servable (url : String) (db : Tables) : Bool :=
  db.attachments.any (fun a =>
    a.url = url && !db.automodUploads.any (fun u => u.id = a.id && u.status ≠ "published"))

def noAttachment : AppError := .notFound "attachment not found"

def resolveFrom (base : Storage.FilePath) (names : List String) : App Storage.FilePath := do
  let found ← Prog.get (fun s => Storage.canonicalizeFrom s.files base names)
  match found with
  | .ok path => return path
  | .error _ => Prog.fail noAttachment

def serveAttachment (path : String) : App (Option Storage.FilePath) := do
  Prog.require (plainPath path) noAttachment
  let accepted ← App.query (fun db => .ok (servable (cdnAttachments ++ path) db))
  Prog.require accepted noAttachment
  let storagePath ← Prog.get AppState.storagePath
  let root ← resolveFrom [] (storagePath ++ ["attachments"])
  let file ← resolveFrom [] (Storage.joined root path)
  Prog.require (root.isPrefixOf file) noAttachment
  Prog.get (fun s => if s.files.contains file then some file else none)

inductive Operation where
  | process (scan : AutomodUpload → Except String ScanResult) (claims : Nat)
  | cleanup
  | setPolicy (scope : String) (auth : AuthUser) (policy : Policy)
  | resetPolicy (scope : String) (auth : AuthUser)
  | review (id : String) (auth : AuthUser) (request : Review)
  | blockHash (scope hash reason : String) (auth : AuthUser)
  | blockAttachment (scope id reason : String) (auth : AuthUser)
      (legacy : Except AppError String)
  | unblockHash (scope hash : String) (auth : AuthUser)
  | deleteMessage (channelId messageId : String) (auth : AuthUser)
      (reply : Except AppError Response)
  | bulkDelete (channelId : String) (auth : AuthUser) (messages : List String)
  | purge (spaceId userId : String) (seconds : Nat)
  | drain

namespace Operation

def worker : Operation → Bool
  | .process _ _ => true
  | _ => false

def answered {α : Type} (p : Work α) : Work (Option Bool) := do
  let _ ← p
  return some true

def program (m : Originals) : Operation → Work (Option Bool)
  | .process scan claims => processOne m scan claims
  | .cleanup => answered (Automod.cleanup m)
  | .setPolicy scope auth policy => answered (Automod.setPolicy scope auth policy)
  | .resetPolicy scope auth => answered (Automod.resetPolicy scope auth)
  | .review id auth request => answered (Automod.review m id auth request)
  | .blockHash scope hash reason auth => answered (Automod.blockHash scope hash reason auth)
  | .blockAttachment scope id reason auth legacy =>
    answered (Automod.blockAttachment scope id reason auth legacy)
  | .unblockHash scope hash auth => answered (Automod.unblockHash scope hash auth)
  | .deleteMessage channelId messageId auth reply =>
    answered (Routes.Messages.deleteMessage channelId messageId auth reply : App Json)
  | .bulkDelete channelId auth messages =>
    answered (Routes.Messages.bulkDeleteMessages channelId auth messages : App Json)
  | .purge spaceId userId seconds =>
    answered (Routes.Bans.purgeRecentMessages spaceId userId seconds : App _)
  | .drain => answered drainAttachmentDeletions

end Operation

def Exclusive (op : Operation) : Prop := op.worker = true

structure Rows where
  policies : List AutomodPolicy
  hashes : List AutomodHash
  uploads : List AutomodUpload
  attachments : List AttachmentRow
  deletions : List String
  storagePath : Storage.FilePath

def rowsOf (s : AppState) : Rows :=
  { policies := s.db.automodPolicies
    hashes := s.db.automodHashes
    uploads := s.db.automodUploads
    attachments := s.db.attachments
    deletions := s.db.attachmentDeletions
    storagePath := s.storagePath }

structure Alike (id : String) (s t : AppState) : Prop where
  policies : (rowsOf t).policies = (rowsOf s).policies
  hashes : (rowsOf t).hashes = (rowsOf s).hashes
  upload : Lib.Table.lookup AutomodUpload.id id (rowsOf t).uploads =
    Lib.Table.lookup AutomodUpload.id id (rowsOf s).uploads

def goneReason : String := "original message was deleted; cannot release"

structure Ruled (c : Commit) (s : AppState) (result : Option ScanResult)
    (requested reason : String) : Prop where
  row : Lib.Table.lookup AutomodUpload.id c.upload.id (rowsOf s).uploads = some c.upload
  decided : (turn c.upload.id result).Gives (Alike c.upload.id s)
    (.ok (.decided c.upload requested reason c.decision))
  written : (c.status = requested ∧ c.reason = reason) ∨
    (requested = "published" ∧ c.status = "quarantined" ∧ c.reason = goneReason ∧
      ∃ e, Alike c.upload.id s e ∧ messageStands c.upload e.db = .ok false)

structure Releases (c : Commit) : Prop where
  status : c.file.isSome → c.status = "published"
  url : ∀ file, c.file = some file → PlainName c.upload.channelId → PlainName c.upload.id →
    StoredAs c.upload.id file.url

structure Undisturbed (s t : AppState) : Prop where
  policies : (rowsOf t).policies = (rowsOf s).policies
  hashes : (rowsOf t).hashes = (rowsOf s).hashes
  uploads : ∀ id u, Lib.Table.lookup AutomodUpload.id id (rowsOf s).uploads = some u →
    Lib.Table.lookup AutomodUpload.id id (rowsOf t).uploads = some u

structure Undrained (s t : AppState) : Prop where
  storagePath : (rowsOf t).storagePath = (rowsOf s).storagePath
  deletions : ∀ url ∈ (rowsOf s).deletions, url ∈ (rowsOf t).deletions
  attachments : ∀ a ∈ (rowsOf t).attachments,
    (∃ b ∈ (rowsOf s).attachments, b.url = a.url) ∨ a.url ∉ (rowsOf s).deletions

def Lasting (s t : AppState) : Prop :=
  ∀ u ∈ (rowsOf s).uploads, ∃ v ∈ (rowsOf t).uploads, v.id = u.id ∧ v.channelId = u.channelId

structure Rely (op : Operation) (held : Mutex → Prop) (s t : AppState) : Prop where
  lasting : Lasting s t
  worker : op.worker = true → held .processing → Undisturbed s t
  collector : op = .drain → held .publication → Undrained s t

def Known (upload : AutomodUpload) (s : AppState) : Prop :=
  ∃ v ∈ (rowsOf s).uploads, v.id = upload.id ∧ v.channelId = upload.channelId

structure FreshUpload (s t : AppState) (u : AutomodUpload) : Prop where
  plain : PlainName u.id ∧ PlainName u.channelId
  unused : ∀ v ∈ (rowsOf s).uploads, v.id ≠ u.id
  unposted : ∀ a ∈ (rowsOf t).attachments, a.id ≠ u.id

structure FreshAttachment (s t : AppState) (a : AttachmentRow) : Prop where
  url : StoredAs a.id a.url
  unused : ∀ u ∈ (rowsOf t).uploads, u.id ≠ a.id
  undeleted : ∀ url ∈ (rowsOf s).deletions, ¬ StoredAs a.id url

structure Elsewhere (s t : AppState) : Prop where
  policies : (rowsOf t).policies = (rowsOf s).policies
  hashes : (rowsOf t).hashes = (rowsOf s).hashes
  uploads : ∃ added, (rowsOf t).uploads = (rowsOf s).uploads ++ added ∧
    (added.map AutomodUpload.id).Nodup ∧ ∀ u ∈ added, FreshUpload s t u
  attachments : ∀ a ∈ (rowsOf t).attachments,
    (∃ b ∈ (rowsOf s).attachments, b.id = a.id ∧ b.url = a.url) ∨ FreshAttachment s t a
  deletions : ∀ url ∈ (rowsOf s).deletions, url ∈ (rowsOf t).deletions
  queued : ∀ url ∈ (rowsOf t).deletions,
    url ∈ (rowsOf s).deletions ∨ ∃ a ∈ (rowsOf s).attachments, a.url = url
  storagePath : (rowsOf t).storagePath = (rowsOf s).storagePath

inductive Change (op : Operation) (held : Mutex → Prop) (s t : AppState) : Prop
  | aside (hrows : rowsOf t = rowsOf s) (hfiles : op = .drain → t.files = s.files)
  | commits (c : Commit) (hop : op ≠ .drain) (hprocessing : held .processing)
      (hpublication : held .publication)
      (hrefusal : c.refusal s.db = none) (hreleases : Releases c) (hknown : Known c.upload s)
      (hruled : op.worker = true → ∃ result requested reason, Ruled c s result requested reason)
      (hrows : rowsOf t = rowsOf (s.withDb (c.effect s.db)))
  | configures (hop : op ≠ .drain) (hprocessing : held .processing) (hworker : op.worker = false)
      (huploads : (rowsOf t).uploads = (rowsOf s).uploads)
      (hurls : (rowsOf t).attachments.map (fun a => (a.id, a.url)) =
        (rowsOf s).attachments.map (fun a => (a.id, a.url)))
      (hdeletions : (rowsOf t).deletions = (rowsOf s).deletions)
      (hstorage : (rowsOf t).storagePath = (rowsOf s).storagePath)
  | notes (f : AutomodUpload → AutomodUpload) (hop : op ≠ .drain)
      (hheld : held .processing ∨ op.worker = true)
      (hf : ∀ u, (f u).id = u.id ∧ (f u).channelId = u.channelId ∧ (f u).status = u.status)
      (hrows : rowsOf t = { rowsOf s with uploads := (rowsOf s).uploads.map f })
      (hsize : ∀ u, (f u).size = u.size)
  | removes (keep : AttachmentRow → Bool) (deletions : List String) (hop : op ≠ .drain)
      (hkept : ∀ url ∈ (rowsOf s).deletions, url ∈ deletions)
      (hqueued : ∀ url ∈ deletions,
        url ∈ (rowsOf s).deletions ∨ ∃ a ∈ (rowsOf s).attachments, a.url = url)
      (hrows : rowsOf t =
        { rowsOf s with
          attachments := (rowsOf s).attachments.filter keep
          deletions := deletions })
  | unlinks (url : String) (path : Storage.FilePath) (hop : op = .drain)
      (hurl : localUrl url = true) (hqueued : url ∈ (rowsOf s).deletions)
      (hgone : ∀ a ∈ (rowsOf s).attachments, a.url ≠ url)
      (hpath : ∃ files, Storage.canonicalTarget (rowsOf s).storagePath files url = .ok path)
      (hroot : (rowsOf s).storagePath.isPrefixOf path = true)
      (hrows : rowsOf t = rowsOf s) (hfiles : t.files = s.files.filter (fun f => f ≠ path))
  | unqueues (url : String) (hop : op = .drain) (hpublication : held .publication)
      (hrows : rowsOf t =
        { rowsOf s with deletions := (rowsOf s).deletions.filter (fun u => u ≠ url) })
      (hfiles : t.files = s.files)

end Vokusz.Automod
