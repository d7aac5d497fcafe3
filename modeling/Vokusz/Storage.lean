import Vokusz.State

namespace Vokusz.Storage

open Lib (Prog)

abbrev FilePath := List String

def splitSlash : List Char → List (List Char)
  | [] => [[]]
  | c :: cs =>
    if c = '/' then [] :: splitSlash cs
    else
      match splitSlash cs with
      | part :: parts => (c :: part) :: parts
      | [] => [[c]]

def components (path : String) : List String := (splitSlash path.toList).map String.ofList

def stripPrefix (pre s : String) : String :=
  if pre.toList.isPrefixOf s.toList then String.ofList (s.toList.drop pre.length) else s

inductive LookupError where
  | notFound
  | notADirectory
  deriving DecidableEq, Repr

def exists? (files : List FilePath) (path : FilePath) : Bool :=
  path = [] || files.any (fun f => path.isPrefixOf f)

def canonicalizeFrom (files : List FilePath) :
    FilePath → List String → Except LookupError FilePath
  | current, [] => .ok current
  | current, c :: cs =>
    if files.contains current then .error .notADirectory
    else if c = "" ∨ c = "." then canonicalizeFrom files current cs
    else if c = ".." then canonicalizeFrom files current.dropLast cs
    else if exists? files (current ++ [c]) then canonicalizeFrom files (current ++ [c]) cs
    else .error .notFound

def joined (storagePath : FilePath) (rel : String) : List String :=
  if "/".toList.isPrefixOf rel.toList then components rel else storagePath ++ components rel

def relativeToStorage (url : String) : String := stripPrefix "/cdn/" url

def resolvedFrom (current : FilePath) (names : List String) : FilePath :=
  names.foldl (fun path c =>
    if c = "" ∨ c = "." then path else if c = ".." then path.dropLast else path ++ [c]) current

def resolved (names : List String) : FilePath := resolvedFrom [] names

def canonicalTarget (storagePath : FilePath) (files : List FilePath) (url : String) :
    Except LookupError FilePath :=
  canonicalizeFrom files [] (joined storagePath (relativeToStorage url))

def removeFile (path : FilePath) : App Unit :=
  Prog.modify (fun s => { s with files := s.files.filter (fun f => f ≠ path) })

def deleteFile (url : String) : App Unit := do
  let target ← Prog.get (fun s => (canonicalTarget s.storagePath s.files url, s.storagePath, s.files))
  match target with
  | (.error .notFound, _, _) => return ()
  | (.error .notADirectory, _, _) => Prog.fail (.internal "failed to inspect file for deletion")
  | (.ok path, storagePath, files) =>
    Prog.require (storagePath.isPrefixOf path) (.badRequest "invalid file path")
    Prog.require (files.contains path) (.internal "failed to delete file")
    removeFile path

def writeFile (fault : AppError) (path : FilePath) : App Unit :=
  Prog.statement fault (fun s =>
    (.ok (), { s with files := if s.files.contains path then s.files else s.files ++ [path] }))

def isDataUri (value : String) : Bool := "data:".toList.isPrefixOf value.toList

def splitMarker (marker : List Char) : List Char → Option (List Char × List Char)
  | [] => if marker = [] then some ([], []) else none
  | c :: cs =>
    if marker.isPrefixOf (c :: cs) then some ([], (c :: cs).drop marker.length)
    else (splitMarker marker cs).map (fun parts => (c :: parts.1, parts.2))

def invalidBase64 : AppError := .badRequest "invalid base64 data"

def decodeByte (b : UInt8) : Except AppError UInt8 :=
  if 65 ≤ b ∧ b ≤ 90 then .ok (b - 65)
  else if 97 ≤ b ∧ b ≤ 122 then .ok (b - 97 + 26)
  else if 48 ≤ b ∧ b ≤ 57 then .ok (b - 48 + 52)
  else if b = 43 then .ok 62
  else if b = 47 then .ok 63
  else .error invalidBase64

def decodeQuad (a b c d : UInt8) : Except AppError (List UInt8) := do
  let a ← decodeByte a
  let b ← decodeByte b
  let c ← decodeByte c
  let d ← decodeByte d
  return [(a <<< 2) ||| (b >>> 4), (b <<< 4) ||| (c >>> 2), (c <<< 6) ||| d]

def decodeChunks : List UInt8 → Except AppError (List UInt8)
  | a :: b :: c :: d :: rest => do
    let out ← decodeQuad a b c d
    let more ← decodeChunks rest
    return out ++ more
  | [a, b, c] => do
    let a ← decodeByte a
    let b ← decodeByte b
    let c ← decodeByte c
    return [(a <<< 2) ||| (b >>> 4), (b <<< 4) ||| (c >>> 2)]
  | [a, b] => do
    let a ← decodeByte a
    let b ← decodeByte b
    return [(a <<< 2) ||| (b >>> 4)]
  | [a] => do
    let _ ← decodeByte a
    .error invalidBase64
  | [] => .ok []

def base64Decode (input : String) : Except AppError (List UInt8) :=
  decodeChunks (input.toUTF8.toList.filter (fun b => b ≠ 61 && b ≠ 10 && b ≠ 13 && b ≠ 32))

def allowedImageTypes : List String := ["image/png", "image/gif", "image/webp", "image/jpeg"]

def tooLarge (maxSize : Nat) : AppError :=
  if maxSize ≥ 1024 * 1024 then
    .payloadTooLarge ("image exceeds maximum size of " ++ toString (maxSize / (1024 * 1024)) ++
      " MB")
  else
    .payloadTooLarge ("image exceeds maximum size of " ++ toString (maxSize / 1024) ++ " KB")

def validateImageDataUri (data : String) (maxSize : Nat) :
    Except AppError (List UInt8 × String × Bool) :=
  if ¬ isDataUri data then .error (.badRequest "image must be a data URI")
  else
    match splitMarker ";base64,".toList (data.toList.drop 5) with
    | none => .error (.badRequest "image must be a base64 data URI")
    | some (mime, b64) =>
      let mime := String.ofList mime
      if mime ∉ allowedImageTypes then
        .error (.badRequest ("unsupported image type: " ++ mime ++
          ". allowed: png, gif, webp, jpeg"))
      else
        match base64Decode (String.ofList b64) with
        | .error e => .error e
        | .ok bytes =>
          if bytes.length > maxSize then .error (tooLarge maxSize)
          else .ok (bytes, mime, mime = "image/gif")

def mimeToExt (contentType : String) : String :=
  if contentType = "image/png" then "png"
  else if contentType = "image/gif" then "gif"
  else if contentType = "image/webp" then "webp"
  else if contentType = "image/jpeg" then "jpg"
  else if contentType = "audio/ogg" then "ogg"
  else if contentType = "audio/mpeg" then "mp3"
  else if contentType = "audio/wav" then "wav"
  else "bin"

def isAvatarOf (dir : FilePath) (entityId : String) (path : FilePath) : Bool :=
  path.dropLast = dir && path.length = dir.length + 1 &&
    path.getLast?.any (fun name => (entityId ++ ".").toList.isPrefixOf name.toList)

def deleteAvatar (category entityId : String) : App Unit :=
  Prog.modify (fun s =>
    { s with
      files := s.files.filter (fun f => !isAvatarOf (s.storagePath ++ [category]) entityId f) })

-- `admission` is the verdict of the upload rate limit and the hash block list on the decoded image.
def saveAvatarImage (category entityId data : String) (maxSize : Nat)
    (admission : Except AppError Unit) : App (String × String × Nat × Bool) := do
  let (bytes, contentType, animated) ← validateImageDataUri data maxSize
  admission
  deleteAvatar category entityId
  let filename := entityId ++ "." ++ mimeToExt contentType
  let storagePath ← Prog.get AppState.storagePath
  writeFile (.internal ("failed to write " ++ category ++ " file"))
    (joined (storagePath ++ [category]) filename)
  return ("/cdn/" ++ category ++ "/" ++ filename, contentType, bytes.length, animated)

def collapseDots : List Char → List Char
  | [] => []
  | [c] => [c]
  | c :: d :: cs =>
    if c = '.' ∧ d = '.' then collapseDots (d :: cs) else c :: collapseDots (d :: cs)

def sanitizeFilename (isAlphanumeric : Char → Bool) (name : String) : String :=
  let mapped := name.toList.map (fun c =>
    if isAlphanumeric c ∨ c = '-' ∨ c = '_' ∨ c = '.' then c else '_')
  let result := collapseDots (mapped.dropWhile (· = '.'))
  if result.isEmpty then "attachment" else String.ofList result

def attachmentPath (storagePath : FilePath) (channelId attachmentId filename : String) :
    List String :=
  joined (joined (joined (joined storagePath "attachments") channelId) attachmentId) filename

def saveAttachment (isAlphanumeric : Char → Bool) (channelId attachmentId filename : String)
    (size maxSize : Nat) : App String := do
  Prog.require (size ≤ maxSize) (.payloadTooLarge
    ("attachment exceeds maximum size of " ++ toString (maxSize / (1024 * 1024)) ++ " MB"))
  let storagePath ← Prog.get AppState.storagePath
  let safeFilename := sanitizeFilename isAlphanumeric filename
  writeFile (.internal "failed to write attachment file")
    (resolved (attachmentPath storagePath channelId attachmentId safeFilename))
  return "/cdn/attachments/" ++ channelId ++ "/" ++ attachmentId ++ "/" ++ safeFilename

theorem preserves_saveAvatarImage {γ : Type} {view : AppState → γ}
    (category entityId data : String) (maxSize : Nat) (admission : Except AppError Unit)
    (hfiles : ∀ (s : AppState) files, view { s with files := files } = view s) :
    (saveAvatarImage category entityId data maxSize admission).Preserves view := by
  refine (App.preserves_liftExcept _).bind (fun ⟨bytes, contentType, animated⟩ => ?_)
  refine (App.preserves_liftExcept _).bind (fun _ => ?_)
  refine Prog.Preserves.bind (Prog.preserves_modify (fun s => hfiles s _)) (fun _ => ?_)
  refine (Prog.preserves_get _).bind (fun _ => ?_)
  exact Prog.Preserves.bind (Prog.preserves_statement (fun s => hfiles s _))
    (fun _ => Prog.preserves_pure _)

theorem preserves_deleteFile {γ : Type} {view : AppState → γ} (url : String)
    (hfiles : ∀ (s : AppState) files, view { s with files := files } = view s) :
    (deleteFile url).Preserves view := by
  refine (Prog.preserves_get _).bind (fun target => ?_)
  obtain ⟨found, storagePath, files⟩ := target
  cases found with
  | error e =>
    cases e with
    | notFound => exact Prog.preserves_pure _
    | notADirectory => exact Prog.preserves_fail _
  | ok path =>
    refine (Prog.preserves_require _ _).bind (fun _ => ?_)
    refine (Prog.preserves_require _ _).bind (fun _ => ?_)
    exact Prog.preserves_modify (fun s => hfiles s _)

end Vokusz.Storage
