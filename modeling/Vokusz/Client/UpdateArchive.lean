import Mathlib.Data.List.SplitOn
import Vokusz.Lib.FileTree

namespace Vokusz.Client.UpdateArchive

open Lib (Prog)
open Lib.FileTree

abbrev Bytes := List UInt8

abbrev Files := Lib.FileTree.Tree Bytes

structure UpdateArchiveLimits where
  maxCompressedBytes : Nat := 512 * 1024 * 1024
  maxExpandedBytes : Nat := 1024 * 1024 * 1024
  maxEntries : Nat := 20000

structure ArchiveFile where
  name : String
  size : Int := 0
  isFile : Bool := true
  isSymbolicLink : Bool := false
  nameOfLinkedFile : String := ""
  content : Option Bytes := some []
  deriving DecidableEq, Repr

structure PathPackage where
  normalize : Path → Path
  canonicalize : Path → Path
  isWithin : Path → Path → Bool

structure System where
  path : PathPackage
  maxLinks : Nat := 40

def unsafePath : String := "The update archive contains an unsafe path."
def unsafeLink : String := "The update archive contains an unsafe symbolic link."
def conflictingPaths : String := "The update archive contains conflicting paths."
def expandsBeyond : String := "The update archive expands beyond the safe limit."
def tooManyFiles : String := "The update archive has too many files."
def invalidArchive : String := "The update archive is invalid."
def tooLarge : String := "The update archive is too large."
def couldNotExtract : String := "Could not safely extract the update."

section

def slashed (text : String) : List Char :=
  text.toList.map (fun c => if c = '\\' then '/' else c)

def startsWithDrive : List Char → Bool
  | c :: ':' :: _ => c.isAlpha
  | _ => false

def refused (raw : List Char) : Bool :=
  raw.isEmpty || raw.contains (Char.ofNat 0) || raw.head? = some '/' || startsWithDrive raw

def segments (raw : List Char) : Path := (raw.splitOn '/').map String.ofList

def baseName (path : String) : String :=
  String.ofList ((path.toList.splitOn '/').getLast?.getD [])

variable (sys : System)

def normalizeEntryName (name : String) : Except String Path :=
  let raw := slashed name
  if refused raw then .error unsafePath
  else if ".." ∈ segments raw then .error unsafePath
  else
    let normalized := sys.path.normalize (segments raw)
    if normalized = [] ∨ normalized.head? = some ".." then .error unsafePath
    else .ok normalized

def containedPath (root relativePath : Path) : Except String Path :=
  let candidate := sys.path.canonicalize (root ++ relativePath)
  if sys.path.isWithin root candidate then .ok candidate else .error unsafePath

def safeLinkTarget (root linkPath : Path) (target : String) : Except String Path :=
  let raw := slashed target
  if refused raw then .error unsafeLink
  else
    let resolvedRelative := sys.path.normalize (linkPath.dropLast ++ segments raw)
    if resolvedRelative.head? = some ".." then .error unsafeLink
    else
      match containedPath sys root resolvedRelative with
      | .error e => .error e
      | .ok _ => .ok (sys.path.normalize (sys.path.normalize (segments raw)))

def verifyExistingPath (root path : Path) : Except String Unit :=
  let canonical := sys.path.canonicalize path
  if canonical ≠ root ∧ sys.path.isWithin root canonical = false then .error unsafePath
  else .ok ()

end

structure ValidatedArchiveEntry where
  file : ArchiveFile
  outputPath : Path
  linkTarget : Option Path
  deriving DecidableEq, Repr

section

variable (sys : System) (limits : UpdateArchiveLimits)

def validateEntry (root : Path) (entry : ArchiveFile) : Except String ValidatedArchiveEntry := do
  let relativePath ← normalizeEntryName sys entry.name
  let outputPath ← containedPath sys root relativePath
  if entry.isSymbolicLink then
    let linkTarget ← safeLinkTarget sys root relativePath entry.nameOfLinkedFile
    return { file := entry, outputPath := outputPath, linkTarget := some linkTarget }
  else return { file := entry, outputPath := outputPath, linkTarget := none }

def validateFrom (root : Path) :
    List ArchiveFile → Int → List Path → Except String (List ValidatedArchiveEntry)
  | [], _, _ => .ok []
  | entry :: rest, expanded, outputPaths =>
    if entry.size < 0 ∨ (limits.maxExpandedBytes : Int) < expanded + entry.size then
      .error expandsBeyond
    else
      match validateEntry sys root entry with
      | .error e => .error e
      | .ok validated =>
        if validated.outputPath ∈ outputPaths then .error conflictingPaths
        else
          match validateFrom root rest (expanded + entry.size)
            (validated.outputPath :: outputPaths) with
          | .error e => .error e
          | .ok others => .ok (validated :: others)

def validateEntries (root : Path) (archive : List ArchiveFile) :
    Except String (List ValidatedArchiveEntry) :=
  if limits.maxEntries < archive.length then .error tooManyFiles
  else validateFrom sys limits root archive 0 []

def createDirectory (path : Path) : Prog Files String Unit :=
  createRecursive sys.maxLinks couldNotExtract path

def createVerified (root path : Path) : Prog Files String Unit := do
  createDirectory sys path
  let resolved ← Prog.get (realDirectory sys.maxLinks path)
  match resolved with
  | none => Prog.fail couldNotExtract
  | some real => Prog.ofExcept (verifyExistingPath sys root real)

def extractDirectory (root : Path) (entry : ValidatedArchiveEntry) : Prog Files String Unit :=
  createVerified sys root entry.outputPath

def writeArchiveFile (entry : ValidatedArchiveEntry) (used : Nat) : Prog Files String Nat := do
  writeFile sys.maxLinks couldNotExtract entry.outputPath []
  match entry.file.content with
  | none => Prog.fail couldNotExtract
  | some bytes =>
    Prog.require (used + bytes.length ≤ limits.maxExpandedBytes) expandsBeyond
    writeFile sys.maxLinks couldNotExtract entry.outputPath bytes
    Prog.require ((bytes.length : Int) = entry.file.size) invalidArchive
    return used + bytes.length

def extractFile (root : Path) (entry : ValidatedArchiveEntry) (used : Nat) :
    Prog Files String Nat := do
  createVerified sys root entry.outputPath.dropLast
  writeArchiveFile sys limits entry used

def extractFiles (root : Path) : List ValidatedArchiveEntry → Nat → Prog Files String Unit
  | [], _ => pure ()
  | entry :: rest, used => do
    let used ← extractFile sys limits root entry used
    extractFiles root rest used

def extractLink (root : Path) (entry : ValidatedArchiveEntry) : Prog Files String Unit := do
  createVerified sys root entry.outputPath.dropLast
  match entry.outputPath.getLast?, entry.linkTarget with
  | some name, some target =>
    makeLink sys.maxLinks couldNotExtract entry.outputPath.dropLast name target
  | _, _ => Prog.fail couldNotExtract

def isLink (entry : ValidatedArchiveEntry) : Bool := entry.file.isSymbolicLink

def isPlainFile (entry : ValidatedArchiveEntry) : Bool :=
  entry.file.isFile && !entry.file.isSymbolicLink

def isDirectory (entry : ValidatedArchiveEntry) : Bool :=
  !entry.file.isFile && !entry.file.isSymbolicLink

def extractUnlinked (root : Path) (archive : List ArchiveFile) :
    Prog Files String (List ValidatedArchiveEntry) := do
  let entries ← Prog.ofExcept (validateEntries sys limits root archive)
  Prog.forEach (entries.filter isDirectory) (extractDirectory sys root)
  extractFiles sys limits root (entries.filter isPlainFile) 0
  return entries.filter isLink

def extractInto (root : Path) (archive : List ArchiveFile) : Prog Files String Unit := do
  let links ← extractUnlinked sys limits root archive
  Prog.forEach links (extractLink sys root)

structure ArchiveInput where
  fileName : String
  compressedBytes : Nat
  decoded : Except String (List ArchiveFile)

def hasSuffix (suffix fileName : String) : Bool := suffix.toList.isSuffixOf fileName.toList

def isTarball (fileName : String) : Bool :=
  hasSuffix ".tar.gz" fileName || hasSuffix ".tgz" fileName

def preflightFrom (tarball : Bool) : List ArchiveFile → Int → Except String Unit
  | [], _ => .ok ()
  | entry :: rest, expanded =>
    match normalizeEntryName sys entry.name with
    | .error e => .error e
    | .ok _ =>
      if tarball = false ∧ entry.size < 0 then .error invalidArchive
      else if (limits.maxExpandedBytes : Int) < expanded + entry.size then .error expandsBeyond
      else preflightFrom tarball rest (expanded + entry.size)

def preflight (input : ArchiveInput) : Except String (List ArchiveFile) :=
  if limits.maxCompressedBytes < input.compressedBytes then .error tooLarge
  else if isTarball input.fileName = false ∧ hasSuffix ".zip" input.fileName = false then
    .error ("Unsupported archive: " ++ baseName input.fileName)
  else
    match input.decoded with
    | .error e => .error e
    | .ok archive =>
      if limits.maxEntries < archive.length then .error tooManyFiles
      else
        match preflightFrom sys limits (isTarball input.fileName) archive 0 with
        | .error e => .error e
        | .ok _ => .ok archive

def prepare (dest : Path) : Prog Files String Unit := do
  Prog.modify (deleteEntity dest)
  createDirectory sys dest

def extractPrepared (dest : Path) (archive : List ArchiveFile) : Prog Files String Unit := do
  let root ← Prog.get (realDirectory sys.maxLinks dest)
  match root with
  | none => Prog.fail couldNotExtract
  | some root => extractInto sys limits root archive

def extractArchive (input : ArchiveInput) (dest : Path) : Prog Files String Path := do
  let archive ← Prog.ofExcept (preflight sys limits input)
  prepare sys dest
  let outcome ← (extractPrepared sys limits dest archive).attempt
  match outcome with
  | .ok _ => return dest
  | .error e =>
    Prog.modify (deleteEntity dest)
    Prog.fail e

end

def climb (done : Path) (name : String) : Path :=
  if name = "" ∨ name = "." then done
  else if name = ".." then
    if done = [] ∨ done.getLast? = some ".." then done ++ [".."] else done.dropLast
  else done ++ [name]

def simplified (path : Path) : Path := path.foldl climb []

structure Documented (path : PathPackage) : Prop where
  normalize : ∀ segments, path.normalize segments = simplified segments
  canonicalize : ∀ segments, ".." ∉ segments →
    path.canonicalize segments = segments.filter (fun s => s ≠ "" ∧ s ≠ ".")
  isWithin : ∀ a b, (∀ name ∈ a, Proper name) → (∀ name ∈ b, Proper name) →
    (path.isWithin a b = true ↔ a <+: b ∧ a ≠ b)

def posix : PathPackage where
  normalize := simplified
  canonicalize := fun segments => segments.filter (fun s => s ≠ "" ∧ s ≠ ".")
  isWithin := fun a b => a.isPrefixOf b && a ≠ b

theorem documented_posix : Documented posix where
  normalize := fun _ => rfl
  canonicalize := fun _ _ => rfl
  isWithin := by simp [posix]

section

def Shaped (path : Path) : Prop :=
  ∃ k names, path = List.replicate k ".." ++ names ∧ ∀ name ∈ names, Proper name

theorem Shaped.climb {done : Path} (h : Shaped done) (name : String) : Shaped (climb done name) := by
  obtain ⟨k, names, rfl, hnames⟩ := h
  unfold UpdateArchive.climb
  split
  · exact ⟨k, names, rfl, hnames⟩
  · rename_i hstay
    split
    · rename_i hup
      split
      · rename_i hlast
        rcases List.eq_nil_or_concat' names with rfl | ⟨front, last, rfl⟩
        · refine ⟨k + 1, [], ?_, by simp⟩
          rw [List.append_nil, List.append_nil, List.replicate_succ']
        · have hproper := hnames last (by simp)
          simp [hproper.2.2] at hlast
      · rename_i hlast
        rcases List.eq_nil_or_concat' names with rfl | ⟨front, last, rfl⟩
        · rw [List.append_nil] at hlast
          cases k with
          | zero => simp at hlast
          | succ k => simp [List.replicate_succ'] at hlast
        · refine ⟨k, front, ?_, fun n hn => hnames n (by simp [hn])⟩
          rw [← List.append_assoc, List.dropLast_concat]
    · rename_i hup
      rw [not_or] at hstay
      refine ⟨k, names ++ [name], by rw [List.append_assoc], ?_⟩
      intro n hn
      rcases List.mem_append.mp hn with hn | hn
      · exact hnames n hn
      · rw [List.mem_singleton.mp hn]
        exact ⟨hstay.1, hstay.2, hup⟩

theorem shaped_simplified (path : Path) : Shaped (simplified path) := by
  have hfold : ∀ done, Shaped done → Shaped (path.foldl climb done) := by
    induction path with
    | nil => exact fun done h => h
    | cons name rest ih => exact fun done h => ih _ (h.climb name)
  exact hfold [] ⟨0, [], rfl, by simp⟩

theorem Shaped.proper {path : Path} (h : Shaped path) (hhead : path.head? ≠ some "..") :
    ∀ name ∈ path, Proper name := by
  obtain ⟨k, names, rfl, hnames⟩ := h
  cases k with
  | zero => simpa using hnames
  | succ k => simp [List.replicate_succ] at hhead

variable {sys : System} {root relativePath path target : Path} {name : String}

theorem normalizeEntryName_ok (hdoc : Documented sys.path)
    (h : normalizeEntryName sys name = .ok path) : path ≠ [] ∧ ∀ n ∈ path, Proper n := by
  unfold normalizeEntryName at h
  dsimp only at h
  split at h
  · cases h
  · split at h
    · cases h
    · split at h
      · cases h
      · rename_i hnot
        cases h
        rw [not_or] at hnot
        rw [hdoc.normalize] at hnot ⊢
        exact ⟨hnot.1, (shaped_simplified _).proper hnot.2⟩

theorem filter_proper (h : ∀ n ∈ path, Proper n) :
    path.filter (fun s => s ≠ "" ∧ s ≠ ".") = path := by
  rw [List.filter_eq_self]
  intro n hn
  simp [(h n hn).1, (h n hn).2.1]

theorem canonicalize_proper (hdoc : Documented sys.path) (h : ∀ n ∈ path, Proper n) :
    sys.path.canonicalize path = path := by
  rw [hdoc.canonicalize path (fun hup => (h ".." hup).2.2 rfl), filter_proper h]

theorem proper_append (hroot : ∀ n ∈ root, Proper n) (hpath : ∀ n ∈ path, Proper n) :
    ∀ n ∈ root ++ path, Proper n := by
  intro n hn
  rcases List.mem_append.mp hn with hn | hn
  · exact hroot n hn
  · exact hpath n hn

theorem containedPath_ok (hdoc : Documented sys.path) (hroot : ∀ n ∈ root, Proper n)
    (hrelative : ∀ n ∈ relativePath, Proper n)
    (h : containedPath sys root relativePath = .ok path) : path = root ++ relativePath := by
  unfold containedPath at h
  dsimp only at h
  rw [canonicalize_proper hdoc (proper_append hroot hrelative)] at h
  split at h
  · cases h
    rfl
  · cases h

theorem safeLinkTarget_ok {linkPath : Path} {text : String} (hdoc : Documented sys.path)
    (h : safeLinkTarget sys root linkPath text = .ok target) : Shaped target := by
  unfold safeLinkTarget at h
  dsimp only at h
  split at h
  · cases h
  · split at h
    · cases h
    · split at h
      · cases h
      · cases h
        rw [hdoc.normalize]
        exact shaped_simplified _

theorem verifyExistingPath_ok (hdoc : Documented sys.path) (hroot : ∀ n ∈ root, Proper n)
    (hpath : ∀ n ∈ path, Proper n) {u : Unit} (h : verifyExistingPath sys root path = .ok u) :
    root <+: path := by
  unfold verifyExistingPath at h
  dsimp only at h
  rw [canonicalize_proper hdoc hpath] at h
  split at h
  · cases h
  · rename_i hnot
    rw [not_and_or, not_not, Bool.not_eq_false] at hnot
    rcases hnot with heq | hwithin
    · rw [heq]
    · exact ((hdoc.isWithin root path hroot hpath).mp hwithin).1

end

section

variable {sys : System} {limits : UpdateArchiveLimits} {root : Path}

structure Checked (root : Path) (v : ValidatedArchiveEntry) : Prop where
  place : ∃ names name, v.outputPath = root ++ names ++ [name] ∧ (∀ n ∈ names, Proper n) ∧
    Proper name
  link : isLink v = true → ∃ target, v.linkTarget = some target ∧ Shaped target

theorem checked_of_relative {v : ValidatedArchiveEntry} {relativePath : Path}
    (hne : relativePath ≠ []) (hproper : ∀ n ∈ relativePath, Proper n)
    (hpath : v.outputPath = root ++ relativePath)
    (hlink : isLink v = true → ∃ target, v.linkTarget = some target ∧ Shaped target) :
    Checked root v where
  place := by
    obtain ⟨names, name, rfl⟩ := (List.eq_nil_or_concat' relativePath).resolve_left hne
    refine ⟨names, name, by rw [hpath, List.append_assoc], ?_, ?_⟩
    · exact fun n hn => hproper n (by simp [hn])
    · exact hproper name (by simp)
  link := hlink

section

variable (hdoc : Documented sys.path) (hroot : ∀ n ∈ root, Proper n)

include hdoc hroot

theorem validateEntry_ok {entry : ArchiveFile} {v : ValidatedArchiveEntry}
    (h : validateEntry sys root entry = .ok v) :
    Checked root v := by
  unfold validateEntry at h
  cases hrelative : normalizeEntryName sys entry.name with
  | error e =>
    rw [hrelative] at h
    cases h
  | ok relativePath =>
    obtain ⟨hne, hproper⟩ := normalizeEntryName_ok hdoc hrelative
    cases hcontained : containedPath sys root relativePath with
    | error e =>
      simp only [hrelative, hcontained, bind, Except.bind] at h
      cases h
    | ok outputPath =>
      have hpath := containedPath_ok hdoc hroot hproper hcontained
      simp only [hrelative, hcontained, bind, Except.bind] at h
      split at h
      · cases htarget : safeLinkTarget sys root relativePath entry.nameOfLinkedFile with
        | error e =>
          rw [htarget] at h
          cases h
        | ok target =>
          rw [htarget] at h
          cases h
          apply checked_of_relative hne hproper hpath
          intro _
          exact ⟨target, rfl, safeLinkTarget_ok hdoc htarget⟩
      · rename_i hnot
        cases h
        apply checked_of_relative hne hproper hpath
        intro hlink
        exact absurd hlink hnot

theorem validateFrom_ok (archive : List ArchiveFile) {expanded : Int} {outputPaths : List Path}
    {entries : List ValidatedArchiveEntry}
    (h : validateFrom sys limits root archive expanded outputPaths = .ok entries) :
    ∀ v ∈ entries, Checked root v := by
  induction archive generalizing expanded outputPaths entries with
  | nil =>
    cases h
    simp
  | cons entry rest ih =>
    unfold validateFrom at h
    split at h
    · cases h
    · cases hentry : validateEntry sys root entry with
      | error e =>
        rw [hentry] at h
        cases h
      | ok v =>
        rw [hentry] at h
        dsimp only at h
        split at h
        · cases h
        · cases hothers : validateFrom sys limits root rest (expanded + entry.size)
            (v.outputPath :: outputPaths) with
          | error e =>
            rw [hothers] at h
            cases h
          | ok others =>
            rw [hothers] at h
            cases h
            intro w hw
            rcases List.mem_cons.mp hw with rfl | hw
            · exact validateEntry_ok hdoc hroot hentry
            · exact ih hothers w hw

theorem validateEntries_ok {archive : List ArchiveFile} {entries : List ValidatedArchiveEntry}
    (h : validateEntries sys limits root archive = .ok entries) :
    ∀ v ∈ entries, Checked root v := by
  unfold validateEntries at h
  split at h
  · cases h
  · exact validateFrom_ok hdoc hroot archive h

end

end

section

variable {sys : System} {limits : UpdateArchiveLimits} {root path : Path} {before tree later : Files}

structure Inside (root : Path) (before tree : Files) : Prop where
  outside : ∀ q, ¬ root <+: q → tree q = before q
  grounded : Grounded tree root

theorem Inside.grew {place : Path} (h : Inside root before tree) (hgrew : Grew tree later place)
    (hplace : root <+: place) : Inside root before later where
  outside := fun q hq => (hgrew.outside h.grounded hplace hq).trans (h.outside q hq)
  grounded := hgrew.extends.grounded h.grounded

theorem Inside.put {p : Path} (h : Inside root before tree) (hp : root <+: p)
    (hdir : tree p ≠ some .dir) (node : Node Bytes) : Inside root before (put tree p node) where
  outside := by
    intro q hq
    have hne : q ≠ p := by
      rintro rfl
      exact hq hp
    rw [put_other hne]
    exact h.outside q hq
  grounded := h.grounded.put hdir node

theorem createVerified_ok (hdoc : Documented sys.path) (hroot : ∀ n ∈ root, Proper n)
    (hpath : ∀ n ∈ path, Proper n) {u : Unit}
    (h : (createVerified sys root path).exec tree = (.ok u, later)) :
    ∃ place, realDirectory sys.maxLinks path later = some place ∧ Grew tree later place ∧
      root <+: place := by
  obtain ⟨_, middle, hcreate, h⟩ := Prog.exec_bind_ok.mp h
  obtain ⟨place, hplace, hgrew⟩ := exec_createRecursive hpath hcreate
  rw [Prog.exec_bind_of_ok (Prog.exec_get _ _), hplace] at h
  obtain ⟨hverify, rfl⟩ := Prog.exec_ofExcept_ok.mp h
  have hproper : ∀ n ∈ place, Proper n := (realDirectory_iff.mp hplace).2.proper
  exact ⟨place, hplace, hgrew, verifyExistingPath_ok hdoc hroot hproper hverify⟩

structure Plain (root : Path) (before tree : Files) : Prop where
  inside : Inside root before tree
  unlinked : Unlinked root tree

theorem Plain.createVerified {names : Path} (hdoc : Documented sys.path)
    (h : Plain root before tree) (hnames : ∀ n ∈ names, Proper n) {u : Unit}
    (hexec : (createVerified sys root (root ++ names)).exec tree = (.ok u, later)) :
    Plain root before later ∧ Grounded later (root ++ names) := by
  have hroot := h.inside.grounded.proper
  obtain ⟨place, hplace, hgrew, hwithin⟩ :=
    createVerified_ok hdoc hroot (proper_append hroot hnames) hexec
  have hlater : Plain root before later := ⟨h.inside.grew hgrew hwithin, hgrew.unlinked h.unlinked⟩
  have hplain := hlater.unlinked.realDirectory hlater.inside.grounded hnames hplace
  subst hplain
  exact ⟨hlater, (realDirectory_iff.mp hplace).2⟩

theorem Plain.writeFile {parent : Path} {name : String} {content : Bytes}
    (h : Plain root before tree) (hparent : Grounded tree parent) (hwithin : root <+: parent)
    (hname : Proper name) {u : Unit}
    (hexec : (writeFile sys.maxLinks couldNotExtract (parent ++ [name]) content).exec tree =
      (.ok u, later)) : Plain root before later ∧ Grounded later parent := by
  have hbelow : root <+: parent ++ [name] := hwithin.trans (List.prefix_append _ _)
  obtain ⟨hdir, rfl⟩ := exec_writeFile hparent hname
    (fun absolute target => h.unlinked _ absolute target hbelow) hexec
  exact ⟨⟨h.inside.put hbelow hdir _, h.unlinked.put_file _ _⟩, hparent.put hdir _⟩

section

variable (hdoc : Documented sys.path)

include hdoc

theorem Plain.extractDirectory {v : ValidatedArchiveEntry} (h : Plain root before tree)
    (hv : Checked root v) {u : Unit}
    (hexec : (extractDirectory sys root v).exec tree = (.ok u, later)) :
    Plain root before later := by
  obtain ⟨names, name, hpath, hnames, hname⟩ := hv.place
  rw [UpdateArchive.extractDirectory, hpath, List.append_assoc] at hexec
  have hproper : ∀ n ∈ names ++ [name], Proper n := by
    intro n hn
    rcases List.mem_append.mp hn with hn | hn
    · exact hnames n hn
    · rw [List.mem_singleton.mp hn]
      exact hname
  exact (h.createVerified hdoc hproper hexec).1

theorem Plain.extractFile {v : ValidatedArchiveEntry} (h : Plain root before tree)
    (hv : Checked root v) {used total : Nat}
    (hexec : (extractFile sys limits root v used).exec tree = (.ok total, later)) :
    Plain root before later := by
  obtain ⟨names, name, hpath, hnames, hname⟩ := hv.place
  obtain ⟨_, parented, hcreate, hexec⟩ := Prog.exec_bind_ok.mp hexec
  rw [hpath, List.dropLast_concat] at hcreate
  obtain ⟨hplain, hparent⟩ := h.createVerified hdoc hnames hcreate
  have hwithin : root <+: root ++ names := List.prefix_append _ _
  unfold writeArchiveFile at hexec
  rw [hpath] at hexec
  obtain ⟨_, opened, hopen, hexec⟩ := Prog.exec_bind_ok.mp hexec
  obtain ⟨hplain, hparent⟩ := hplain.writeFile hparent hwithin hname hopen
  cases hcontent : v.file.content with
  | none =>
    rw [hcontent] at hexec
    cases hexec
  | some bytes =>
    rw [hcontent] at hexec
    obtain ⟨_, counted, hbudget, hexec⟩ := Prog.exec_bind_ok.mp hexec
    obtain ⟨_, rfl⟩ := Prog.exec_require_ok.mp hbudget
    obtain ⟨_, written, hwrite, hexec⟩ := Prog.exec_bind_ok.mp hexec
    obtain ⟨hplain, _⟩ := hplain.writeFile hparent hwithin hname hwrite
    obtain ⟨_, checked, hlength, hexec⟩ := Prog.exec_bind_ok.mp hexec
    obtain ⟨_, rfl⟩ := Prog.exec_require_ok.mp hlength
    cases hexec
    exact hplain

theorem Plain.extractDirectories (vs : List ValidatedArchiveEntry) (hvs : ∀ v ∈ vs, Checked root v)
    (h : Plain root before tree) {u : Unit}
    (hexec : (Prog.forEach vs (UpdateArchive.extractDirectory sys root)).exec tree = (.ok u, later)) :
    Plain root before later := by
  induction vs generalizing tree with
  | nil =>
    cases hexec
    exact h
  | cons v rest ih =>
    rw [Prog.forEach_cons] at hexec
    obtain ⟨_, middle, hfirst, hrest⟩ := Prog.exec_bind_ok.mp hexec
    have hmiddle := h.extractDirectory hdoc (hvs v List.mem_cons_self) hfirst
    exact ih (fun w hw => hvs w (List.mem_cons_of_mem v hw)) hmiddle hrest

theorem Plain.extractFiles (vs : List ValidatedArchiveEntry) (hvs : ∀ v ∈ vs, Checked root v)
    (h : Plain root before tree) {used : Nat} {u : Unit}
    (hexec : (UpdateArchive.extractFiles sys limits root vs used).exec tree = (.ok u, later)) :
    Plain root before later := by
  induction vs generalizing tree used with
  | nil =>
    cases hexec
    exact h
  | cons v rest ih =>
    obtain ⟨total, middle, hfirst, hrest⟩ := Prog.exec_bind_ok.mp hexec
    have hmiddle := h.extractFile hdoc (hvs v List.mem_cons_self) hfirst
    exact ih (fun w hw => hvs w (List.mem_cons_of_mem v hw)) hmiddle hrest

theorem Plain.extractUnlinked {archive : List ArchiveFile} {links : List ValidatedArchiveEntry}
    (h : Plain root before tree)
    (hexec : (extractUnlinked sys limits root archive).exec tree = (.ok links, later)) :
    Plain root before later ∧ ∀ v ∈ links, Checked root v ∧ isLink v = true := by
  obtain ⟨entries, start, hvalidate, hexec⟩ := Prog.exec_bind_ok.mp hexec
  obtain ⟨hvalid, rfl⟩ := Prog.exec_ofExcept_ok.mp hvalidate
  have hchecked := validateEntries_ok hdoc h.inside.grounded.proper hvalid
  obtain ⟨_, made, hdirectories, hexec⟩ := Prog.exec_bind_ok.mp hexec
  obtain ⟨_, written, hfiles, hexec⟩ := Prog.exec_bind_ok.mp hexec
  cases hexec
  have hmade := h.extractDirectories hdoc _
    (fun v hv => hchecked v (List.mem_of_mem_filter hv)) hdirectories
  have hwritten := hmade.extractFiles hdoc _
    (fun v hv => hchecked v (List.mem_of_mem_filter hv)) hfiles
  constructor
  · exact hwritten
  · intro v hv
    obtain ⟨hmem, hlink⟩ := List.mem_filter.mp hv
    exact ⟨hchecked v hmem, hlink⟩

end

structure Linked (sys : System) (root : Path) (v : ValidatedArchiveEntry)
    (tree middle later : Files) (place target : Path) : Prop where
  created : (createVerified sys root v.outputPath.dropLast).exec tree = (.ok (), middle)
  leads : realDirectory sys.maxLinks v.outputPath.dropLast middle = some place
  grew : Grew tree middle place
  within : root <+: place
  targeted : v.linkTarget = some target
  shaped : Shaped target
  put : ∃ name, Proper name ∧ middle (place ++ [name]) = none ∧
    later = put middle (place ++ [name]) (.link false target)

theorem extractLink_ok {v : ValidatedArchiveEntry} (hdoc : Documented sys.path)
    (h : Inside root before tree) (hv : Checked root v) (hlink : isLink v = true) {u : Unit}
    (hexec : (extractLink sys root v).exec tree = (.ok u, later)) :
    ∃ middle place target, Linked sys root v tree middle later place target := by
  obtain ⟨names, name, hpath, hnames, hname⟩ := hv.place
  obtain ⟨target, htarget, hshaped⟩ := hv.link hlink
  have hroot := h.grounded.proper
  have hdropLast : v.outputPath.dropLast = root ++ names := by
    rw [hpath, List.dropLast_concat]
  have hlast : v.outputPath.getLast? = some name := by
    rw [hpath, List.getLast?_concat]
  obtain ⟨_, middle, hcreate, hexec⟩ := Prog.exec_bind_ok.mp hexec
  have hproper : ∀ n ∈ v.outputPath.dropLast, Proper n := by
    rw [hdropLast]
    exact proper_append hroot hnames
  obtain ⟨place, hplace, hgrew, hwithin⟩ := createVerified_ok hdoc hroot hproper hcreate
  rw [hlast, htarget] at hexec
  obtain ⟨p, hp, hnone, hlater⟩ := exec_putNew hexec
  rw [hplace] at hp
  cases hp
  exact ⟨middle, place, target, hcreate, hplace, hgrew, hwithin, htarget, hshaped, name, hname,
    hnone, hlater⟩

section

variable {v : ValidatedArchiveEntry} {middle : Files} {place target : Path}
  (hlinked : Linked sys root v tree middle later place target)

include hlinked

theorem Linked.grounded : Grounded middle place := (realDirectory_iff.mp hlinked.leads).2

theorem Linked.extends : Extends tree later := by
  obtain ⟨name, _, hnone, rfl⟩ := hlinked.put
  exact hlinked.grew.extends.trans (extends_put hnone _)

theorem Linked.inside (h : Inside root before tree) : Inside root before later := by
  obtain ⟨name, _, hnone, rfl⟩ := hlinked.put
  have hmiddle := h.grew hlinked.grew hlinked.within
  apply hmiddle.put (hlinked.within.trans (List.prefix_append _ _))
  rw [hnone]
  simp

theorem Linked.linksWithin (h : LinksWithin root tree)
    (hclimbs : Climbs (place.length - root.length) target) : LinksWithin root later := by
  obtain ⟨name, _, hnone, rfl⟩ := hlinked.put
  intro p n absolute other hp hnode
  by_cases heq : p ++ [n] = place ++ [name]
  · obtain ⟨rfl, _⟩ := List.append_inj' heq rfl
    rw [heq, put_self] at hnode
    cases hnode
    exact ⟨rfl, hclimbs⟩
  · rw [put_other heq] at hnode
    rcases hlinked.grew (p ++ [n]) with hsame | ⟨_, _, hdir, _⟩
    · rw [hsame] at hnode
      exact h p n absolute other hp hnode
    · rw [hdir] at hnode
      cases hnode

end

def Leaves (root : Path) (tree : Files) : Prop :=
  ∃ q target names name k, Grounded tree (root ++ q) ∧ Proper name ∧
    tree (root ++ q ++ [name]) = some (.link false target) ∧
    target = List.replicate k ".." ++ names ∧ q.length < k

theorem Leaves.extends (h : Leaves root tree) (hlater : Extends tree later) :
    Leaves root later := by
  obtain ⟨q, target, names, name, k, hq, hname, hnode, htarget, hk⟩ := h
  exact ⟨q, target, names, name, k, hlater.grounded hq, hname, hlater _ _ hnode, htarget, hk⟩

theorem Linked.leaves {v : ValidatedArchiveEntry} {middle : Files} {place target : Path}
    (hlinked : Linked sys root v tree middle later place target)
    (hclimbs : ¬ Climbs (place.length - root.length) target) : Leaves root later := by
  obtain ⟨q, rfl⟩ := hlinked.within
  obtain ⟨k, names, htarget, hnames⟩ := hlinked.shaped
  obtain ⟨name, hname, hnone, rfl⟩ := hlinked.put
  have hk : q.length < k := by
    by_contra hle
    apply hclimbs
    refine ⟨k, names, htarget, fun n hn => (hnames n hn).2.2, ?_⟩
    rw [List.length_append]
    omega
  refine ⟨q, target, names, name, k, ?_, hname, put_self .., htarget, hk⟩
  exact (extends_put hnone _).grounded hlinked.grounded

def StaysWithin (sys : System) (root : Path) (v : ValidatedArchiveEntry) (tree : Files) : Prop :=
  ∀ middle place target,
    (createVerified sys root v.outputPath.dropLast).exec tree = (.ok (), middle) →
    realDirectory sys.maxLinks v.outputPath.dropLast middle = some place →
    v.linkTarget = some target → Climbs (place.length - root.length) target

def LinksStay (sys : System) (root : Path) : List ValidatedArchiveEntry → Files → Prop
  | [], _ => True
  | v :: rest, tree =>
    StaysWithin sys root v tree ∧ LinksStay sys root rest ((extractLink sys root v).exec tree).2

theorem Linked.staysWithin_iff {v : ValidatedArchiveEntry} {middle : Files} {place target : Path}
    (hlinked : Linked sys root v tree middle later place target) :
    StaysWithin sys root v tree ↔ Climbs (place.length - root.length) target := by
  constructor
  · intro hstays
    exact hstays middle place target hlinked.created hlinked.leads hlinked.targeted
  · intro hclimbs middle' place' target' hcreated hleads htarget
    rw [hlinked.created] at hcreated
    cases hcreated
    rw [hlinked.leads] at hleads
    cases hleads
    rw [hlinked.targeted] at htarget
    cases htarget
    exact hclimbs

theorem extractLinks_ok (hdoc : Documented sys.path) (vs : List ValidatedArchiveEntry)
    (hvs : ∀ v ∈ vs, Checked root v ∧ isLink v = true) (h : Inside root before tree) {u : Unit}
    (hexec : (Prog.forEach vs (extractLink sys root)).exec tree = (.ok u, later)) :
    Inside root before later ∧ Extends tree later ∧
      (LinksWithin root tree → LinksStay sys root vs tree → LinksWithin root later) ∧
      (¬ LinksStay sys root vs tree → Leaves root later) := by
  induction vs generalizing tree with
  | nil =>
    cases hexec
    exact ⟨h, Extends.refl _, fun hwithin _ => hwithin, fun hnot => absurd trivial hnot⟩
  | cons v rest ih =>
    rw [Prog.forEach_cons] at hexec
    obtain ⟨_, next, hfirst, hrest⟩ := Prog.exec_bind_ok.mp hexec
    obtain ⟨hv, hlink⟩ := hvs v List.mem_cons_self
    obtain ⟨middle, place, target, hlinked⟩ := extractLink_ok hdoc h hv hlink hfirst
    obtain ⟨hinside, hextends, hkeeps, hleaves⟩ :=
      ih (fun w hw => hvs w (List.mem_cons_of_mem v hw)) (hlinked.inside h) hrest
    have hnext : ((extractLink sys root v).exec tree).2 = next := by rw [hfirst]
    refine ⟨hinside, hlinked.extends.trans hextends, ?_, ?_⟩
    · rintro hwithin ⟨hstays, hothers⟩
      rw [hnext] at hothers
      exact hkeeps (hlinked.linksWithin hwithin (hlinked.staysWithin_iff.mp hstays)) hothers
    · intro hnot
      by_cases hothers : LinksStay sys root rest next
      · have hstays : ¬ StaysWithin sys root v tree := by
          intro hstays
          exact hnot ⟨hstays, by rwa [hnext]⟩
        rw [hlinked.staysWithin_iff] at hstays
        exact (hlinked.leaves hstays).extends hextends
      · exact hleaves hothers

end

section

variable {sys : System} {limits : UpdateArchiveLimits} {input : ArchiveInput} {base : Path}
  {name : String} {before after : Files}

def emptied (dest : Path) (tree : Files) : Files := put (deleteEntity dest tree) dest .dir

structure Contained (dest : Path) (before after : Files) : Prop where
  resolved : ∀ limit names p, (∀ n ∈ names, n ≠ "..") →
    locate after limit [] (dest ++ names) = .found p → dest <+: p
  passed : ∀ names p, (∀ n ∈ names, n ≠ "..") → Visits after dest names p → dest <+: p
  outside : ∀ q, ¬ dest <+: q → after q = before q

structure Meets (sys : System) (limits : UpdateArchiveLimits) (input : ArchiveInput) (dest : Path)
    (before : Files) : Prop where
  accepted : ∀ path after, (extractArchive sys limits input dest).exec before = (.ok path, after) →
    Contained dest before after
  failed : ∀ e after, (extractArchive sys limits input dest).exec before = (.error e, after) →
    ∀ q, dest <+: q → after q = none

structure Allows (sys : System) (limits : UpdateArchiveLimits) (input : ArchiveInput) (dest : Path)
    (before : Files) : Prop where
  links : ∀ path after, (extractArchive sys limits input dest).exec before = (.ok path, after) →
    ∀ archive links tree, preflight sys limits input = .ok archive →
      (extractUnlinked sys limits dest archive).exec (emptied dest before) = (.ok links, tree) →
      LinksStay sys dest links tree
  cleared : (∃ archive, preflight sys limits input = .ok archive) ∨
    ∀ q, dest <+: q → before q = none

theorem grounded_deleted (hbase : Grounded before base) :
    Grounded (deleteEntity (base ++ [name]) before) base where
  proper := hbase.proper
  dirs := by
    intro q n hq
    have hlength := hq.length_le
    have hnot : ¬ base ++ [name] <+: q ++ [n] := by
      intro hprefix
      have hlonger := hprefix.length_le
      simp only [List.length_append, List.length_singleton] at hlength hlonger
      omega
    rw [deleteEntity, if_neg hnot]
    exact hbase.dirs q n hq

theorem deleteEntity_self (dest : Path) (tree : Files) : deleteEntity dest tree dest = none :=
  if_pos (List.prefix_refl dest)

theorem exec_prepare (hbase : Grounded before base) (hname : Proper name) :
    (prepare sys (base ++ [name])).exec before = (.ok (), emptied (base ++ [name]) before) := by
  rw [prepare, Prog.exec_bind_of_ok (Prog.exec_modify _ _)]
  exact exec_createRecursive_new (grounded_deleted hbase) hname (deleteEntity_self _ _)

theorem plain_emptied (hbase : Grounded before base) (hname : Proper name) :
    Plain (base ++ [name]) before (emptied (base ++ [name]) before) where
  inside := by
    constructor
    · intro q hq
      have hne : q ≠ base ++ [name] := by
        rintro rfl
        exact hq (List.prefix_refl _)
      rw [emptied, put_other hne, deleteEntity, if_neg hq]
    · have hnone : deleteEntity (base ++ [name]) before (base ++ [name]) ≠ some .dir := by
        rw [deleteEntity_self]
        simp
      exact ((grounded_deleted hbase).put hnone .dir).snoc hname (put_self ..)
  unlinked := by
    intro p absolute target hp
    by_cases heq : p = base ++ [name]
    · rw [emptied, heq, put_self]
      simp
    · rw [emptied, put_other heq, deleteEntity, if_pos hp]
      simp

theorem linksWithin_of_unlinked {root : Path} {tree : Files} (h : Unlinked root tree) :
    LinksWithin root tree :=
  fun _ _ absolute target hp hnode =>
    absurd hnode (h _ absolute target (hp.trans (List.prefix_append _ _)))

theorem contained_of_linksWithin {root : Path} {tree : Files} (h : Inside root before tree)
    (hwithin : LinksWithin root tree) : Contained root before tree := by
  have hpassed : ∀ names p, (∀ n ∈ names, n ≠ "..") → Visits tree root names p → root <+: p :=
    fun names p hnames hp =>
      visits_within hwithin (List.prefix_refl root) (climbs_of_plain _ hnames) hp
  constructor
  · intro limit names p hnames hp
    have hbelow : locate tree limit root names = .found p := by
      have hwalk : walk tree [] (root ++ names) = walk tree root names :=
        Grounded.walk_append (by simpa using h.grounded) names
      cases limit <;> simpa [locate, hwalk] using hp
    exact hpassed names p hnames (visits_locate hbelow)
  · exact hpassed
  · exact h.outside

theorem not_contained_of_leaves {root : Path} {tree : Files} (hroot : root ≠ [])
    (h : Leaves root tree) : ¬ Contained root before tree := by
  intro hcontained
  obtain ⟨q, target, names, name, k, hq, hname, hnode, htarget, hk⟩ := h
  obtain ⟨p, hvisits, hout⟩ := leaves_of_link hq hroot hname hnode htarget hk
  apply hout
  apply hcontained.passed (q ++ [name]) p _ hvisits
  intro n hn
  rcases List.mem_append.mp hn with hn | hn
  · exact (hq.proper n (List.mem_append_right root hn)).2.2
  · rw [List.mem_singleton.mp hn]
    exact hname.2.2

theorem exec_extractPrepared {root : Path} {tree : Files} (h : Grounded tree root)
    (archive : List ArchiveFile) :
    (extractPrepared sys limits root archive).exec tree =
      (extractInto sys limits root archive).exec tree := by
  rw [extractPrepared, Prog.exec_bind_of_ok (Prog.exec_get _ _), realDirectory_self h]

theorem exec_extractArchive {archive : List ArchiveFile} (hbase : Grounded before base)
    (hname : Proper name) (hpre : preflight sys limits input = .ok archive) :
    (extractArchive sys limits input (base ++ [name])).exec before =
      match (extractInto sys limits (base ++ [name]) archive).exec
        (emptied (base ++ [name]) before) with
      | (.ok _, tree) => (.ok (base ++ [name]), tree)
      | (.error e, tree) => (.error e, deleteEntity (base ++ [name]) tree) := by
  have hgrounded := (plain_emptied hbase hname).inside.grounded
  rw [extractArchive, hpre, Prog.exec_bind_of_ok (Prog.exec_ofExcept _ _),
    Prog.exec_bind_of_ok (exec_prepare hbase hname), Prog.exec_bind, Prog.exec_attempt,
    exec_extractPrepared hgrounded]
  rcases (extractInto sys limits (base ++ [name]) archive).exec
    (emptied (base ++ [name]) before) with ⟨outcome, tree⟩
  cases outcome with
  | ok u => rfl
  | error e => rfl

theorem exec_extractArchive_of_error {e : String} (hpre : preflight sys limits input = .error e)
    (dest : Path) : (extractArchive sys limits input dest).exec before = (.error e, before) := by
  rw [extractArchive, hpre]
  rfl

theorem contained_iff {links : List ValidatedArchiveEntry}
    {root : Path} {tree : Files} (hdoc : Documented sys.path) (hroot : root ≠ [])
    (hplain : Plain root before tree) (hlinks : ∀ v ∈ links, Checked root v ∧ isLink v = true)
    {u : Unit} (hexec : (Prog.forEach links (extractLink sys root)).exec tree = (.ok u, after)) :
    Contained root before after ↔ LinksStay sys root links tree := by
  obtain ⟨hinside, _, hkeeps, hleaves⟩ := extractLinks_ok hdoc links hlinks hplain.inside hexec
  constructor
  · intro hcontained
    by_contra hnot
    exact not_contained_of_leaves hroot (hleaves hnot) hcontained
  · intro hstay
    exact contained_of_linksWithin hinside
      (hkeeps (linksWithin_of_unlinked hplain.unlinked) hstay)

theorem extraction_contained_iff (hdoc : Documented sys.path) (hbase : Grounded before base)
    (hname : Proper name) :
    Meets sys limits input (base ++ [name]) before ↔
      Allows sys limits input (base ++ [name]) before := by
  have hroot : base ++ [name] ≠ [] := by simp
  have hempty := plain_emptied hbase hname
  cases hpre : preflight sys limits input with
  | error e =>
    have hexec : (extractArchive sys limits input (base ++ [name])).exec before =
        (.error e, before) :=
      exec_extractArchive_of_error hpre (base ++ [name])
    constructor
    · intro hmeets
      constructor
      · intro path after hok
        rw [hexec] at hok
        cases hok
      · exact .inr (hmeets.failed e before hexec)
    · intro hallows
      constructor
      · intro path after hok
        rw [hexec] at hok
        cases hok
      · intro e' after herror q hq
        rw [hexec] at herror
        cases herror
        rcases hallows.cleared with ⟨archive, hok⟩ | hnone
        · rw [hpre] at hok
          cases hok
        · exact hnone q hq
  | ok archive =>
    have hexec := exec_extractArchive hbase hname hpre
    cases hinto : (extractInto sys limits (base ++ [name]) archive).exec
      (emptied (base ++ [name]) before) with
    | mk outcome tree =>
      rw [hinto] at hexec
      cases outcome with
      | error e =>
        dsimp only at hexec
        constructor
        · intro _
          constructor
          · intro path after hok
            rw [hexec] at hok
            cases hok
          · exact .inl ⟨archive, hpre⟩
        · intro _
          constructor
          · intro path after hok
            rw [hexec] at hok
            cases hok
          · intro e' after herror q hq
            rw [hexec] at herror
            cases herror
            exact if_pos hq
      | ok u =>
        dsimp only at hexec
        obtain ⟨links, written, hunlinked, hlinks⟩ := Prog.exec_bind_ok.mp hinto
        obtain ⟨hplain, hchecked⟩ := hempty.extractUnlinked hdoc hunlinked
        have hiff := contained_iff hdoc hroot hplain hchecked hlinks
        constructor
        · intro hmeets
          constructor
          · intro path after hok archive' links' tree' hpre' hunlinked'
            rw [hpre] at hpre'
            cases hpre'
            rw [hunlinked] at hunlinked'
            cases hunlinked'
            exact hiff.mp (hmeets.accepted _ _ hexec)
          · exact .inl ⟨archive, hpre⟩
        · intro hallows
          constructor
          · intro path after hok
            rw [hexec] at hok
            cases hok
            exact hiff.mpr (hallows.links _ _ hexec archive links written hpre hunlinked)
          · intro e after herror
            rw [hexec] at herror
            cases herror

def desktop : System := { path := posix }

def bundle (entries : List ArchiveFile) : ArchiveInput :=
  { fileName := "/tmp/update.zip", compressedBytes := 512, decoded := .ok entries }

def staging : Files := fun p => if p = ["tmp"] ∨ p = ["etc"] then some .dir else none

theorem grounded_staging : Grounded staging ["tmp"] where
  proper := by decide
  dirs := by
    intro q name hq
    rcases List.prefix_concat_iff.mp (show q ++ [name] <+: [] ++ ["tmp"] from hq) with heq | hnil
    · rw [heq]
      rfl
    · simp at hnil

def appBundle : ArchiveInput := bundle [{ name := "bundle/app", size := 2, content := some [1, 2] }]

theorem appBundle_meets : Meets desktop {} appBundle (["tmp"] ++ ["staged"]) staging := by
  apply (extraction_contained_iff documented_posix grounded_staging (by decide)).mpr
  have hpre : preflight desktop {} appBundle =
      .ok [{ name := "bundle/app", size := 2, content := some [1, 2] }] := by decide +kernel
  constructor
  · intro path after _ archive links tree hok hunlinked
    rw [hpre] at hok
    cases hok
    have hlinks := congrArg Prod.fst hunlinked
    have hnone : ((extractUnlinked desktop {} (["tmp"] ++ ["staged"])
        [{ name := "bundle/app", size := 2, content := some [1, 2] }]).exec
        (emptied (["tmp"] ++ ["staged"]) staging)).1 = .ok [] := by decide +kernel
    rw [hnone] at hlinks
    cases hlinks
    trivial
  · exact .inl ⟨_, hpre⟩

def symlink (name target : String) : ArchiveFile :=
  { name := name, isFile := false, isSymbolicLink := true, nameOfLinkedFile := target }

def crossingBundle : ArchiveInput :=
  bundle [symlink "d/e/f" "..", symlink "d/e/f/g" "../../../etc"]

theorem crossing_links_escape :
    ¬ Meets desktop {} crossingBundle (["tmp"] ++ ["staged"]) staging := by
  intro hmeets
  have hok : ((extractArchive desktop {} crossingBundle (["tmp"] ++ ["staged"])).exec staging).1 =
      .ok ["tmp", "staged"] := by decide +kernel
  have hcontained := hmeets.accepted _ _ (Prod.ext hok rfl)
  have hetc := hcontained.resolved 40 ["d", "g"] ["etc"] (by decide) (by decide +kernel)
  exact absurd hetc (by decide)

end

end Vokusz.Client.UpdateArchive
