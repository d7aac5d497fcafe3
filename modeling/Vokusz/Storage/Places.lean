import Vokusz.Storage.Urls

namespace Vokusz.Storage

open Lib (Prog)

def resolve : FilePath → List String → FilePath
  | current, [] => current
  | current, c :: cs =>
    if c = "" ∨ c = "." then resolve current cs
    else if c = ".." then resolve current.dropLast cs
    else resolve (current ++ [c]) cs

def placeOf (storagePath : FilePath) (url : String) : FilePath :=
  resolve [] (fileOf storagePath url)

theorem resolve_of_canonicalize {files : List FilePath} {current path : FilePath}
    {names : List String} (h : canonicalizeFrom files current names = .ok path) :
    path = resolve current names := by
  induction names generalizing current with
  | nil =>
    cases h
    rfl
  | cons n names ih =>
    unfold canonicalizeFrom at h
    unfold resolve
    split at h
    · cases h
    · split at h
      · next hhere =>
        rw [if_pos hhere]
        exact ih h
      · next hhere =>
        rw [if_neg hhere]
        split at h
        · next hup =>
          rw [if_pos hup]
          exact ih h
        · next hup =>
          rw [if_neg hup]
          split at h
          · exact ih h
          · cases h

theorem resolve_proper {names : List String} (current : FilePath) (h : ∀ n ∈ names, Proper n) :
    resolve current names = current ++ names := by
  induction names generalizing current with
  | nil => simp [resolve]
  | cons n names ih =>
    obtain ⟨hempty, hhere, hup⟩ := h n List.mem_cons_self
    rw [resolve, if_neg (not_or_intro hempty hhere), if_neg hup,
      ih _ (fun x hx => h x (List.mem_cons_of_mem _ hx)), List.append_assoc]
    rfl

theorem target_placeOf {storagePath path : FilePath} {files : List FilePath} {url : String}
    (h : canonicalTarget storagePath files url = .ok path) : path = placeOf storagePath url :=
  resolve_of_canonicalize h

def uploadDirs : List String :=
  ["emojis", "sounds", "avatars", "icons", "banners", "attachments", "automod"]

def inUploads (storagePath path : FilePath) : Bool :=
  uploadDirs.any (fun d => (storagePath ++ [d]).isPrefixOf path)

def imageExts : List String := ["png", "gif", "webp", "jpg"]

structure ImageSlot where
  category : String
  entityId : String
  deriving DecidableEq, Repr

namespace ImageSlot

def filename (slot : ImageSlot) (ext : String) : String := slot.entityId ++ "." ++ ext

def path (slot : ImageSlot) (storagePath : FilePath) (ext : String) : FilePath :=
  storagePath ++ [slot.category, slot.filename ext]

def url (slot : ImageSlot) (ext : String) : String :=
  "/cdn/" ++ slot.category ++ "/" ++ slot.filename ext

def holds (slot : ImageSlot) (storagePath file : FilePath) : Bool :=
  imageExts.any (fun ext => file = slot.path storagePath ext)

def owns (slot : ImageSlot) (storagePath : FilePath) (value : String) : Bool :=
  slot.holds storagePath (placeOf storagePath value) ||
    !inUploads storagePath (placeOf storagePath value)

def undisturbed (slot : ImageSlot) (storagePath : FilePath) (files : List FilePath) : Bool :=
  files.all (fun f => !isAvatarOf (storagePath ++ [slot.category]) slot.entityId f ||
    slot.holds storagePath f)

structure Plain (slot : ImageSlot) : Prop where
  category : slot.category ∈ ["avatars", "icons", "banners"]
  entity : '/' ∉ slot.entityId.toList

variable {slot : ImageSlot} {storagePath : FilePath} {ext : String}

theorem holds_path (hext : ext ∈ imageExts) :
    slot.holds storagePath (slot.path storagePath ext) = true :=
  List.any_eq_true.mpr ⟨ext, hext, decide_eq_true rfl⟩

namespace Plain

variable (h : slot.Plain)
include h

theorem plain_filename (hext : ext ∈ imageExts) : PlainName (slot.filename ext) := by
  have hparts : '/' ∉ ext.toList ∧ 3 ≤ ext.toList.length := by
    simp only [imageExts, List.mem_cons, List.not_mem_nil, or_false] at hext
    rcases hext with rfl | rfl | rfl | rfl <;> decide
  have hlist : (slot.filename ext).toList = slot.entityId.toList ++ '.' :: ext.toList := by
    simp [filename, String.toList_append]
  have hlong : 4 ≤ (slot.filename ext).toList.length := by
    rw [hlist, List.length_append, List.length_cons]
    omega
  constructor
  · rw [hlist]
    simp [h.entity, hparts.1]
  · intro heq
    rw [heq] at hlong
    exact absurd hlong (by decide)
  · intro heq
    rw [heq] at hlong
    exact absurd hlong (by decide)
  · intro heq
    rw [heq] at hlong
    exact absurd hlong (by decide)

theorem plain_category : PlainName slot.category := by
  have hcategory := h.category
  simp only [List.mem_cons, List.not_mem_nil, or_false] at hcategory
  rcases hcategory with heq | heq | heq <;> rw [heq] <;> decide

theorem joined_filename (hext : ext ∈ imageExts) :
    joined (storagePath ++ [slot.category]) (slot.filename ext) = slot.path storagePath ext := by
  have hplain := h.plain_filename hext
  have hrelative : "/".toList.isPrefixOf (slot.filename ext).toList = false := by
    cases hchars : (slot.filename ext).toList with
    | nil => rfl
    | cons c cs =>
      have hc : '/' ≠ c := by
        rintro rfl
        exact hplain.slash (by simp [hchars])
      change ('/' == c && [].isPrefixOf cs) = false
      rw [beq_eq_false_iff_ne.mpr hc, Bool.false_and]
  unfold joined
  rw [hrelative, if_neg Bool.false_ne_true, components, splitSlash_of_plain hplain.slash]
  simp [path]

theorem fileOf_url (hext : ext ∈ imageExts) :
    fileOf storagePath (slot.url ext) = slot.path storagePath ext := by
  have hlist : (slot.url ext).toList =
      "/cdn/".toList ++ (slot.category.toList ++ '/' :: (slot.filename ext).toList) := by
    simp [url, String.toList_append]
  have hrelative : relativeToStorage (slot.url ext) =
      String.ofList (slot.category.toList ++ '/' :: (slot.filename ext).toList) := by
    unfold relativeToStorage stripPrefix
    rw [hlist, if_pos (by simp), show "/cdn/".length = "/cdn/".toList.length from rfl,
      List.drop_left]
  have hhead : ¬ ['/'].isPrefixOf
      (slot.category.toList ++ '/' :: (slot.filename ext).toList) = true := by
    have hcategory := h.category
    simp only [List.mem_cons, List.not_mem_nil, or_false] at hcategory
    rcases hcategory with heq | heq | heq <;> rw [heq] <;> exact Bool.false_ne_true
  unfold fileOf joined
  rw [hrelative, String.toList_ofList, String.toList_ofList, if_neg hhead, components,
    String.toList_ofList, splitSlash_append, splitSlash_of_plain h.plain_category.slash,
    splitSlash_of_plain (h.plain_filename hext).slash]
  simp [path]

theorem owns_url (hroot : ∀ n ∈ storagePath, Proper n) (hext : ext ∈ imageExts) :
    slot.owns storagePath (slot.url ext) = true := by
  have hproper : ∀ n ∈ slot.path storagePath ext, Proper n := by
    intro n hn
    simp only [path, List.mem_append, List.mem_cons, List.not_mem_nil, or_false] at hn
    rcases hn with hn | rfl | rfl
    · exact hroot n hn
    · exact h.plain_category.proper
    · exact (h.plain_filename hext).proper
  have hplace : placeOf storagePath (slot.url ext) = slot.path storagePath ext := by
    rw [placeOf, h.fileOf_url hext, resolve_proper _ hproper, List.nil_append]
  rw [owns, hplace, holds_path hext, Bool.true_or]

theorem inUploads_path : inUploads storagePath (slot.path storagePath ext) = true := by
  refine List.any_eq_true.mpr ⟨slot.category, ?_, ?_⟩
  · have hcategory := h.category
    simp only [List.mem_cons, List.not_mem_nil, or_false] at hcategory
    rcases hcategory with heq | heq | heq <;> rw [heq] <;> decide
  · exact List.isPrefixOf_iff_prefix.mpr ⟨[slot.filename ext], by simp [path]⟩

end Plain

end ImageSlot

theorem mimeToExt_image {mime : String} (h : mime ∈ allowedImageTypes) :
    mimeToExt mime ∈ imageExts := by
  simp only [allowedImageTypes, List.mem_cons, List.not_mem_nil, or_false] at h
  rcases h with rfl | rfl | rfl | rfl <;> decide

theorem validateImageDataUri_mime {data mime : String} {maxSize : Nat} {bytes : List UInt8}
    {animated : Bool} (h : validateImageDataUri data maxSize = .ok (bytes, mime, animated)) :
    mime ∈ allowedImageTypes := by
  unfold validateImageDataUri at h
  split at h
  · cases h
  split at h
  · cases h
  dsimp only at h
  split at h
  · cases h
  · next hallowed =>
    split at h
    · cases h
    · split at h
      · cases h
      · cases h
        exact not_not.mp hallowed

section

variable {I : AppState → Prop} {root : FilePath}

theorem keeps_deleteFile {url : String} (hroot : ∀ s, I s → s.storagePath = root)
    (hremove : ∀ s, I s → I { s with files := s.files.filter (fun f => f ≠ placeOf root url) }) :
    (deleteFile url).Maintains I := by
  have hread : (Prog.get (fun s : AppState => (canonicalTarget s.storagePath s.files url,
      s.storagePath, s.files)) : App _).Keeps I
      (fun found => ∀ path, found.1 = .ok path → path = placeOf root url) := by
    refine Prog.keeps_get (fun s hs path hpath => ?_)
    rw [← hroot s hs]
    exact target_placeOf hpath
  refine hread.bind (fun found hfound => ?_)
  obtain ⟨target, storagePath, files⟩ := found
  cases target with
  | error e =>
    cases e with
    | notFound => trivial
    | notADirectory => trivial
  | ok path =>
    refine Prog.keeps_require.bind (fun _ _ => Prog.keeps_require.bind (fun _ _ => ?_))
    rw [hfound path rfl]
    exact Prog.keeps_modify hremove

variable {slot : ImageSlot}

theorem keeps_deleteAvatar
    (hclear : ∀ s, I s → I { s with
      files := s.files.filter (fun f =>
        !isAvatarOf (s.storagePath ++ [slot.category]) slot.entityId f) }) :
    (deleteAvatar slot.category slot.entityId).Maintains I :=
  Prog.keeps_modify hclear

theorem keeps_saveAvatarImage {data : String} {maxSize : Nat} {admission : Except AppError Unit}
    (hplain : slot.Plain) (hroot : ∀ s, I s → s.storagePath = root)
    (hclear : ∀ s, I s → I { s with
      files := s.files.filter (fun f =>
        !isAvatarOf (s.storagePath ++ [slot.category]) slot.entityId f) })
    (hsave : ∀ s ext, I s → ext ∈ imageExts → I { s with
      files := if s.files.contains (slot.path root ext) then s.files
        else s.files ++ [slot.path root ext] }) :
    (saveAvatarImage slot.category slot.entityId data maxSize admission).Keeps I
      (fun saved => ∃ ext ∈ imageExts, saved.1 = slot.url ext) := by
  have hvalid : (MonadLiftT.monadLift (validateImageDataUri data maxSize) : App _).Keeps I
      (fun image => image.2.1 ∈ allowedImageTypes) :=
    Prog.keeps_ofExcept (fun image himage => validateImageDataUri_mime himage)
  refine hvalid.bind (fun image hmime => ?_)
  obtain ⟨bytes, contentType, animated⟩ := image
  have hadmit : (MonadLiftT.monadLift admission : App Unit).Maintains I :=
    Prog.keeps_ofExcept (fun _ _ => trivial)
  refine hadmit.bind (fun _ _ => (keeps_deleteAvatar hclear).bind (fun _ _ => ?_))
  have hext := mimeToExt_image hmime
  have hread : (Prog.get AppState.storagePath : App FilePath).Keeps I (fun path => path = root) :=
    Prog.keeps_get hroot
  refine hread.bind (fun storagePath hpath => ?_)
  have hwrite : ∀ fault, (writeFile fault (slot.path root (mimeToExt contentType))).Maintains I :=
    fun fault => Prog.keeps_statement (fun s hs => hsave s _ hs hext) (fun _ _ _ _ => trivial)
  rw [hpath, show slot.entityId ++ "." ++ mimeToExt contentType =
    slot.filename (mimeToExt contentType) from rfl, hplain.joined_filename hext]
  exact (hwrite _).bind (fun _ _ => ⟨_, hext, rfl⟩)

end

end Vokusz.Storage
