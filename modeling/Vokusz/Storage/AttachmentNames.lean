import Mathlib.Data.List.Infix
import Vokusz.Automod.Operations

namespace Vokusz.Storage

open Automod (plainPath resolveFrom serveAttachment)
open Lib (Prog)

-- What `char::is_alphanumeric` says of the characters of ASCII.
def Alphanumeric (isAlphanumeric : Char → Bool) : Prop :=
  ∀ c : Char, c.val < 128 → isAlphanumeric c = c.isAlphanum

def isAbsolute (path : String) : Bool := "/".toList.isPrefixOf path.toList

section

variable {isAlphanumeric : Char → Bool} {name : String}

theorem head_collapseDots_eq (c : Char) (cs : List Char) :
    (collapseDots (c :: cs)).head? = some c := by
  induction cs generalizing c with
  | nil => rfl
  | cons d cs ih =>
    rw [collapseDots]
    split
    · next hdots =>
      rw [ih d, hdots.1, hdots.2]
    · rfl

theorem no_dots_collapseDots (cs : List Char) : ¬ ['.', '.'] <:+: collapseDots cs := by
  induction cs using collapseDots.induct with
  | case1 => simp [collapseDots]
  | case2 d =>
    intro h
    have hlength := h.length_le
    simp [collapseDots] at hlength
  | case3 d e cs hdots ih =>
    rw [collapseDots, if_pos hdots]
    exact ih
  | case4 d e cs hdots ih =>
    rw [collapseDots, if_neg hdots, List.infix_cons_iff]
    rintro (h | h)
    · obtain ⟨rfl, rest, hrest⟩ := List.cons_prefix_cons.mp h
      have hhead := head_collapseDots_eq e cs
      rw [← hrest] at hhead
      cases hhead
      exact hdots ⟨rfl, rfl⟩
    · exact ih h

theorem collapseDots_of_no_dots {cs : List Char} (h : ¬ ['.', '.'] <:+: cs) :
    collapseDots cs = cs := by
  induction cs using collapseDots.induct with
  | case1 => rfl
  | case2 d => rfl
  | case3 d e cs hdots ih =>
    obtain ⟨rfl, rfl⟩ := hdots
    exact absurd ⟨[], cs, rfl⟩ h
  | case4 d e cs hdots ih =>
    rw [collapseDots, if_neg hdots, ih (fun hinfix => h (List.infix_cons hinfix))]

def kept (isAlphanumeric : Char → Bool) (c : Char) : Prop :=
  isAlphanumeric c = true ∨ c = '-' ∨ c = '_' ∨ c = '.'

structure Clean (isAlphanumeric : Char → Bool) (name : String) : Prop where
  nonempty : name ≠ ""
  kept : ∀ c ∈ name.toList, kept isAlphanumeric c
  leading : name.toList.head? ≠ some '.'
  dots : ¬ ['.', '.'] <:+: name.toList

theorem Alphanumeric.letter (h : Alphanumeric isAlphanumeric) {c : Char} (hc : c.val < 128)
    (hletter : c.isAlphanum = true) : isAlphanumeric c = true := (h c hc).trans hletter

theorem clean_attachment (h : Alphanumeric isAlphanumeric) : Clean isAlphanumeric "attachment" := by
  constructor
  · decide
  · intro c hc
    have hall : "attachment".toList.all (fun c => decide (c.val < 128) && c.isAlphanum) = true := by
      decide
    have hletter := List.all_eq_true.mp hall c hc
    rw [Bool.and_eq_true, decide_eq_true_eq] at hletter
    exact .inl (h.letter hletter.1 hletter.2)
  · decide
  · decide

theorem clean_sanitizeFilename (h : Alphanumeric isAlphanumeric) (name : String) :
    Clean isAlphanumeric (sanitizeFilename isAlphanumeric name) := by
  let mapped := name.toList.map (fun c =>
    if isAlphanumeric c ∨ c = '-' ∨ c = '_' ∨ c = '.' then c else '_')
  have hmapped : ∀ c ∈ mapped, Storage.kept isAlphanumeric c := by
    intro c hc
    obtain ⟨d, _, rfl⟩ := List.mem_map.mp hc
    split
    · next hkept => exact hkept
    · exact .inr (.inr (.inl rfl))
  let dropped := mapped.dropWhile (· = '.')
  have hleading : dropped.head? ≠ some '.' := by
    intro hhead
    have hnot := List.head?_dropWhile_not (fun c : Char => decide (c = '.')) mapped
    rw [show mapped.dropWhile (fun c => decide (c = '.')) = dropped from rfl, hhead] at hnot
    simp at hnot
  have hname : sanitizeFilename isAlphanumeric name =
      if (collapseDots dropped).isEmpty then "attachment"
      else String.ofList (collapseDots dropped) := rfl
  rw [hname]
  split
  · exact clean_attachment h
  · next hsome =>
    constructor
    · intro hempty
      rw [← String.toList_inj, String.toList_ofList] at hempty
      rw [hempty] at hsome
      exact hsome rfl
    · intro c hc
      rw [String.toList_ofList] at hc
      exact hmapped c ((List.dropWhile_sublist _).subset (mem_collapseDots hc))
    · rw [String.toList_ofList]
      cases hdropped : dropped with
      | nil => simp [collapseDots]
      | cons c cs =>
        rw [head_collapseDots_eq]
        rw [hdropped] at hleading
        exact hleading
    · rw [String.toList_ofList]
      exact no_dots_collapseDots dropped

theorem Clean.sanitizeFilename_eq (h : Clean isAlphanumeric name) :
    sanitizeFilename isAlphanumeric name = name := by
  have hmapped : name.toList.map (fun c =>
      if isAlphanumeric c ∨ c = '-' ∨ c = '_' ∨ c = '.' then c else '_') = name.toList := by
    have hsame : ∀ c ∈ name.toList,
        (if isAlphanumeric c ∨ c = '-' ∨ c = '_' ∨ c = '.' then c else '_') = c :=
      fun c hc => if_pos (h.kept c hc)
    rw [List.map_congr_left hsame, List.map_id']
  have hdropped : name.toList.dropWhile (· = '.') = name.toList := by
    have hleading := h.leading
    cases hlist : name.toList with
    | nil => rfl
    | cons c cs =>
      rw [hlist] at hleading
      rw [List.dropWhile_cons_of_neg]
      intro hdot
      exact hleading (congrArg some (of_decide_eq_true hdot))
  have hlist : name.toList.isEmpty = false := by
    rw [List.isEmpty_eq_false_iff]
    intro hnil
    exact h.nonempty (String.toList_inj.mp hnil)
  unfold sanitizeFilename
  dsimp only
  rw [hmapped, hdropped, collapseDots_of_no_dots h.dots, hlist, if_neg Bool.false_ne_true,
    String.ofList_toList]

theorem Alphanumeric.separator (h : Alphanumeric isAlphanumeric) {c : Char}
    (hc : c = '/' ∨ c = '\\') : ¬ kept isAlphanumeric c := by
  intro hkept
  rcases hc with rfl | rfl
  all_goals
    rcases hkept with hletter | hpunctuation
    · rw [h _ (by decide)] at hletter
      exact absurd hletter (by decide)
    · exact absurd hpunctuation (by decide)

theorem Clean.plain (h : Alphanumeric isAlphanumeric) (hclean : Clean isAlphanumeric name) :
    PlainName name := by
  constructor
  · exact fun hslash => h.separator (.inl rfl) (hclean.kept _ hslash)
  · exact hclean.nonempty
  · rintro rfl
    exact hclean.leading rfl
  · rintro rfl
    exact hclean.leading rfl

end

section

variable {path a b : String}

theorem components_append_slash (a b : String) :
    components (a ++ "/" ++ b) = components a ++ components b := by
  have hlist : (a ++ "/" ++ b).toList = a.toList ++ '/' :: b.toList := by
    simp [String.toList_append]
  unfold components
  rw [hlist, splitSlash_append, List.map_append]

theorem PlainName.components_eq (h : PlainName a) : components a = [a] := by
  unfold components
  rw [splitSlash_of_plain h.slash, List.map_singleton, String.ofList_toList]

theorem isAbsolute_iff : isAbsolute a = true ↔ a.toList.head? = some '/' := by
  have hslash : "/".toList = ['/'] := rfl
  rw [isAbsolute, hslash]
  cases a.toList with
  | nil => simp
  | cons c cs =>
    simp only [List.isPrefixOf, Bool.and_true, List.head?_cons, Option.some.injEq, beq_iff_eq]
    exact eq_comm

theorem isAbsolute_append (a b : String) (ha : a ≠ "") :
    isAbsolute (a ++ b) = isAbsolute a := by
  rw [Bool.eq_iff_iff, isAbsolute_iff, isAbsolute_iff, String.toList_append]
  cases hlist : a.toList with
  | nil => exact absurd (String.toList_inj.mp hlist) ha
  | cons c cs => rfl

theorem PlainName.relative (h : PlainName a) : isAbsolute a = false := by
  rw [Bool.eq_false_iff, Ne, isAbsolute_iff]
  intro hhead
  exact h.slash (List.mem_of_mem_head? hhead)

theorem append_cancel_left {c : String} (h : c ++ a = c ++ b) : a = b := by
  have hlist := congrArg String.toList h
  rw [String.toList_append, String.toList_append] at hlist
  exact String.toList_inj.mp (List.append_cancel_left hlist)

theorem joined_relative {base : FilePath} (h : isAbsolute a = false) :
    joined base a = base ++ components a := if_neg (ne_true_of_eq_false h)

theorem joined_absolute {base : FilePath} (h : isAbsolute a = true) :
    joined base a = components a := if_pos h

theorem head_components_append (a b : String) :
    (components (a ++ "/" ++ b)).head? = (components a).head? := by
  have hsome : components a ≠ [] := fun hnil =>
    splitSlash_ne_nil a.toList (List.map_eq_nil_iff.mp hnil)
  rw [components_append_slash, List.head?_append_of_ne_nil _ hsome]

theorem plainPath_iff : plainPath path = true ↔
    isAbsolute path = false ∧ (components path).head? ≠ some "." ∧ ".." ∉ components path := by
  simp [plainPath, isAbsolute, and_assoc]

theorem resolvedFrom_append (current : FilePath) (xs ys : List String) :
    resolvedFrom current (xs ++ ys) = resolvedFrom (resolvedFrom current xs) ys :=
  List.foldl_append

theorem resolvedFrom_of_no_up {names : List String} (h : ".." ∉ names) (current : FilePath) :
    resolvedFrom current names = current ++ names.filter (fun n => n ≠ "" ∧ n ≠ ".") := by
  induction names generalizing current with
  | nil => simp [resolvedFrom]
  | cons n names ih =>
    have hn : n ≠ ".." := fun hn => h (by simp [hn])
    have hnames : ".." ∉ names := fun hmem => h (List.mem_cons_of_mem _ hmem)
    have hstep : resolvedFrom current (n :: names) =
        resolvedFrom (if n = "" ∨ n = "." then current else current ++ [n]) names := by
      unfold resolvedFrom
      rw [List.foldl_cons, if_neg hn]
    rw [hstep, ih hnames]
    by_cases hskip : n = "" ∨ n = "."
    · rcases hskip with rfl | rfl <;> simp
    · obtain ⟨hempty, hhere⟩ := not_or.mp hskip
      simp [hempty, hhere]

theorem canonicalizeFrom_resolved {files : List FilePath} {current target : FilePath}
    {names : List String} (h : canonicalizeFrom files current names = .ok target) :
    target = resolvedFrom current names := by
  induction names generalizing current with
  | nil =>
    cases h
    rfl
  | cons n names ih =>
    unfold canonicalizeFrom at h
    unfold resolvedFrom
    rw [List.foldl_cons]
    split at h
    · cases h
    · split at h
      · next hskip =>
        rw [if_pos hskip]
        exact ih h
      · next hskip =>
        rw [if_neg hskip]
        split at h
        · next hup =>
          rw [if_pos hup]
          exact ih h
        · next hup =>
          rw [if_neg hup]
          split at h
          · exact ih h
          · cases h

end

structure InPlace (channelId attachmentId : String) : Prop where
  channelNonempty : channelId ≠ ""
  channelRelative : isAbsolute channelId = false
  channelHere : (components channelId).head? ≠ some "."
  channelUp : ".." ∉ components channelId
  attachmentRelative : isAbsolute attachmentId = false
  attachmentUp : ".." ∉ components attachmentId

instance (channelId attachmentId : String) : Decidable (InPlace channelId attachmentId) :=
  decidable_of_iff (channelId ≠ "" ∧ isAbsolute channelId = false ∧
      (components channelId).head? ≠ some "." ∧ ".." ∉ components channelId ∧
      isAbsolute attachmentId = false ∧ ".." ∉ components attachmentId)
    ⟨fun h => ⟨h.1, h.2.1, h.2.2.1, h.2.2.2.1, h.2.2.2.2.1, h.2.2.2.2.2⟩,
      fun h => ⟨h.channelNonempty, h.channelRelative, h.channelHere, h.channelUp,
        h.attachmentRelative, h.attachmentUp⟩⟩

structure SafeName (isAlphanumeric : Char → Bool) (name : String) : Prop where
  nonempty : sanitizeFilename isAlphanumeric name ≠ ""
  slash : '/' ∉ (sanitizeFilename isAlphanumeric name).toList
  backslash : '\\' ∉ (sanitizeFilename isAlphanumeric name).toList
  leading : (sanitizeFilename isAlphanumeric name).toList.head? ≠ some '.'
  dots : ¬ ['.', '.'] <:+: (sanitizeFilename isAlphanumeric name).toList
  again : sanitizeFilename isAlphanumeric (sanitizeFilename isAlphanumeric name) =
    sanitizeFilename isAlphanumeric name

theorem safeName {isAlphanumeric : Char → Bool} (h : Alphanumeric isAlphanumeric)
    (name : String) : SafeName isAlphanumeric name := by
  have hclean := clean_sanitizeFilename h name
  constructor
  · exact hclean.nonempty
  · exact fun hslash => h.separator (.inl rfl) (hclean.kept _ hslash)
  · exact fun hslash => h.separator (.inr rfl) (hclean.kept _ hslash)
  · exact hclean.leading
  · exact hclean.dots
  · exact hclean.sanitizeFilename_eq

structure LeadsTo (storagePath : FilePath) (url : String) (written : FilePath) : Prop where
  served : ∃ path, url = "/cdn/attachments/" ++ path ∧ plainPath path = true ∧
    resolved (joined (joined storagePath "attachments") path) = written
  deleted : resolved (joined storagePath (relativeToStorage url)) = written

section

variable {storagePath : FilePath} {channelId attachmentId name url : String}

def savedPath (channelId attachmentId name : String) : String :=
  channelId ++ "/" ++ attachmentId ++ "/" ++ name

theorem components_savedPath (hname : PlainName name) :
    components (savedPath channelId attachmentId name) =
      components channelId ++ components attachmentId ++ [name] := by
  unfold savedPath
  rw [components_append_slash, components_append_slash, hname.components_eq]

theorem head_components_savedPath :
    (components (savedPath channelId attachmentId name)).head? =
      (components channelId).head? := by
  have hassoc : savedPath channelId attachmentId name =
      channelId ++ "/" ++ (attachmentId ++ "/" ++ name) := by
    simp [savedPath, String.append_assoc]
  rw [hassoc, head_components_append]

theorem isAbsolute_savedPath :
    isAbsolute (savedPath channelId attachmentId name) = true ↔
      channelId = "" ∨ isAbsolute channelId = true := by
  by_cases hempty : channelId = ""
  · rw [isAbsolute_iff]
    simp [savedPath, hempty, String.toList_append]
  · have hassoc : savedPath channelId attachmentId name =
        channelId ++ ("/" ++ attachmentId ++ "/" ++ name) := by
      simp [savedPath, String.append_assoc]
    rw [hassoc, isAbsolute_append _ _ hempty]
    simp [hempty]

theorem plainPath_savedPath (hname : PlainName name) :
    plainPath (savedPath channelId attachmentId name) = true ↔
      channelId ≠ "" ∧ isAbsolute channelId = false ∧
        (components channelId).head? ≠ some "." ∧ ".." ∉ components channelId ∧
        ".." ∉ components attachmentId := by
  have hup : ".." ≠ name := Ne.symm hname.up
  rw [plainPath_iff, head_components_savedPath, components_savedPath hname,
    ← Bool.not_eq_true, isAbsolute_savedPath]
  simp only [not_or, Bool.not_eq_true, List.mem_append, List.mem_singleton, hup, or_false,
    and_assoc, Ne]

theorem relativeToStorage_cdn (rel : String) : relativeToStorage ("/cdn/" ++ rel) = rel := by
  unfold relativeToStorage stripPrefix
  rw [String.toList_append, if_pos (by simp), show "/cdn/".length = "/cdn/".toList.length from rfl,
    List.drop_left, String.ofList_toList]

theorem savedUrl_eq :
    "/cdn/attachments/" ++ channelId ++ "/" ++ attachmentId ++ "/" ++ name =
      "/cdn/attachments/" ++ savedPath channelId attachmentId name := by
  simp [savedPath, String.append_assoc]

theorem joined_attachments (storagePath : FilePath) :
    joined storagePath "attachments" = storagePath ++ ["attachments"] := by
  have hplain : PlainName "attachments" := by decide
  rw [joined_relative hplain.relative, hplain.components_eq]

theorem servePath_eq (hpath : isAbsolute url = false) :
    joined (joined storagePath "attachments") url =
      storagePath ++ ["attachments"] ++ components url := by
  rw [joined_attachments, joined_relative hpath]

theorem deletePath_eq (storagePath : FilePath) (path : String) :
    joined storagePath (relativeToStorage ("/cdn/attachments/" ++ path)) =
      storagePath ++ ["attachments"] ++ components path := by
  have hplain : PlainName "attachments" := by decide
  have hurl : "/cdn/attachments/" ++ path = "/cdn/" ++ ("attachments" ++ "/" ++ path) := by
    simp [← String.toList_inj, String.toList_append]
  have hrelative : isAbsolute ("attachments" ++ "/" ++ path) = false := by
    rw [String.append_assoc, isAbsolute_append _ _ (by decide)]
    exact hplain.relative
  rw [hurl, relativeToStorage_cdn, joined_relative hrelative, components_append_slash,
    hplain.components_eq, List.append_assoc]

theorem InPlace.attachmentPath_eq (h : InPlace channelId attachmentId) (hname : PlainName name)
    (storagePath : FilePath) :
    attachmentPath storagePath channelId attachmentId name =
      storagePath ++ ["attachments"] ++ components (savedPath channelId attachmentId name) := by
  unfold attachmentPath
  rw [joined_attachments, joined_relative h.channelRelative, joined_relative h.attachmentRelative,
    joined_relative hname.relative, components_savedPath hname, hname.components_eq]
  simp only [List.append_assoc]

theorem attachmentPath_absolute (hname : PlainName name)
    (h : isAbsolute attachmentId = true) (storagePath : FilePath) :
    attachmentPath storagePath channelId attachmentId name = components attachmentId ++ [name] := by
  unfold attachmentPath
  rw [joined_relative hname.relative, joined_absolute h, hname.components_eq]

theorem leadsTo_savedPath_iff (hname : PlainName name) :
    LeadsTo storagePath ("/cdn/attachments/" ++ savedPath channelId attachmentId name)
        (resolved (attachmentPath storagePath channelId attachmentId name)) ↔
      InPlace channelId attachmentId := by
  constructor
  · rintro ⟨⟨path, hurl, hnormal, hserved⟩, _⟩
    obtain rfl := append_cancel_left hurl
    have hrelative := (plainPath_iff.mp hnormal).1
    have hup := (plainPath_iff.mp hnormal).2.2
    obtain ⟨hnonempty, habsolute, hhere, hchannelUp, hattachmentUp⟩ :=
      (plainPath_savedPath hname).mp hnormal
    refine ⟨hnonempty, habsolute, hhere, hchannelUp, ?_, hattachmentUp⟩
    by_contra hattachment
    rw [Bool.not_eq_false] at hattachment
    have hwritten : ".." ∉ components attachmentId ++ [name] := by
      intro hmem
      rcases List.mem_append.mp hmem with hmem | hmem
      · exact hattachmentUp hmem
      · exact hname.up (List.mem_singleton.mp hmem).symm
    have hattachments : ".." ∉ ["attachments"] := by decide
    rw [servePath_eq hrelative, attachmentPath_absolute hname hattachment] at hserved
    unfold resolved at hserved
    rw [resolvedFrom_append, resolvedFrom_append, resolvedFrom_of_no_up hup,
      resolvedFrom_of_no_up hwritten, components_savedPath hname,
      resolvedFrom_of_no_up hattachments] at hserved
    have hlength := congrArg List.length hserved
    simp at hlength
    omega
  · intro h
    have hnormal : plainPath (savedPath channelId attachmentId name) = true :=
      (plainPath_savedPath hname).mpr
        ⟨h.channelNonempty, h.channelRelative, h.channelHere, h.channelUp, h.attachmentUp⟩
    have hrelative := (plainPath_iff.mp hnormal).1
    constructor
    · refine ⟨_, rfl, hnormal, ?_⟩
      rw [servePath_eq hrelative, h.attachmentPath_eq hname]
    · rw [deletePath_eq, h.attachmentPath_eq hname]

variable {isAlphanumeric : Char → Bool} {filename : String} {size maxSize : Nat} {s s' : AppState}

theorem exec_saveAttachment (hsize : size ≤ maxSize) :
    (saveAttachment isAlphanumeric channelId attachmentId filename size maxSize).exec s =
      (.ok ("/cdn/attachments/" ++ savedPath channelId attachmentId
          (sanitizeFilename isAlphanumeric filename)),
        { s with files :=
          if s.files.contains (resolved (attachmentPath s.storagePath channelId attachmentId
              (sanitizeFilename isAlphanumeric filename))) then s.files
          else s.files ++ [resolved (attachmentPath s.storagePath channelId attachmentId
              (sanitizeFilename isAlphanumeric filename))] }) := by
  rw [← savedUrl_eq, saveAttachment, Prog.require, if_pos hsize]
  rfl

theorem saveAttachment_ok
    (h : (saveAttachment isAlphanumeric channelId attachmentId filename size maxSize).exec s =
      (.ok url, s')) :
    url = "/cdn/attachments/" ++ savedPath channelId attachmentId
        (sanitizeFilename isAlphanumeric filename) ∧
      resolved (attachmentPath s.storagePath channelId attachmentId
        (sanitizeFilename isAlphanumeric filename)) ∈ s'.files := by
  by_cases hsize : size ≤ maxSize
  · rw [exec_saveAttachment hsize] at h
    cases h
    refine ⟨rfl, ?_⟩
    dsimp only
    split
    · next hmem => exact List.contains_iff_mem.mp hmem
    · simp
  · rw [saveAttachment, Prog.require, if_neg hsize] at h
    cases h

theorem resolvedFrom_proper {names : List String} (h : ∀ n ∈ names, Proper n) :
    resolvedFrom [] names = names := by
  have hup : ".." ∉ names := fun hmem => (h _ hmem).2.2 rfl
  have hall : names.filter (fun n => n ≠ "" ∧ n ≠ ".") = names := by
    rw [List.filter_eq_self]
    intro n hn
    exact decide_eq_true ⟨(h n hn).1, (h n hn).2.1⟩
  rw [resolvedFrom_of_no_up hup, hall, List.nil_append]

theorem exec_get_ok {α : Type} {f : AppState → α} {a : α} :
    (Prog.get f : App α).exec s = (.ok a, s') ↔ f s = a ∧ s = s' := by
  rw [Prog.exec_get, Prod.mk.injEq, Except.ok.injEq]

theorem resolveFrom_ok {base file : FilePath} {names : List String}
    (h : (resolveFrom base names).exec s = (.ok file, s')) :
    canonicalizeFrom s.files base names = .ok file ∧ s' = s := by
  obtain ⟨found, t, hfound, hrest⟩ := Prog.exec_bind_ok.mp h
  obtain ⟨rfl, rfl⟩ := exec_get_ok.mp hfound
  cases hcanonical : canonicalizeFrom s.files base names with
  | error e =>
    simp only [hcanonical] at hrest
    cases hrest
  | ok path =>
    simp only [hcanonical] at hrest
    cases hrest
    exact ⟨rfl, rfl⟩

theorem serveAttachment_file {path : String} {file written : FilePath}
    (h : LeadsTo s.storagePath ("/cdn/attachments/" ++ path) written)
    (hrun : (serveAttachment path).exec s = (.ok (some file), s')) : file = written := by
  obtain ⟨⟨path', hurl, hnormal, hserved⟩, _⟩ := h
  obtain rfl := append_cancel_left hurl
  have hrelative := (plainPath_iff.mp hnormal).1
  obtain ⟨_, s₁, hcheck, hafter⟩ := Prog.exec_bind_ok.mp hrun
  obtain ⟨_, rfl⟩ := Prog.exec_require_ok.mp hcheck
  obtain ⟨accepted, s₂, haccepted, hlive⟩ := Prog.exec_bind_ok.mp hafter
  obtain ⟨_, rfl⟩ := App.exec_lift_ok.mp haccepted
  obtain ⟨_, s₃, hshown, hread⟩ := Prog.exec_bind_ok.mp hlive
  obtain ⟨_, rfl⟩ := Prog.exec_require_ok.mp hshown
  obtain ⟨storage, s₄, hstorage, hroots⟩ := Prog.exec_bind_ok.mp hread
  obtain ⟨rfl, rfl⟩ := exec_get_ok.mp hstorage
  obtain ⟨root, s₅, hrooted, hfiles⟩ := Prog.exec_bind_ok.mp hroots
  obtain ⟨hroot, rfl⟩ := resolveFrom_ok hrooted
  obtain ⟨target, s₆, hfound, hbelow⟩ := Prog.exec_bind_ok.mp hfiles
  obtain ⟨htarget, rfl⟩ := resolveFrom_ok hfound
  obtain ⟨_, s₇, hinside, hopened⟩ := Prog.exec_bind_ok.mp hbelow
  obtain ⟨_, rfl⟩ := Prog.exec_require_ok.mp hinside
  have hsame : target = file := by
    have hopen := (exec_get_ok.mp hopened).1
    split at hopen
    · exact Option.some.inj hopen
    · cases hopen
  have hproper := canonicalizeFrom_proper hroot (fun n hn => by cases hn)
  have hresolved := canonicalizeFrom_resolved htarget
  rw [joined_relative hrelative, resolvedFrom_append, resolvedFrom_proper hproper,
    canonicalizeFrom_resolved hroot] at hresolved
  rw [joined_attachments, joined_relative hrelative, resolved, resolvedFrom_append] at hserved
  exact hsame.symm.trans (hresolved.trans hserved)

end

structure SafeAndStable (isAlphanumeric : Char → Bool) (channelId attachmentId filename : String) :
    Prop where
  name : SafeName isAlphanumeric filename
  saved : ∀ (size maxSize : Nat) (s s' : AppState) (url : String),
    (saveAttachment isAlphanumeric channelId attachmentId filename size maxSize).exec s =
        (.ok url, s') →
      resolved (attachmentPath s.storagePath channelId attachmentId
          (sanitizeFilename isAlphanumeric filename)) ∈ s'.files ∧
        LeadsTo s.storagePath url (resolved (attachmentPath s.storagePath channelId attachmentId
          (sanitizeFilename isAlphanumeric filename)))

theorem attachment_stable_iff {isAlphanumeric : Char → Bool} (h : Alphanumeric isAlphanumeric)
    (channelId attachmentId filename : String) :
    SafeAndStable isAlphanumeric channelId attachmentId filename ↔
      InPlace channelId attachmentId := by
  have hname := (clean_sanitizeFilename h filename).plain h
  constructor
  · intro hsafe
    obtain ⟨_, hleads⟩ := hsafe.saved 0 0 { db := {}, ext := .fixed "" } _ _
      (exec_saveAttachment (Nat.le_refl 0))
    exact (leadsTo_savedPath_iff hname).mp hleads
  · intro hin
    refine ⟨safeName h filename, ?_⟩
    intro size maxSize s s' url hrun
    obtain ⟨rfl, hmem⟩ := saveAttachment_ok hrun
    exact ⟨hmem, (leadsTo_savedPath_iff hname).mpr hin⟩

theorem attachment_stable_qualified :
    SafeAndStable Char.isAlphanum "812@peer.example" "17" "..a/../b.txt" :=
  (attachment_stable_iff (fun _ _ => rfl) "812@peer.example" "17" "..a/../b.txt").mpr (by decide)

theorem saved_attachment_served {isAlphanumeric : Char → Bool} (h : Alphanumeric isAlphanumeric)
    {channelId attachmentId filename path : String} {size maxSize : Nat} {s t : AppState}
    {file : FilePath} (hin : InPlace channelId attachmentId)
    (hsave : ((saveAttachment isAlphanumeric channelId attachmentId filename size maxSize).exec s).1 =
      .ok ("/cdn/attachments/" ++ path)) (hstorage : t.storagePath = s.storagePath)
    (hserve : ((serveAttachment path).exec t).1 = .ok (some file)) :
    file = resolved (attachmentPath s.storagePath channelId attachmentId
      (sanitizeFilename isAlphanumeric filename)) := by
  obtain ⟨hurl, _⟩ := saveAttachment_ok (Prod.ext hsave rfl)
  have hname := (clean_sanitizeFilename h filename).plain h
  refine serveAttachment_file ?_ (Prod.ext hserve rfl)
  rw [hurl, hstorage]
  exact (leadsTo_savedPath_iff hname).mpr hin

def posted : AppState :=
  { db :=
      { attachments :=
          [{ id := "17"
             messageId := "1"
             filename := "b.txt"
             url := "/cdn/attachments/812/17/b.txt" }] }
    ext := .fixed ""
    storagePath := ["srv"]
    files := [["srv", "attachments", "812", "17", "b.txt"]] }

theorem saved_attachment_served_posted :
    ["srv", "attachments", "812", "17", "b.txt"] =
      resolved (attachmentPath ["srv"] "812" "17" (sanitizeFilename Char.isAlphanum "b.txt")) :=
  @saved_attachment_served Char.isAlphanum (fun _ _ => rfl) "812" "17" "b.txt" "812/17/b.txt" 1 1
    posted posted _ (by decide) (by rfl) rfl (by rfl)

theorem attachment_not_stable :
    Federation.Authority.requireHomedOn "../up@peer.example" "peer.example" "channel" = .ok () ∧
      ¬ SafeAndStable Char.isAlphanum "../up@peer.example" "17" "b.txt" := by
  constructor
  · decide
  · intro hsafe
    have halphanumeric : Alphanumeric Char.isAlphanum := fun _ _ => rfl
    have hname := (clean_sanitizeFilename halphanumeric "b.txt").plain halphanumeric
    obtain ⟨_, hleads⟩ := hsafe.saved 0 0 { db := {}, ext := .fixed "" } _ _
      (exec_saveAttachment (Nat.le_refl 0))
    exact absurd ((leadsTo_savedPath_iff hname).mp hleads).channelUp (by decide)

end Vokusz.Storage
