import Vokusz.Storage

namespace Vokusz.Storage

structure PlainName (name : String) : Prop where
  slash : '/' ∉ name.toList
  nonempty : name ≠ ""
  here : name ≠ "."
  up : name ≠ ".."

instance (name : String) : Decidable (PlainName name) :=
  decidable_of_iff ('/' ∉ name.toList ∧ name ≠ "" ∧ name ≠ "." ∧ name ≠ "..")
    ⟨fun h => ⟨h.1, h.2.1, h.2.2.1, h.2.2.2⟩,
      fun h => ⟨h.slash, h.nonempty, h.here, h.up⟩⟩

theorem splitSlash_ne_nil (cs : List Char) : splitSlash cs ≠ [] := by
  cases cs with
  | nil => simp [splitSlash]
  | cons c cs =>
    unfold splitSlash
    split
    · simp
    · split <;> simp

theorem splitSlash_append (xs ys : List Char) :
    splitSlash (xs ++ '/' :: ys) = splitSlash xs ++ splitSlash ys := by
  induction xs with
  | nil => simp [splitSlash]
  | cons c cs ih =>
    by_cases hc : c = '/'
    · simp [splitSlash, hc, ih]
    · obtain ⟨part, parts, hparts⟩ := List.exists_cons_of_ne_nil (splitSlash_ne_nil cs)
      simp [splitSlash, hc, ih, hparts]

theorem splitSlash_of_plain {cs : List Char} (h : '/' ∉ cs) : splitSlash cs = [cs] := by
  induction cs with
  | nil => rfl
  | cons c cs ih =>
    have hc : c ≠ '/' := fun hc => h (by simp [hc])
    have hcs : splitSlash cs = [cs] := ih (fun hmem => h (by simp [hmem]))
    simp [splitSlash, hc, hcs]

theorem mem_collapseDots {c : Char} {cs : List Char} (h : c ∈ collapseDots cs) : c ∈ cs := by
  induction cs using collapseDots.induct with
  | case1 => exact h
  | case2 d => exact h
  | case3 d e cs hdots ih =>
    rw [collapseDots, if_pos hdots] at h
    exact List.mem_cons_of_mem _ (ih h)
  | case4 d e cs hdots ih =>
    rw [collapseDots, if_neg hdots] at h
    rcases List.mem_cons.mp h with rfl | hmem
    · simp
    · exact List.mem_cons_of_mem _ (ih hmem)

theorem slash_sanitizeFilename {isAlphanumeric : Char → Bool} (hslash : isAlphanumeric '/' = false)
    (name : String) : '/' ∉ (sanitizeFilename isAlphanumeric name).toList := by
  have hmapped : ∀ cs : List Char, '/' ∉ cs.map (fun c =>
      if isAlphanumeric c ∨ c = '-' ∨ c = '_' ∨ c = '.' then c else '_') := by
    intro cs hmem
    obtain ⟨c, _, hc⟩ := List.mem_map.mp hmem
    split at hc
    · next hsafe =>
      subst hc
      simp [hslash] at hsafe
    · simp at hc
  unfold sanitizeFilename
  dsimp only
  split
  · decide
  · rw [String.toList_ofList]
    intro hmem
    exact hmapped _ ((List.dropWhile_sublist _).subset (mem_collapseDots hmem))

theorem head_collapseDots {c : Char} (hc : c ≠ '.') (cs : List Char) :
    ∃ rest, collapseDots (c :: cs) = c :: rest := by
  cases cs with
  | nil => exact ⟨[], rfl⟩
  | cons d cs =>
    rw [collapseDots, if_neg (fun h => hc h.1)]
    exact ⟨_, rfl⟩

theorem plain_sanitizeFilename {isAlphanumeric : Char → Bool}
    (hslash : isAlphanumeric '/' = false) (name : String) :
    PlainName (sanitizeFilename isAlphanumeric name) := by
  have hslashes := slash_sanitizeFilename hslash name
  have hhead : ∃ c rest, (sanitizeFilename isAlphanumeric name).toList = c :: rest ∧ c ≠ '.' := by
    unfold sanitizeFilename
    dsimp only
    split
    · exact ⟨'a', "ttachment".toList, by decide, by decide⟩
    · next hsome =>
      rw [String.toList_ofList]
      cases hdropped : (name.toList.map (fun c =>
          if isAlphanumeric c ∨ c = '-' ∨ c = '_' ∨ c = '.' then c else '_')).dropWhile
          (· = '.') with
      | nil =>
        rw [hdropped] at hsome
        exact absurd rfl hsome
      | cons c cs =>
        have hc : c ≠ '.' := by
          have hnot := List.head?_dropWhile_not (fun c : Char => decide (c = '.'))
            (name.toList.map (fun c =>
              if isAlphanumeric c ∨ c = '-' ∨ c = '_' ∨ c = '.' then c else '_'))
          rw [hdropped] at hnot
          simpa using hnot
        obtain ⟨rest, hrest⟩ := head_collapseDots hc cs
        exact ⟨c, rest, hrest, hc⟩
  obtain ⟨c, rest, hlist, hc⟩ := hhead
  refine ⟨hslashes, ?_, ?_, ?_⟩
  all_goals
    intro heq
    rw [heq] at hlist
    simp at hlist
  · exact hc hlist.1.symm
  · exact hc hlist.1.symm

structure StoredAs (id url : String) : Prop where
  plain : PlainName id
  saved : ∃ channel name, PlainName channel ∧ PlainName name ∧
    url = "/cdn/attachments/" ++ channel ++ "/" ++ id ++ "/" ++ name

def carriedId (url : String) : Option String := (components url).dropLast.getLast?

theorem StoredAs.carried {id url : String} (h : StoredAs id url) : carriedId url = some id := by
  obtain ⟨channel, name, hchannel, hname, rfl⟩ := h.saved
  have hlist : ("/cdn/attachments/" ++ channel ++ "/" ++ id ++ "/" ++ name).toList =
      (("/cdn/attachments/" ++ channel).toList ++ '/' :: id.toList) ++ '/' :: name.toList := by
    simp [String.toList_append]
  unfold carriedId components
  rw [hlist, splitSlash_append, splitSlash_append, splitSlash_of_plain h.plain.slash,
    splitSlash_of_plain hname.slash]
  simp

def fileOf (storagePath : FilePath) (url : String) : FilePath :=
  joined storagePath (relativeToStorage url)

theorem StoredAs.file {id url : String} (h : StoredAs id url) (storagePath : FilePath) :
    ∃ channel name, PlainName channel ∧ PlainName name ∧
      url = "/cdn/attachments/" ++ channel ++ "/" ++ id ++ "/" ++ name ∧
      fileOf storagePath url = storagePath ++ ["attachments", channel, id, name] := by
  obtain ⟨channel, name, hchannel, hname, rfl⟩ := h.saved
  refine ⟨channel, name, hchannel, hname, rfl, ?_⟩
  have hlist : ("/cdn/attachments/" ++ channel ++ "/" ++ id ++ "/" ++ name).toList =
      "/cdn/".toList ++ ("attachments".toList ++ '/' :: (channel.toList ++ '/' ::
        (id.toList ++ '/' :: name.toList))) := by
    simp [String.toList_append]
  have hrelative : relativeToStorage ("/cdn/attachments/" ++ channel ++ "/" ++ id ++ "/" ++ name) =
      String.ofList ("attachments".toList ++ '/' :: (channel.toList ++ '/' ::
        (id.toList ++ '/' :: name.toList))) := by
    unfold relativeToStorage stripPrefix
    rw [hlist, if_pos (by simp), show "/cdn/".length = "/cdn/".toList.length from rfl,
      List.drop_left]
  unfold fileOf joined
  rw [hrelative, if_neg (by simp)]
  unfold components
  rw [String.toList_ofList, splitSlash_append, splitSlash_append, splitSlash_append,
    splitSlash_of_plain hchannel.slash, splitSlash_of_plain h.plain.slash,
    splitSlash_of_plain hname.slash, splitSlash_of_plain (by decide)]
  simp

theorem StoredAs.eq_of_file {id id' url url' : String} (h : StoredAs id url)
    (h' : StoredAs id' url') {storagePath : FilePath}
    (hfile : fileOf storagePath url = fileOf storagePath url') : url = url' := by
  obtain ⟨channel, name, _, _, hurl, hpath⟩ := h.file storagePath
  obtain ⟨channel', name', _, _, hurl', hpath'⟩ := h'.file storagePath
  rw [hpath, hpath', List.append_cancel_left_eq] at hfile
  simp only [List.cons.injEq, and_true, true_and] at hfile
  obtain ⟨rfl, rfl, rfl⟩ := hfile
  rw [hurl, hurl']

def Proper (name : String) : Prop := name ≠ "" ∧ name ≠ "." ∧ name ≠ ".."

theorem PlainName.proper {name : String} (h : PlainName name) : Proper name :=
  ⟨h.nonempty, h.here, h.up⟩

theorem canonicalizeFrom_eq {files : List FilePath} {current path : FilePath}
    {names : List String} (h : canonicalizeFrom files current names = .ok path)
    (hnames : ∀ n ∈ names, Proper n) : path = current ++ names := by
  induction names generalizing current with
  | nil =>
    cases h
    simp
  | cons n names ih =>
    obtain ⟨hempty, hhere, hup⟩ := hnames n List.mem_cons_self
    simp only [canonicalizeFrom, hempty, hhere, hup, or_self, if_false] at h
    split at h
    · cases h
    · split at h
      · rw [ih h (fun x hx => hnames x (List.mem_cons_of_mem _ hx)), List.append_assoc]
        rfl
      · cases h

theorem canonicalizeFrom_proper {files : List FilePath} {current path : FilePath}
    {names : List String} (h : canonicalizeFrom files current names = .ok path)
    (hcurrent : ∀ n ∈ current, Proper n) : ∀ n ∈ path, Proper n := by
  induction names generalizing current with
  | nil =>
    cases h
    exact hcurrent
  | cons n names ih =>
    unfold canonicalizeFrom at h
    split at h
    · cases h
    · split at h
      · exact ih h hcurrent
      · next hname =>
        split at h
        · exact ih h (fun x hx => hcurrent x ((List.dropLast_sublist _).subset hx))
        · next hup =>
          split at h
          · refine ih h (fun x hx => ?_)
            rcases List.mem_append.mp hx with hx | hx
            · exact hcurrent x hx
            · rw [List.mem_singleton.mp hx]
              exact ⟨fun he => hname (.inl he), fun he => hname (.inr he), hup⟩
          · cases h

theorem StoredAs.target {id url : String} (h : StoredAs id url) {storagePath path : FilePath}
    {files : List FilePath} (hpath : canonicalTarget storagePath files url = .ok path)
    (hroot : storagePath.isPrefixOf path = true) : path = fileOf storagePath url := by
  have hproper := canonicalizeFrom_proper hpath (fun n hn => by cases hn)
  have hstorage : ∀ n ∈ storagePath, Proper n :=
    fun n hn => hproper n ((List.isPrefixOf_iff_prefix.mp hroot).subset hn)
  obtain ⟨channel, name, hchannel, hname, _, hfile⟩ := h.file storagePath
  refine (canonicalizeFrom_eq hpath ?_).trans (List.nil_append _)
  change ∀ n ∈ fileOf storagePath url, Proper n
  rw [hfile]
  intro n hn
  simp only [List.mem_append, List.mem_cons, List.not_mem_nil, or_false] at hn
  rcases hn with hn | rfl | rfl | rfl | rfl
  · exact hstorage n hn
  · exact ⟨by decide, by decide, by decide⟩
  · exact hchannel.proper
  · exact h.plain.proper
  · exact hname.proper

end Vokusz.Storage
