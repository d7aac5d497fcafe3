import Mathlib.Data.List.Chain
import Mathlib.Data.List.DropRight
import Mathlib.Data.List.Infix
import Vokusz.Lib.Decimal
import Vokusz.Text

namespace Vokusz.Slug

open Lib

-- Outside ASCII only U+0130 and U+212A have an ASCII letter in their lower case; of the rest
-- `slugify` makes hyphens in either case.
def lowerChar (c : Char) : List Char :=
  if c.toNat = 0x212A then ['k']
  else if c.toNat = 0x130 then ['i', Char.ofNat 0x307]
  else [c.toLower]

def toLowercase (name : List Char) : List Char := name.flatMap lowerChar

def isAsciiAlphanumeric (c : Char) : Bool := c.isAlphanum

def hyphenate (c : Char) : Char := if isAsciiAlphanumeric c then c else '-'

def collapse (prevHyphen : Bool) : List Char → List Char
  | [] => []
  | c :: cs =>
    if c = '-' then
      if prevHyphen then collapse true cs else '-' :: collapse true cs
    else c :: collapse false cs

def isHyphen (c : Char) : Bool := c = '-'

def truncate (trimmed : List Char) : List Char :=
  if trimmed.length > 100 then (trimmed.take 100).rdropWhile isHyphen else trimmed

def protect (truncated : List Char) : List Char :=
  if truncated ≠ [] ∧ truncated.all Char.isDigit then "s-".toList ++ truncated else truncated

def slugify (name : String) : String :=
  let slug := (toLowercase name.toList).map hyphenate
  let trimmed := Text.stripEnds isHyphen (collapse false slug)
  String.ofList (protect (truncate trimmed))

def slugChar (c : Char) : Bool := c.isLower || c.isDigit || c = '-'

def validateSlug (slug : String) : Except String Unit :=
  if slug.isEmpty then .error "slug must not be empty"
  else if slug.utf8ByteSize > 100 then .error "slug must be 100 characters or fewer"
  else if !slug.toList.all slugChar then
    .error "slug may only contain lowercase letters, digits, and hyphens"
  else if slug.toList.head? = some '-' ∨ slug.toList.getLast? = some '-' then
    .error "slug must not start or end with a hyphen"
  else if ['-', '-'] <:+: slug.toList then .error "slug must not contain consecutive hyphens"
  else if slug.toList.all Char.isDigit then
    .error "slug must contain at least one letter or hyphen"
  else .ok ()

example : slugify "Hello, World! (2024)" = "hello-world-2024" := by decide +kernel

example : slugify "12345" = "s-12345" := by decide +kernel

structure Clean (cs : List Char) : Prop where
  chars : ∀ c ∈ cs, slugChar c = true
  head : cs.head? ≠ some '-'
  last : cs.getLast? ≠ some '-'
  single : cs.IsChain (fun a b => ¬ (a = '-' ∧ b = '-'))

theorem isChain_iff_no_pair {cs : List Char} :
    cs.IsChain (fun a b => ¬ (a = '-' ∧ b = '-')) ↔ ¬ ['-', '-'] <:+: cs := by
  rw [List.isChain_iff_forall_rel_of_append_cons_cons]
  constructor
  · rintro h ⟨l, r, heq⟩
    have hsplit : cs = l ++ '-' :: '-' :: r := by
      rw [← heq]
      simp
    exact h hsplit ⟨rfl, rfl⟩
  · rintro h a b l r rfl ⟨rfl, rfl⟩
    exact h ⟨l, r, by simp⟩

theorem validateSlug_ok_iff {slug : String} :
    validateSlug slug = .ok () ↔
      slug.toList ≠ [] ∧ slug.utf8ByteSize ≤ 100 ∧ Clean slug.toList ∧
        slug.toList.all Char.isDigit = false := by
  have hempty : slug.isEmpty = true ↔ slug.toList = [] := by
    rw [String.isEmpty_iff, ← String.toList_inj, String.toList_empty]
  unfold validateSlug
  constructor
  · intro h
    split at h
    · cases h
    next hne =>
    split at h
    · cases h
    next hsize =>
    split at h
    · cases h
    next hchars =>
    split at h
    · cases h
    next hends =>
    split at h
    · cases h
    next hsingle =>
    split at h
    · cases h
    next hdigits =>
    simp only [Bool.not_eq_true', Bool.not_eq_false, List.all_eq_true] at hchars
    rw [not_or] at hends
    exact ⟨fun hnil => hne (hempty.mpr hnil), not_lt.mp hsize,
      ⟨hchars, hends.1, hends.2, isChain_iff_no_pair.mpr hsingle⟩, Bool.eq_false_iff.mpr hdigits⟩
  · rintro ⟨hne, hsize, hclean, hdigits⟩
    have hall : slug.toList.all slugChar = true := List.all_eq_true.mpr hclean.chars
    have hends : ¬ (slug.toList.head? = some '-' ∨ slug.toList.getLast? = some '-') :=
      not_or.mpr ⟨hclean.head, hclean.last⟩
    rw [if_neg (fun h => hne (hempty.mp h)), if_neg (not_lt.mpr hsize), hall, if_neg (by decide),
      if_neg hends, if_neg (isChain_iff_no_pair.mp hclean.single), hdigits, if_neg (by decide)]

theorem lowerChar_not_upper {c d : Char} (h : d ∈ lowerChar c) : d.isUpper = false := by
  unfold lowerChar at h
  split at h
  · rw [List.mem_singleton] at h
    subst h
    decide
  split at h
  · simp only [List.mem_cons, List.not_mem_nil, or_false] at h
    rcases h with rfl | rfl <;> decide
  · rw [List.mem_singleton] at h
    rw [h, Text.toLower_not_upper]

theorem slugChar_hyphenate {c : Char} (h : c.isUpper = false) : slugChar (hyphenate c) = true := by
  unfold hyphenate
  split
  · next halnum =>
    simp only [isAsciiAlphanumeric, Char.isAlphanum, Text.isAlpha_eq, h, Bool.false_or] at halnum
    simp only [slugChar, halnum, Bool.true_or]
  · rfl

theorem hyphenate_ne_hyphen {c : Char} : hyphenate c ≠ '-' ↔ isAsciiAlphanumeric c = true := by
  unfold hyphenate
  split
  · next halnum =>
    refine iff_of_true ?_ halnum
    rintro rfl
    cases halnum
  · next halnum => simp [halnum]

theorem mem_of_mem_collapse {c : Char} {cs : List Char} {prev : Bool} (h : c ∈ collapse prev cs) :
    c ∈ cs := by
  induction cs generalizing prev with
  | nil => cases h
  | cons d cs ih =>
    rw [collapse] at h
    split at h
    · next hd =>
      split at h
      · exact List.mem_cons_of_mem d (ih h)
      · rcases List.mem_cons.mp h with rfl | h
        · exact hd ▸ List.mem_cons_self
        · exact List.mem_cons_of_mem d (ih h)
    · rcases List.mem_cons.mp h with rfl | h
      · exact List.mem_cons_self
      · exact List.mem_cons_of_mem d (ih h)

theorem mem_collapse {c : Char} {cs : List Char} (prev : Bool) (hc : c ≠ '-') (h : c ∈ cs) :
    c ∈ collapse prev cs := by
  induction cs generalizing prev with
  | nil => cases h
  | cons d cs ih =>
    rw [collapse]
    rcases List.mem_cons.mp h with rfl | h
    · rw [if_neg hc]
      exact List.mem_cons_self
    · split
      · split
        · exact ih true h
        · exact List.mem_cons_of_mem _ (ih true h)
      · exact List.mem_cons_of_mem _ (ih false h)

theorem collapse_single (cs : List Char) (prev : Bool) :
    (collapse prev cs).IsChain (fun a b => ¬ (a = '-' ∧ b = '-')) ∧
      (prev = true → (collapse prev cs).head? ≠ some '-') := by
  induction cs generalizing prev with
  | nil => exact ⟨.nil, fun _ => by simp [collapse]⟩
  | cons c cs ih =>
    have hcons : ∀ (d : Char) (p : Bool), (d = '-' → p = true) →
        (d :: collapse p cs).IsChain (fun a b => ¬ (a = '-' ∧ b = '-')) := by
      intro d p hp
      obtain ⟨hchain, hhead⟩ := ih p
      refine List.isChain_cons.mpr ⟨?_, hchain⟩
      rintro e he ⟨rfl, rfl⟩
      exact hhead (hp rfl) he
    rw [collapse]
    split
    · split
      · exact ⟨(ih true).1, fun _ => (ih true).2 rfl⟩
      · next hprev => exact ⟨hcons '-' true (fun _ => rfl), fun h => absurd h hprev⟩
    · next hc =>
      refine ⟨hcons c false (fun h => absurd h hc), fun _ => ?_⟩
      simpa using hc

theorem head?_of_front {cs ds : List Char} (h : cs <+: ds) (hds : ds.head? ≠ some '-') :
    cs.head? ≠ some '-' := by
  obtain ⟨rest, rfl⟩ := h
  cases cs with
  | nil => simp
  | cons c cs => exact hds

section

variable {cs : List Char}

theorem clean_rdropWhile (hchars : ∀ c ∈ cs, slugChar c = true) (hhead : cs.head? ≠ some '-')
    (hsingle : cs.IsChain (fun a b => ¬ (a = '-' ∧ b = '-'))) :
    Clean (cs.rdropWhile isHyphen) where
  chars := fun c hc => hchars c ( List.IsPrefix.subset ( List.rdropWhile_prefix isHyphen cs) hc)
  head := head?_of_front ( List.rdropWhile_prefix isHyphen cs) hhead
  last := by
    intro hlast
    have hne : cs.rdropWhile isHyphen ≠ [] := by
      intro hnil
      rw [hnil] at hlast
      cases hlast
    rw [List.getLast?_eq_some_getLast hne] at hlast
    have hnot := List.rdropWhile_last_not isHyphen cs hne
    rw [Option.some.inj hlast] at hnot
    exact hnot rfl
  single := List.IsChain.infix hsingle ( List.rdropWhile_prefix isHyphen cs).isInfix

theorem clean_stripEnds (hchars : ∀ c ∈ cs, slugChar c = true)
    (hsingle : cs.IsChain (fun a b => ¬ (a = '-' ∧ b = '-'))) :
    Clean (Text.stripEnds isHyphen cs) := by
  have hsuffix : cs.dropWhile isHyphen <:+ cs := List.dropWhile_suffix isHyphen
  refine clean_rdropWhile (fun c hc => hchars c (hsuffix.subset hc))
    ?_ ( List.IsChain.infix hsingle hsuffix.isInfix)
  intro hhead
  have hnot := List.head?_dropWhile_not isHyphen cs
  rw [hhead] at hnot
  cases hnot

theorem Clean.truncate (h : Clean cs) : Clean (truncate cs) := by
  unfold Slug.truncate
  split
  · exact clean_rdropWhile (fun c hc => h.chars c (List.mem_of_mem_take hc))
      (head?_of_front ( List.take_prefix 100 cs) h.head)
      ( List.IsChain.infix h.single ( List.take_prefix 100 cs).isInfix)
  · exact h

theorem Clean.protect (h : Clean cs) : Clean (protect cs) := by
  unfold Slug.protect
  split
  · next hdigits =>
    obtain ⟨hne, hdigits⟩ := hdigits
    have hdigit := List.all_eq_true.mp hdigits
    constructor
    · intro c hc
      rcases List.mem_append.mp hc with hc | hc
      · exact List.all_eq_true.mp (show "s-".toList.all slugChar = true by decide) c hc
      · exact h.chars c hc
    · exact fun hhead => by cases hhead
    · rw [List.getLast?_append_of_ne_nil _ hne]
      exact h.last
    · refine List.isChain_append.mpr ⟨by decide, h.single, ?_⟩
      rintro x - y hy ⟨-, rfl⟩
      exact h.head hy
  · exact h

theorem protect_not_digits (h : protect cs ≠ []) :
    (protect cs).all Char.isDigit = false := by
  unfold Slug.protect at h ⊢
  split
  · rfl
  · next hdigits =>
    rw [if_neg hdigits] at h
    exact Bool.eq_false_iff.mpr (fun hall => hdigits ⟨h, hall⟩)

theorem stripEnds_ne_nil :
    Text.stripEnds isHyphen cs ≠ [] ↔ ∃ c ∈ cs, c ≠ '-' := by
  change (cs.dropWhile isHyphen).rdropWhile isHyphen ≠ [] ↔ _
  rw [ne_eq, List.rdropWhile_eq_nil_iff]
  simp only [isHyphen, decide_eq_true_eq, not_forall]
  constructor
  · rintro ⟨c, hc, hne⟩
    exact ⟨c, (List.dropWhile_suffix _).subset hc, hne⟩
  · rintro ⟨c, hc, hne⟩
    refine ⟨c, ?_, hne⟩
    rw [← List.takeWhile_append_dropWhile (p := fun d => decide (d = '-')) (l := cs)] at hc
    rcases List.mem_append.mp hc with hc | hc
    · have hhyphen := List.mem_takeWhile_imp hc
      exact absurd (of_decide_eq_true hhyphen) hne
    · exact hc

theorem truncate_ne_nil (h : Clean cs) : truncate cs ≠ [] ↔ cs ≠ [] := by
  unfold Slug.truncate
  split
  · cases cs with
    | nil => simp
    | cons c cs =>
      have hc : c ≠ '-' := fun heq => h.head (heq ▸ rfl)
      refine iff_of_true ?_ (List.cons_ne_nil c cs)
      rw [ne_eq, List.rdropWhile_eq_nil_iff]
      exact fun hall => hc (of_decide_eq_true (hall c List.mem_cons_self))
  · rfl

theorem protect_ne_nil : protect cs ≠ [] ↔ cs ≠ [] := by
  unfold Slug.protect
  split
  · next hdigits => exact iff_of_true (by simp) hdigits.1
  · rfl

end

def nameable (name : String) : Bool := (toLowercase name.toList).any isAsciiAlphanumeric

structure IsBase (slug : String) : Prop where
  clean : Clean slug.toList
  named : slug.toList ≠ [] → slug.toList.all Char.isDigit = false

theorem clean_trimmed (name : String) :
    Clean (Text.stripEnds isHyphen
      (collapse false ((toLowercase name.toList).map hyphenate))) := by
  refine clean_stripEnds (fun c hc => ?_) (collapse_single _ false).1
  obtain ⟨d, hd, rfl⟩ := List.mem_map.mp (mem_of_mem_collapse hc)
  obtain ⟨e, -, hd⟩ := List.mem_flatMap.mp hd
  exact slugChar_hyphenate (lowerChar_not_upper hd)

theorem slugify_isBase (name : String) : IsBase (slugify name) := by
  constructor
  · rw [slugify, String.toList_ofList]
    exact (clean_trimmed name).truncate.protect
  · rw [slugify, String.toList_ofList]
    exact protect_not_digits

theorem slugify_ne_nil {name : String} : (slugify name).toList ≠ [] ↔ nameable name = true := by
  rw [slugify, String.toList_ofList, protect_ne_nil, truncate_ne_nil (clean_trimmed name),
    stripEnds_ne_nil, nameable, List.any_eq_true]
  constructor
  · rintro ⟨c, hc, hne⟩
    obtain ⟨d, hd, rfl⟩ := List.mem_map.mp (mem_of_mem_collapse hc)
    exact ⟨d, hd, hyphenate_ne_hyphen.mp hne⟩
  · rintro ⟨d, hd, halnum⟩
    have hne := hyphenate_ne_hyphen.mpr halnum
    exact ⟨hyphenate d, mem_collapse false hne (List.mem_map_of_mem hd), hne⟩

end Vokusz.Slug
