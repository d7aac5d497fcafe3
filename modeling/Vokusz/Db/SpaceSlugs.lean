import Vokusz.Db.Spaces
import Vokusz.Lib.FirstFree
import Vokusz.Slug

namespace Vokusz.Db.Spaces

open Lib Slug

structure CreateSpace where
  name : String
  slug : Option String := none
  description : Option String := none
  isPublic : Option Bool := none
  allowGuestAccess : Option Bool := none
  deriving DecidableEq, Repr

structure UpdateSpace where
  name : Option String := none
  slug : Option String := none
  description : Option String := none
  icon : Option String := none
  banner : Option String := none
  isPublic : Option Bool := none
  allowGuestAccess : Option Bool := none
  deriving DecidableEq, Repr

def slugTaken (db : Tables) (excludeId : Option String) (slug : String) : Bool :=
  db.spaces.any (fun sp => sp.slug = slug && excludeId.all (fun eid => sp.id ≠ eid))

def uniqueLoop (taken : String → Bool) (baseSlug : String) : Nat → String → Nat → Option String
  | 0, _, _ => none
  | fuel + 1, candidate, suffix =>
    if taken candidate then
      uniqueLoop taken baseSlug fuel (baseSlug ++ "-" ++ toString suffix) (suffix + 1)
    else some candidate

def ensureUniqueSlug (db : Tables) (baseSlug : String) (excludeId : Option String) (fuel : Nat) :
    Option String :=
  uniqueLoop (slugTaken db excludeId) baseSlug fuel baseSlug 2

def checked (slug : String) : Except AppError String :=
  match validateSlug slug with
  | .ok () => .ok slug
  | .error e => .error (.badRequest e)

def CreateSpace.baseSlug (input : CreateSpace) : Except AppError String :=
  match input.slug with
  | some s => checked s
  | none => .ok (slugify input.name)

def newSpace (ownerId id slug : String) (input : CreateSpace) : SpaceRow :=
  { id := id
    name := input.name
    slug := slug
    description := input.description
    ownerId := ownerId
    isPublic := input.isPublic.getD false
    allowGuestAccess := input.allowGuestAccess.getD true }

-- Up to the space's own row; the roles, the channel and the membership that follow it leave the
-- `spaces` table alone.
def createSpace (db : Tables) (ownerId id : String) (input : CreateSpace) (fuel : Nat) :
    Option (Except AppError Tables) :=
  match input.baseSlug with
  | .error e => some (.error e)
  | .ok base =>
    (ensureUniqueSlug db base none fuel).map (fun slug =>
      if db.hasSpace id || slugTaken db none slug then .error AppError.uniqueViolation
      else if !db.hasUser ownerId then .error AppError.foreignKeyViolation
      else .ok { db with spaces := db.spaces ++ [newSpace ownerId id slug input] })

def orNull (value : Option String) (old : Option String) : Option String :=
  match value with
  | none => old
  | some v => if v.isEmpty then none else some v

def UpdateSpace.apply (input : UpdateSpace) (slug : Option String) (row : SpaceRow) : SpaceRow :=
  { row with
    name := input.name.getD row.name
    slug := slug.getD row.slug
    description := input.description <|> row.description
    icon := orNull input.icon row.icon
    banner := orNull input.banner row.banner
    isPublic := input.isPublic.getD row.isPublic
    allowGuestAccess := input.allowGuestAccess.getD row.allowGuestAccess }

def updateRow (db : Tables) (spaceId : String) (input : UpdateSpace) (slug : Option String) :
    Except AppError Tables :=
  if !db.hasSpace spaceId then .error (.notFound "unknown_space")
  else if slug.any (slugTaken db (some spaceId)) then .error AppError.uniqueViolation
  else .ok { db with spaces := Table.update SpaceRow.id spaceId (input.apply slug) db.spaces }

def updateSpace (db : Tables) (spaceId : String) (input : UpdateSpace) (fuel : Nat) :
    Option (Except AppError Tables) :=
  match input.slug with
  | none => some (updateRow db spaceId input none)
  | some newSlug =>
    match checked newSlug with
    | .error e => some (.error e)
    | .ok base =>
      (ensureUniqueSlug db base (some spaceId) fuel).map (fun slug =>
        updateRow db spaceId input (some slug))

def candidate (baseSlug : String) : Nat → String
  | 0 => baseSlug
  | k + 1 => baseSlug ++ "-" ++ toString (k + 2)

theorem uniqueLoop_eq (taken : String → Bool) (base : String) (fuel k : Nat) :
    uniqueLoop taken base fuel (candidate base k) (k + 2) =
      (firstFree taken (candidate base) fuel k).map (candidate base) := by
  induction fuel generalizing k with
  | zero => rfl
  | succ fuel ih =>
    rw [uniqueLoop, firstFree]
    split
    · exact ih (k + 1)
    · rfl

theorem candidate_toList (base : String) (k : Nat) :
    (candidate base (k + 1)).toList = base.toList ++ '-' :: Nat.toDigits 10 (k + 2) := by
  rw [candidate, String.toList_append, String.toList_append, Nat.toString_eq_repr,
    Nat.toList_repr, List.append_assoc]
  rfl

theorem candidate_injective (base : String) (m n : Nat) (h : candidate base m = candidate base n) :
    m = n := by
  have hlist := congrArg String.toList h
  cases m with
  | zero =>
    cases n with
    | zero => rfl
    | succ n =>
      rw [candidate_toList] at hlist
      exact absurd (List.append_right_eq_self.mp hlist.symm) (List.cons_ne_nil _ _)
  | succ m =>
    cases n with
    | zero =>
      rw [candidate_toList] at hlist
      exact absurd (List.append_right_eq_self.mp hlist) (List.cons_ne_nil _ _)
    | succ n =>
      rw [candidate_toList, candidate_toList] at hlist
      have hdigits := (List.cons.inj (List.append_cancel_left hlist)).2
      have hsame := Decimal.toDigits_injective hdigits
      omega

theorem ensureUniqueSlug_some {db : Tables} {base slug : String} {excludeId : Option String}
    {fuel : Nat} (h : ensureUniqueSlug db base excludeId fuel = some slug) :
    ∃ k, slug = candidate base k ∧ slugTaken db excludeId (candidate base k) = false ∧
      ∀ m, m < k → slugTaken db excludeId (candidate base m) = true := by
  have hloop := uniqueLoop_eq (slugTaken db excludeId) base fuel 0
  obtain ⟨k, hk, rfl⟩ := Option.map_eq_some_iff.mp (hloop.symm.trans h)
  obtain ⟨-, hfree, hbefore⟩ := firstFree_some hk
  exact ⟨k, rfl, hfree, fun m hm => hbefore m (Nat.zero_le m) hm⟩

theorem ensureUniqueSlug_terminates (db : Tables) (base : String) (excludeId : Option String) :
    ∃ slug, ensureUniqueSlug db base excludeId (db.spaces.length + 1) = some slug := by
  have htaken : ∀ slug, slugTaken db excludeId slug = true → slug ∈ db.spaces.map SpaceRow.slug := by
    intro slug h
    obtain ⟨sp, hsp, hslug⟩ := List.any_eq_true.mp h
    rw [Bool.and_eq_true, decide_eq_true_eq] at hslug
    exact List.mem_map.mpr ⟨sp, hsp, hslug.1⟩
  have hfuel : (db.spaces.map SpaceRow.slug).length < db.spaces.length + 1 := by
    rw [List.length_map]
    exact Nat.lt_succ_self _
  obtain ⟨k, hk⟩ := firstFree_of_fuel (k := 0) (candidate_injective base) htaken hfuel
  refine ⟨candidate base k, ?_⟩
  have hloop := uniqueLoop_eq (slugTaken db excludeId) base (db.spaces.length + 1) 0
  rw [hk] at hloop
  exact hloop

theorem utf8ByteSize_of_digits {cs : List Char} (h : ∀ c ∈ cs, c.isDigit = true) :
    (String.ofList cs).utf8ByteSize = cs.length := by
  induction cs with
  | nil => simp
  | cons c cs ih =>
    have hsize : c.utf8Size = 1 := by
      have hdigit := h c List.mem_cons_self
      simp only [Char.isDigit, Bool.and_eq_true, decide_eq_true_eq] at hdigit
      have hle : c.val ≤ 0x7f := UInt32.le_trans hdigit.2 (by decide)
      rw [Char.utf8Size]
      exact if_pos hle
    rw [String.ofList_cons, String.utf8ByteSize_append, String.utf8ByteSize_singleton, hsize,
      ih (fun d hd => h d (List.mem_cons_of_mem c hd)), List.length_cons]
    omega

theorem candidate_size (base : String) (k : Nat) :
    (candidate base (k + 1)).utf8ByteSize =
      base.utf8ByteSize + 1 + Decimal.width (k + 2) := by
  have hdigits : (toString (k + 2)).utf8ByteSize = Decimal.width (k + 2) := by
    rw [Nat.toString_eq_ofList_toDigits]
    exact utf8ByteSize_of_digits
      (fun c hc => Nat.isDigit_of_mem_toDigits (by decide) (by decide) hc)
  rw [candidate, String.utf8ByteSize_append, String.utf8ByteSize_append, hdigits]
  rfl

theorem candidate_size_mono (base : String) {m n : Nat} (h : m ≤ n) :
    (candidate base m).utf8ByteSize ≤ (candidate base n).utf8ByteSize := by
  cases n with
  | zero =>
    obtain rfl := Nat.le_zero.mp h
    exact le_refl _
  | succ n =>
    cases m with
    | zero =>
      rw [candidate_size]
      change base.utf8ByteSize ≤ _
      omega
    | succ m =>
      have hwidth : Decimal.width (m + 2) ≤ Decimal.width (n + 2) := Decimal.width_mono (by omega)
      rw [candidate_size, candidate_size]
      omega

theorem slugChar_of_digit {c : Char} (h : c.isDigit = true) : slugChar c = true := by
  simp only [slugChar, h, Bool.or_true, Bool.true_or]

theorem candidate_clean {base : String} (h : IsBase base) (hne : base.toList ≠ []) (k : Nat) :
    Clean (candidate base k).toList ∧ (candidate base k).toList.all Char.isDigit = false := by
  cases k with
  | zero => exact ⟨h.clean, h.named hne⟩
  | succ k =>
    have hdigit : ∀ c ∈ Nat.toDigits 10 (k + 2), c.isDigit = true :=
      fun c hc => Nat.isDigit_of_mem_toDigits (by decide) (by decide) hc
    have hhyphen : '-' ∉ Nat.toDigits 10 (k + 2) := fun hmem => by cases hdigit '-' hmem
    rw [candidate_toList]
    refine ⟨⟨?_, ?_, ?_, ?_⟩, ?_⟩
    · intro c hc
      rcases List.mem_append.mp hc with hc | hc
      · exact h.clean.chars c hc
      rcases List.mem_cons.mp hc with rfl | hc
      · rfl
      · exact slugChar_of_digit (hdigit c hc)
    · rw [List.head?_append_of_ne_nil _ hne]
      exact h.clean.head
    · rw [List.getLast?_append_of_ne_nil _ (List.cons_ne_nil _ _)]
      intro hlast
      have hrest : Nat.toDigits 10 (k + 2) ≠ [] := Nat.toDigits_ne_nil
      rw [List.getLast?_cons, Option.some.injEq] at hlast
      rw [List.getLast?_eq_some_getLast hrest, Option.getD_some] at hlast
      exact hhyphen (hlast ▸ List.getLast_mem hrest)
    · refine List.isChain_append.mpr ⟨h.clean.single, List.isChain_cons.mpr ⟨?_, ?_⟩, ?_⟩
      · rintro c hc ⟨-, rfl⟩
        exact hhyphen (List.mem_of_mem_head? hc)
      · refine isChain_iff_no_pair.mpr (fun hpair => ?_)
        exact hhyphen (hpair.subset List.mem_cons_self)
      · rintro a ha - - ⟨rfl, -⟩
        exact h.clean.last ha
    · rw [List.all_append, List.all_cons]
      simp

theorem candidate_valid_iff {base : String} (h : IsBase base) (k : Nat) :
    validateSlug (candidate base k) = .ok () ↔
      base.toList ≠ [] ∧ (candidate base k).utf8ByteSize ≤ 100 := by
  rw [validateSlug_ok_iff]
  constructor
  · rintro ⟨hnonempty, hsize, hclean, -⟩
    refine ⟨fun hnil => ?_, hsize⟩
    cases k with
    | zero => exact hnonempty hnil
    | succ k =>
      rw [candidate_toList, hnil] at hclean
      exact hclean.head rfl
  · rintro ⟨hne, hsize⟩
    obtain ⟨hclean, hdigits⟩ := candidate_clean h hne k
    refine ⟨fun hnil => ?_, hsize, hclean, hdigits⟩
    rw [hnil] at hdigits
    cases hdigits

theorem checked_isBase {slug base : String} (h : checked slug = .ok base) :
    IsBase base ∧ base.toList ≠ [] := by
  unfold checked at h
  split at h
  · next hvalid =>
    cases h
    obtain ⟨hne, -, hclean, hdigits⟩ := validateSlug_ok_iff.mp hvalid
    exact ⟨⟨hclean, fun _ => hdigits⟩, hne⟩
  · cases h

inductive SlugWrite where
  | create (ownerId id : String) (input : CreateSpace)
  | update (spaceId slug : String) (input : UpdateSpace)
  deriving DecidableEq, Repr

namespace SlugWrite

def run (db : Tables) (fuel : Nat) : SlugWrite → Option (Except AppError Tables)
  | .create ownerId id input => createSpace db ownerId id input fuel
  | .update spaceId slug input => updateSpace db spaceId { input with slug := some slug } fuel

def spaceId : SlugWrite → String
  | .create _ id _ => id
  | .update spaceId _ _ => spaceId

def excludeId : SlugWrite → Option String
  | .create _ _ _ => none
  | .update spaceId _ _ => some spaceId

def baseSlug : SlugWrite → Except AppError String
  | .create _ _ input => input.baseSlug
  | .update _ slug _ => checked slug

def admitted (db : Tables) : SlugWrite → Bool
  | .create ownerId id _ => !db.hasSpace id && db.hasUser ownerId
  | .update spaceId _ _ => db.hasSpace spaceId

def named : SlugWrite → Bool
  | .create _ _ input => input.slug.isSome || nameable input.name
  | .update _ _ _ => true

def stored (db : Tables) (slug : String) : SlugWrite → Tables
  | .create ownerId id input => { db with spaces := db.spaces ++ [newSpace ownerId id slug input] }
  | .update spaceId newSlug input =>
    { db with
      spaces := Table.update SpaceRow.id spaceId
        ({ input with slug := some newSlug }.apply (some slug)) db.spaces }

def Stores (db : Tables) (w : SlugWrite) (P : String → Prop) : Prop :=
  ∃ fuel db', w.run db fuel = some (.ok db') ∧ db'.hasSpace w.spaceId = true ∧
    ∀ row ∈ db'.spaces, row.id = w.spaceId → P row.slug

def unused (db : Tables) (w : SlugWrite) (slug : String) : Prop :=
  ∀ sp ∈ db.spaces, sp.id ≠ w.spaceId → sp.slug ≠ slug

variable {db : Tables} {w : SlugWrite} {base slug : String}

theorem run_eq (hadmitted : w.admitted db = true) (hbase : w.baseSlug = .ok base) (fuel : Nat) :
    w.run db fuel = (ensureUniqueSlug db base w.excludeId fuel).map (fun slug =>
      .ok (w.stored db slug)) := by
  cases hunique : ensureUniqueSlug db base w.excludeId fuel with
  | none =>
    cases w with
    | create ownerId id input =>
      have hb : input.baseSlug = .ok base := hbase
      have hu : ensureUniqueSlug db base none fuel = none := hunique
      simp only [run, createSpace, hb, hu, Option.map_none]
    | update spaceId newSlug input =>
      have hb : checked newSlug = .ok base := hbase
      have hu : ensureUniqueSlug db base (some spaceId) fuel = none := hunique
      simp only [run, updateSpace, hb, hu, Option.map_none]
  | some slug =>
    obtain ⟨k, rfl, hfree, -⟩ := ensureUniqueSlug_some hunique
    cases w with
    | create ownerId id input =>
      have hb : input.baseSlug = .ok base := hbase
      have hu : ensureUniqueSlug db base none fuel = some (candidate base k) := hunique
      have hf : slugTaken db none (candidate base k) = false := hfree
      simp only [admitted, Bool.and_eq_true, Bool.not_eq_true'] at hadmitted
      simp only [run, createSpace, hb, hu, hf, hadmitted, Option.map_some, Bool.or_self,
        Bool.false_eq_true, if_false, Bool.not_true, stored]
    | update spaceId newSlug input =>
      have hb : checked newSlug = .ok base := hbase
      have hu : ensureUniqueSlug db base (some spaceId) fuel = some (candidate base k) := hunique
      have hf : slugTaken db (some spaceId) (candidate base k) = false := hfree
      have hspace : db.hasSpace spaceId = true := hadmitted
      simp only [run, updateSpace, updateRow, hb, hu, hf, hspace, Option.map_some, Option.any_some,
        Bool.false_eq_true, if_false, Bool.not_true, stored]

theorem hasSpace_stored (hadmitted : w.admitted db = true) :
    (w.stored db slug).hasSpace w.spaceId = true := by
  cases w with
  | create ownerId id input =>
    exact Table.has_iff.mpr ⟨_, List.mem_append_right _ (List.mem_singleton.mpr rfl), rfl⟩
  | update spaceId newSlug input =>
    obtain ⟨row, hrow, hid⟩ := Table.has_iff.mp (show db.hasSpace spaceId = true from hadmitted)
    refine Table.has_iff.mpr ⟨_, List.mem_map.mpr ⟨row, hrow, rfl⟩, ?_⟩
    rw [if_pos hid]
    exact hid

theorem slug_stored (hadmitted : w.admitted db = true) {row : SpaceRow}
    (hrow : row ∈ (w.stored db slug).spaces) (hid : row.id = w.spaceId) : row.slug = slug := by
  cases w with
  | create ownerId id input =>
    rcases List.mem_append.mp hrow with hrow | hrow
    · have hfresh : db.hasSpace id = false := by
        simp only [admitted, Bool.and_eq_true, Bool.not_eq_true'] at hadmitted
        exact hadmitted.1
      have hheld : db.hasSpace id = true := Table.has_iff.mpr ⟨row, hrow, hid⟩
      rw [hfresh] at hheld
      cases hheld
    · rw [List.mem_singleton.mp hrow]
      rfl
  | update spaceId newSlug input =>
    obtain ⟨old, -, rfl⟩ := List.mem_map.mp hrow
    by_cases hold : old.id = spaceId
    · rw [if_pos hold]
      rfl
    · rw [if_neg hold] at hid
      exact absurd hid hold

theorem unused_of_free (h : slugTaken db w.excludeId slug = false) : w.unused db slug := by
  intro sp hsp hid hslug
  have hnot := List.any_eq_false.mp h sp hsp
  cases w with
  | create ownerId id input => simp [excludeId, hslug] at hnot
  | update spaceId newSlug input =>
    have hne : sp.id ≠ spaceId := hid
    simp [excludeId, hslug, hne] at hnot

theorem baseSlug_isBase (hbase : w.baseSlug = .ok base) :
    IsBase base ∧ (base.toList ≠ [] ↔ w.named = true) := by
  cases w with
  | create ownerId id input =>
    cases hslug : input.slug with
    | none =>
      simp only [baseSlug, CreateSpace.baseSlug, hslug] at hbase
      obtain rfl := Except.ok.inj hbase
      refine ⟨slugify_isBase input.name, ?_⟩
      simp only [named, hslug, Option.isSome_none, Bool.false_or]
      exact slugify_ne_nil
    | some given =>
      simp only [baseSlug, CreateSpace.baseSlug, hslug] at hbase
      obtain ⟨hb, hne⟩ := checked_isBase hbase
      exact ⟨hb, iff_of_true hne (by simp only [named, hslug, Option.isSome_some, Bool.true_or])⟩
  | update spaceId newSlug input =>
    obtain ⟨hb, hne⟩ := checked_isBase hbase
    exact ⟨hb, iff_of_true hne rfl⟩

theorem stores_slug_iff (hadmitted : w.admitted db = true) (hbase : w.baseSlug = .ok base) :
    w.Stores db (w.unused db) ∧
      (w.Stores db (fun slug => validateSlug slug = .ok () ∧ w.unused db slug) ↔
        w.named = true ∧ ∃ k, slugTaken db w.excludeId (candidate base k) = false ∧
          (candidate base k).utf8ByteSize ≤ 100) := by
  obtain ⟨hb, hnamed⟩ := baseSlug_isBase hbase
  obtain ⟨slug, hunique⟩ := ensureUniqueSlug_terminates db base w.excludeId
  obtain ⟨n, rfl, hfree, hbefore⟩ := ensureUniqueSlug_some hunique
  have hrun : w.run db (db.spaces.length + 1) = some (.ok (w.stored db (candidate base n))) := by
    rw [run_eq hadmitted hbase, hunique, Option.map_some]
  refine ⟨⟨_, _, hrun, hasSpace_stored hadmitted, fun row hrow hid => ?_⟩, ?_, ?_⟩
  · rw [slug_stored hadmitted hrow hid]
    exact unused_of_free hfree
  · rintro ⟨fuel, db', hend, hspace, hslug⟩
    rw [run_eq hadmitted hbase] at hend
    obtain ⟨slug, hfound, hdb⟩ := Option.map_eq_some_iff.mp hend
    obtain rfl := Except.ok.inj hdb
    obtain ⟨k, rfl, hfreek, -⟩ := ensureUniqueSlug_some hfound
    obtain ⟨row, hrow, hid⟩ := Table.has_iff.mp hspace
    have hvalid := (hslug row hrow hid).1
    rw [slug_stored hadmitted hrow hid, candidate_valid_iff hb] at hvalid
    exact ⟨hnamed.mp hvalid.1, k, hfreek, hvalid.2⟩
  · rintro ⟨hname, k, hfreek, hsize⟩
    have hle : n ≤ k := by
      by_contra hlt
      have htaken := hbefore k (not_le.mp hlt)
      rw [hfreek] at htaken
      cases htaken
    refine ⟨_, _, hrun, hasSpace_stored hadmitted, fun row hrow hid => ?_⟩
    rw [slug_stored hadmitted hrow hid]
    refine ⟨(candidate_valid_iff hb n).mpr ⟨hnamed.mpr hname, ?_⟩, unused_of_free hfree⟩
    exact (candidate_size_mono base hle).trans hsize

def owned : Tables := { users := [{ id := "1", username := "ann" }] }

def namedWrite : SlugWrite := .create "1" "5" { name := "My Cool Space" }

def unnamedWrite : SlugWrite := .create "1" "5" { name := "中文" }

theorem named_stores_valid :
    namedWrite.Stores owned (fun slug => validateSlug slug = .ok () ∧ namedWrite.unused owned slug) :=
  have hbase : namedWrite.baseSlug = .ok (slugify "My Cool Space") := rfl
  ((stores_slug_iff (by decide) hbase).2).mpr ⟨by decide, 0, by decide, by decide +kernel⟩

theorem unnamed_stores_empty :
    unnamedWrite.admitted owned = true ∧
      (∃ db', unnamedWrite.run owned 1 = some (.ok db') ∧
        db'.spaces.map SpaceRow.slug = [""]) ∧
      validateSlug "" = .error "slug must not be empty" := by
  refine ⟨by decide, ⟨_, rfl, ?_⟩, rfl⟩
  decide +kernel

end SlugWrite

end Vokusz.Db.Spaces
