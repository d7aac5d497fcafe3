import Mathlib.Data.List.Sort

namespace Vokusz.Lib.Table

variable {ρ κ : Type} [DecidableEq κ] (key : ρ → κ)

def has (k : κ) (rows : List ρ) : Bool := rows.any (fun r => key r = k)

def lookup (k : κ) (rows : List ρ) : Option ρ := rows.find? (fun r => key r = k)

def update (k : κ) (f : ρ → ρ) (rows : List ρ) : List ρ :=
  rows.map (fun r => if key r = k then f r else r)

def delete (k : κ) (rows : List ρ) : List ρ := rows.filter (fun r => key r ≠ k)

def insertNew (row : ρ) (rows : List ρ) : List ρ :=
  if has key (key row) rows then rows else rows ++ [row]

def upsert (row : ρ) (f : ρ → ρ) (rows : List ρ) : List ρ :=
  if has key (key row) rows then update key (key row) f rows else rows ++ [row]

def orderBy {κ : Type} [LE κ] [DecidableLE κ] (key : ρ → κ) (rows : List ρ) : List ρ :=
  rows.insertionSort (fun a b => key a ≤ key b)

def Distinct (rows : List ρ) : Prop := rows.Pairwise (fun r r' => key r ≠ key r')

variable {key} {k : κ} {row r : ρ} {rows : List ρ} {f : ρ → ρ} {p : ρ → Bool}

theorem has_iff : has key k rows = true ↔ ∃ r ∈ rows, key r = k := by
  simp [has]

theorem lookup_mem (h : lookup key k rows = some r) : r ∈ rows :=
  List.mem_of_find?_eq_some h

theorem lookup_key (h : lookup key k rows = some r) : key r = k := by
  simpa using List.find?_some h

section

variable (h : Distinct key rows)

include h

theorem Distinct.lookup_eq (hr : r ∈ rows) :
    lookup key (key r) rows = some r := by
  induction rows with
  | nil => cases hr
  | cons x xs ih =>
    obtain ⟨hhead, htail⟩ := List.pairwise_cons.mp h
    rcases List.mem_cons.mp hr with rfl | hmem
    · simp [lookup]
    · have hne : key x ≠ key r := hhead r hmem
      simpa [lookup, hne] using ih htail hmem

theorem Distinct.same {r' : ρ} (hr : r ∈ rows) (hr' : r' ∈ rows) (hkey : key r = key r') :
    r = r' := by
  have hlookup := h.lookup_eq hr
  rw [hkey, h.lookup_eq hr'] at hlookup
  exact (Option.some.inj hlookup).symm

theorem Distinct.update (hf : ∀ r, key r = k → key (f r) = key r) :
    Distinct key (Table.update key k f rows) := by
  have hkeys : ∀ r, key (if key r = k then f r else r) = key r := by
    intro r
    split
    · exact hf r ‹_›
    · rfl
  rw [Distinct, Table.update, List.pairwise_map]
  simp only [hkeys]
  exact h

theorem Distinct.upsert (hf : ∀ r, key (f r) = key r) :
    Distinct key (Table.upsert key row f rows) := by
  unfold Table.upsert
  split
  · exact h.update (fun r _ => hf r)
  · rename_i hnew
    refine List.pairwise_append.mpr ⟨h, List.pairwise_singleton _ _, ?_⟩
    intro r hr r' hr' heq
    cases List.mem_singleton.mp hr'
    exact hnew (has_iff.mpr ⟨r, hr, heq⟩)

theorem Distinct.replace :
    Distinct key (Table.upsert key row (fun _ => row) rows) := by
  unfold Table.upsert
  split
  · exact h.update (fun r hr => hr.symm)
  · rename_i hnew
    refine List.pairwise_append.mpr ⟨h, List.pairwise_singleton _ _, ?_⟩
    intro r hr r' hr' heq
    cases List.mem_singleton.mp hr'
    exact hnew (has_iff.mpr ⟨r, hr, heq⟩)

theorem Distinct.delete (k : κ) : Distinct key (Table.delete key k rows) :=
  List.Pairwise.filter _ h

theorem Distinct.insert (hfresh : has key (key row) rows = false) :
    Distinct key (rows ++ [row]) := by
  refine List.pairwise_append.mpr ⟨h, List.pairwise_singleton _ _, ?_⟩
  intro r hr r' hr' heq
  cases List.mem_singleton.mp hr'
  rw [has_iff.mpr ⟨r, hr, heq⟩] at hfresh
  cases hfresh

theorem Distinct.filter_key (hr : r ∈ rows) :
    rows.filter (fun x => key x = key r) = [r] := by
  induction rows with
  | nil => cases hr
  | cons x rows ih =>
    obtain ⟨hx, hrest⟩ := List.pairwise_cons.mp h
    rcases List.mem_cons.mp hr with rfl | hr
    · have hnone : rows.filter (fun x => key x = key r) = [] := by
        rw [List.filter_eq_nil_iff]
        intro y hy heq
        exact hx y hy (of_decide_eq_true heq).symm
      rw [List.filter_cons_of_pos (by simp), hnone]
    · rw [List.filter_cons_of_neg (by simpa using hx r hr)]
      exact ih hrest hr

end

theorem mem_upsert_of_ne (hf : ∀ r, key (f r) = key r) (hne : key r ≠ key row) :
    r ∈ Table.upsert key row f rows ↔ r ∈ rows := by
  unfold Table.upsert
  split
  · constructor
    · intro h
      simp only [Table.update, List.mem_map] at h
      obtain ⟨old, hold, rfl⟩ := h
      by_cases hk : key old = key row
      · rw [if_pos hk] at hne
        exact absurd ((hf old).trans hk) hne
      · rwa [if_neg hk]
    · intro h
      exact List.mem_map.mpr ⟨r, h, if_neg hne⟩
  · rw [List.mem_append, List.mem_singleton]
    exact or_iff_left (fun heq => hne (congrArg key heq))

theorem mem_delete_of_ne (hne : key r ≠ k) : r ∈ Table.delete key k rows ↔ r ∈ rows := by
  simp [Table.delete, hne]

theorem lookup_isSome : (lookup key k rows).isSome = has key k rows := by
  rw [Bool.eq_iff_iff, has_iff]
  simp [lookup]

theorem lookup_cons (x : ρ) (xs : List ρ) :
    lookup key k (x :: xs) = if key x = k then some x else lookup key k xs := by
  by_cases hx : key x = k <;> simp [lookup, hx]

theorem update_cons (x : ρ) (xs : List ρ) :
    update key k f (x :: xs) = (if key x = k then f x else x) :: update key k f xs := rfl

theorem lookup_eq_none : lookup key k rows = none ↔ ∀ r ∈ rows, key r ≠ k := by
  simp [lookup]

theorem lookup_none_of_not_has (h : has key k rows = false) : lookup key k rows = none := by
  rw [← Option.not_isSome_iff_eq_none, lookup_isSome, h]
  exact Bool.false_ne_true

theorem lookup_append : lookup key k (rows ++ [row]) =
    (lookup key k rows).or (if key row = k then some row else none) := by
  simp only [lookup, List.find?_append]
  by_cases h : key row = k <;> simp [h]

theorem lookup_filter (h : ∀ r ∈ rows, key r = k → p r = true) :
    lookup key k (rows.filter p) = lookup key k rows := by
  induction rows with
  | nil => rfl
  | cons x xs ih =>
    have ih' := ih (fun r hr => h r (by simp [hr]))
    by_cases hx : key x = k
    · have hp := h x (by simp) hx
      simp [lookup_cons, hp, hx]
    · cases hp : p x with
      | true => simpa [lookup_cons, hp, hx] using ih'
      | false => simpa [lookup_cons, hp, hx] using ih'

theorem Distinct.lookup_filter (h : Distinct key rows) :
    lookup key k (rows.filter p) = (lookup key k rows).filter p := by
  cases hr : lookup key k rows with
  | none =>
    rw [lookup_eq_none] at hr
    rw [Option.filter_none, lookup_eq_none]
    exact fun r hmem => hr r (List.mem_filter.mp hmem).1
  | some r =>
    have honly : ∀ r' ∈ rows, key r' = k → r' = r := by
      intro r' hmem hk
      have hlookup := h.lookup_eq hmem
      rw [hk, hr] at hlookup
      exact (Option.some.inj hlookup).symm
    cases hp : p r with
    | true =>
      rw [Table.lookup_filter (fun r' hmem hk => (honly r' hmem hk) ▸ hp), hr]
      simp [Option.filter, hp]
    | false =>
      rw [show (some r).filter p = none by simp [Option.filter, hp], lookup_eq_none]
      intro r' hmem hk
      obtain ⟨hmem, hp'⟩ := List.mem_filter.mp hmem
      rw [honly r' hmem hk, hp] at hp'
      cases hp'

theorem lookup_map (hf : ∀ r, key (f r) = key r) :
    lookup key k (rows.map f) = (lookup key k rows).map f := by
  induction rows with
  | nil => rfl
  | cons x xs ih =>
    rw [List.map_cons, lookup_cons, lookup_cons, hf, ih]
    split <;> rfl

theorem lookup_update (hf : ∀ r, key r = k → key (f r) = k) :
    lookup key k (update key k f rows) = (lookup key k rows).map f := by
  induction rows with
  | nil => rfl
  | cons x xs ih =>
    by_cases hx : key x = k
    · simp [lookup_cons, update_cons, hx, hf x hx]
    · simpa [lookup_cons, update_cons, hx] using ih

theorem lookup_update_ne {k' : κ} (hne : k' ≠ k) (hf : ∀ r, key r = k → key (f r) = k) :
    lookup key k' (update key k f rows) = lookup key k' rows := by
  induction rows with
  | nil => rfl
  | cons x xs ih =>
    by_cases hx : key x = k
    · have hfx : key (f x) ≠ k' := by rw [hf x hx]; exact hne.symm
      have hxk : key x ≠ k' := by rw [hx]; exact hne.symm
      simpa [lookup_cons, update_cons, hx, hfx, hxk, hne.symm] using ih
    · simp [lookup_cons, update_cons, hx, ih]

theorem lookup_insertNew_of_some (h : lookup key k rows = some r) :
    lookup key k (insertNew key row rows) = some r := by
  unfold insertNew
  split
  · exact h
  · rw [lookup_append, h, Option.some_or]

theorem lookup_upsert_of_some (h : lookup key k rows = some r)
    (hf : ∀ r, key (f r) = key r) :
    lookup key k (upsert key row f rows) = some (if key row = k then f r else r) := by
  unfold upsert
  by_cases hk : key row = k
  · have hhas : has key (key row) rows = true := by
      rw [hk, ← lookup_isSome, h, Option.isSome_some]
    rw [if_pos hhas, if_pos hk, hk, lookup_update (fun r hr => (hf r).trans hr), h, Option.map_some]
  · rw [if_neg hk]
    split
    · rw [lookup_update_ne (fun hkk => hk hkk.symm) (fun r hr => (hf r).trans hr), h]
    · rw [lookup_append, h, Option.some_or]

theorem lookup_upsert_of_none (h : lookup key (key row) rows = none) :
    lookup key (key row) (upsert key row f rows) = some row := by
  unfold upsert
  have hhas : has key (key row) rows = false := by rw [← lookup_isSome, h, Option.isSome_none]
  rw [hhas, if_neg Bool.false_ne_true, lookup_append, h, Option.none_or, if_pos rfl]

theorem lookup_upsert_of_ne (hne : k ≠ key row) (hf : ∀ r, key (f r) = key r) :
    lookup key k (upsert key row f rows) = lookup key k rows := by
  unfold upsert
  split
  · exact lookup_update_ne hne (fun r hr => (hf r).trans hr)
  · rw [lookup_append, if_neg (fun h => hne h.symm), Option.or_none]

theorem lookup_replace : lookup key k (upsert key row (fun _ => row) rows) =
    if key row = k then some row else lookup key k rows := by
  unfold upsert
  by_cases hk : key row = k
  · subst hk
    rw [if_pos rfl]
    split
    · rename_i hhas
      rw [lookup_update (fun _ _ => rfl)]
      rw [← lookup_isSome] at hhas
      obtain ⟨old, hold⟩ := Option.isSome_iff_exists.mp hhas
      rw [hold, Option.map_some]
    · rename_i hnew
      rw [lookup_append, lookup_none_of_not_has (by simpa using hnew), Option.none_or, if_pos rfl]
  · rw [if_neg hk]
    split
    · exact lookup_update_ne (fun h => hk h.symm) (fun _ _ => rfl)
    · rw [lookup_append, if_neg hk, Option.or_none]

theorem lookup_delete {k' : κ} : lookup key k (delete key k' rows) =
    if k = k' then none else lookup key k rows := by
  split
  · rename_i heq
    subst heq
    rw [lookup_eq_none]
    intro r hr
    simpa using (List.mem_filter.mp hr).2
  · rename_i hne
    refine lookup_filter (fun r _ hr => ?_)
    simpa [hr] using hne

theorem map_key_update (hf : ∀ r, key r = k → key (f r) = key r) :
    (update key k f rows).map key = rows.map key := by
  simp only [update, List.map_map]
  apply List.map_congr_left
  intro x _
  by_cases hx : key x = k
  · simp [hx, hf x hx]
  · simp [hx]

theorem has_eq_contains : has key k rows = (rows.map key).contains k := by
  rw [Bool.eq_iff_iff, has_iff]
  simp

theorem upsert_eq_self : upsert key row f rows = rows ↔
    has key (key row) rows = true ∧ ∀ r ∈ rows, key r = key row → f r = r := by
  unfold upsert
  cases hhas : has key (key row) rows with
  | false =>
    rw [if_neg Bool.false_ne_true]
    constructor
    · intro heq
      have hlength := congrArg List.length heq
      rw [List.length_append, List.length_singleton] at hlength
      omega
    · rintro ⟨hfalse, -⟩
      cases hfalse
  | true =>
    rw [if_pos rfl]
    constructor
    · intro heq
      refine ⟨rfl, fun r hr hkey => ?_⟩
      have hfixed := List.map_inj_left.mp (heq.trans (List.map_id rows).symm) r hr
      rwa [if_pos hkey] at hfixed
    · rintro ⟨-, hfixed⟩
      refine (List.map_congr_left (fun r hr => ?_)).trans (List.map_id' rows)
      by_cases hkey : key r = key row
      · rw [if_pos hkey, hfixed r hr hkey]
      · rw [if_neg hkey]

theorem upsert_upsert (hrow : f row = row) (hkey : ∀ r, key (f r) = key r)
    (hf : ∀ r, f (f r) = f r) :
    upsert key row f (upsert key row f rows) = upsert key row f rows := by
  apply upsert_eq_self.mpr
  constructor
  · unfold upsert
    split
    · rename_i hhas
      rwa [has_eq_contains, map_key_update (fun r _ => hkey r), ← has_eq_contains]
    · simp [has]
  · intro r hr hk
    unfold upsert at hr
    split at hr
    · simp only [update, List.mem_map] at hr
      obtain ⟨old, hold, rfl⟩ := hr
      by_cases h : key old = key row
      · rw [if_pos h, hf]
      · rw [if_neg h] at hk
        exact absurd hk h
    · rename_i hnew
      rcases List.mem_append.mp hr with hr | hr
      · exact absurd (has_iff.mpr ⟨r, hr, hk⟩) hnew
      · rw [List.mem_singleton.mp hr, hrow]

theorem update_update {g : ρ → ρ} (hf : ∀ r, key r = k → key (f r) = k) :
    update key k g (update key k f rows) = update key k (fun r => g (f r)) rows := by
  simp only [update, List.map_map]
  apply List.map_congr_left
  intro r _
  by_cases hr : key r = k
  · simp [hr, hf r hr]
  · simp [hr]

theorem lookup_insertNew_of_ne (h : key row ≠ k) :
    lookup key k (insertNew key row rows) = lookup key k rows := by
  unfold insertNew
  split
  · rfl
  · rw [lookup_append, if_neg h, Option.or_none]

theorem mem_update (h : r ∈ update key k f rows) :
    (r ∈ rows ∧ key r ≠ k) ∨ ∃ old ∈ rows, key old = k ∧ r = f old := by
  simp only [update, List.mem_map] at h
  obtain ⟨old, hold, rfl⟩ := h
  by_cases hk : key old = k
  · exact .inr ⟨old, hold, hk, by simp [hk]⟩
  · simp only [hk, if_false]
    exact .inl ⟨hold, hk⟩

theorem update_of_not_has (h : has key k rows = false) : update key k f rows = rows := by
  have hnone := lookup_eq_none.mp (lookup_none_of_not_has h)
  exact (List.map_congr_left (fun r hr => if_neg (hnone r hr))).trans (List.map_id rows)

theorem insertNew_of_has (h : has key (key row) rows = true) :
    insertNew key row rows = rows := by
  rw [insertNew, if_pos h]

theorem has_append : has key k (rows ++ [row]) = (has key k rows || decide (key row = k)) := by
  simp [has]

theorem has_insertNew : has key (key row) (insertNew key row rows) = true := by
  unfold insertNew
  split
  · assumption
  · simp [has_append]

theorem has_upsert (hf : ∀ r, key (f r) = key r) :
    has key (key row) (upsert key row f rows) = true := by
  unfold upsert
  split
  · rename_i h
    obtain ⟨r, hr, hkey⟩ := has_iff.mp h
    refine has_iff.mpr ⟨f r, List.mem_map.mpr ⟨r, hr, ?_⟩, (hf r).trans hkey⟩
    rw [if_pos hkey]
  · simp [has_append]

theorem has_upsert_iff (hf : ∀ r, key r = key row → key (f r) = key r) :
    has key k (upsert key row f rows) = true ↔ k = key row ∨ has key k rows = true := by
  unfold upsert
  split
  · rename_i h
    rw [has_eq_contains, map_key_update hf, ← has_eq_contains]
    constructor
    · exact .inr
    · rintro (rfl | hk)
      · exact h
      · exact hk
  · rw [has_append, Bool.or_eq_true, decide_eq_true_eq, or_comm, eq_comm]

theorem has_delete {k' : κ} :
    has key k (delete key k' rows) = true ↔ k ≠ k' ∧ has key k rows = true := by
  rw [has_iff, has_iff]
  constructor
  · rintro ⟨r, hr, rfl⟩
    obtain ⟨hmem, hne⟩ := List.mem_filter.mp hr
    exact ⟨by simpa using hne, r, hmem, rfl⟩
  · rintro ⟨hne, r, hr, rfl⟩
    exact ⟨r, (mem_delete_of_ne hne).mpr hr, rfl⟩

theorem mem_replace : r ∈ upsert key row (fun _ => row) rows ↔
    r = row ∨ r ∈ rows ∧ key r ≠ key row := by
  unfold upsert
  split
  · rename_i hhas
    constructor
    · intro hr
      rcases mem_update hr with hkept | ⟨_, _, _, heq⟩
      · exact .inr hkept
      · exact .inl heq
    · rintro (rfl | ⟨hmem, hne⟩)
      · obtain ⟨old, hold, hkey⟩ := has_iff.mp hhas
        exact List.mem_map.mpr ⟨old, hold, if_pos hkey⟩
      · exact List.mem_map.mpr ⟨r, hmem, if_neg hne⟩
  · rename_i hnew
    have hfree : r ∈ rows → key r ≠ key row := fun hr heq => hnew (has_iff.mpr ⟨r, hr, heq⟩)
    rw [List.mem_append, List.mem_singleton, or_comm]
    constructor
    · rintro (heq | hmem)
      · exact .inl heq
      · exact .inr ⟨hmem, hfree hmem⟩
    · rintro (heq | ⟨hmem, _⟩)
      · exact .inl heq
      · exact .inr hmem

theorem mem_delete : r ∈ delete key k rows ↔ r ∈ rows ∧ key r ≠ k := by
  simp [delete]

theorem mem_insertNew (h : r ∈ insertNew key row rows) : r ∈ rows ∨ r = row := by
  unfold insertNew at h
  split at h
  · exact .inl h
  · simpa using h

theorem mem_insertNew_iff (hkey : ∀ r, key r = key row → r = row) :
    r ∈ insertNew key row rows ↔ r ∈ rows ∨ r = row := by
  constructor
  · exact mem_insertNew
  · intro h
    unfold insertNew
    split
    · rename_i hused
      obtain ⟨old, hold, hold_key⟩ := has_iff.mp hused
      rcases h with h | rfl
      · exact h
      · rwa [← hkey old hold_key]
    · rcases h with h | rfl
      · exact List.mem_append_left _ h
      · exact List.mem_append_right _ (List.mem_singleton_self _)

theorem mem_upsert (h : r ∈ upsert key row f rows) :
    r ∈ rows ∨ r = row ∨ ∃ old ∈ rows, key old = key row ∧ r = f old := by
  unfold upsert at h
  split at h
  · rcases mem_update h with ⟨h, _⟩ | h
    · exact .inl h
    · exact .inr (.inr h)
  · rcases List.mem_append.mp h with h | h
    · exact .inl h
    · exact .inr (.inl (by simpa using h))

theorem mem_orderBy {κ : Type} [LE κ] [DecidableLE κ] {key : ρ → κ} :
    r ∈ orderBy key rows ↔ r ∈ rows :=
  List.mem_insertionSort _

theorem orderBy_perm {κ : Type} [LE κ] [DecidableLE κ] {key : ρ → κ} (rows : List ρ) :
    (orderBy key rows).Perm rows :=
  List.perm_insertionSort _ rows

section

variable {κ : Type} [LinearOrder κ] {key : ρ → κ} {k : κ}

theorem orderBy_sorted (rows : List ρ) :
    (orderBy key rows).Pairwise (fun a b => key a ≤ key b) :=
  haveI : Std.Total (fun a b : ρ => key a ≤ key b) := ⟨fun _ _ => le_total _ _⟩
  haveI : IsTrans ρ (fun a b => key a ≤ key b) := ⟨fun _ _ _ => le_trans⟩
  List.pairwise_insertionSort _ rows

theorem orderBy_dual_sorted (rows : List ρ) :
    (orderBy (fun r => OrderDual.toDual (key r)) rows).Pairwise (fun a b => key b ≤ key a) :=
  @orderBy_sorted _ _ _ (fun r => OrderDual.toDual (key r)) rows

theorem find?_orderedInsert (x : ρ) (xs : List ρ) :
    (xs.orderedInsert (fun a b => key a ≤ key b) x).find? (fun r => key r = k) =
      (x :: xs).find? (fun r => key r = k) := by
  induction xs with
  | nil => rfl
  | cons y xs ih =>
    by_cases hle : key x ≤ key y
    · rw [List.orderedInsert, if_pos hle]
    · rw [List.orderedInsert, if_neg hle, List.find?_cons, ih]
      by_cases hx : key x = k
      · have hy : key y ≠ k := fun hy => hle (by rw [hx, hy])
        simp [hx, hy]
      · simp [List.find?_cons, hx]

theorem find?_orderBy (rows : List ρ) :
    (orderBy key rows).find? (fun r => key r = k) = rows.find? (fun r => key r = k) := by
  unfold orderBy
  induction rows with
  | nil => rfl
  | cons x xs ih => rw [List.insertionSort_cons, find?_orderedInsert, List.find?_cons, ih,
      List.find?_cons]

theorem filter_orderedInsert (x : ρ) {xs : List ρ} (h : xs.Pairwise (fun a b => key a ≤ key b)) :
    (xs.orderedInsert (fun a b => key a ≤ key b) x).filter p =
      if p x then (xs.filter p).orderedInsert (fun a b => key a ≤ key b) x else xs.filter p := by
  induction xs with
  | nil => cases hx : p x <;> simp [hx]
  | cons y xs ih =>
    obtain ⟨hhead, htail⟩ := List.pairwise_cons.mp h
    by_cases hle : key x ≤ key y
    · have hfront : ∀ z ∈ xs.filter p, key x ≤ key z := fun z hz =>
        hle.trans (hhead z (List.mem_of_mem_filter hz))
      have hkeep : (xs.filter p).orderedInsert (fun a b => key a ≤ key b) x = x :: xs.filter p := by
        cases hxs : xs.filter p with
        | nil => rfl
        | cons z zs =>
          rw [List.orderedInsert, if_pos (hfront z (by rw [hxs]; simp))]
      cases hx : p x <;> cases hy : p y <;>
        simp [List.orderedInsert, hle, hx, hy, hkeep]
    · cases hx : p x <;> cases hy : p y <;>
        simp [List.orderedInsert, hle, hx, hy, ih htail]

theorem filter_orderBy (rows : List ρ) :
    (orderBy key rows).filter p = orderBy key (rows.filter p) := by
  induction rows with
  | nil => rfl
  | cons x xs ih =>
    have hinsert : (orderBy key (x :: xs)).filter p =
        if p x then ((orderBy key xs).filter p).orderedInsert (fun a b => key a ≤ key b) x
        else (orderBy key xs).filter p := filter_orderedInsert x (orderBy_sorted xs)
    rw [hinsert, ih]
    cases hx : p x <;> simp [hx, orderBy]

end

theorem filter_update
    (h : ∀ r ∈ rows, key r = k → p r = false ∧ p (f r) = false) :
    (update key k f rows).filter p = rows.filter p := by
  induction rows with
  | nil => rfl
  | cons x xs ih =>
    have ih' := ih (fun r hr => h r (by simp [hr]))
    by_cases hx : key x = k
    · obtain ⟨h1, h2⟩ := h x (by simp) hx
      simp [update_cons, hx, h1, h2, ih']
    · simp [update_cons, hx, List.filter_cons, ih']

theorem filter_delete (h : ∀ r ∈ rows, key r = k → p r = false) :
    (delete key k rows).filter p = rows.filter p := by
  induction rows with
  | nil => rfl
  | cons x xs ih =>
    have ih' := ih (fun r hr => h r (by simp [hr]))
    by_cases hx : key x = k
    · have hp := h x (by simp) hx
      simpa [delete, hx, hp] using ih'
    · cases hp : p x with
      | true => simpa [delete, hx, hp] using ih'
      | false => simpa [delete, hx, hp] using ih'

theorem filter_insertNew (h : p row = false) :
    (insertNew key row rows).filter p = rows.filter p := by
  unfold insertNew
  split
  · rfl
  · simp [List.filter_append, h]

end Vokusz.Lib.Table
