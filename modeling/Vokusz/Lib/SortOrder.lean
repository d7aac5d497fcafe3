import Mathlib.Data.Prod.Lex
import Vokusz.Lib.Table

namespace Vokusz.Lib

variable {ρ κ : Type} [LinearOrder κ]

structure SortOrder (key : ρ → κ) where
  sort : List ρ → List ρ
  perm : ∀ rows, (sort rows).Perm rows
  sorted : ∀ rows, (sort rows).Pairwise (fun r r' => key r ≤ key r')

namespace SortOrder

variable {key : ρ → κ} {rows : List ρ} {x : ρ} {n : Nat}

def stable (key : ρ → κ) : SortOrder key where
  sort := Table.orderBy key
  perm := Table.orderBy_perm
  sorted := Table.orderBy_sorted

def ranked (key : ρ → κ) (rank : ρ → Nat) : SortOrder key where
  sort := Table.orderBy (fun r => toLex (key r, rank r))
  perm := Table.orderBy_perm
  sorted := fun rows => (Table.orderBy_sorted rows).imp (fun {r r'} h => by
    rcases Prod.Lex.le_iff.mp h with hlt | ⟨heq, _⟩
    · exact hlt.le
    · exact le_of_eq heq)

variable (order : SortOrder key)

theorem mem_sort : x ∈ order.sort rows ↔ x ∈ rows := (order.perm rows).mem_iff

section

variable {ν : Type} [DecidableEq ν] {name : ρ → ν}

def firstNames (name : ρ → ν) (n : Nat) (rows : List ρ) : List ν :=
  ((order.sort rows).take n).map name

omit [DecidableEq ν] in
theorem distinct_sort (h : Table.Distinct name rows) : Table.Distinct name (order.sort rows) :=
  (order.perm rows).symm.pairwise h (fun hne => hne.symm)

theorem firstNames_contains (h : Table.Distinct name rows) (hx : x ∈ rows) :
    (order.firstNames name n rows).contains (name x) = true ↔ x ∈ (order.sort rows).take n := by
  simp only [firstNames, List.contains_iff_mem, List.mem_map]
  constructor
  · rintro ⟨r, hr, hname⟩
    have hrow : r ∈ rows := order.mem_sort.mp (List.mem_of_mem_take hr)
    rwa [← h.same hrow hx hname]
  · intro hfirst
    exact ⟨x, hfirst, rfl⟩

theorem length_filter_firstNames (h : Table.Distinct name rows) :
    (rows.filter (fun r => !(order.firstNames name n rows).contains (name r))).length =
      rows.length - n := by
  have hdistinct := order.distinct_sort h
  rw [← List.take_append_drop n (order.sort rows)] at hdistinct
  have htake : ((order.sort rows).take n).filter
      (fun r => !(order.firstNames name n rows).contains (name r)) = [] := by
    simp only [List.filter_eq_nil_iff, Bool.not_eq_true', Bool.not_eq_false]
    intro r hr
    exact (order.firstNames_contains h (order.mem_sort.mp (List.mem_of_mem_take hr))).mpr hr
  have hdrop : ((order.sort rows).drop n).filter
      (fun r => !(order.firstNames name n rows).contains (name r)) = (order.sort rows).drop n := by
    simp only [List.filter_eq_self, Bool.not_eq_true', ← Bool.not_eq_true]
    intro r hr hfirst
    have hboth := (order.firstNames_contains h
      (order.mem_sort.mp (List.mem_of_mem_drop hr))).mp hfirst
    exact (List.pairwise_append.mp hdistinct).2.2 r hboth r hr rfl
  rw [← ((order.perm rows).filter _).length_eq, ← List.take_append_drop n (order.sort rows),
    List.filter_append, htake, hdrop, List.nil_append, List.length_drop,
    (order.perm rows).length_eq]

end

end SortOrder

section

variable {key : ρ → κ} {front back : List ρ} {x : ρ}

theorem length_filter_lt_le_of_sorted
    (h : (front ++ x :: back).Pairwise (fun r r' => key r ≤ key r')) :
    ((front ++ x :: back).filter (fun r => key r < key x)).length ≤ front.length := by
  have hback : (x :: back).filter (fun r => key r < key x) = [] := by
    simp only [List.filter_eq_nil_iff, List.mem_cons, decide_eq_true_eq, not_lt]
    rintro r (rfl | hr)
    · exact le_refl _
    · exact (List.pairwise_cons.mp (List.pairwise_append.mp h).2.1).1 r hr
  rw [List.filter_append, hback, List.append_nil]
  exact List.length_filter_le _ _

theorem length_filter_lt_of_strict
    (h : (front ++ x :: back).Pairwise (fun r r' => key r ≤ key r'))
    (hstrict : ∀ r ∈ front, key r < key x) :
    ((front ++ x :: back).filter (fun r => key r < key x)).length = front.length := by
  apply le_antisymm (length_filter_lt_le_of_sorted h)
  rw [List.filter_append, List.length_append,
    List.filter_eq_self.mpr (fun r hr => decide_eq_true (hstrict r hr))]
  exact Nat.le_add_right _ _

end

namespace SortOrder

variable {key : ρ → κ} {rows : List ρ} {x : ρ} {n : Nat}

theorem not_mem_take_of_le (order : SortOrder key) (hnodup : rows.Nodup)
    (h : n ≤ (rows.filter (fun r => key r < key x)).length) :
    x ∉ (order.sort rows).take n := by
  intro hx
  obtain ⟨front, back, hsplit⟩ := List.append_of_mem (List.mem_of_mem_take hx)
  have hsorted := order.sorted rows
  have hperm := order.perm rows
  have hdistinct := hperm.nodup_iff.mpr hnodup
  rw [hsplit] at hx hsorted hperm hdistinct
  have hbefore : n ≤ front.length :=
    h.trans ((hperm.filter _).length_eq.ge.trans (length_filter_lt_le_of_sorted hsorted))
  rw [List.take_append_of_le_length hbefore] at hx
  exact (List.nodup_append.mp hdistinct).2.2 x (List.mem_of_mem_take hx) x (by simp) rfl

variable [DecidableEq ρ]

def favouring (key : ρ → κ) (x : ρ) : SortOrder key := ranked key (fun r => if r = x then 0 else 1)

theorem favouring_front (hnodup : rows.Nodup) (hx : x ∈ rows) :
    ∃ front back, (favouring key x).sort rows = front ++ x :: back ∧
      ∀ r ∈ front, key r < key x := by
  obtain ⟨front, back, hsplit⟩ := List.append_of_mem (((favouring key x).mem_sort).mpr hx)
  have hsorted := @Table.orderBy_sorted _ _ _
    (fun r => toLex (key r, if r = x then 0 else 1)) rows
  have hdistinct := ((favouring key x).perm rows).nodup_iff.mpr hnodup
  change (Table.orderBy _ rows) = _ at hsplit
  change (Table.orderBy _ rows).Nodup at hdistinct
  refine ⟨front, back, hsplit, fun r hr => ?_⟩
  rw [hsplit] at hsorted hdistinct
  have hne : r ≠ x := (List.nodup_append.mp hdistinct).2.2 r hr x (by simp)
  have hle := (List.pairwise_append.mp hsorted).2.2 r hr x (by simp)
  rcases Prod.Lex.le_iff.mp hle with hlt | ⟨_, hrank⟩
  · exact hlt
  · simp [hne] at hrank

theorem forall_not_mem_take_iff (hnodup : rows.Nodup) (hx : x ∈ rows) :
    (∀ order : SortOrder key, x ∉ (order.sort rows).take n) ↔
      n ≤ (rows.filter (fun r => key r < key x)).length := by
  constructor
  · intro hkept
    obtain ⟨front, back, hsplit, hstrict⟩ := @favouring_front _ _ _ key _ _ _ hnodup hx
    have hsorted := (favouring key x).sorted rows
    have hperm := (favouring key x).perm rows
    have hfirst := hkept (favouring key x)
    rw [hsplit] at hsorted hperm hfirst
    rw [← (hperm.filter _).length_eq, length_filter_lt_of_strict hsorted hstrict]
    by_contra hlt
    obtain ⟨k, rfl⟩ := Nat.exists_eq_add_of_lt (not_le.mp hlt)
    apply hfirst
    rw [Nat.add_assoc, List.take_length_add_append]
    simp
  · intro h order
    exact order.not_mem_take_of_le hnodup h

end SortOrder

section

variable {key : ρ → κ} {rows sorted : List ρ}

theorem eq_of_sorted_strict (h : rows.Pairwise (fun r r' => key r ≤ key r'))
    (hstrict : sorted.Pairwise (fun r r' => key r < key r')) (hperm : rows.Perm sorted) :
    rows = sorted := by
  have hdistinct : Table.Distinct key sorted := hstrict.imp ne_of_lt
  apply hperm.eq_of_pairwise _ h (hstrict.imp le_of_lt)
  intro r r' hr hr' hle hge
  exact hdistinct.same (hperm.mem_iff.mp hr) hr' (le_antisymm hle hge)

omit [LinearOrder κ] in
theorem flatMap_filter_perm [DecidableEq κ] (key : ρ → κ) {keys : List κ} (hkeys : keys.Nodup)
    {p : ρ → Bool} (hp : ∀ r, p r = true ↔ key r ∈ keys) (rows : List ρ) :
    (keys.flatMap (fun k => rows.filter (fun r => key r = k))).Perm (rows.filter p) := by
  induction keys generalizing p with
  | nil =>
    have hnone : rows.filter p = [] := by
      rw [List.filter_eq_nil_iff]
      intro r _ hr
      exact absurd ((hp r).mp hr) List.not_mem_nil
    rw [hnone, List.flatMap_nil]
  | cons k keys ih =>
    obtain ⟨hk, hrest⟩ := List.nodup_cons.mp hkeys
    have hsplit := List.filter_append_perm (fun r => decide (key r = k)) (rows.filter p)
    have hhead : (rows.filter p).filter (fun r => key r = k) =
        rows.filter (fun r => key r = k) := by
      rw [List.filter_filter]
      apply List.filter_congr
      intro r _
      by_cases hkey : key r = k
      · have hr : p r = true := (hp r).mpr (by rw [hkey]; exact List.mem_cons_self)
        simp [hkey, hr]
      · simp [hkey]
    have htail : ∀ r, (!decide (key r = k) && p r) = true ↔ key r ∈ keys := by
      intro r
      rw [Bool.and_eq_true, hp, List.mem_cons, Bool.not_eq_true', decide_eq_false_iff_not]
      constructor
      · rintro ⟨hne, heq | hmem⟩
        · exact absurd heq hne
        · exact hmem
      · intro hmem
        exact ⟨fun heq => hk (heq ▸ hmem), .inr hmem⟩
    rw [hhead, List.filter_filter] at hsplit
    rw [List.flatMap_cons]
    exact ((ih hrest htail).append_left _).trans hsplit

end

end Vokusz.Lib
