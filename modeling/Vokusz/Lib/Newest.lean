import Mathlib.Order.Bounds.Basic

namespace Vokusz.Lib

variable {κ : Type} [LinearOrder κ]

def Newest (ids : List κ) : Option κ → Prop
  | none => ids = []
  | some newest => IsGreatest {i | i ∈ ids} newest

variable {ids : List κ} {newest : Option κ} {i : κ}

theorem newest_some_iff : Newest ids (some i) ↔ i ∈ ids ∧ ∀ j ∈ ids, j ≤ i := Iff.rfl

instance decidableNewest : (newest : Option κ) → Decidable (Newest ids newest)
  | none => decidable_of_iff (ids.isEmpty = true) List.isEmpty_iff
  | some _ => decidable_of_iff _ newest_some_iff.symm

theorem Newest.mem {i : κ} (h : Newest ids (some i)) : i ∈ ids := h.1

theorem Newest.le (h : Newest ids newest) {j : κ} (hj : j ∈ ids) :
    ∃ i, newest = some i ∧ j ≤ i := by
  cases newest with
  | none =>
    rw [Newest] at h
    simp [h] at hj
  | some i => exact ⟨i, rfl, h.2 hj⟩

theorem Newest.unique {other : Option κ} (h : Newest ids newest) (h' : Newest ids other) :
    newest = other := by
  cases newest with
  | none =>
    cases other with
    | none => rfl
    | some j =>
      have hmem := h'.mem
      rw [Newest] at h
      simp [h] at hmem
  | some i =>
    obtain ⟨j, hother, hij⟩ := h'.le h.mem
    subst hother
    rw [le_antisymm hij (h.2 h'.mem)]

theorem Newest.append_iff (h : Newest ids newest) :
    Newest (ids ++ [i]) (some i) ↔ newest.all (fun k => k ≤ i) = true := by
  constructor
  · intro hnew
    cases newest with
    | none => rfl
    | some k => simpa using hnew.2 (List.mem_append_left _ h.mem)
  · intro hle
    refine ⟨by simp, fun j hj => ?_⟩
    rcases List.mem_append.mp hj with hold | hlast
    · obtain ⟨k, rfl, hjk⟩ := h.le hold
      exact hjk.trans (by simpa using hle)
    · exact le_of_eq (by simpa using hlast)

theorem Newest.filter_iff {kept : κ → Bool} (h : Newest ids newest) :
    Newest (ids.filter kept) newest ↔ newest.all kept = true := by
  cases newest with
  | none =>
    rw [Newest] at h
    simp [Newest, h]
  | some i =>
    constructor
    · intro hleft
      exact (List.mem_filter.mp hleft.mem).2
    · intro hkept
      exact ⟨List.mem_filter.mpr ⟨h.mem, hkept⟩, fun j hj => h.2 (List.mem_filter.mp hj).1⟩

theorem Newest.exists_lt_iff (h : Newest ids newest) {mark : Option κ} :
    (∃ i, newest = some i ∧ ∀ k, mark = some k → k < i) ↔
      ∃ i ∈ ids, ∀ k, mark = some k → k < i := by
  constructor
  · rintro ⟨i, rfl, hnewer⟩
    exact ⟨i, h.mem, hnewer⟩
  · rintro ⟨j, hj, hnewer⟩
    obtain ⟨i, hi, hji⟩ := h.le hj
    exact ⟨i, hi, fun k hk => lt_of_lt_of_le (hnewer k hk) hji⟩

end Vokusz.Lib
