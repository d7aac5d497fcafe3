import Mathlib.Data.List.Perm.Subperm
import Mathlib.Data.List.Nodup

namespace Vokusz.Lib

variable {α : Type} {used : α → Bool} {candidate : Nat → α}

def firstFree (used : α → Bool) (candidate : Nat → α) : Nat → Nat → Option Nat
  | 0, _ => none
  | fuel + 1, k => if used (candidate k) then firstFree used candidate fuel (k + 1) else some k

theorem firstFree_some {fuel k n : Nat} (h : firstFree used candidate fuel k = some n) :
    k ≤ n ∧ used (candidate n) = false ∧ ∀ m, k ≤ m → m < n → used (candidate m) = true := by
  induction fuel generalizing k with
  | zero => cases h
  | succ fuel ih =>
    rw [firstFree] at h
    split at h
    · next hused =>
      obtain ⟨hle, hfree, hbefore⟩ := ih h
      refine ⟨by omega, hfree, fun m hm hmn => ?_⟩
      by_cases heq : m = k
      · subst heq
        exact hused
      · exact hbefore m (by omega) hmn
    · next hfree =>
      obtain rfl := Option.some.inj h
      refine ⟨Nat.le_refl k, Bool.eq_false_iff.mpr hfree, fun m hm hmn => ?_⟩
      omega

theorem firstFree_none {fuel k : Nat} (h : firstFree used candidate fuel k = none) :
    ∀ m, k ≤ m → m < k + fuel → used (candidate m) = true := by
  induction fuel generalizing k with
  | zero =>
    intro m hm hmk
    omega
  | succ fuel ih =>
    rw [firstFree] at h
    split at h
    · next hused =>
      intro m hm hmk
      by_cases heq : m = k
      · subst heq
        exact hused
      · exact ih h m (by omega) (by omega)
    · cases h

theorem firstFree_of_fuel {taken : List α} (hinj : ∀ m n, candidate m = candidate n → m = n)
    (hused : ∀ a, used a = true → a ∈ taken) {fuel k : Nat} (hfuel : taken.length < fuel) :
    ∃ n, firstFree used candidate fuel k = some n := by
  cases hfirst : firstFree used candidate fuel k with
  | some n => exact ⟨n, rfl⟩
  | none =>
    have hall := firstFree_none hfirst
    have hnodup : ((List.range fuel).map (fun m => candidate (k + m))).Nodup := by
      refine List.nodup_range.map (fun m n heq => ?_)
      have hsame := hinj _ _ heq
      omega
    have hsubset : (List.range fuel).map (fun m => candidate (k + m)) ⊆ taken := by
      intro a ha
      obtain ⟨m, hm, rfl⟩ := List.mem_map.mp ha
      rw [List.mem_range] at hm
      exact hused _ (hall (k + m) (by omega) (by omega))
    have hlength := (List.subperm_of_subset hnodup hsubset).length_le
    rw [List.length_map, List.length_range] at hlength
    omega

end Vokusz.Lib
