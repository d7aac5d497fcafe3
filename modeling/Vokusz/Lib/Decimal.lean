import Mathlib.Data.String.Basic

namespace Vokusz.Lib.Decimal

theorem toDigits_injective : Function.Injective (Nat.toDigits 10) := by
  intro i j h
  have hvalue := congrArg (fun l => Nat.ofDigitChars 10 l 0) h
  simpa only [Nat.ofDigitChars_ten_toDigits] using hvalue

theorem toString_injective : Function.Injective (toString : Nat → String) := by
  intro i j h
  have hlist := congrArg String.toList h
  simp only [Nat.toString_eq_repr, Nat.toList_repr] at hlist
  exact toDigits_injective hlist

theorem digitChar_lt {d e : Nat} (hd : d < 10) (he : e < 10) :
    d.digitChar < e.digitChar ↔ d < e := by
  rw [Char.lt_def, UInt32.lt_iff_toNat_lt]
  have hd' := Nat.toNat_digitChar_of_lt_ten hd
  have he' := Nat.toNat_digitChar_of_lt_ten he
  change d.digitChar.toNat < e.digitChar.toNat ↔ d < e
  omega

section

variable {α : Type} [LinearOrder α]

theorem append_lt_append {a b x y : List α} (h : a.length = b.length) :
    a ++ x < b ++ y ↔ a < b ∨ a = b ∧ x < y := by
  induction a generalizing b with
  | nil =>
    obtain rfl := List.length_eq_zero_iff.mp h.symm
    simp
  | cons c a ih =>
    cases b with
    | nil => cases h
    | cons d b =>
      have hlen : a.length = b.length := Nat.succ.inj h
      simp only [List.cons_append, List.cons_lt_cons_iff, List.cons.injEq, ih hlen]
      tauto

end

theorem length_toDigits_div {n : Nat} (h : 10 ≤ n) :
    (Nat.toDigits 10 n).length = (Nat.toDigits 10 (n / 10)).length + 1 := by
  rw [Nat.toDigits_of_base_le (by decide) h, List.length_append, List.length_singleton]

theorem toDigits_lt_of_length_eq {i j : Nat}
    (h : (Nat.toDigits 10 i).length = (Nat.toDigits 10 j).length) :
    Nat.toDigits 10 i < Nat.toDigits 10 j ↔ i < j := by
  induction i using Nat.strongRecOn generalizing j with
  | ind i ih =>
    have hone : ∀ n, n < 10 ↔ (Nat.toDigits 10 n).length ≤ 1 := by
      intro n
      rw [Nat.length_toDigits_le_iff (by decide) (by decide), Nat.pow_one]
    by_cases hi : i < 10
    · have hj : j < 10 := (hone j).mpr (h ▸ (hone i).mp hi)
      rw [Nat.toDigits_of_lt_base hi, Nat.toDigits_of_lt_base hj, List.cons_lt_cons_iff,
        digitChar_lt hi hj]
      simp
    · have hj : 10 ≤ j := by
        by_contra hj
        exact hi ((hone i).mpr (h ▸ (hone j).mp (by omega)))
      have hi : 10 ≤ i := by omega
      rw [length_toDigits_div hi, length_toDigits_div hj] at h
      have hlen := Nat.succ.inj h
      rw [Nat.toDigits_of_base_le (by decide) hi, Nat.toDigits_of_base_le (by decide) hj,
        append_lt_append hlen, ih (i / 10) (by omega) hlen, List.cons_lt_cons_iff,
        digitChar_lt (Nat.mod_lt i (by decide)) (Nat.mod_lt j (by decide)),
        toDigits_injective.eq_iff]
      simp only [List.not_lt_nil, and_false, or_false]
      omega

theorem toDigits_div_pow {n : Nat} (k : Nat) (h : 10 ^ k ≤ n) :
    ∃ rest, rest.length = k ∧
      Nat.toDigits 10 n = Nat.toDigits 10 (n / 10 ^ k) ++ rest := by
  induction k generalizing n with
  | zero => exact ⟨[], rfl, by simp⟩
  | succ k ih =>
    have hpow : 10 ^ (k + 1) = 10 ^ k * 10 := Nat.pow_succ 10 k
    have hk : 1 ≤ 10 ^ k := Nat.one_le_pow _ _ (by decide)
    have hn : 10 ≤ n := by omega
    have hdiv : 10 ^ k ≤ n / 10 := by omega
    obtain ⟨rest, hrest, heq⟩ := ih hdiv
    refine ⟨rest ++ [Nat.digitChar (n % 10)], by simp [hrest], ?_⟩
    rw [Nat.toDigits_of_base_le (by decide) hn, heq, Nat.div_div_eq_div_mul, hpow,
      Nat.mul_comm (10 ^ k), List.append_assoc]

def width (n : Nat) : Nat := (Nat.toDigits 10 n).length

theorem width_le_iff {n k : Nat} (h : 0 < k) : width n ≤ k ↔ n < 10 ^ k :=
  Nat.length_toDigits_le_iff (by decide) h

theorem width_pos (n : Nat) : 0 < width n := Nat.length_toDigits_pos

theorem width_mono {i j : Nat} (h : i ≤ j) : width i ≤ width j := by
  have hj : j < 10 ^ width j := (width_le_iff (width_pos j)).mp (le_refl _)
  exact (width_le_iff (width_pos j)).mpr (Nat.lt_of_le_of_lt h hj)

theorem toDigits_cut {i j : Nat} (h : i ≤ j) :
    ∃ rest, rest.length = width j - width i ∧
      Nat.toDigits 10 j = Nat.toDigits 10 (j / 10 ^ (width j - width i)) ++ rest ∧
      (Nat.toDigits 10 i).length = (Nat.toDigits 10 (j / 10 ^ (width j - width i))).length := by
  have hwidth := width_mono h
  obtain ⟨k, hk⟩ := Nat.exists_eq_add_of_le hwidth
  rw [hk, Nat.add_sub_cancel_left]
  cases k with
  | zero =>
    refine ⟨[], rfl, ?_, ?_⟩
    · simp
    · simpa [width, eq_comm] using hk
  | succ k =>
    have hlarge : 10 ^ (k + 1) ≤ j := by
      by_contra hsmall
      have hle := (width_le_iff (Nat.succ_pos k)).mpr (not_le.mp hsmall)
      have hpos := width_pos i
      omega
    obtain ⟨rest, hrest, heq⟩ := toDigits_div_pow (k + 1) hlarge
    refine ⟨rest, hrest, heq, ?_⟩
    have htotal := congrArg List.length heq
    rw [List.length_append, hrest] at htotal
    simp only [width] at hk
    omega

theorem toDigits_append_order {i j : Nat} {x y : List Char} (h : i < j)
    (hrest : ∀ c rest, c.isDigit = true → x < c :: (rest ++ y)) :
    (Nat.toDigits 10 i ++ x < Nat.toDigits 10 j ++ y ↔
        i * 10 ^ (width j - width i) ≤ j) ∧
      (Nat.toDigits 10 j ++ y < Nat.toDigits 10 i ++ x ↔
        ¬ i * 10 ^ (width j - width i) ≤ j) := by
  obtain ⟨rest, hlength, heq, hlen⟩ := toDigits_cut h.le
  rw [← Nat.le_div_iff_mul_le (Nat.pow_pos (by decide))]
  generalize hlead : j / 10 ^ (width j - width i) = lead at heq hlen
  rw [heq, List.append_assoc, append_lt_append hlen, append_lt_append hlen.symm,
    toDigits_lt_of_length_eq hlen, toDigits_lt_of_length_eq hlen.symm,
    toDigits_injective.eq_iff, toDigits_injective.eq_iff]
  cases rest with
  | nil =>
    rw [← hlength, List.length_nil, Nat.pow_zero, Nat.div_one] at hlead
    subst hlead
    simp only [h, h.ne, h.ne', not_lt_of_gt h, h.le, false_and, true_or, or_self, not_true]
    trivial
  | cons c rest =>
    have hmem : c ∈ Nat.toDigits 10 j := by
      rw [heq]
      simp
    have hdigit : c.isDigit = true := Nat.isDigit_of_mem_toDigits (by decide) (by decide) hmem
    have hless := hrest c rest hdigit
    simp only [List.cons_append, hless, not_lt_of_gt hless, and_true, and_false, or_false]
    omega

theorem toString_lt_iff {i j : Nat} (h : i < j) :
    toString i < toString j ↔ i * 10 ^ (width j - width i) ≤ j := by
  have hcut :=
    (toDigits_append_order (x := []) (y := []) h (fun c rest _ => List.nil_lt_cons _ _)).1
  rw [List.append_nil, List.append_nil] at hcut
  rw [String.lt_iff_toList_lt, Nat.toString_eq_repr, Nat.toString_eq_repr, Nat.toList_repr,
    Nat.toList_repr, hcut]

end Vokusz.Lib.Decimal
