import Mathlib.Algebra.Order.Ring.Nat
import Mathlib.Algebra.BigOperators.Group.List.Basic
import Mathlib.Data.List.Infix

namespace Vokusz.Lib.TokenBucket

def afloat (cap : Nat) : Nat → List Nat → Bool
  | _, [] => true
  | level, gain :: gains =>
    0 < min (level + gain) cap && afloat cap (min (level + gain) cap - 1) gains

def Covers (cap : Nat) (gains : List Nat) : Prop :=
  ∀ gain later, gain :: later <:+: gains → later.length + 1 ≤ cap + later.sum

variable {cap level gain : Nat} {gains : List Nat}

theorem covers_nil : Covers cap [] := by
  intro gain later h
  simp at h

theorem covers_cons : Covers cap (gain :: gains) ↔
    (∀ later, later <+: gains → later.length + 1 ≤ cap + later.sum) ∧ Covers cap gains := by
  constructor
  · intro h
    constructor
    · intro later hlater
      apply h gain later
      exact (List.cons_prefix_cons.mpr ⟨rfl, hlater⟩).isInfix
    · intro gain' later hlater
      exact h gain' later (hlater.trans (List.suffix_cons gain gains).isInfix)
  · rintro ⟨hhead, htail⟩ gain' later hlater
    rcases List.infix_cons_iff.mp hlater with hfront | hback
    · exact hhead later (List.cons_prefix_cons.mp hfront).2
    · exact htail gain' later hback

theorem afloat_iff : afloat cap level gains = true ↔
    (∀ front, front <+: gains → front.length ≤ level + front.sum) ∧ Covers cap gains := by
  induction gains generalizing level with
  | nil => simp [afloat, covers_nil]
  | cons gain gains ih =>
    rw [afloat, Bool.and_eq_true, decide_eq_true_eq, ih, covers_cons]
    constructor
    · rintro ⟨hpos, hfront, hcovers⟩
      refine ⟨?_, fun later hlater => ?_, hcovers⟩
      · intro front h
        cases front with
        | nil => simp
        | cons gain' later =>
          obtain ⟨rfl, hlater⟩ := List.cons_prefix_cons.mp h
          have := hfront later hlater
          simp only [List.length_cons, List.sum_cons]
          omega
      · have := hfront later hlater
        omega
    · rintro ⟨hfront, hlevel, hcovers⟩
      have hone := hfront [gain] (by simp)
      have hcap := hlevel [] (by simp)
      simp only [List.length_singleton, List.sum_singleton, List.length_nil, List.sum_nil]
        at hone hcap
      refine ⟨by omega, fun later hlater => ?_, hcovers⟩
      have hheld := hfront (gain :: later) (List.cons_prefix_cons.mpr ⟨rfl, hlater⟩)
      have hroom := hlevel later hlater
      simp only [List.length_cons, List.sum_cons] at hheld
      omega

theorem afloat_after_first (h : 0 < cap) :
    afloat cap (cap - 1) gains = true ↔ Covers cap (gain :: gains) := by
  rw [afloat_iff, covers_cons]
  apply and_congr_left'
  apply forall_congr'
  intro front
  apply imp_congr_right
  intro _
  omega

end Vokusz.Lib.TokenBucket
