import Mathlib.Data.List.Basic
import Mathlib.Data.Set.Basic

namespace Vokusz.Lib.HighWater

variable {ι : Type} {cmp : ι → ι → Ordering} {ok : ι → Prop}

structure Orders (cmp : ι → ι → Ordering) (ok : ι → Prop) : Prop where
  refl : ∀ {a}, ok a → (cmp a a).isLE
  total : ∀ {a b}, ok a → ok b → ¬ (cmp a b).isLE → (cmp b a).isLE
  trans : ∀ {a b c}, ok a → ok b → ok c → (cmp a b).isLE → (cmp b c).isLE → (cmp a c).isLE

def atOrBefore (cmp : ι → ι → Ordering) (id : ι) (position : Option ι) : Bool :=
  position.any (fun p => (cmp id p).isLE)

def raised (cmp : ι → ι → Ordering) (position : Option ι) (id : ι) : Option ι :=
  if atOrBefore cmp id position then position else some id

theorem raised_of_atOrBefore {position : Option ι} {id : ι}
    (h : atOrBefore cmp id position = true) : raised cmp position id = position := if_pos h

theorem raised_of_after {position : Option ι} {id : ι}
    (h : ¬ atOrBefore cmp id position = true) : raised cmp position id = some id := if_neg h

theorem atOrBefore_raised (h : Orders cmp ok) {position : Option ι}
    (hposition : ∀ p ∈ position, ok p) {x id : ι} (hx : ok x) (hid : ok id) :
    atOrBefore cmp id (raised cmp position x) = true ↔
      (cmp id x).isLE = true ∨ atOrBefore cmp id position = true := by
  cases position with
  | none => simp [raised, atOrBefore]
  | some p =>
    have hp : ok p := hposition p rfl
    cases hbefore : (cmp x p).isLE with
    | true =>
      rw [raised_of_atOrBefore (by simp [atOrBefore, hbefore])]
      constructor
      · exact Or.inr
      · rintro (hle | hle)
        · exact h.trans hid hx hp hle hbefore
        · exact hle
    | false =>
      rw [raised_of_after (by simp [atOrBefore, hbefore])]
      constructor
      · exact Or.inl
      · rintro (hle | hle)
        · exact hle
        · exact h.trans hid hp hx hle (h.total hx hp (by simp [hbefore]))

structure Marks (cmp : ι → ι → Ordering) (ok : ι → Prop) (position : Option ι) (ids : List ι) :
    Prop where
  position_ok : ∀ p ∈ position, ok p
  ids_ok : ∀ p ∈ ids, ok p
  below : ∀ {id}, ok id →
    (atOrBefore cmp id position = true ↔ ∃ p ∈ ids, (cmp id p).isLE = true)

namespace Marks

variable {position : Option ι} {ids : List ι} {x id : ι}

theorem nil : Marks cmp ok none [] where
  position_ok := by simp
  ids_ok := by simp
  below := by simp [atOrBefore]

theorem raised_ok (hposition : ∀ p ∈ position, ok p) (hx : ok x) :
    ∀ p ∈ raised cmp position x, ok p := by
  intro p hp
  rw [raised] at hp
  split at hp
  · exact hposition p hp
  · cases hp
    exact hx

theorem cons (h : Orders cmp ok) (hm : Marks cmp ok position ids) (hx : ok x) :
    Marks cmp ok (raised cmp position x) (x :: ids) where
  position_ok := raised_ok hm.position_ok hx
  ids_ok := by
    intro p hp
    rcases List.mem_cons.mp hp with rfl | hp
    · exact hx
    · exact hm.ids_ok p hp
  below := by
    intro id hid
    rw [atOrBefore_raised h hm.position_ok hx hid, hm.below hid]
    simp

theorem append (h : Orders cmp ok) (hm : Marks cmp ok position ids) {others : List ι}
    (hothers : Marks cmp ok (some x) others) :
    Marks cmp ok (raised cmp position x) (others ++ ids) where
  position_ok := raised_ok hm.position_ok (hothers.position_ok x rfl)
  ids_ok := by
    intro p hp
    rcases List.mem_append.mp hp with hp | hp
    · exact hothers.ids_ok p hp
    · exact hm.ids_ok p hp
  below := by
    intro id hid
    have hx : (cmp id x).isLE = true ↔ ∃ p ∈ others, (cmp id p).isLE = true := hothers.below hid
    rw [atOrBefore_raised h hm.position_ok (hothers.position_ok x rfl) hid, hm.below hid, hx]
    simp only [List.mem_append, or_and_right, exists_or]

theorem eq_nil (hm : Marks cmp ok none ids) (h : Orders cmp ok) : ids = [] := by
  apply List.eq_nil_iff_forall_not_mem.mpr
  intro p hp
  have hok := hm.ids_ok p hp
  have hbefore := (hm.below hok).mpr ⟨p, hp, h.refl hok⟩
  simp [atOrBefore] at hbefore

end Marks

end Vokusz.Lib.HighWater
