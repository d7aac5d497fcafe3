import Mathlib.Data.List.Infix

namespace Vokusz.Lib.Like

variable {χ : Type} [DecidableEq χ] (many one : χ) (fold : χ → χ)

def like : List χ → List χ → Bool
  | [], text => text.isEmpty
  | c :: pattern, text =>
    if c = many then text.tails.any (fun rest => like pattern rest)
    else
      match text with
      | [] => false
      | d :: text => (c = one || fold c = fold d) && like pattern text

def contains (q text : List χ) : Bool := q.map fold <:+: text.map fold

def Plain (q : List χ) : Prop := ∀ c ∈ q, c ≠ many ∧ c ≠ one

variable {many one fold} {q pattern text rest : List χ}

theorem like_many : like many one fold (many :: pattern) text = true ↔
    ∃ rest, rest <:+ text ∧ like many one fold pattern rest = true := by
  simp [like, List.any_eq_true]

@[simp] theorem like_all : like many one fold [many] text = true :=
  like_many.mpr ⟨[], List.nil_suffix, rfl⟩

theorem like_append {taken : List χ} (htaken : q.map fold = taken.map fold)
    (h : like many one fold pattern rest = true) :
    like many one fold (q ++ pattern) (taken ++ rest) = true := by
  induction q generalizing taken with
  | nil =>
    cases taken with
    | nil => exact h
    | cons d taken => cases htaken
  | cons c q ih =>
    cases taken with
    | nil => cases htaken
    | cons d taken =>
      obtain ⟨hfold, htaken⟩ := List.cons.inj htaken
      have hlater := ih htaken
      by_cases hmany : c = many
      · rw [hmany, List.cons_append, like_many]
        exact ⟨taken ++ rest, List.suffix_cons d _, hlater⟩
      · simp [like, hmany, hfold, hlater]

theorem like_of_contains (h : contains fold q text = true) :
    like many one fold (many :: (q ++ [many])) text = true := by
  obtain ⟨before, after, hparts⟩ := of_decide_eq_true h
  rw [List.append_assoc] at hparts
  obtain ⟨front, text, rfl, hfront, htext⟩ := List.map_eq_append_iff.mp hparts.symm
  obtain ⟨taken, rest, rfl, htaken, hrest⟩ := List.map_eq_append_iff.mp htext
  exact like_many.mpr ⟨taken ++ rest, List.suffix_append front _,
    like_append htaken.symm like_all⟩

end Vokusz.Lib.Like
