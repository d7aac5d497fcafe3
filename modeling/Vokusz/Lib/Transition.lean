import Mathlib.Data.List.Induction
import Mathlib.Logic.Relation

namespace Vokusz.Lib

variable {σ α : Type}

def runFrom (step : σ → α → Option σ) (s : σ) (acts : List α) : Option σ := acts.foldlM step s

@[simp] theorem runFrom_nil (step : σ → α → Option σ) (s : σ) : runFrom step s [] = some s := rfl

theorem runFrom_getD {step : σ → α → Option σ} {s : σ} {acts : List α}
    (h : (runFrom step s acts).isSome = true) :
    runFrom step s acts = some ((runFrom step s acts).getD s) := by
  obtain ⟨t, ht⟩ := Option.isSome_iff_exists.mp h
  rw [ht, Option.getD_some]

theorem runFrom_concat (step : σ → α → Option σ) (s : σ) (acts : List α) (a : α) :
    runFrom step s (acts ++ [a]) = (runFrom step s acts).bind (fun t => step t a) := by
  simp [runFrom, List.foldlM_append]

theorem run_induction {step : σ → α → Option σ} {s : σ} {I : List α → σ → Prop}
    (hinit : I [] s)
    (hstep : ∀ acts t a t', I acts t → step t a = some t' → I (acts ++ [a]) t') :
    ∀ acts t, runFrom step s acts = some t → I acts t := by
  intro acts
  induction acts using List.reverseRecOn with
  | nil =>
    intro t ht
    cases ht
    exact hinit
  | append_singleton acts a ih =>
    intro t ht
    rw [runFrom_concat] at ht
    obtain ⟨u, hu, hua⟩ := Option.bind_eq_some_iff.mp ht
    exact hstep acts u a t (ih u hu) hua

def meets (step : σ → α → Option σ) (sound : σ → α → Bool) : σ → List α → Bool
  | _, [] => true
  | s, a :: acts => sound s a && (step s a).all (fun t => meets step sound t acts)

theorem meets_concat {step : σ → α → Option σ} {sound : σ → α → Bool} {s t u : σ}
    {acts : List α} {a : α} (hrun : runFrom step s acts = some t) (hstep : step t a = some u) :
    meets step sound s (acts ++ [a]) = (meets step sound s acts && sound t a) := by
  induction acts generalizing s with
  | nil =>
    cases hrun
    simp [meets, hstep]
  | cons b acts ih =>
    obtain ⟨v, hv, hrest⟩ := Option.bind_eq_some_iff.mp hrun
    simp only [List.cons_append, meets, hv, Option.all_some, ih hrest, Bool.and_assoc]

theorem run_induction_of_meets {step : σ → α → Option σ} {sound : σ → α → Bool} {I : σ → Prop}
    (hstep : ∀ s a t, I s → sound s a = true → step s a = some t → I t) {s t : σ}
    {acts : List α} (hs : I s) (hmeets : meets step sound s acts = true)
    (hrun : runFrom step s acts = some t) : I t := by
  induction acts generalizing s with
  | nil =>
    cases hrun
    exact hs
  | cons a acts ih =>
    obtain ⟨u, hu, hrest⟩ := Option.bind_eq_some_iff.mp hrun
    simp only [meets, Bool.and_eq_true, hu, Option.all_some] at hmeets
    exact ih (hstep s a u hs hmeets.1 hu) hmeets.2 hrest

def Along (step : σ → α → Option σ) (P : σ → σ → Prop) : σ → List α → Prop
  | _, [] => True
  | s, a :: acts => ∀ t, step s a = some t → P s t ∧ Along step P t acts

theorem along_of_meets {step : σ → α → Option σ} {sound : σ → α → Bool} {P : σ → σ → Prop}
    {I : σ → Prop} (hkeep : ∀ s a t, I s → sound s a = true → step s a = some t → I t)
    (hstep : ∀ s a t, I s → sound s a = true → step s a = some t → P s t) {s : σ} {acts : List α}
    (hs : I s) (hmeets : meets step sound s acts = true) : Along step P s acts := by
  induction acts generalizing s with
  | nil => trivial
  | cons a acts ih =>
    intro t ht
    simp only [meets, ht, Option.all_some, Bool.and_eq_true] at hmeets
    exact ⟨hstep s a t hs hmeets.1 ht, ih (hkeep s a t hs hmeets.1 ht) hmeets.2⟩

theorem along_iff_meets {step : σ → α → Option σ} {sound : σ → α → Bool} {P : σ → σ → Prop}
    {I : σ → Prop} (hkeep : ∀ s a t, I s → step s a = some t → I t)
    (hstep : ∀ s a t, I s → step s a = some t → (P s t ↔ sound s a = true))
    {s t : σ} {acts : List α} (hs : I s) (hrun : runFrom step s acts = some t) :
    Along step P s acts ↔ meets step sound s acts = true := by
  induction acts generalizing s with
  | nil => simp [Along, meets]
  | cons a acts ih =>
    obtain ⟨u, hu, hrest⟩ := Option.bind_eq_some_iff.mp hrun
    have hih := ih (hkeep s a u hs hu) hrest
    simp only [Along, meets, hu, Option.some.injEq, forall_eq', Option.all_some, Bool.and_eq_true]
    rw [hstep s a u hs hu, hih]

def Always (step : σ → α → Option σ) (P : σ → Prop) : σ → List α → Prop
  | s, [] => P s
  | s, a :: acts => P s ∧ ∀ t, step s a = some t → Always step P t acts

theorem always_of_meets {step : σ → α → Option σ} {sound : σ → α → Bool} {P I : σ → Prop}
    (hkeep : ∀ s a t, I s → sound s a = true → step s a = some t → I t) (hP : ∀ s, I s → P s)
    {s : σ} {acts : List α} (hs : I s) (hmeets : meets step sound s acts = true) :
    Always step P s acts := by
  induction acts generalizing s with
  | nil => exact hP s hs
  | cons a acts ih =>
    refine ⟨hP s hs, fun t ht => ?_⟩
    simp only [meets, ht, Option.all_some, Bool.and_eq_true] at hmeets
    exact ih (hkeep s a t hs hmeets.1 ht) hmeets.2

theorem always_iff_meets {step : σ → α → Option σ} {sound : σ → α → Bool} {P I : σ → Prop}
    (hkeep : ∀ s a t, I s → step s a = some t → I t)
    (hstep : ∀ s a t, I s → P s → step s a = some t → (P t ↔ sound s a = true))
    {s t : σ} {acts : List α} (hs : I s) (hP : P s) (hrun : runFrom step s acts = some t) :
    Always step P s acts ↔ meets step sound s acts = true := by
  induction acts generalizing s with
  | nil => simp [Always, meets, hP]
  | cons a acts ih =>
    obtain ⟨u, hu, hrest⟩ := Option.bind_eq_some_iff.mp hrun
    have hnext := hstep s a u hs hP hu
    have hhead : Always step P u acts → P u := by
      cases acts with
      | nil => exact fun h => h
      | cons b acts => exact fun h => h.1
    simp only [Always, meets, hu, Option.some.injEq, forall_eq', Option.all_some, Bool.and_eq_true]
    constructor
    · rintro ⟨_, hrestP⟩
      have hPu := hhead hrestP
      exact ⟨hnext.mp hPu, (ih (hkeep s a u hs hu) hPu hrest).mp hrestP⟩
    · rintro ⟨hsound, hmeets⟩
      exact ⟨hP, (ih (hkeep s a u hs hu) (hnext.mpr hsound) hrest).mpr hmeets⟩

theorem always_and_iff {step : σ → α → Option σ} {P I : σ → Prop}
    (hkeep : ∀ s a t, I s → P s → step s a = some t → I t) {s : σ} {acts : List α} (hs : I s) :
    Always step (fun s => I s ∧ P s) s acts ↔ Always step P s acts := by
  induction acts generalizing s with
  | nil => exact and_iff_right hs
  | cons a acts ih =>
    constructor
    · rintro ⟨⟨_, hP⟩, hrest⟩
      exact ⟨hP, fun t ht => (ih (hkeep s a t hs hP ht)).mp (hrest t ht)⟩
    · rintro ⟨hP, hrest⟩
      exact ⟨⟨hs, hP⟩, fun t ht => (ih (hkeep s a t hs hP ht)).mpr (hrest t ht)⟩

theorem runFrom_total (f : σ → α → σ) (s : σ) (acts : List α) :
    runFrom (fun s a => some (f s a)) s acts = some (acts.foldl f s) := by
  induction acts generalizing s with
  | nil => rfl
  | cons a acts ih => exact ih (f s a)

section

variable {ε V : Type} (step : σ → α → Option σ) (emitted : σ → σ → List ε)

def heard : σ → List α → List ε
  | _, [] => []
  | s, a :: acts =>
    match step s a with
    | some t => emitted s t ++ heard t acts
    | none => []

variable {step emitted}

theorem foldl_heard {sound : σ → α → Bool} {apply : V → ε → V} {view : σ → V} {I : σ → Prop}
    (hkeep : ∀ s a t, I s → step s a = some t → I t)
    (hstep : ∀ s a t, I s → sound s a = true → step s a = some t →
      (emitted s t).foldl apply (view s) = view t)
    {s t : σ} {acts : List α} (hs : I s) (hmeets : meets step sound s acts = true)
    (hrun : runFrom step s acts = some t) :
    (heard step emitted s acts).foldl apply (view s) = view t := by
  induction acts generalizing s with
  | nil =>
    cases hrun
    rfl
  | cons a acts ih =>
    obtain ⟨u, hu, hrest⟩ := Option.bind_eq_some_iff.mp hrun
    simp only [meets, Bool.and_eq_true, hu, Option.all_some] at hmeets
    simp only [heard, hu, List.foldl_append, hstep s a u hs hmeets.1 hu]
    exact ih (hkeep s a u hs hu) hmeets.2 hrest

end

inductive Runs (step : σ → α → σ → Prop) : σ → List α → σ → Prop
  | nil (s : σ) : Runs step s [] s
  | cons {s t u : σ} {a : α} {acts : List α} (hstep : step s a t) (hrest : Runs step t acts u) :
      Runs step s (a :: acts) u

theorem Runs.invariant {step : σ → α → σ → Prop} {I : σ → Prop}
    (hkeep : ∀ s a t, I s → step s a t → I t) {s t : σ} {acts : List α} (hs : I s)
    (hrun : Runs step s acts t) : I t := by
  induction hrun with
  | nil s => exact hs
  | cons hstep _ ih => exact ih (hkeep _ _ _ hs hstep)

end Vokusz.Lib
