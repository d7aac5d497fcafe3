import Vokusz.Lib.Program

namespace Vokusz.Lib

variable {σ ε α β : Type}

namespace Prog

inductive Ends (p : Prog σ ε α) (s : σ) : Except ε α → σ → Prop
  | commits {a t} (h : Relation.ReflTransGen Step (p, s) (.ret a, t)) : Ends p s (.ok a) t
  | rolledBack {e t} (h : Relation.ReflTransGen Step (p, s) (.fail e, t)) : Ends p s (.error e) s
  | uncommitted {a t} (e) (h : Relation.ReflTransGen Step (p, s) (.ret a, t)) :
      Ends p s (.error e) s

theorem Ends.error {p : Prog σ ε α} {s t : σ} {e : ε} (h : p.Ends s (.error e) t) : t = s := by
  cases h <;> rfl

def Abrupt : Prog σ ε α → Prop
  | .ret _ => True
  | .fail _ => True
  | .step _ n => ∀ s, (n s).Abrupt
  | .stmt _ n q => (∀ s, (n s).Abrupt) ∧ ∃ e, q = .fail e

theorem Abrupt.bind {p : Prog σ ε α} {f : α → Prog σ ε β} (h : p.Abrupt)
    (hf : ∀ a, (f a).Abrupt) : (p >>= f).Abrupt := by
  change (p.bind f).Abrupt
  induction p with
  | ret a => exact hf a
  | fail e => trivial
  | step u n ih => exact fun s => ih s (h s)
  | stmt u n q ih _ =>
    obtain ⟨e, rfl⟩ := h.2
    exact ⟨fun s => ih s (h.1 s), e, rfl⟩

theorem abrupt_ofExcept (r : Except ε α) : (ofExcept r : Prog σ ε α).Abrupt := by
  cases r <;> trivial

theorem abrupt_statement {e : ε} {f : σ → Except ε α × σ} : (statement e f).Abrupt :=
  ⟨fun s => abrupt_ofExcept (f s).1, e, rfl⟩

theorem abrupt_query {e : ε} {f : σ → Except ε α} : (query e f).Abrupt :=
  ⟨fun s => abrupt_ofExcept (f s), e, rfl⟩

theorem run_of_fail {e : ε} {s t : σ} {q : Prog σ ε α}
    (h : Relation.ReflTransGen Step (Prog.fail e, s) (q, t)) : q = .fail e := by
  rcases Relation.ReflTransGen.cases_head h with heq | ⟨x, hstep, -⟩
  · exact (congrArg Prod.fst heq).symm
  · cases hstep

theorem Abrupt.run_ret {p : Prog σ ε α} (h : p.Abrupt) {s t : σ} {a : α}
    (hrun : Relation.ReflTransGen Step (p, s) (.ret a, t)) : p.exec s = (.ok a, t) := by
  induction p generalizing s with
  | ret b =>
    rcases Relation.ReflTransGen.cases_head hrun with heq | ⟨x, hstep, -⟩
    · cases heq
      rfl
    · cases hstep
  | fail e =>
    cases run_of_fail hrun
  | step u n ih =>
    rcases Relation.ReflTransGen.cases_head hrun with heq | ⟨x, hstep, hrest⟩
    · cases heq
    · cases hstep
      exact ih s (h s) hrest
  | stmt u n q ih _ =>
    rcases Relation.ReflTransGen.cases_head hrun with heq | ⟨x, hstep, hrest⟩
    · cases heq
    · cases hstep with
      | stmt u n q s => exact ih s (h.1 s) hrest
      | fault u n q s =>
        obtain ⟨e, rfl⟩ := h.2
        cases run_of_fail hrest

theorem Abrupt.ends_ok_iff {p : Prog σ ε α} (h : p.Abrupt) {s t : σ} {a : α} :
    p.Ends s (.ok a) t ↔ p.exec s = (.ok a, t) := by
  constructor
  · rintro (hrun | _ | _)
    exact h.run_ret hrun
  · intro hexec
    obtain ⟨q, hrun, rfl⟩ := exec_steps p s
    rw [hexec] at hrun
    exact .commits hrun

end Prog

end Vokusz.Lib
