import Vokusz.Lib.Linearize
import Vokusz.Lib.RelyGuarantee

namespace Vokusz.Lib

variable {ι σ ε α β : Type}

namespace Prog

def Leaves : Prog σ ε α → Prog σ ε α → Prop :=
  Relation.ReflTransGen (fun p q => ∃ s t, Step (p, s) (q, t))

def Finished (p : Prog σ ε α) : Prop := (∃ a, p = .ret a) ∨ ∃ e, p = .fail e

variable {P : σ → Prop} {Closing : Prog σ ε α → Prop} {Q : α → Prop}

theorem Leaves.keeps {p q : Prog σ ε α} (h : Leaves p q) (hp : p.Keeps (fun _ => True) Q) :
    q.Keeps (fun _ => True) Q := by
  induction h with
  | refl => exact hp
  | tail _ hstep ih =>
    obtain ⟨s, t, hstep⟩ := hstep
    exact (ih.step trivial hstep).2

theorem Finished.no_step {p q : Prog σ ε α} {s t : σ} (h : p.Finished)
    (hstep : Step (p, s) (q, t)) : False := by
  rcases h with ⟨a, rfl⟩ | ⟨e, rfl⟩
  · cases hstep
  · cases hstep

def Establishes (P : σ → Prop) (Closing : Prog σ ε α → Prop) : Prog σ ε α → Prop
  | .ret _ => False
  | .fail _ => True
  | .step u n => ∀ s, (n s).Establishes P Closing ∨
      (P (u s) ∧ (Closing (n s) ∨ (n s).Finished))
  | .stmt u n q => (∀ s, (n s).Establishes P Closing ∨
      (P (u s) ∧ (Closing (n s) ∨ (n s).Finished))) ∧ q.Establishes P Closing

theorem establishes_bind {f : β → Prog σ ε α} (hf : ∀ b, (f b).Establishes P Closing)
    (p : Prog σ ε β) : (p >>= f).Establishes P Closing := by
  change (p.bind f).Establishes P Closing
  induction p with
  | ret b => exact hf b
  | fail e => trivial
  | step u n ih => exact fun s => .inl (ih s)
  | stmt u n q ih ihq => exact ⟨fun s => .inl (ih s), ihq⟩

theorem Establishes.step {p q : Prog σ ε α} {s t : σ} (h : p.Establishes P Closing)
    (hstep : Step (p, s) (q, t)) :
    q.Establishes P Closing ∨ (P t ∧ (Closing q ∨ q.Finished)) := by
  cases hstep with
  | step u n s => exact h s
  | stmt u n r s => exact h.1 s
  | fault u n r s => exact .inl h.2

end Prog

namespace Crowd

variable [DecidableEq ι] {env : σ → σ → Prop} {allowed : Crowd ι σ ε α → ι → σ → Prop}
  {c d : Crowd ι σ ε α} {i : ι} {P : σ → Prop} {Closing : Prog σ ε α → Prop}

theorem respects_run {G : σ → σ → Prop} {Q : α → Prop} (hG : ∀ s, G s s)
    (h : (c.threads i).Respects (fun _ => True) G Q) (hrun : RunWhere env allowed c d) :
    (d.threads i).Respects (fun _ => True) G Q := by
  induction hrun with
  | refl => exact h
  | @tail x _ _ hstep ih =>
    cases hstep with
    | outside t ht => exact ih
    | moves j q t hmove ha =>
      change (Function.update x.threads j q i).Respects _ _ _
      by_cases hj : i = j
      · subst hj
        rw [Function.update_self]
        exact (ih.step hG trivial hmove).2.2
      · rw [Function.update_of_ne hj]
        exact ih

def Towards (P : σ → Prop) (Closing : Prog σ ε α → Prop) (i : ι) (c : Crowd ι σ ε α) : Prop :=
  (c.threads i).Establishes P Closing ∨ (c.threads i).Finished ∨
    (Closing (c.threads i) ∧ P c.state)

theorem towards_run
    (hown : ∀ {p q s t}, Closing p → P s → Prog.Step (p, s) (q, t) →
      P t ∧ (Closing q ∨ q.Finished))
    (hother : ∀ x j q t, RunWhere env allowed c x → j ≠ i → Closing (x.threads i) →
      P x.state → Prog.Step (x.threads j, x.state) (q, t) → allowed x j t → P t)
    (henv : ∀ s t, env s t → P s → P t)
    (h : Towards P Closing i c) (hrun : RunWhere env allowed c d) : Towards P Closing i d := by
  induction hrun with
  | refl => exact h
  | @tail x _ hpast hstep ih =>
    cases hstep with
    | outside t ht =>
      rcases ih with hbefore | hdone | ⟨hclosing, hp⟩
      · exact .inl hbefore
      · exact .inr (.inl hdone)
      · exact .inr (.inr ⟨hclosing, henv _ _ ht hp⟩)
    | moves j q t hmove ha =>
      by_cases hj : j = i
      · subst hj
        have hself : Function.update x.threads j q j = q := Function.update_self j q x.threads
        have hafter : q.Establishes P Closing ∨ (P t ∧ (Closing q ∨ q.Finished)) := by
          rcases ih with hbefore | hdone | ⟨hclosing, hp⟩
          · exact hbefore.step hmove
          · exact absurd hmove (fun hmove => hdone.no_step hmove)
          · exact .inr (hown hclosing hp hmove)
        change (Function.update x.threads j q j).Establishes P Closing ∨
          (Function.update x.threads j q j).Finished ∨
          (Closing (Function.update x.threads j q j) ∧ P t)
        rw [hself]
        rcases hafter with hbefore | ⟨hp, hclosing | hdone⟩
        · exact .inl hbefore
        · exact .inr (.inr ⟨hclosing, hp⟩)
        · exact .inr (.inl hdone)
      · have hsame : Function.update x.threads j q i = x.threads i :=
          Function.update_of_ne (fun hij => hj hij.symm) q x.threads
        change (Function.update x.threads j q i).Establishes P Closing ∨
          (Function.update x.threads j q i).Finished ∨
          (Closing (Function.update x.threads j q i) ∧ P t)
        rw [hsame]
        rcases ih with hbefore | hdone | ⟨hclosing, hp⟩
        · exact .inl hbefore
        · exact .inr (.inl hdone)
        · exact .inr (.inr ⟨hclosing, hother x j q t hpast hj hclosing hp hmove ha⟩)

omit [DecidableEq ι] in
theorem towards_completes
    (hown : ∀ {p q s t}, Closing p → P s → Prog.Step (p, s) (q, t) →
      P t ∧ (Closing q ∨ q.Finished))
    (h : Towards P Closing i c) {a : α} {t : σ}
    (hstep : Prog.Step (c.threads i, c.state) (.ret a, t)) : P t := by
  rcases h with hbefore | hdone | ⟨hclosing, hp⟩
  · rcases hbefore.step hstep with hnever | ⟨hp, _⟩
    · exact hnever.elim
    · exact hp
  · exact (hdone.no_step hstep).elim
  · exact (hown hclosing hp hstep).1

end Crowd

end Vokusz.Lib
