import Vokusz.Lib.Linearize

namespace Vokusz.Lib

variable {ι σ ε α β γ ν : Type}

namespace Prog

variable {view : σ → ν} {act : ν → β → ν → Prop} {Q : β → α → Prop} {R : α → Prop}
  {Held : ν → Prog σ ε α → Prop}

def Checks (view : σ → ν) (act : ν → β → ν → Prop) (Q : β → α → Prop) (R : α → Prop)
    (Held : ν → Prog σ ε α → Prop) : Prog σ ε α → Prop
  | .ret a => R a
  | .fail _ => True
  | .step u n => ∀ s, (view (u s) = view s ∧
      ((n s).Checks view act Q R Held ∨ Held (view s) (n s))) ∨
      ∃ b, act (view s) b (view (u s)) ∧ (n s).Done view (Q b)
  | .stmt u n q => (∀ s, (view (u s) = view s ∧
      ((n s).Checks view act Q R Held ∨ Held (view s) (n s))) ∨
      ∃ b, act (view s) b (view (u s)) ∧ (n s).Done view (Q b)) ∧ q.Checks view act Q R Held

theorem checks_bind {p : Prog σ ε γ} {f : γ → Prog σ ε α} (h : p.Preserves view)
    (hf : ∀ c, (f c).Checks view act Q R Held) : (p >>= f).Checks view act Q R Held := by
  change (p.bind f).Checks view act Q R Held
  induction p with
  | ret c => exact hf c
  | fail e => trivial
  | step u n ih => exact fun s => .inl ⟨(h s).1, .inl (ih s (h s).2)⟩
  | stmt u n q ih ihq => exact ⟨fun s => .inl ⟨(h.1 s).1, .inl (ih s (h.1 s).2)⟩, ihq h.2⟩

theorem checks_of_preserves {p : Prog σ ε α} (h : p.Preserves view)
    (hR : p.Keeps (fun _ => True) R) : p.Checks view act Q R Held := by
  induction p with
  | ret a => exact hR
  | fail e => trivial
  | step u n ih => exact fun s => .inl ⟨(h s).1, .inl (ih s (h s).2 (hR s trivial).2)⟩
  | stmt u n q ih ihq =>
    exact ⟨fun s => .inl ⟨(h.1 s).1, .inl (ih s (h.1 s).2 (hR.1 s trivial).2)⟩, ihq h.2 hR.2⟩

theorem checks_statement {e : ε} {f : σ → Except ε γ × σ} {rest : γ → Prog σ ε α}
    (h : ∀ s, match (f s).1 with
      | .ok c => (view (f s).2 = view s ∧
          ((rest c).Checks view act Q R Held ∨ Held (view s) (rest c))) ∨
          ∃ b, act (view s) b (view (f s).2) ∧ (rest c).Done view (Q b)
      | .error _ => view (f s).2 = view s) :
    (statement e f >>= rest).Checks view act Q R Held := by
  refine ⟨fun s => ?_, trivial⟩
  have hs := h s
  change (view (f s).2 = view s ∧ (((ofExcept (f s).1).bind rest).Checks view act Q R Held ∨
    Held (view s) ((ofExcept (f s).1).bind rest))) ∨
    ∃ b, act (view s) b (view (f s).2) ∧ ((ofExcept (f s).1).bind rest).Done view (Q b)
  cases hf : (f s).1 with
  | ok c =>
    rw [hf] at hs
    exact hs
  | error e' =>
    rw [hf] at hs
    exact .inl ⟨hs, .inl trivial⟩

theorem checks_query {e : ε} {f : σ → Except ε γ} {rest : γ → Prog σ ε α}
    (h : ∀ s c, f s = .ok c →
      (rest c).Checks view act Q R Held ∨ Held (view s) (rest c)) :
    (query e f >>= rest).Checks view act Q R Held := by
  refine ⟨fun s => .inl ⟨rfl, ?_⟩, trivial⟩
  change ((ofExcept (f s)).bind rest).Checks view act Q R Held ∨
    Held (view s) ((ofExcept (f s)).bind rest)
  cases hf : f s with
  | ok c => exact h s c hf
  | error e' => exact .inl trivial

theorem Checks.step {p q : Prog σ ε α} {s t : σ} (h : p.Checks view act Q R Held)
    (hstep : Step (p, s) (q, t)) :
    (view t = view s ∧ (q.Checks view act Q R Held ∨ Held (view s) q)) ∨
      ∃ b, act (view s) b (view t) ∧ q.Done view (Q b) := by
  cases hstep with
  | step u n s => exact h s
  | stmt u n r s => exact h.1 s
  | fault u n r s => exact .inl ⟨rfl, .inl h.2⟩

end Prog

def Holding (Held : ν → Prog σ ε α → Prop) (p : Prog σ ε α) : Prop := ∃ v, Held v p

theorem checks_discipline {view : σ → ν} {act : ν → β → ν → Prop} {Q : β → α → Prop}
    {R : α → Prop} {Held : ν → Prog σ ε α → Prop}
    (hheld : ∀ {p q s t}, Held (view s) p → Prog.Step (p, s) (q, t) →
      (view t = view s ∧ (q.Checks view act Q R Held ∨ Held (view s) q)) ∨
        ∃ b, act (view s) b (view t) ∧ q.Done view (Q b))
    (hret : ∀ {v a}, ¬ Held v (.ret a)) :
    Discipline view act Q R (Holding Held)
      (fun v p => p.Checks view act Q R Held ∨ Held v p) where
  step := by
    rintro p q s t (h | h) hstep
    · exact h.step hstep
    · exact hheld h hstep
  stable := by
    rintro v w p (h | h) hfree
    · exact .inl h
    · exact absurd ⟨v, h⟩ hfree
  result := by
    rintro v a (h | h)
    · exact h
    · exact absurd h hret

end Vokusz.Lib
