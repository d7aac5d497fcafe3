import Vokusz.Lib.Program

namespace Vokusz.Lib.Prog

variable {σ ε α β γ : Type} {I : σ → Prop} {Q : α → Prop} {R : β → Prop} {s t : σ}

def Stays (I : σ → Prop) : Prog σ ε α → σ → Prop
  | .ret _, s => I s
  | .fail _, s => I s
  | .step u n, s => I s ∧ (n s).Stays I (u s)
  | .stmt u n q, s => I s ∧ (n s).Stays I (u s) ∧ q.Stays I s

theorem Stays.here {p : Prog σ ε α} (h : p.Stays I s) : I s := by
  cases p with
  | ret a => exact h
  | fail e => exact h
  | step u n => exact h.1
  | stmt u n q => exact h.1

theorem Stays.mono {J : σ → Prop} {p : Prog σ ε α} (h : p.Stays I s) (hIJ : ∀ t, I t → J t) :
    p.Stays J s := by
  induction p generalizing s with
  | ret a => exact hIJ s h
  | fail e => exact hIJ s h
  | step u n ih => exact ⟨hIJ s h.1, ih s h.2⟩
  | stmt u n q ih ihq => exact ⟨hIJ s h.1, ih s h.2.1, ihq h.2.2⟩

theorem Stays.step {p q : Prog σ ε α} (h : p.Stays I s) (hstep : Step (p, s) (q, t)) :
    q.Stays I t := by
  cases hstep with
  | step u n s => exact h.2
  | stmt u n q s => exact h.2.1
  | fault u n q s => exact h.2.2

theorem Stays.run {p q : Prog σ ε α} (h : p.Stays I s)
    (hrun : Relation.ReflTransGen Step (p, s) (q, t)) : I t := by
  have hkeep : ∀ x y : Prog σ ε α × σ, Relation.ReflTransGen Step x y →
      x.1.Stays I x.2 → y.1.Stays I y.2 := by
    intro x y hxy hx
    induction hxy with
    | refl => exact hx
    | tail _ hstep ih => exact ih.step hstep
  exact (hkeep _ _ hrun h).here

theorem Stays.exec {p : Prog σ ε α} (h : p.Stays I s) : I (p.exec s).2 := by
  induction p generalizing s with
  | ret a => exact h
  | fail e => exact h
  | step u n ih => exact ih s h.2
  | stmt u n q ih _ => exact ih s h.2.1

theorem Keeps.stays {p : Prog σ ε α} (h : p.Keeps I Q) (hs : I s) : p.Stays I s := by
  induction p generalizing s with
  | ret a => exact hs
  | fail e => exact hs
  | step u n ih => exact ⟨hs, ih s (h s hs).2 (h s hs).1⟩
  | stmt u n q ih ihq => exact ⟨hs, ih s (h.1 s hs).2 (h.1 s hs).1, ihq h.2 hs⟩

theorem stays_guard {p : Prog σ ε α} {f : α → Prog σ ε β} (hs : I s)
    (h : p.Keeps (fun t => t = s) Q) (hf : ∀ a, Q a → (f a).Stays I s) :
    (p >>= f).Stays I s := by
  change (p.bind f).Stays I s
  induction p with
  | ret a => exact hf a h
  | fail e => exact hs
  | step u n ih =>
    obtain ⟨hu, hn⟩ := h s rfl
    refine ⟨hs, ?_⟩
    rw [hu]
    exact ih s hn
  | stmt u n q ih ihq =>
    obtain ⟨hu, hn⟩ := h.1 s rfl
    refine ⟨hs, ?_, ihq h.2⟩
    rw [hu]
    exact ih s hn

theorem Stays.bind {p : Prog σ ε α} {f : α → Prog σ ε β} (h : p.Stays I s)
    (hf : ∀ a, (f a).Keeps I R) : (p >>= f).Stays I s := by
  change (p.bind f).Stays I s
  induction p generalizing s with
  | ret a => exact (hf a).stays h
  | fail e => exact h
  | step u n ih => exact ⟨h.1, ih s h.2⟩
  | stmt u n q ih ihq => exact ⟨h.1, ih s h.2.1, ihq h.2.2⟩

theorem stays_require {c : Prop} [Decidable c] {e : ε} {f : Unit → Prog σ ε α} (hs : I s)
    (hf : c → (f ()).Stays I s) : (require c e >>= f).Stays I s := by
  rw [require_bind]
  split
  · rename_i hc
    exact hf hc
  · exact hs

theorem stays_statement {e : ε} {f : σ → Except ε α × σ} (hs : I s) (ht : I (f s).2) :
    (statement e f).Stays I s := by
  refine ⟨hs, ?_, hs⟩
  exact (keeps_ofExcept (Q := fun _ => True) (fun _ _ => trivial)).stays ht

section

variable {ρ : Type} {program : ρ → Prog σ ε α}

def Succession (program : ρ → Prog σ ε α) : σ → σ → Prop :=
  Relation.ReflTransGen (fun s t => ∃ r p, Relation.ReflTransGen Step (program r, s) (p, t))

theorem Succession.stays (hrun : Succession program s t)
    (h : ∀ r s, I s → (program r).Stays I s) (hs : I s) : I t := by
  induction hrun with
  | refl => exact hs
  | tail _ hstep ih =>
    obtain ⟨r, p, hrun⟩ := hstep
    exact (h r _ ih).run hrun

theorem succession_exec (rs : List ρ) (s : σ) :
    Succession program s (rs.foldl (fun s r => ((program r).exec s).2) s) := by
  induction rs generalizing s with
  | nil => exact .refl
  | cons r rs ih =>
    obtain ⟨p, hrun, -⟩ := exec_steps (program r) s
    exact .head ⟨r, p, hrun⟩ (ih _)

end

end Vokusz.Lib.Prog
