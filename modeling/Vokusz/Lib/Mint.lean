import Mathlib.Data.Set.Insert
import Vokusz.Lib.Linearize
import Vokusz.Lib.RelyGuarantee

namespace Vokusz.Lib

variable {ι σ ε α β ρ μ : Type}

structure Mint (σ ρ μ : Type) where
  drawn : σ → Nat
  present : σ → ρ → Prop
  nameOf : ρ → μ
  name : Nat → μ

namespace Mint

variable (m : Mint σ ρ μ)

def Sheds (s t : σ) : Prop := m.drawn t = m.drawn s ∧ ∀ r, m.present t r → m.present s r

inductive Change (s t : σ) (held : Set Nat) : Set Nat → Prop
  | quiet (hdrawn : m.drawn t = m.drawn s) (h : ∀ r, m.present t r → m.present s r) :
      Change s t held held
  | draws (hdrawn : m.drawn t = m.drawn s + 1) (h : ∀ r, m.present t r → m.present s r) :
      Change s t held (insert (m.drawn s) held)
  | mints (k row) (hk : k ∈ held) (hname : m.nameOf row = m.name k)
      (hdrawn : m.drawn t = m.drawn s)
      (h : ∀ r, m.present t r → m.present s r ∨ r = row) : Change s t held (held \ {k})

def Outside (s t : σ) : Prop :=
  m.Sheds s t ∨
    (m.drawn t = m.drawn s + 1 ∧ ∃ row, m.nameOf row = m.name (m.drawn s) ∧
      ∀ r, m.present t r → m.present s r ∨ r = row)

end Mint

namespace Prog

variable {m : Mint σ ρ μ} {Q : α → Set Nat → Prop} {R : β → Set Nat → Prop} {held : Set Nat}

def Mints (m : Mint σ ρ μ) (Q : α → Set Nat → Prop) : Prog σ ε α → Set Nat → Prop
  | .ret a, held => Q a held
  | .fail _, _ => True
  | .step u n, held => ∀ s, ∃ held', m.Change s (u s) held held' ∧ (n s).Mints m Q held'
  | .stmt u n q, held =>
    (∀ s, ∃ held', m.Change s (u s) held held' ∧ (n s).Mints m Q held') ∧ q.Mints m Q held

theorem Mints.bind {p : Prog σ ε α} {f : α → Prog σ ε β} (h : p.Mints m Q held)
    (hf : ∀ a held', Q a held' → (f a).Mints m R held') : (p >>= f).Mints m R held := by
  change (p.bind f).Mints m R held
  induction p generalizing held with
  | ret a => exact hf a held h
  | fail e => trivial
  | step u n ih =>
    intro s
    obtain ⟨held', hchange, hn⟩ := h s
    exact ⟨held', hchange, ih s hn⟩
  | stmt u n q ih ihq =>
    refine ⟨fun s => ?_, ihq h.2⟩
    obtain ⟨held', hchange, hn⟩ := h.1 s
    exact ⟨held', hchange, ih s hn⟩

theorem Mints.mono {Q' : α → Set Nat → Prop} {p : Prog σ ε α} (h : p.Mints m Q held)
    (hQ : ∀ a held', Q a held' → Q' a held') : p.Mints m Q' held := by
  induction p generalizing held with
  | ret a => exact hQ a held h
  | fail e => trivial
  | step u n ih =>
    intro s
    obtain ⟨held', hchange, hn⟩ := h s
    exact ⟨held', hchange, ih s hn⟩
  | stmt u n q ih ihq =>
    refine ⟨fun s => ?_, ihq h.2⟩
    obtain ⟨held', hchange, hn⟩ := h.1 s
    exact ⟨held', hchange, ih s hn⟩

theorem Mints.step {p q : Prog σ ε α} {s t : σ} (h : p.Mints m Q held)
    (hstep : Step (p, s) (q, t)) : ∃ held', m.Change s t held held' ∧ q.Mints m Q held' := by
  cases hstep with
  | step u n s => exact h s
  | stmt u n q s => exact h.1 s
  | fault u n q s => exact ⟨held, .quiet rfl (fun _ hr => hr), h.2⟩

theorem Respects.mints {P : α → Prop} {p : Prog σ ε α}
    (h : p.Respects (fun _ => True) m.Sheds P) : p.Mints m (fun _ h => h = held) held := by
  induction p with
  | ret a => rfl
  | fail e => trivial
  | step u n ih =>
    intro s
    obtain ⟨-, hsheds, hn⟩ := h s trivial
    exact ⟨held, .quiet hsheds.1 hsheds.2, ih s hn⟩
  | stmt u n q ih ihq =>
    refine ⟨fun s => ?_, ihq h.2⟩
    obtain ⟨-, hsheds, hn⟩ := h.1 s trivial
    exact ⟨held, .quiet hsheds.1 hsheds.2, ih s hn⟩

end Prog

def Spent (m : Mint σ ρ μ) (held : ι → Set Nat) (s : σ) (a : μ) : Prop :=
  ∀ k, m.name k = a → k < m.drawn s ∧ ∀ i, k ∉ held i

structure Numbered (m : Mint σ ρ μ) (held : ι → Set Nat) (s : σ) : Prop where
  below : ∀ i k, k ∈ held i → k < m.drawn s
  apart : ∀ i j k, k ∈ held i → k ∈ held j → i = j
  unique : ∀ r r', m.present s r → m.present s r' → m.nameOf r = m.nameOf r' → r = r'
  spent : ∀ r, m.present s r → Spent m held s (m.nameOf r)

structure Aged (m : Mint σ ρ μ) (held : ι → Set Nat) (s : σ) (held' : ι → Set Nat) (t : σ) :
    Prop where
  spent : ∀ a, Spent m held s a → Spent m held' t a
  present : ∀ r, Spent m held s (m.nameOf r) → m.present t r → m.present s r

theorem Aged.refl {m : Mint σ ρ μ} {held : ι → Set Nat} {s : σ} : Aged m held s held s :=
  ⟨fun _ h => h, fun _ _ h => h⟩

theorem Aged.trans {m : Mint σ ρ μ} {held held' held'' : ι → Set Nat} {s t u : σ}
    (h : Aged m held s held' t) (h' : Aged m held' t held'' u) : Aged m held s held'' u :=
  ⟨fun a ha => h'.spent a (h.spent a ha),
    fun r hr hu => h.present r hr (h'.present r (h.spent _ hr) hu)⟩

namespace Numbered

variable {m : Mint σ ρ μ} {held held' : ι → Set Nat} {s t : σ}

theorem shed (h : Numbered m held s) (hdrawn : m.drawn t = m.drawn s)
    (hgone : ∀ r, m.present t r → m.present s r) :
    Numbered m held t ∧ Aged m held s held t := by
  have hspent : ∀ a, Spent m held s a → Spent m held t a := by
    intro a ha k hk
    rw [hdrawn]
    exact ha k hk
  refine ⟨⟨fun i k hk => hdrawn ▸ h.below i k hk, h.apart, fun r r' hr hr' heq => ?_,
    fun r hr => hspent _ (h.spent r (hgone r hr))⟩, hspent, fun r _ hr => hgone r hr⟩
  exact h.unique r r' (hgone r hr) (hgone r' hr') heq

theorem draw [DecidableEq ι] (h : Numbered m held s) (i : ι) (hdrawn : m.drawn t = m.drawn s + 1)
    (hgone : ∀ r, m.present t r → m.present s r) :
    Numbered m (Function.update held i (insert (m.drawn s) (held i))) t ∧
      Aged m held s (Function.update held i (insert (m.drawn s) (held i))) t := by
  have hcases : ∀ j k, k ∈ Function.update held i (insert (m.drawn s) (held i)) j →
      (j = i ∧ k = m.drawn s) ∨ k ∈ held j := by
    intro j k hk
    by_cases hj : j = i
    · subst hj
      rw [Function.update_self] at hk
      exact hk.imp (fun heq => ⟨rfl, heq⟩) id
    · rw [Function.update_of_ne hj] at hk
      exact .inr hk
  have hnew : ∀ j, m.drawn s ∉ held j := fun j hj => lt_irrefl _ (h.below j _ hj)
  have hspent : ∀ a, Spent m held s a →
      Spent m (Function.update held i (insert (m.drawn s) (held i))) t a := by
    intro a ha k hk
    obtain ⟨hlt, hfree⟩ := ha k hk
    refine ⟨by omega, fun j hj => ?_⟩
    rcases hcases j k hj with ⟨_, heq⟩ | hheld
    · omega
    · exact hfree j hheld
  refine ⟨⟨fun j k hk => ?_, fun j j' k hk hk' => ?_, fun r r' hr hr' heq => ?_,
    fun r hr => hspent _ (h.spent r (hgone r hr))⟩, hspent, fun r _ hr => hgone r hr⟩
  · rcases hcases j k hk with ⟨_, heq⟩ | hheld
    · omega
    · have hlt := h.below j k hheld
      omega
  · rcases hcases j k hk with ⟨hj, heq⟩ | hheld
    · rcases hcases j' k hk' with ⟨hj', _⟩ | hheld'
      · exact hj.trans hj'.symm
      · exact absurd (heq ▸ hheld') (hnew j')
    · rcases hcases j' k hk' with ⟨_, heq⟩ | hheld'
      · exact absurd (heq ▸ hheld) (hnew j)
      · exact h.apart j j' k hheld hheld'
  · exact h.unique r r' (hgone r hr) (hgone r' hr') heq

theorem add (hinj : Function.Injective m.name) (h : Numbered m held s) {k : Nat} {row : ρ}
    (hname : m.nameOf row = m.name k) (hnot : ¬ Spent m held s (m.nameOf row))
    (hle : m.drawn s ≤ m.drawn t) (hk : k < m.drawn t) (hfree : ∀ i, k ∉ held' i)
    (hsub : ∀ i, held' i ⊆ held i) (hnew : ∀ r, m.present t r → m.present s r ∨ r = row) :
    Numbered m held' t ∧ Aged m held s held' t := by
  have hspent : ∀ a, Spent m held s a → Spent m held' t a := by
    intro a ha j hj
    exact ⟨(ha j hj).1.trans_le hle, fun i hi => (ha j hj).2 i (hsub i hi)⟩
  have hrow : Spent m held' t (m.nameOf row) := by
    intro j hj
    rw [hinj (hj.trans hname)]
    exact ⟨hk, hfree⟩
  have hother : ∀ r, m.present s r → m.nameOf r ≠ m.nameOf row :=
    fun r hr heq => hnot (heq ▸ h.spent r hr)
  refine ⟨⟨fun i j hj => (h.below i j (hsub i hj)).trans_le hle,
    fun i j l hi hj => h.apart i j l (hsub i hi) (hsub j hj), fun r r' hr hr' heq => ?_,
    fun r hr => ?_⟩, hspent, fun r hr ht => ?_⟩
  · rcases hnew r hr with hold | rfl
    · rcases hnew r' hr' with hold' | rfl
      · exact h.unique r r' hold hold' heq
      · exact absurd heq (hother r hold)
    · rcases hnew r' hr' with hold' | rfl
      · exact absurd heq.symm (hother r' hold')
      · rfl
  · rcases hnew r hr with hold | rfl
    · exact hspent _ (h.spent r hold)
    · exact hrow
  · rcases hnew r ht with hold | rfl
    · exact hold
    · exact absurd hr hnot

end Numbered

structure Ledger (m : Mint σ ρ μ) (held : ι → Set Nat) (c : Crowd ι σ ε α) : Prop where
  mints : ∀ i, (c.threads i).Mints m (fun _ _ => True) (held i)
  numbered : Numbered m held c.state

namespace Ledger

variable {m : Mint σ ρ μ} {held : ι → Set Nat} {c d : Crowd ι σ ε α}
  {env : σ → σ → Prop} {allowed : Crowd ι σ ε α → ι → σ → Prop}

theorem outside (hinj : Function.Injective m.name) (h : Ledger m held c) {t : σ}
    (hout : m.Outside c.state t) :
    Ledger m held { c with state := t } ∧ Aged m held c.state held t := by
  rcases hout with ⟨hdrawn, hgone⟩ | ⟨hdrawn, row, hname, hnew⟩
  · obtain ⟨hnumbered, haged⟩ := h.numbered.shed hdrawn hgone
    exact ⟨⟨h.mints, hnumbered⟩, haged⟩
  · have hnot : ¬ Spent m held c.state (m.nameOf row) :=
      fun hspent => lt_irrefl _ (hspent _ hname.symm).1
    have hfree : ∀ i, m.drawn c.state ∉ held i :=
      fun i hi => lt_irrefl _ (h.numbered.below i _ hi)
    obtain ⟨hnumbered, haged⟩ := h.numbered.add hinj hname hnot (by omega) (by omega) hfree
      (fun _ _ hk => hk) hnew
    exact ⟨⟨h.mints, hnumbered⟩, haged⟩

theorem moves [DecidableEq ι] (hinj : Function.Injective m.name) (h : Ledger m held c) {i : ι}
    {p : Prog σ ε α} {t : σ} (hstep : Prog.Step (c.threads i, c.state) (p, t)) :
    ∃ held', Ledger m held' { state := t, threads := Function.update c.threads i p } ∧
      Aged m held c.state held' t := by
  obtain ⟨mine, hchange, hp⟩ := (h.mints i).step hstep
  have hmints : ∀ held' : ι → Set Nat, held' i = mine → (∀ j, j ≠ i → held' j = held j) →
      ∀ j, (Function.update c.threads i p j).Mints m (fun _ _ => True) (held' j) := by
    intro held' hself hother j
    by_cases hj : j = i
    · subst hj
      rw [Function.update_self, hself]
      exact hp
    · rw [Function.update_of_ne hj, hother j hj]
      exact h.mints j
  cases hchange with
  | quiet hdrawn hgone =>
    obtain ⟨hnumbered, haged⟩ := h.numbered.shed hdrawn hgone
    exact ⟨held, ⟨hmints held rfl (fun _ _ => rfl), hnumbered⟩, haged⟩
  | draws hdrawn hgone =>
    obtain ⟨hnumbered, haged⟩ := h.numbered.draw i hdrawn hgone
    exact ⟨_, ⟨hmints _ (Function.update_self i _ held)
      (fun j hj => Function.update_of_ne hj _ held), hnumbered⟩, haged⟩
  | mints k row hk hname hdrawn hnew =>
    have hfree : ∀ j, k ∉ Function.update held i (held i \ {k}) j := by
      intro j hj
      by_cases hji : j = i
      · subst hji
        rw [Function.update_self] at hj
        exact hj.2 rfl
      · rw [Function.update_of_ne hji] at hj
        exact hji (h.numbered.apart j i k hj hk)
    have hsub : ∀ j, Function.update held i (held i \ {k}) j ⊆ held j := by
      intro j l hl
      by_cases hji : j = i
      · subst hji
        rw [Function.update_self] at hl
        exact hl.1
      · rw [Function.update_of_ne hji] at hl
        exact hl
    have hnot : ¬ Spent m held c.state (m.nameOf row) :=
      fun hspent => (hspent k hname.symm).2 i hk
    obtain ⟨hnumbered, haged⟩ := h.numbered.add hinj hname hnot (le_of_eq hdrawn.symm)
      (hdrawn ▸ h.numbered.below i k hk) hfree hsub hnew
    exact ⟨_, ⟨hmints _ (Function.update_self i _ held)
      (fun j hj => Function.update_of_ne hj _ held), hnumbered⟩, haged⟩

theorem run [DecidableEq ι] (hinj : Function.Injective m.name)
    (henv : ∀ s t, env s t → m.Outside s t) (h : Ledger m held c)
    (hrun : Crowd.RunWhere env allowed c d) :
    ∃ held', Ledger m held' d ∧ Aged m held c.state held' d.state := by
  induction hrun with
  | refl => exact ⟨held, h, .refl⟩
  | tail _ hstep ih =>
    obtain ⟨held', hledger, haged⟩ := ih
    cases hstep with
    | outside t ht =>
      obtain ⟨hnext, hstepped⟩ := hledger.outside hinj (henv _ _ ht)
      exact ⟨held', hnext, haged.trans hstepped⟩
    | moves i p t hp _ =>
      obtain ⟨held'', hnext, hstepped⟩ := hledger.moves hinj hp
      exact ⟨held'', hnext, haged.trans hstepped⟩

end Ledger

end Vokusz.Lib
