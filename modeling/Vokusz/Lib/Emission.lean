import Vokusz.Lib.Program
import Mathlib.Data.List.Basic

namespace Vokusz.Lib.Prog

variable {σ ε α β γ : Type}

def Emits (log : σ → List γ) (P : γ → Prop) (p : Prog σ ε α) (s : σ) : Prop :=
  ∀ item ∈ (log (p.exec s).2).drop (log s).length, P item

variable {log : σ → List γ} {P : γ → Prop}

section

variable {p : Prog σ ε α}

theorem emits_of_exec {s t : σ} {r : Except ε α} {items : List γ} (hexec : p.exec s = (r, t))
    (hlog : log t = log s ++ items) :
    p.Emits log P s ↔ ∀ item ∈ items, P item := by
  unfold Emits
  rw [hexec, hlog, List.drop_left]

theorem emits_of_preserves (h : p.Preserves log) (s : σ) :
    p.Emits log P s := by
  unfold Emits
  rw [h.exec s, List.drop_length]
  exact fun _ hnone => nomatch hnone

theorem emits_of_error {s t : σ} {e : ε} (h : p.exec s = (.error e, t)) (hlog : log t = log s) :
    p.Emits log P s := by
  unfold Emits
  rw [h, hlog, List.drop_length]
  exact fun _ hnone => nomatch hnone

theorem emits_bind {f : α → Prog σ ε β} {s : σ} (h : p.Preserves log) :
    (p >>= f).Emits log P s ↔ ∀ a t, p.exec s = (.ok a, t) → (f a).Emits log P t := by
  rcases exec_bind_cases p f s with ⟨e, t, hp, hbind⟩ | ⟨a, t, hp, hbind⟩
  · constructor
    · intro _ a u ha
      rw [hp] at ha
      cases ha
    · exact fun _ => emits_of_error hbind (h.of_exec hp)
  · have hsame : (p >>= f).Emits log P s ↔ (f a).Emits log P t := by
      unfold Emits
      rw [hbind, h.of_exec hp]
    rw [hsame]
    constructor
    · intro hf b u hb
      rw [hp] at hb
      cases hb
      exact hf
    · exact fun hall => hall a t hp

theorem emits_bind_silent {f : α → Prog σ ε β} {s : σ} (hf : ∀ a, (f a).Preserves log) :
    (p >>= f).Emits log P s ↔ p.Emits log P s := by
  unfold Emits
  rw [Preserves.exec_bind hf p s]

theorem emits_attempt {s : σ} :
    p.attempt.Emits log P s ↔ p.Emits log P s := by
  unfold Emits
  rw [exec_attempt]

end

theorem emits_require {c : Prop} [Decidable c] {e : ε} {f : Unit → Prog σ ε α} {s : σ} :
    (require c e >>= f).Emits log P s ↔ (c → (f ()).Emits log P s) := by
  rw [require_bind]
  split
  · rename_i hc
    exact ⟨fun h _ => h, fun h => h hc⟩
  · rename_i hc
    exact ⟨fun _ h => absurd h hc, fun _ => emits_of_preserves (preserves_fail e) s⟩

theorem emits_ofExcept {r : Except ε α} {f : α → Prog σ ε β} {s : σ} :
    (ofExcept r >>= f).Emits log P s ↔ ∀ a, r = .ok a → (f a).Emits log P s := by
  rw [emits_bind (preserves_ofExcept r)]
  simp only [exec_ofExcept, Prod.mk.injEq]
  exact ⟨fun h a ha => h a s ⟨ha, rfl⟩, fun h a t hat => hat.2 ▸ h a hat.1⟩

end Vokusz.Lib.Prog
