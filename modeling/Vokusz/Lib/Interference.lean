import Vokusz.Lib.RelyGuarantee

namespace Vokusz.Lib.Prog

variable {σ ε α β : Type}

structure Disturbed (σ ε α : Type) where
  result : Except ε α
  state : σ
  struck : Bool

def disturbed (env : σ → σ) : Prog σ ε α → Nat → σ → Disturbed σ ε α
  | .ret a, _, s => ⟨.ok a, s, false⟩
  | .fail e, _, s => ⟨.error e, s, false⟩
  | .step u n, 0, s => ⟨((n (env s)).exec (u (env s))).1, ((n (env s)).exec (u (env s))).2, true⟩
  | .step u n, k + 1, s => (n s).disturbed env k (u s)
  | .stmt u n _, 0, s => ⟨((n (env s)).exec (u (env s))).1, ((n (env s)).exec (u (env s))).2, true⟩
  | .stmt u n _, k + 1, s => (n s).disturbed env k (u s)

def Abides (I : σ → Prop) (p : Prog σ ε α) : Prop :=
  p.Respects (fun _ => True) (fun s t => I s → I t) (fun _ => True)

variable {env : σ → σ} {I : σ → Prop}

theorem Abides.keeps {p : Prog σ ε α} (h : p.Abides I) : p.Maintains I := by
  induction p with
  | ret a => trivial
  | fail e => trivial
  | step u n ih => exact fun s hs => ⟨(h s trivial).2.1 hs, ih s (h s trivial).2.2⟩
  | stmt u n q ih ihq =>
    exact ⟨fun s hs => ⟨(h.1 s trivial).2.1 hs, ih s (h.1 s trivial).2.2⟩, ihq h.2⟩

theorem Abides.exec {p : Prog σ ε α} (h : p.Abides I) {s : σ} (hs : I s) : I (p.exec s).2 :=
  (h.keeps.exec hs).1

theorem Abides.bind {p : Prog σ ε α} {f : α → Prog σ ε β} (h : p.Abides I)
    (hf : ∀ a, (f a).Abides I) : (p >>= f).Abides I :=
  Respects.bind h (fun a _ => hf a)

theorem Preserves.abides {γ : Type} {view : σ → γ} {p : Prog σ ε α} (h : p.Preserves view)
    (hI : ∀ s t, view t = view s → I s → I t) : p.Abides I :=
  h.respects (fun _ _ _ _ => trivial) (fun s t _ hview hs => hI s t hview hs)

theorem abides_statement {e : ε} {f : σ → Except ε α × σ} (h : ∀ s, I s → I (f s).2) :
    (statement e f).Abides I :=
  respects_statement (fun s _ => ⟨trivial, h s⟩) (fun _ _ _ _ => trivial)

theorem abides_forEach {f : α → Prog σ ε Unit} {xs : List α} (h : ∀ x ∈ xs, (f x).Abides I) :
    (forEach xs f).Abides I := by
  induction xs with
  | nil => trivial
  | cons x xs ih =>
    exact (h x List.mem_cons_self).bind (fun _ => ih (fun y hy => h y (List.mem_cons_of_mem x hy)))

theorem disturbed_struck {p : Prog σ ε α} (h : p.Abides I) (henv : ∀ s, I (env s)) {k : Nat}
    {s : σ} (hstruck : (p.disturbed env k s).struck = true) : I (p.disturbed env k s).state := by
  induction p generalizing k s with
  | ret a => cases hstruck
  | fail e => cases hstruck
  | step u n ih =>
    cases k with
    | zero => exact Abides.exec (p := .step u n) h (henv s)
    | succ k => exact ih s (h s trivial).2.2 hstruck
  | stmt u n q ih _ =>
    cases k with
    | zero => exact Abides.exec (p := .stmt u n q) h (henv s)
    | succ k => exact ih s (h.1 s trivial).2.2 hstruck

theorem disturbed_unstruck {p : Prog σ ε α} {k : Nat} {s : σ}
    (h : (p.disturbed env k s).struck = false) :
    p.exec s = ((p.disturbed env k s).result, (p.disturbed env k s).state) := by
  induction p generalizing k s with
  | ret a => rfl
  | fail e => rfl
  | step u n ih =>
    cases k with
    | zero => cases h
    | succ k => exact ih s h
  | stmt u n q ih _ =>
    cases k with
    | zero => cases h
    | succ k => exact ih s h

theorem undisturbed (env : σ → σ) (p : Prog σ ε α) (s : σ) :
    ∃ k, (p.disturbed env k s).struck = false := by
  induction p generalizing s with
  | ret a => exact ⟨0, rfl⟩
  | fail e => exact ⟨0, rfl⟩
  | step u n ih =>
    obtain ⟨k, hk⟩ := ih s (u s)
    exact ⟨k + 1, hk⟩
  | stmt u n q ih _ =>
    obtain ⟨k, hk⟩ := ih s (u s)
    exact ⟨k + 1, hk⟩

end Vokusz.Lib.Prog
