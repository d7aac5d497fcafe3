import Vokusz.Lib.Program

namespace Vokusz.Lib.Prog

variable {σ ε α β ι : Type} {γ : ι → Type} {field : (n : ι) → σ → γ n} {ns : List ι}

def Touches (field : (n : ι) → σ → γ n) (ns : List ι) (p : Prog σ ε α) : Prop :=
  ∀ n, n ∉ ns → p.Preserves (field n)

theorem Touches.mono {ms : List ι} {p : Prog σ ε α} (h : p.Touches field ms) (hsub : ms ⊆ ns) :
    p.Touches field ns :=
  fun n hn => h n (fun hm => hn (hsub hm))

theorem Touches.bind {p : Prog σ ε α} {f : α → Prog σ ε β} (h : p.Touches field ns)
    (hf : ∀ a, (f a).Touches field ns) : (p >>= f).Touches field ns :=
  fun n hn => (h n hn).bind (fun a => hf a n hn)

theorem Touches.attempt {p : Prog σ ε α} (h : p.Touches field ns) :
    p.attempt.Touches field ns :=
  fun n hn => (h n hn).attempt

theorem touches_pure (a : α) : (pure a : Prog σ ε α).Touches field ns :=
  fun _ _ => preserves_pure a

theorem touches_fail (e : ε) : (fail e : Prog σ ε α).Touches field ns :=
  fun _ _ => preserves_fail e

theorem touches_get (f : σ → α) : (get f : Prog σ ε α).Touches field ns :=
  fun _ _ => preserves_get f

theorem touches_require (c : Prop) [Decidable c] (e : ε) :
    (require c e : Prog σ ε Unit).Touches field ns :=
  fun _ _ => preserves_require c e

theorem touches_modify {f : σ → σ} (h : ∀ n, n ∉ ns → ∀ s, field n (f s) = field n s) :
    (modify f : Prog σ ε Unit).Touches field ns :=
  fun n hn => preserves_modify (h n hn)

theorem touches_statement {e : ε} {f : σ → Except ε α × σ}
    (h : ∀ n, n ∉ ns → ∀ s, field n (f s).2 = field n s) : (statement e f).Touches field ns :=
  fun n hn => preserves_statement (h n hn)

theorem touches_ite {c : Prop} [Decidable c] {p q : Prog σ ε α} (hp : p.Touches field ns)
    (hq : q.Touches field ns) : (if c then p else q).Touches field ns :=
  fun n hn => preserves_ite (hp n hn) (hq n hn)

theorem touches_forEach {f : α → Prog σ ε Unit} {xs : List α}
    (h : ∀ x ∈ xs, (f x).Touches field ns) : (forEach xs f).Touches field ns :=
  fun n hn => preserves_forEach (fun x hx => h x hx n hn)

variable {δ : Type} {view : σ → δ}

def Within (view : σ → δ) (p : Prog σ ε α) : Prop :=
  ∀ s t, view s = view t →
    (p.exec s).1 = (p.exec t).1 ∧ view (p.exec s).2 = view (p.exec t).2

theorem Within.bind {p : Prog σ ε α} {f : α → Prog σ ε β} (h : p.Within view)
    (hf : ∀ a, (f a).Within view) : (p >>= f).Within view := by
  intro s t hst
  obtain ⟨hresult, hview⟩ := h s t hst
  rcases exec_bind_cases p f s with ⟨e, s', hp, hbind⟩ | ⟨a, s', hp, hbind⟩
  · rcases exec_bind_cases p f t with ⟨e', t', hp', hbind'⟩ | ⟨a', t', hp', hbind'⟩
    · rw [hp, hp'] at hresult hview
      rw [hbind, hbind']
      cases hresult
      exact ⟨rfl, hview⟩
    · rw [hp, hp'] at hresult
      cases hresult
  · rcases exec_bind_cases p f t with ⟨e', t', hp', hbind'⟩ | ⟨a', t', hp', hbind'⟩
    · rw [hp, hp'] at hresult
      cases hresult
    · rw [hp, hp'] at hresult hview
      rw [hbind, hbind']
      cases hresult
      exact hf a s' t' hview

theorem within_pure (a : α) : (pure a : Prog σ ε α).Within view := fun _ _ h => ⟨rfl, h⟩

theorem within_require (c : Prop) [Decidable c] (e : ε) :
    (require c e : Prog σ ε Unit).Within view := by
  intro s t h
  rw [exec_require, exec_require]
  exact ⟨rfl, h⟩

theorem within_query {e : ε} {g : δ → Except ε α} :
    (query e (fun s => g (view s))).Within view := by
  intro s t h
  rw [exec_query, exec_query]
  exact ⟨congrArg g h, h⟩

theorem within_statement {e : ε} {f : σ → Except ε α × σ}
    (h : ∀ s t, view s = view t → (f s).1 = (f t).1 ∧ view (f s).2 = view (f t).2) :
    (statement e f).Within view := by
  intro s t hst
  rw [exec_statement, exec_statement]
  exact h s t hst

theorem within_ite {c : Prop} [Decidable c] {p q : Prog σ ε α} (hp : p.Within view)
    (hq : q.Within view) : (if c then p else q).Within view := by
  split
  · exact hp
  · exact hq

theorem within_forEach {f : α → Prog σ ε Unit} {xs : List α} (h : ∀ x ∈ xs, (f x).Within view) :
    (forEach xs f).Within view := by
  induction xs with
  | nil => exact within_pure ()
  | cons x xs ih =>
    have hrest := ih (fun y hy => h y (List.mem_cons_of_mem x hy))
    exact (h x List.mem_cons_self).bind (fun _ => hrest)

end Vokusz.Lib.Prog
