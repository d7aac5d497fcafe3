import Mathlib.Logic.Basic
import Mathlib.Logic.Relation

namespace Vokusz.Lib

variable {σ ε α β γ : Type}

inductive Prog (σ ε α : Type) : Type where
  | ret (value : α)
  | fail (error : ε)
  | step (update : σ → σ) (next : σ → Prog σ ε α)
  | stmt (update : σ → σ) (next : σ → Prog σ ε α) (fault : Prog σ ε α)

namespace Prog

def bind : Prog σ ε α → (α → Prog σ ε β) → Prog σ ε β
  | .ret a, f => f a
  | .fail e, _ => .fail e
  | .step u n, f => .step u (fun s => (n s).bind f)
  | .stmt u n q, f => .stmt u (fun s => (n s).bind f) (q.bind f)

instance : Monad (Prog σ ε) where
  pure := .ret
  bind := Prog.bind

theorem bind_assoc' (p : Prog σ ε α) (f : α → Prog σ ε β) (g : β → Prog σ ε γ) :
    (p.bind f).bind g = p.bind (fun a => (f a).bind g) := by
  induction p with
  | ret a => rfl
  | fail e => rfl
  | step u n ih => simp only [Prog.bind, ih]
  | stmt u n q ih ihq => simp only [Prog.bind, ih, ihq]

theorem bind_ret (p : Prog σ ε α) : p.bind .ret = p := by
  induction p with
  | ret a => rfl
  | fail e => rfl
  | step u n ih => simp only [Prog.bind, ih]
  | stmt u n q ih ihq => simp only [Prog.bind, ih, ihq]

instance : LawfulMonad (Prog σ ε) := 
  LawfulMonad.mk' _ (fun p => bind_ret p) (fun _ _ => rfl) bind_assoc'

def attempt : Prog σ ε α → Prog σ ε (Except ε α)
  | .ret a => .ret (.ok a)
  | .fail e => .ret (.error e)
  | .step u n => .step u (fun s => (n s).attempt)
  | .stmt u n q => .stmt u (fun s => (n s).attempt) q.attempt

def get (f : σ → α) : Prog σ ε α := .step id (fun s => .ret (f s))

def modify (f : σ → σ) : Prog σ ε Unit := .step f (fun _ => .ret ())

def ofExcept : Except ε α → Prog σ ε α
  | .ok a => .ret a
  | .error e => .fail e

def require (c : Prop) [Decidable c] (e : ε) : Prog σ ε Unit :=
  if c then .ret () else .fail e

def statement (fault : ε) (f : σ → Except ε α × σ) : Prog σ ε α :=
  .stmt (fun s => (f s).2) (fun s => ofExcept (f s).1) (.fail fault)

def query (fault : ε) (f : σ → Except ε α) : Prog σ ε α :=
  .stmt id (fun s => ofExcept (f s)) (.fail fault)

def forEach (xs : List α) (f : α → Prog σ ε Unit) : Prog σ ε Unit :=
  match xs with
  | [] => .ret ()
  | x :: xs => (f x).bind (fun _ => forEach xs f)

def exec : Prog σ ε α → σ → Except ε α × σ
  | .ret a, s => (.ok a, s)
  | .fail e, s => (.error e, s)
  | .step u n, s => (n s).exec (u s)
  | .stmt u n _, s => (n s).exec (u s)

@[simp] theorem exec_pure (a : α) (s : σ) :
    (pure a : Prog σ ε α).exec s = (.ok a, s) := rfl

@[simp] theorem exec_ret (a : α) (s : σ) : (ret a : Prog σ ε α).exec s = (.ok a, s) := rfl

@[simp] theorem exec_fail (e : ε) (s : σ) :
    (fail e : Prog σ ε α).exec s = (.error e, s) := rfl

@[simp] theorem exec_get (f : σ → α) (s : σ) :
    (get f : Prog σ ε α).exec s = (.ok (f s), s) := rfl

@[simp] theorem exec_modify (f : σ → σ) (s : σ) :
    (modify f : Prog σ ε Unit).exec s = (.ok (), f s) := rfl

@[simp] theorem exec_ofExcept (r : Except ε α) (s : σ) :
    (ofExcept r : Prog σ ε α).exec s = (r, s) := by
  cases r <;> rfl

@[simp] theorem exec_require (c : Prop) [Decidable c] (e : ε) (s : σ) :
    (require c e : Prog σ ε Unit).exec s = (if c then .ok () else .error e, s) := by
  by_cases hc : c <;> simp [require, hc]

@[simp] theorem exec_statement (e : ε) (f : σ → Except ε α × σ) (s : σ) :
    (statement e f).exec s = f s := by
  simp [statement, exec]

@[simp] theorem exec_query (e : ε) (f : σ → Except ε α) (s : σ) :
    (query e f).exec s = (f s, s) := by
  simp [query, exec]

theorem exec_bind (p : Prog σ ε α) (f : α → Prog σ ε β) (s : σ) :
    (p >>= f).exec s =
      match p.exec s with
      | (.ok a, s') => (f a).exec s'
      | (.error e, s') => (.error e, s') := by
  change (p.bind f).exec s = _
  induction p generalizing s with
  | ret a => rfl
  | fail e => rfl
  | step u n ih => exact ih s (u s)
  | stmt u n q ih _ => exact ih s (u s)

section

variable {p : Prog σ ε α} {f : α → Prog σ ε β} {s s' : σ}

theorem exec_bind_of_ok {a : α} (h : p.exec s = (.ok a, s')) :
    (p >>= f).exec s = (f a).exec s' := by
  rw [exec_bind, h]

theorem exec_bind_of_error {e : ε} (h : p.exec s = (.error e, s')) :
    (p >>= f).exec s = (.error e, s') := by
  rw [exec_bind, h]

theorem exec_bind_ok {b : β} :
    (p >>= f).exec s = (.ok b, s') ↔
      ∃ a t, p.exec s = (.ok a, t) ∧ (f a).exec t = (.ok b, s') := by
  rw [exec_bind]
  rcases hp : p.exec s with ⟨r, t⟩
  cases r with
  | error e => simp
  | ok a =>
    constructor
    · intro h
      exact ⟨a, t, rfl, h⟩
    · rintro ⟨a', t', h, hf⟩
      cases h
      exact hf

end

def Succeeds (p : Prog σ ε α) (s : σ) : Prop := ∃ a t, p.exec s = (.ok a, t)

theorem exec_bind_cases (p : Prog σ ε α) (f : α → Prog σ ε β) (s : σ) :
    (∃ e t, p.exec s = (.error e, t) ∧ (p >>= f).exec s = (.error e, t)) ∨
      ∃ a t, p.exec s = (.ok a, t) ∧ (p >>= f).exec s = (f a).exec t := by
  rcases hp : p.exec s with ⟨r, t⟩
  cases r with
  | error e => exact .inl ⟨e, t, rfl, exec_bind_of_error hp⟩
  | ok a => exact .inr ⟨a, t, rfl, exec_bind_of_ok hp⟩

theorem exec_bind_pure (p : Prog σ ε α) (f : α → β) (s : σ) :
    ((p >>= fun a => pure (f a)).exec s).2 = (p.exec s).2 := by
  rw [exec_bind]
  rcases p.exec s with ⟨r, t⟩
  cases r <;> rfl

theorem succeeds_bind_pure {p : Prog σ ε α} {f : α → β} {s : σ} :
    (p >>= fun a => pure (f a)).Succeeds s ↔ p.Succeeds s := by
  constructor
  · rintro ⟨b, t, h⟩
    obtain ⟨a, t', hp, _⟩ := exec_bind_ok.mp h
    exact ⟨a, t', hp⟩
  · rintro ⟨a, t, h⟩
    exact ⟨f a, t, exec_bind_of_ok h⟩

theorem succeeds_bind_of_ok {p : Prog σ ε α} {f : α → Prog σ ε β} {s s' : σ} {a : α}
    (h : p.exec s = (.ok a, s')) (hf : (f a).Succeeds s') : (p >>= f).Succeeds s := by
  obtain ⟨b, t, hb⟩ := hf
  exact ⟨b, t, (exec_bind_of_ok h).trans hb⟩

theorem succeeds_iff {p : Prog σ ε α} {s : σ} :
    p.Succeeds s ↔ (p.exec s).1.toOption.isSome = true := by
  unfold Succeeds
  rcases p.exec s with ⟨r, t⟩
  cases r <;> simp [Except.toOption]

theorem exec_of_toOption {p : Prog σ ε α} {s : σ} {a : α}
    (h : (p.exec s).1.toOption = some a) : p.exec s = (.ok a, (p.exec s).2) := by
  rcases hp : p.exec s with ⟨r, t⟩
  rw [hp] at h
  cases r with
  | error e => cases h
  | ok b =>
    rw [Option.some_inj.mp h]

instance (p : Prog σ ε α) (s : σ) : Decidable (p.Succeeds s) :=
  decidable_of_iff _ succeeds_iff.symm

theorem require_bind (c : Prop) [Decidable c] (e : ε) (f : Unit → Prog σ ε α) :
    (require c e >>= f) = if c then f () else .fail e := by
  by_cases hc : c
  · rw [require, if_pos hc, if_pos hc]
    rfl
  · rw [require, if_neg hc, if_neg hc]
    rfl

theorem exec_require_ok {c : Prop} [Decidable c] {e : ε} {u : Unit} {s s' : σ} :
    (require c e : Prog σ ε Unit).exec s = (.ok u, s') ↔ c ∧ s = s' := by
  by_cases hc : c <;> simp [require, hc]

theorem exec_ofExcept_ok {r : Except ε α} {a : α} {s s' : σ} :
    (ofExcept r : Prog σ ε α).exec s = (.ok a, s') ↔ r = .ok a ∧ s = s' := by
  simp

theorem exec_attempt (p : Prog σ ε α) (s : σ) :
    p.attempt.exec s = (.ok (p.exec s).1, (p.exec s).2) := by
  induction p generalizing s with
  | ret a => rfl
  | fail e => rfl
  | step u n ih => exact ih s (u s)
  | stmt u n q ih _ => exact ih s (u s)

@[simp] theorem exec_forEach_nil (f : α → Prog σ ε Unit) (s : σ) :
    (forEach [] f).exec s = (.ok (), s) := rfl

theorem forEach_cons (x : α) (xs : List α) (f : α → Prog σ ε Unit) :
    forEach (x :: xs) f = (f x >>= fun _ => forEach xs f) := rfl

def Total (p : Prog σ ε α) : Prop := ∀ s, ∃ a t, p.exec s = (.ok a, t)

theorem total_pure (a : α) : (pure a : Prog σ ε α).Total := fun s => ⟨a, s, rfl⟩

theorem total_get (f : σ → α) : (get f : Prog σ ε α).Total := fun s => ⟨f s, s, rfl⟩

theorem total_modify (f : σ → σ) : (modify f : Prog σ ε Unit).Total := fun s => ⟨(), f s, rfl⟩

theorem total_attempt (p : Prog σ ε α) : p.attempt.Total :=
  fun s => ⟨(p.exec s).1, (p.exec s).2, exec_attempt p s⟩

theorem Total.bind {p : Prog σ ε α} {f : α → Prog σ ε β} (h : p.Total)
    (hf : ∀ a, (f a).Total) : (p >>= f).Total := by
  intro s
  obtain ⟨a, t, ha⟩ := h s
  obtain ⟨b, u, hb⟩ := hf a t
  exact ⟨b, u, exec_bind_ok.mpr ⟨a, t, ha, hb⟩⟩

theorem total_ite {c : Prop} [Decidable c] {p q : Prog σ ε α} (hp : p.Total) (hq : q.Total) :
    (if c then p else q).Total := by
  split
  · exact hp
  · exact hq

theorem total_forEach {xs : List α} {f : α → Prog σ ε Unit} (h : ∀ x, (f x).Total) :
    (forEach xs f).Total := by
  induction xs with
  | nil => exact total_pure ()
  | cons x xs ih => exact (h x).bind (fun _ => ih)

inductive Step : Prog σ ε α × σ → Prog σ ε α × σ → Prop
  | step (u n s) : Step (.step u n, s) (n s, u s)
  | stmt (u n q s) : Step (.stmt u n q, s) (n s, u s)
  | fault (u n q s) : Step (.stmt u n q, s) (q, s)

theorem step_statement_bind {e : ε} {f : σ → Except ε α × σ} {rest : α → Prog σ ε β}
    {q : Prog σ ε β} {s t : σ} (h : Step (statement e f >>= rest, s) (q, t)) :
    q = .fail e ∧ t = s ∨
      (∃ e', (f s).1 = .error e' ∧ q = .fail e' ∧ t = (f s).2) ∨
      ∃ a, (f s).1 = .ok a ∧ q = rest a ∧ t = (f s).2 := by
  cases h with
  | fault u n q s => exact .inl ⟨rfl, rfl⟩
  | stmt u n q s =>
    dsimp only
    cases hf : (f s).1 with
    | error e' => exact .inr (.inl ⟨e', rfl, rfl, rfl⟩)
    | ok a => exact .inr (.inr ⟨a, rfl, rfl, rfl⟩)

theorem step_query_bind {e : ε} {f : σ → Except ε α} {rest : α → Prog σ ε β}
    {q : Prog σ ε β} {s t : σ} (h : Step (query e f >>= rest, s) (q, t)) :
    t = s ∧ ((∃ e', q = .fail e') ∨ ∃ a, f s = .ok a ∧ q = rest a) := by
  cases h with
  | fault u n q s => exact ⟨rfl, .inl ⟨e, rfl⟩⟩
  | stmt u n q s =>
    refine ⟨rfl, ?_⟩
    dsimp only
    cases hf : f s with
    | error e' => exact .inl ⟨e', rfl⟩
    | ok a => exact .inr ⟨a, rfl, rfl⟩

def tick : Prog σ ε α → σ → Option (Prog σ ε α × σ)
  | .ret _, _ => none
  | .fail _, _ => none
  | .step u n, s => some (n s, u s)
  | .stmt u n _, s => some (n s, u s)

def faulted : Prog σ ε α → Option (Prog σ ε α)
  | .stmt _ _ q => some q
  | _ => none

theorem step_iff {p q : Prog σ ε α} {s t : σ} :
    Step (p, s) (q, t) ↔ p.tick s = some (q, t) ∨ (p.faulted = some q ∧ t = s) := by
  constructor
  · intro h
    cases h with
    | step u n s => exact .inl rfl
    | stmt u n q s => exact .inl rfl
    | fault u n q s => exact .inr ⟨rfl, rfl⟩
  · rintro (h | ⟨h, rfl⟩)
    · cases p with
      | ret a => cases h
      | fail e => cases h
      | step u n =>
        cases h
        exact .step u n s
      | stmt u n q =>
        cases h
        exact .stmt u n q s
    · cases p with
      | stmt u n r =>
        cases h
        exact .fault u n q t
      | _ => cases h

theorem step_iff_of_moves {τ : Type} {program : τ → Prog σ ε α} {next : Option (τ × σ)}
    {fault : Option τ} {p q : Prog σ ε α} {s t : σ}
    (htick : p.tick s = next.map (fun r => (program r.1, r.2)))
    (hfaulted : p.faulted = fault.map program) :
    Step (p, s) (q, t) ↔
      ∃ u, program u = q ∧ (next = some (u, t) ∨ fault = some u ∧ t = s) := by
  rw [step_iff, htick, hfaulted]
  constructor
  · rintro (hmoved | ⟨hfailed, rfl⟩)
    · obtain ⟨⟨u, _⟩, hnext, heq⟩ := Option.map_eq_some_iff.mp hmoved
      cases heq
      exact ⟨u, rfl, .inl hnext⟩
    · obtain ⟨u, hfault, rfl⟩ := Option.map_eq_some_iff.mp hfailed
      exact ⟨u, rfl, .inr ⟨hfault, rfl⟩⟩
  · rintro ⟨u, rfl, rfl | ⟨rfl, rfl⟩⟩
    · exact .inl rfl
    · exact .inr ⟨rfl, rfl⟩

theorem tick_bind {p : Prog σ ε α} (hp : ∀ a, p ≠ .ret a) (f : α → Prog σ ε β) (s : σ) :
    (p >>= f).tick s = (p.tick s).map (fun r => (r.1 >>= f, r.2)) := by
  cases p with
  | ret a => exact absurd rfl (hp a)
  | fail e => rfl
  | step u n => rfl
  | stmt u n q => rfl

theorem faulted_bind {p : Prog σ ε α} (hp : ∀ a, p ≠ .ret a) (f : α → Prog σ ε β) :
    (p >>= f).faulted = p.faulted.map (fun q => q >>= f) := by
  cases p with
  | ret a => exact absurd rfl (hp a)
  | fail e => rfl
  | step u n => rfl
  | stmt u n q => rfl

theorem tick_query (e : ε) (f : σ → Except ε α) (s : σ) :
    (query e f).tick s = some (ofExcept (f s), s) := rfl

theorem tick_attempt (p : Prog σ ε α) (s : σ) :
    p.attempt.tick s = (p.tick s).map (fun r => (r.1.attempt, r.2)) := by
  cases p <;> rfl

theorem faulted_attempt (p : Prog σ ε α) :
    p.attempt.faulted = p.faulted.map Prog.attempt := by
  cases p <;> rfl

theorem exec_steps (p : Prog σ ε α) (s : σ) :
    ∃ q, Relation.ReflTransGen Step (p, s) (q, (p.exec s).2) ∧
      q = ofExcept (p.exec s).1 := by
  induction p generalizing s with
  | ret a => exact ⟨_, .refl, rfl⟩
  | fail e => exact ⟨_, .refl, rfl⟩
  | step u n ih =>
    obtain ⟨q, hq, hr⟩ := ih s (u s)
    exact ⟨q, .head (.step u n s) hq, hr⟩
  | stmt u n q ih _ =>
    obtain ⟨r, hr, hq⟩ := ih s (u s)
    exact ⟨r, .head (.stmt u n q s) hr, hq⟩

def ticks : Nat → Prog σ ε α × σ → Prog σ ε α × σ
  | 0, x => x
  | n + 1, x =>
    match x.1.tick x.2 with
    | some y => ticks n y
    | none => x

theorem ticks_steps (n : Nat) (x : Prog σ ε α × σ) :
    Relation.ReflTransGen Step x (ticks n x) := by
  induction n generalizing x with
  | zero => exact .refl
  | succ n ih =>
    unfold ticks
    cases hx : x.1.tick x.2 with
    | none => exact .refl
    | some y => exact .head (step_iff.mpr (.inl hx)) (ih y)

def Keeps (I : σ → Prop) (Q : α → Prop) : Prog σ ε α → Prop
  | .ret a => Q a
  | .fail _ => True
  | .step u n => ∀ s, I s → I (u s) ∧ (n s).Keeps I Q
  | .stmt u n q => (∀ s, I s → I (u s) ∧ (n s).Keeps I Q) ∧ q.Keeps I Q

abbrev Maintains (p : Prog σ ε α) (I : σ → Prop) : Prop := p.Keeps I (fun _ => True)

variable {I : σ → Prop} {Q : α → Prop} {R : β → Prop}

theorem Keeps.mono {Q' : α → Prop} {p : Prog σ ε α} (h : p.Keeps I Q)
    (hQ : ∀ a, Q a → Q' a) : p.Keeps I Q' := by
  induction p with
  | ret a => exact hQ a h
  | fail e => trivial
  | step u n ih => exact fun s hs => ⟨(h s hs).1, ih s (h s hs).2⟩
  | stmt u n q ih ihq =>
    exact ⟨fun s hs => ⟨(h.1 s hs).1, ih s (h.1 s hs).2⟩, ihq h.2⟩

theorem keeps_true (p : Prog σ ε α) : p.Keeps (fun _ => True) (fun _ => True) := by
  induction p with
  | ret a => trivial
  | fail e => trivial
  | step u n ih => exact fun s _ => ⟨trivial, ih s⟩
  | stmt u n q ih ihq => exact ⟨fun s _ => ⟨trivial, ih s⟩, ihq⟩

theorem Keeps.bind {p : Prog σ ε α} {f : α → Prog σ ε β} (h : p.Keeps I Q)
    (hf : ∀ a, Q a → (f a).Keeps I R) : (p >>= f).Keeps I R := by
  change (p.bind f).Keeps I R
  induction p with
  | ret a => exact hf a h
  | fail e => trivial
  | step u n ih => exact fun s hs => ⟨(h s hs).1, ih s (h s hs).2⟩
  | stmt u n q ih ihq =>
    exact ⟨fun s hs => ⟨(h.1 s hs).1, ih s (h.1 s hs).2⟩, ihq h.2⟩

theorem Keeps.attempt {p : Prog σ ε α} (h : p.Keeps I Q) :
    p.attempt.Keeps I (fun r => ∀ a, r = .ok a → Q a) := by
  induction p with
  | ret a => exact fun b hb => by cases hb; exact h
  | fail e => exact fun b hb => by cases hb
  | step u n ih => exact fun s hs => ⟨(h s hs).1, ih s (h s hs).2⟩
  | stmt u n q ih ihq =>
    exact ⟨fun s hs => ⟨(h.1 s hs).1, ih s (h.1 s hs).2⟩, ihq h.2⟩

theorem keeps_get {Q : α → Prop} {f : σ → α} (h : ∀ s, I s → Q (f s)) :
    (get f : Prog σ ε α).Keeps I Q :=
  fun s hs => ⟨hs, h s hs⟩

theorem keeps_modify {f : σ → σ} (h : ∀ s, I s → I (f s)) :
    (modify f : Prog σ ε Unit).Keeps I (fun _ => True) :=
  fun s hs => ⟨h s hs, trivial⟩

theorem keeps_ofExcept {r : Except ε α} (h : ∀ a, r = .ok a → Q a) :
    (ofExcept r : Prog σ ε α).Keeps I Q := by
  cases r with
  | ok a => exact h a rfl
  | error e => trivial

theorem keeps_require {c : Prop} [Decidable c] {e : ε} :
    (require c e : Prog σ ε Unit).Keeps I (fun _ => c) := by
  by_cases hc : c
  · simpa [require, hc] using (show (ret () : Prog σ ε Unit).Keeps I (fun _ => True) from trivial)
  · simp only [require, hc, if_false]
    trivial

theorem keeps_statement {e : ε} {f : σ → Except ε α × σ} (hI : ∀ s, I s → I (f s).2)
    (hQ : ∀ s, I s → ∀ a, (f s).1 = .ok a → Q a) : (statement e f).Keeps I Q :=
  ⟨fun s hs => ⟨hI s hs, keeps_ofExcept (hQ s hs)⟩, trivial⟩

theorem keeps_query {e : ε} {f : σ → Except ε α}
    (hQ : ∀ s, I s → ∀ a, f s = .ok a → Q a) : (query e f).Keeps I Q :=
  ⟨fun s hs => ⟨hs, keeps_ofExcept (hQ s hs)⟩, trivial⟩

theorem keeps_ite {c : Prop} [Decidable c] {p q : Prog σ ε α} (hp : p.Keeps I Q)
    (hq : q.Keeps I Q) : (if c then p else q).Keeps I Q := by
  split
  · exact hp
  · exact hq

theorem keeps_forEach_all {f : α → Prog σ ε Unit} {Q : α → Prop} {xs : List α}
    (h : ∀ x ∈ xs, (f x).Keeps I (fun _ => Q x)) :
    (forEach xs f).Keeps I (fun _ => ∀ x ∈ xs, Q x) := by
  induction xs with
  | nil => exact fun x hx => absurd hx List.not_mem_nil
  | cons x xs ih =>
    have hrest := ih (fun y hy => h y (List.mem_cons_of_mem x hy))
    refine Keeps.bind (h x List.mem_cons_self) (fun _ hx => hrest.mono (fun _ hxs => ?_))
    intro y hy
    rcases List.mem_cons.mp hy with rfl | hy
    · exact hx
    · exact hxs y hy

theorem keeps_forEach {f : α → Prog σ ε Unit} {xs : List α}
    (h : ∀ x ∈ xs, (f x).Keeps I (fun _ => True)) :
    (forEach xs f).Keeps I (fun _ => True) :=
  (keeps_forEach_all h).mono (fun _ _ => trivial)

theorem Keeps.exec {p : Prog σ ε α} (h : p.Keeps I Q) {s : σ} (hs : I s) :
    I (p.exec s).2 ∧ ∀ a, (p.exec s).1 = .ok a → Q a := by
  induction p generalizing s with
  | ret a => exact ⟨hs, fun b hb => by cases hb; exact h⟩
  | fail e => exact ⟨hs, fun b hb => by cases hb⟩
  | step u n ih => exact ih s (h s hs).2 (h s hs).1
  | stmt u n q ih _ => exact ih s (h.1 s hs).2 (h.1 s hs).1

theorem Keeps.step {p q : Prog σ ε α} {s t : σ} (h : p.Keeps I Q) (hs : I s)
    (hstep : Step (p, s) (q, t)) : I t ∧ q.Keeps I Q := by
  cases hstep with
  | step u n s => exact h s hs
  | stmt u n q s => exact h.1 s hs
  | fault u n q s => exact ⟨hs, h.2⟩

theorem Keeps.run {p q : Prog σ ε α} {s t : σ} (h : p.Keeps I Q) (hs : I s)
    (hrun : Relation.ReflTransGen Step (p, s) (q, t)) : I t ∧ q.Keeps I Q := by
  have hkeep : ∀ x y : Prog σ ε α × σ, Relation.ReflTransGen Step x y →
      I x.2 ∧ x.1.Keeps I Q → I y.2 ∧ y.1.Keeps I Q := by
    intro x y hxy hx
    induction hxy with
    | refl => exact hx
    | tail _ hstep ih => exact ih.2.step ih.1 hstep
  exact hkeep _ _ hrun ⟨hs, h⟩

def Preserves (view : σ → γ) : Prog σ ε α → Prop
  | .ret _ => True
  | .fail _ => True
  | .step u n => ∀ s, view (u s) = view s ∧ (n s).Preserves view
  | .stmt u n q => (∀ s, view (u s) = view s ∧ (n s).Preserves view) ∧ q.Preserves view

variable {view : σ → γ}

theorem Preserves.exec {p : Prog σ ε α} (h : p.Preserves view) (s : σ) :
    view (p.exec s).2 = view s := by
  induction p generalizing s with
  | ret a => rfl
  | fail e => rfl
  | step u n ih => exact (ih s (h s).2 (u s)).trans (h s).1
  | stmt u n q ih _ => exact (ih s (h.1 s).2 (u s)).trans (h.1 s).1

theorem Preserves.tick {p q : Prog σ ε α} (h : p.Preserves view) {s t : σ}
    (htick : p.tick s = some (q, t)) : view t = view s ∧ q.Preserves view := by
  cases p with
  | ret a => cases htick
  | fail e => cases htick
  | step u n =>
    cases htick
    exact h s
  | stmt u n r =>
    cases htick
    exact h.1 s

theorem Preserves.step {p q : Prog σ ε α} (h : p.Preserves view) {s t : σ}
    (hstep : Step (p, s) (q, t)) : view t = view s ∧ q.Preserves view := by
  cases hstep with
  | step u n s => exact h s
  | stmt u n q s => exact h.1 s
  | fault u n q s => exact ⟨rfl, h.2⟩

section

variable {p : Prog σ ε α}

theorem Preserves.keeps (h : p.Preserves view) (hI : ∀ s t, view t = view s → I s → I t) :
    p.Keeps I (fun _ => True) := by
  induction p with
  | ret a => trivial
  | fail e => trivial
  | step u n ih => exact fun s hs => ⟨hI s (u s) (h s).1 hs, ih s (h s).2⟩
  | stmt u n q ih ihq =>
    exact ⟨fun s hs => ⟨hI s (u s) (h.1 s).1 hs, ih s (h.1 s).2⟩, ihq h.2⟩

theorem Preserves.keeps_of_still (h : p.Preserves (fun s => s)) :
    p.Keeps I (fun _ => True) := by
  refine h.keeps (fun s t hst hs => ?_)
  rw [show t = s from hst]
  exact hs

theorem Preserves.pair {δ : Type} {view' : σ → δ} (h : p.Preserves view) (h' : p.Preserves view') :
    p.Preserves (fun s => (view s, view' s)) := by
  induction p with
  | ret a => trivial
  | fail e => trivial
  | step u n ih =>
    exact fun s => ⟨Prod.ext (h s).1 (h' s).1, ih s (h s).2 (h' s).2⟩
  | stmt u n q ih ihq =>
    exact ⟨fun s => ⟨Prod.ext (h.1 s).1 (h'.1 s).1, ih s (h.1 s).2 (h'.1 s).2⟩, ihq h.2 h'.2⟩

theorem Preserves.map {δ : Type} (h : p.Preserves view) (f : γ → δ) :
    p.Preserves (fun s => f (view s)) := by
  induction p with
  | ret a => trivial
  | fail e => trivial
  | step u n ih => exact fun s => ⟨congrArg f (h s).1, ih s (h s).2⟩
  | stmt u n q ih ihq =>
    exact ⟨fun s => ⟨congrArg f (h.1 s).1, ih s (h.1 s).2⟩, ihq h.2⟩

theorem Preserves.of_exec (h : p.Preserves view) {s s' : σ} {r : Except ε α}
    (hexec : p.exec s = (r, s')) : view s' = view s := by
  have hview := h.exec s
  rw [hexec] at hview
  exact hview

theorem Preserves.bind {f : α → Prog σ ε β} (h : p.Preserves view) (hf : ∀ a, (f a).Preserves view) :
    (p >>= f).Preserves view := by
  change (p.bind f).Preserves view
  induction p with
  | ret a => exact hf a
  | fail e => trivial
  | step u n ih => exact fun s => ⟨(h s).1, ih s (h s).2⟩
  | stmt u n q ih ihq => exact ⟨fun s => ⟨(h.1 s).1, ih s (h.1 s).2⟩, ihq h.2⟩

end

theorem Preserves.exec_bind {f : α → Prog σ ε β} (hf : ∀ a, (f a).Preserves view)
    (p : Prog σ ε α) (s : σ) : view ((p >>= f).exec s).2 = view (p.exec s).2 := by
  rcases exec_bind_cases p f s with ⟨e, t, hp, hexec⟩ | ⟨a, t, hp, hexec⟩
  · rw [hexec, hp]
  · rw [hexec, hp]
    exact (hf a).exec t

theorem Preserves.attempt {p : Prog σ ε α} (h : p.Preserves view) : p.attempt.Preserves view := by
  induction p with
  | ret a => trivial
  | fail e => trivial
  | step u n ih => exact fun s => ⟨(h s).1, ih s (h s).2⟩
  | stmt u n q ih ihq => exact ⟨fun s => ⟨(h.1 s).1, ih s (h.1 s).2⟩, ihq h.2⟩

theorem preserves_pure (a : α) : (pure a : Prog σ ε α).Preserves view := trivial

theorem preserves_fail (e : ε) : (fail e : Prog σ ε α).Preserves view := trivial

theorem preserves_get (f : σ → α) : (get f : Prog σ ε α).Preserves view :=
  fun _ => ⟨rfl, trivial⟩

theorem preserves_ofExcept (r : Except ε α) : (ofExcept r : Prog σ ε α).Preserves view := by
  cases r <;> trivial

theorem preserves_require (c : Prop) [Decidable c] (e : ε) :
    (require c e : Prog σ ε Unit).Preserves view := by
  unfold require
  split <;> trivial

theorem preserves_query (e : ε) (f : σ → Except ε α) : (query e f).Preserves view :=
  ⟨fun _ => ⟨rfl, preserves_ofExcept _⟩, trivial⟩

theorem preserves_modify {f : σ → σ} (h : ∀ s, view (f s) = view s) :
    (modify f : Prog σ ε Unit).Preserves view :=
  fun s => ⟨h s, trivial⟩

theorem preserves_statement {e : ε} {f : σ → Except ε α × σ} (h : ∀ s, view (f s).2 = view s) :
    (statement e f).Preserves view :=
  ⟨fun s => ⟨h s, preserves_ofExcept _⟩, trivial⟩

theorem preserves_forEach {f : α → Prog σ ε Unit} {xs : List α}
    (h : ∀ x ∈ xs, (f x).Preserves view) : (forEach xs f).Preserves view := by
  induction xs with
  | nil => trivial
  | cons x xs ih => exact (h x (by simp)).bind (fun _ => ih (fun y hy => h y (by simp [hy])))

theorem preserves_ite {c : Prop} [Decidable c] {p q : Prog σ ε α} (hp : p.Preserves view)
    (hq : q.Preserves view) : (if c then p else q).Preserves view := by
  split
  · exact hp
  · exact hq

def FailsAs (P : ε → Prop) : Prog σ ε α → Prop
  | .ret _ => True
  | .fail e => P e
  | .step _ n => ∀ s, (n s).FailsAs P
  | .stmt _ n q => (∀ s, (n s).FailsAs P) ∧ q.FailsAs P

variable {P : ε → Prop}

theorem FailsAs.bind {p : Prog σ ε α} {f : α → Prog σ ε β} (h : p.FailsAs P)
    (hf : ∀ a, (f a).FailsAs P) : (p >>= f).FailsAs P := by
  change (p.bind f).FailsAs P
  induction p with
  | ret a => exact hf a
  | fail e => exact h
  | step u n ih => exact fun s => ih s (h s)
  | stmt u n q ih ihq => exact ⟨fun s => ih s (h.1 s), ihq h.2⟩

theorem FailsAs.exec {p : Prog σ ε α} (h : p.FailsAs P) {s t : σ} {e : ε}
    (hexec : p.exec s = (.error e, t)) : P e := by
  induction p generalizing s with
  | ret a => cases hexec
  | fail e' =>
    cases hexec
    exact h
  | step u n ih => exact ih s (h s) hexec
  | stmt u n q ih _ => exact ih s (h.1 s) hexec

theorem failsAs_pure (a : α) : (pure a : Prog σ ε α).FailsAs P := trivial

theorem failsAs_get (f : σ → α) : (get f : Prog σ ε α).FailsAs P := fun _ => trivial

theorem failsAs_query {e : ε} {f : σ → Except ε α} (he : P e)
    (h : ∀ s e, f s = .error e → P e) : (query e f).FailsAs P := by
  refine ⟨fun s => ?_, he⟩
  change FailsAs P (ofExcept (f s))
  cases hf : f s with
  | ok a => trivial
  | error e' => exact h s e' hf

theorem failsAs_require {c : Prop} [Decidable c] {e : ε} (h : P e) :
    (require c e : Prog σ ε Unit).FailsAs P := by
  unfold require
  split
  · trivial
  · exact h

theorem failsAs_ite {c : Prop} [Decidable c] {p q : Prog σ ε α} (hp : p.FailsAs P)
    (hq : q.FailsAs P) : (if c then p else q).FailsAs P := by
  split
  · exact hp
  · exact hq

end Prog

end Vokusz.Lib
