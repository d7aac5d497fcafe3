import Vokusz.Lib.Program

namespace Vokusz.Lib.Prog

variable {σ ε α β γ : Type}

def statements : Prog σ ε α → σ → Nat
  | .ret _, _ => 0
  | .fail _, _ => 0
  | .step u n, s => (n s).statements (u s)
  | .stmt u n _, s => (n s).statements (u s) + 1

def faultAt : Prog σ ε α → Nat → σ → Except ε α × σ
  | .ret a, _, s => (.ok a, s)
  | .fail e, _, s => (.error e, s)
  | .step u n, k, s => (n s).faultAt k (u s)
  | .stmt _ _ q, 0, s => q.exec s
  | .stmt u n _, k + 1, s => (n s).faultAt k (u s)

def Strict : Prog σ ε α → Prop
  | .ret _ => True
  | .fail _ => True
  | .step _ n => ∀ s, (n s).Strict
  | .stmt _ n q => (∀ s, (n s).Strict) ∧ ∃ e, q = .fail e

variable {p : Prog σ ε α} {f : α → Prog σ ε β} {s t : σ} {a : α} {k : Nat}

theorem Strict.bind (h : p.Strict) (hf : ∀ a, (f a).Strict) : (p >>= f).Strict := by
  change (p.bind f).Strict
  induction p with
  | ret a => exact hf a
  | fail e => trivial
  | step u n ih => exact fun s => ih s (h s)
  | stmt u n q ih _ =>
    obtain ⟨hn, e, rfl⟩ := h
    exact ⟨fun s => ih s (hn s), e, rfl⟩

theorem strict_ofExcept (r : Except ε α) : (ofExcept r : Prog σ ε α).Strict := by
  cases r <;> trivial

theorem strict_statement (e : ε) (g : σ → Except ε α × σ) : (statement e g).Strict :=
  ⟨fun s => strict_ofExcept (g s).1, e, rfl⟩

theorem strict_query (e : ε) (g : σ → Except ε α) : (query e g : Prog σ ε α).Strict :=
  ⟨fun s => strict_ofExcept (g s), e, rfl⟩

theorem strict_require (c : Prop) [Decidable c] (e : ε) : (require c e : Prog σ ε Unit).Strict := by
  unfold require
  split <;> trivial

theorem strict_get (g : σ → α) : (get g : Prog σ ε α).Strict := fun _ => trivial

theorem faultAt_late (h : p.statements s ≤ k) : p.faultAt k s = p.exec s := by
  induction p generalizing k s with
  | ret a => rfl
  | fail e => rfl
  | step u n ih => exact ih s h
  | stmt u n q ih _ =>
    cases k with
    | zero => cases h
    | succ k => exact ih s (Nat.le_of_succ_le_succ h)

theorem Strict.faultAt_early (h : p.Strict) (hk : k < p.statements s) :
    ∃ e, (p.faultAt k s).1 = .error e := by
  induction p generalizing k s with
  | ret a => cases hk
  | fail e => cases hk
  | step u n ih => exact ih s (h s) hk
  | stmt u n q ih _ =>
    cases k with
    | zero =>
      obtain ⟨-, e, rfl⟩ := h
      exact ⟨e, rfl⟩
    | succ k => exact ih s (h.1 s) (Nat.lt_of_succ_lt_succ hk)

theorem statements_bind (h : p.exec s = (.ok a, t)) :
    (p >>= f).statements s = p.statements s + (f a).statements t := by
  change (p.bind f).statements s = _
  induction p generalizing s with
  | ret b =>
    cases h
    exact (Nat.zero_add _).symm
  | fail e => cases h
  | step u n ih => exact ih s h
  | stmt u n q ih _ =>
    rw [Prog.bind, statements, statements, ih s h]
    omega

theorem faultAt_query_error {e e' : ε} {g : σ → Except ε α} (h : g s = .error e') :
    (query e g >>= f).faultAt (k + 1) s = (.error e', s) := by
  change ((ofExcept (g s)).bind f).faultAt k s = _
  rw [h]
  rfl

theorem faultAt_query_ok {e : ε} {g : σ → Except ε α} (h : g s = .ok a) :
    (query e g >>= f).faultAt (k + 1) s = (f a).faultAt k s := by
  change ((ofExcept (g s)).bind f).faultAt k s = _
  rw [h]
  rfl

theorem faultAt_statement_error {e e' : ε} {g : σ → Except ε α × σ} (h : g s = (.error e', t)) :
    (statement e g >>= f).faultAt (k + 1) s = (.error e', t) := by
  change ((ofExcept (g s).1).bind f).faultAt k (g s).2 = _
  rw [h]
  rfl

theorem faultAt_statement_ok {e : ε} {g : σ → Except ε α × σ} (h : g s = (.ok a, t)) :
    (statement e g >>= f).faultAt (k + 1) s = (f a).faultAt k t := by
  change ((ofExcept (g s).1).bind f).faultAt k (g s).2 = _
  rw [h]
  rfl

def Runs (p : Prog σ ε α) (s : σ) (a : α) (t : σ) (n : Nat) : Prop :=
  p.exec s = (.ok a, t) ∧ p.statements s = n

theorem Runs.bind {u : σ} {b : β} {m n : Nat} (h : p.Runs s a t m) (hf : (f a).Runs t b u n) :
    (p >>= f).Runs s b u (m + n) :=
  ⟨(exec_bind_of_ok h.1).trans hf.1, by rw [statements_bind h.1, h.2, hf.2]⟩

theorem statements_ofExcept (r : Except ε α) (s : σ) : (ofExcept r).statements s = 0 := by
  cases r <;> rfl

theorem statements_statement (e : ε) (g : σ → Except ε α × σ) (s : σ) :
    (statement e g).statements s = 1 := by
  rw [statement, statements, statements_ofExcept]

theorem runs_statement {e : ε} {g : σ → Except ε α × σ} (h : g s = (.ok a, t)) :
    (statement e g).Runs s a t 1 :=
  ⟨(exec_statement e g s).trans h, statements_statement e g s⟩

theorem runs_query {e : ε} {g : σ → Except ε α} (h : g s = .ok a) : (query e g).Runs s a s 1 :=
  ⟨(exec_query e g s).trans (by rw [h]), by rw [query, statements, statements_ofExcept]⟩

theorem runs_pure (a : α) (s : σ) : (pure a : Prog σ ε α).Runs s a s 0 := ⟨rfl, rfl⟩

theorem Runs.faultAt_iff {n : Nat} (h : p.Runs s a t n) (hstrict : p.Strict) :
    (∃ e, (p.faultAt k s).1 = .error e) ↔ k < n := by
  rw [← h.2]
  constructor
  · rintro ⟨e, he⟩
    apply Nat.lt_of_not_le
    intro hlate
    rw [faultAt_late hlate, h.1] at he
    cases he
  · exact hstrict.faultAt_early

def failing (p : Prog σ ε α) : Option Nat → σ → Except ε α × σ
  | none, s => p.exec s
  | some k, s => p.faultAt k s

def later (p : Prog σ ε α) (fault : Option Nat) (s : σ) : Option Nat :=
  fault.bind (fun k => if k < p.statements s then none else some (k - p.statements s))

theorem faultAt_bind_error {e : ε} (h : p.faultAt k s = (.error e, t)) :
    (p >>= f).faultAt k s = (.error e, t) := by
  change (p.bind f).faultAt k s = _
  induction p generalizing k s with
  | ret a => cases h
  | fail e' =>
    cases h
    rfl
  | step u n ih => exact ih s h
  | stmt u n q ih _ =>
    cases k with
    | zero => exact exec_bind_of_error h
    | succ k => exact ih s h

theorem failing_bind_error {fault : Option Nat} {e : ε} (h : p.failing fault s = (.error e, t)) :
    (p >>= f).failing fault s = (.error e, t) := by
  cases fault with
  | none => exact exec_bind_of_error h
  | some k => exact faultAt_bind_error h

theorem failing_bind_ok {fault : Option Nat} (h : p.failing fault s = (.ok a, t)) :
    (p >>= f).failing fault s = (f a).failing (p.later fault s) t := by
  cases fault with
  | none => exact exec_bind_of_ok h
  | some k =>
    change (p.bind f).faultAt k s = _
    induction p generalizing k s with
    | ret b =>
      cases h
      rfl
    | fail e => cases h
    | step u n ih => exact ih s k h
    | stmt u n q ih _ =>
      cases k with
      | zero => exact exec_bind_of_ok h
      | succ k =>
        have hnext := ih s k h
        simp only [later, Option.bind_some, statements, Nat.add_lt_add_iff_right,
          Nat.add_sub_add_right] at hnext ⊢
        exact hnext

theorem failing_attempt (p : Prog σ ε α) (fault : Option Nat) (s : σ) :
    p.attempt.failing fault s = (.ok (p.failing fault s).1, (p.failing fault s).2) := by
  cases fault with
  | none => exact exec_attempt p s
  | some k =>
    induction p generalizing k s with
    | ret a => rfl
    | fail e => rfl
    | step u n ih => exact ih s (u s) k
    | stmt u n q ih _ =>
      cases k with
      | zero => exact exec_attempt q s
      | succ k => exact ih s (u s) k

theorem statements_attempt (p : Prog σ ε α) (s : σ) :
    p.attempt.statements s = p.statements s := by
  induction p generalizing s with
  | ret a => rfl
  | fail e => rfl
  | step u n ih => exact ih s (u s)
  | stmt u n q ih _ => exact congrArg Nat.succ (ih s (u s))

theorem Preserves.failing {view : σ → γ} (h : p.Preserves view) (fault : Option Nat)
    (s : σ) : view (p.failing fault s).2 = view s := by
  cases fault with
  | none => exact h.exec s
  | some k =>
    induction p generalizing k s with
    | ret a => rfl
    | fail e => rfl
    | step u n ih => exact (ih s (h s).2 (u s) k).trans (h s).1
    | stmt u n q ih _ =>
      cases k with
      | zero => exact h.2.exec s
      | succ k => exact (ih s (h.1 s).2 (u s) k).trans (h.1 s).1

theorem Keeps.failing {I : σ → Prop} {Q : α → Prop} (h : p.Keeps I Q) (hs : I s)
    (fault : Option Nat) :
    I (p.failing fault s).2 ∧ ∀ a, (p.failing fault s).1 = .ok a → Q a := by
  cases fault with
  | none => exact h.exec hs
  | some k =>
    induction p generalizing k s with
    | ret a =>
      refine ⟨hs, fun b hb => ?_⟩
      cases hb
      exact h
    | fail e => exact ⟨hs, fun b hb => by cases hb⟩
    | step u n ih => exact ih s (h s hs).2 (h s hs).1 k
    | stmt u n q ih _ =>
      cases k with
      | zero => exact h.2.exec hs
      | succ k => exact ih s (h.1 s hs).2 (h.1 s hs).1 k

theorem Keeps.faultAt {I : σ → Prop} {Q : α → Prop} (h : p.Keeps I Q) (hs : I s) :
    I (p.faultAt k s).2 :=
  (h.failing hs (some k)).1

theorem failing_get (g : σ → γ) (f : γ → Prog σ ε β) (fault : Option Nat) (s : σ) :
    (get g >>= f).failing fault s = (f (g s)).failing fault s := by
  cases fault <;> rfl

theorem failing_pure (a : α) (fault : Option Nat) (s : σ) :
    (pure a : Prog σ ε α).failing fault s = (.ok a, s) := by
  cases fault <;> rfl

theorem failing_fail (e : ε) (fault : Option Nat) (s : σ) :
    (fail e : Prog σ ε α).failing fault s = (.error e, s) := by
  cases fault <;> rfl

def passed (fault : Option Nat) : Option Nat := fault.map Nat.pred

theorem failing_statement_fault (e : ε) (g : σ → Except ε α × σ) (s : σ) :
    (statement e g >>= f).failing (some 0) s = (.error e, s) := rfl

theorem failing_statement_error {e e' : ε} {g : σ → Except ε α × σ} {fault : Option Nat}
    (hfault : fault ≠ some 0) (h : g s = (.error e', t)) :
    (statement e g >>= f).failing fault s = (.error e', t) := by
  cases fault with
  | none => exact exec_bind_of_error ((exec_statement e g s).trans h)
  | some k =>
    cases k with
    | zero => exact absurd rfl hfault
    | succ k => exact faultAt_statement_error (e := e) h

theorem failing_statement_ok {e : ε} {g : σ → Except ε α × σ} {fault : Option Nat}
    (hfault : fault ≠ some 0) (h : g s = (.ok a, t)) :
    (statement e g >>= f).failing fault s = (f a).failing (passed fault) t := by
  cases fault with
  | none => exact exec_bind_of_ok ((exec_statement e g s).trans h)
  | some k =>
    cases k with
    | zero => exact absurd rfl hfault
    | succ k => exact faultAt_statement_ok (e := e) h

theorem failing_query_fault (e : ε) (g : σ → Except ε α) (s : σ) :
    (query e g >>= f).failing (some 0) s = (.error e, s) := rfl

theorem failing_query_ok {e : ε} {g : σ → Except ε α} {fault : Option Nat}
    (hfault : fault ≠ some 0) (h : g s = .ok a) :
    (query e g >>= f).failing fault s = (f a).failing (passed fault) s := by
  cases fault with
  | none => exact exec_bind_of_ok ((exec_query e g s).trans (by rw [h]))
  | some k =>
    cases k with
    | zero => exact absurd rfl hfault
    | succ k => exact faultAt_query_ok (e := e) h

theorem statements_forEach {g : α → Prog σ ε Unit} {p : α → Bool} (htotal : ∀ x, (g x).Total)
    (hcount : ∀ x s, (g x).statements s = if p x then 1 else 0) (xs : List α) (s : σ) :
    (forEach xs g).statements s = (xs.filter p).length := by
  induction xs generalizing s with
  | nil => rfl
  | cons x xs ih =>
    obtain ⟨a, t, hx⟩ := htotal x s
    rw [forEach_cons, statements_bind hx, hcount, ih]
    cases hp : p x with
    | true =>
      rw [List.filter_cons_of_pos hp, List.length_cons, if_pos rfl]
      omega
    | false =>
      rw [List.filter_cons_of_neg (by rw [hp]; exact Bool.false_ne_true), if_neg Bool.false_ne_true]
      omega

theorem Runs.failing_bind {fault : Option Nat} (h : p.Runs s a t 0) :
    (p >>= f).failing fault s = (f a).failing fault t := by
  have hrun : p.failing fault s = (.ok a, t) := by
    cases fault with
    | none => exact h.1
    | some k => exact (faultAt_late (by rw [h.2]; exact Nat.zero_le k)).trans h.1
  have hlater : p.later fault s = fault := by
    rw [later, h.2]
    cases fault <;> rfl
  rw [failing_bind_ok hrun, hlater]

def Unfailing (p : Prog σ ε α) : Prop := ∀ fault s, ∃ a t, p.failing fault s = (.ok a, t)

theorem Unfailing.bind (h : p.Unfailing) (hf : ∀ a, (f a).Unfailing) : (p >>= f).Unfailing := by
  intro fault s
  obtain ⟨a, t, hp⟩ := h fault s
  rw [failing_bind_ok hp]
  exact hf a _ t

theorem failing_bind_error_iff (hf : ∀ a, (f a).Unfailing) (fault : Option Nat) :
    (∃ e, ((p >>= f).failing fault s).1 = .error e) ↔ ∃ e, (p.failing fault s).1 = .error e := by
  cases hp : p.failing fault s with
  | mk r t =>
    cases r with
    | error e =>
      rw [failing_bind_error hp]
      exact ⟨fun _ => ⟨e, rfl⟩, fun _ => ⟨e, rfl⟩⟩
    | ok a =>
      obtain ⟨b, u, hb⟩ := hf a (p.later fault s) t
      rw [failing_bind_ok hp, hb]
      constructor <;> rintro ⟨e, he⟩ <;> cases he

theorem unfailing_pure (a : α) : (pure a : Prog σ ε α).Unfailing := by
  intro fault s
  cases fault <;> exact ⟨a, s, rfl⟩

theorem unfailing_modify (g : σ → σ) : (modify g : Prog σ ε Unit).Unfailing := by
  intro fault s
  cases fault <;> exact ⟨(), g s, rfl⟩

theorem unfailing_attempt (p : Prog σ ε α) : p.attempt.Unfailing :=
  fun fault s => ⟨_, _, failing_attempt p fault s⟩

theorem unfailing_ite {c : Prop} [Decidable c] {q : Prog σ ε α} (hp : p.Unfailing)
    (hq : q.Unfailing) : (if c then p else q).Unfailing := by
  split
  · exact hp
  · exact hq

theorem unfailing_forEach {g : α → Prog σ ε Unit} {xs : List α} (h : ∀ x, (g x).Unfailing) :
    (forEach xs g).Unfailing := by
  induction xs with
  | nil => exact unfailing_pure ()
  | cons x xs ih => exact (h x).bind (fun _ => ih)

theorem Runs.failing_iff {n : Nat} (h : p.Runs s a t n) (hstrict : p.Strict)
    (fault : Option Nat) :
    (∃ e, (p.failing fault s).1 = .error e) ↔ ∃ k, fault = some k ∧ k < n := by
  cases fault with
  | none =>
    constructor
    · rintro ⟨e, he⟩
      rw [failing, h.1] at he
      cases he
    · rintro ⟨k, hk, -⟩
      cases hk
  | some k =>
    refine (h.faultAt_iff hstrict).trans ⟨fun hk => ⟨k, rfl, hk⟩, ?_⟩
    rintro ⟨k', hk', hlt⟩
    cases hk'
    exact hlt

end Vokusz.Lib.Prog
