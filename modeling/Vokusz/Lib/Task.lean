import Vokusz.Lib.Program
import Mathlib.Logic.Function.Basic

namespace Vokusz.Lib

variable {ι ω κ σ ε α β γ : Type}

inductive Task (κ σ ε α : Type) : Type where
  | ret (value : α)
  | fail (error : ε)
  | step (update : σ → σ) (next : σ → Task κ σ ε α)
  | stmt (update : σ → σ) (next : σ → Task κ σ ε α) (fault : Task κ σ ε α)
  | acquire (m : κ) (next : Task κ σ ε α)
  | release (m : κ) (next : Task κ σ ε α)

namespace Task

def bind : Task κ σ ε α → (α → Task κ σ ε β) → Task κ σ ε β
  | .ret a, f => f a
  | .fail e, _ => .fail e
  | .step u n, f => .step u (fun s => (n s).bind f)
  | .stmt u n q, f => .stmt u (fun s => (n s).bind f) (q.bind f)
  | .acquire m n, f => .acquire m (n.bind f)
  | .release m n, f => .release m (n.bind f)

instance : Monad (Task κ σ ε) where
  pure := .ret
  bind := Task.bind

def attempt : Task κ σ ε α → Task κ σ ε (Except ε α)
  | .ret a => .ret (.ok a)
  | .fail e => .ret (.error e)
  | .step u n => .step u (fun s => (n s).attempt)
  | .stmt u n q => .stmt u (fun s => (n s).attempt) q.attempt
  | .acquire m n => .acquire m n.attempt
  | .release m n => .release m n.attempt

def lift : Prog σ ε α → Task κ σ ε α
  | .ret a => .ret a
  | .fail e => .fail e
  | .step u n => .step u (fun s => lift (n s))
  | .stmt u n q => .stmt u (fun s => lift (n s)) (lift q)

instance : MonadLift (Prog σ ε) (Task κ σ ε) := ⟨lift⟩

def ofExcept : Except ε α → Task κ σ ε α
  | .ok a => .ret a
  | .error e => .fail e

def lock (m : κ) : Task κ σ ε Unit := .acquire m (.ret ())

def unlock (m : κ) : Task κ σ ε Unit := .release m (.ret ())

def locked (m : κ) (body : Task κ σ ε α) : Task κ σ ε α := do
  lock m
  let r ← body.attempt
  unlock m
  ofExcept r

def exec : Task κ σ ε α → σ → Except ε α × σ
  | .ret a, s => (.ok a, s)
  | .fail e, s => (.error e, s)
  | .step u n, s => (n s).exec (u s)
  | .stmt u n _, s => (n s).exec (u s)
  | .acquire _ n, s => n.exec s
  | .release _ n, s => n.exec s

@[simp] theorem exec_pure (a : α) (s : σ) :
    (pure a : Task κ σ ε α).exec s = (.ok a, s) := rfl

@[simp] theorem exec_fail (e : ε) (s : σ) :
    (fail e : Task κ σ ε α).exec s = (.error e, s) := rfl

theorem exec_bind (p : Task κ σ ε α) (f : α → Task κ σ ε β) (s : σ) :
    (p >>= f).exec s =
      match p.exec s with
      | (.ok a, s') => (f a).exec s'
      | (.error e, s') => (.error e, s') := by
  change (p.bind f).exec s = _
  induction p generalizing s with
  | ret a => rfl
  | fail e => rfl
  | step u n ih => exact ih s (u s)
  | stmt u n q ih _ => exact ih s (u s)
  | acquire m n ih => exact ih s
  | release m n ih => exact ih s

theorem exec_bind_of_ok {p : Task κ σ ε α} {f : α → Task κ σ ε β} {s s' : σ} {a : α}
    (h : p.exec s = (.ok a, s')) : (p >>= f).exec s = (f a).exec s' := by
  rw [exec_bind, h]

theorem exec_bind_of_error {p : Task κ σ ε α} {f : α → Task κ σ ε β} {s s' : σ} {e : ε}
    (h : p.exec s = (.error e, s')) : (p >>= f).exec s = (.error e, s') := by
  rw [exec_bind, h]

@[simp] theorem exec_lift (p : Prog σ ε α) (s : σ) :
    (lift p : Task κ σ ε α).exec s = p.exec s := by
  induction p generalizing s with
  | ret a => rfl
  | fail e => rfl
  | step u n ih => exact ih s (u s)
  | stmt u n q ih _ => exact ih s (u s)

@[simp] theorem exec_monadLift (p : Prog σ ε α) (s : σ) :
    (MonadLiftT.monadLift p : Task κ σ ε α).exec s = p.exec s :=
  exec_lift p s

theorem exec_attempt (p : Task κ σ ε α) (s : σ) :
    p.attempt.exec s = (.ok (p.exec s).1, (p.exec s).2) := by
  induction p generalizing s with
  | ret a => rfl
  | fail e => rfl
  | step u n ih => exact ih s (u s)
  | stmt u n q ih _ => exact ih s (u s)
  | acquire m n ih => exact ih s
  | release m n ih => exact ih s

@[simp] theorem exec_ofExcept (r : Except ε α) (s : σ) :
    (ofExcept r : Task κ σ ε α).exec s = (r, s) := by
  cases r <;> rfl

@[simp] theorem exec_locked (m : κ) (body : Task κ σ ε α) (s : σ) :
    (locked m body).exec s = body.exec s := by
  change (body.attempt >>= fun r => unlock m >>= fun _ => ofExcept r).exec s = _
  rw [exec_bind, exec_attempt]
  exact exec_ofExcept _ _

inductive Moves : Task κ σ ε α × σ → Task κ σ ε α × σ → Prop
  | step (u n s) : Moves (.step u n, s) (n s, u s)
  | stmt (u n q s) : Moves (.stmt u n q, s) (n s, u s)
  | fault (u n q s) : Moves (.stmt u n q, s) (q, s)

theorem ne_of_moves {p q : Task κ σ ε α} {s t : σ} (h : Moves (p, s) (q, t)) : q ≠ p := by
  induction p generalizing q s t with
  | ret a => cases h
  | fail e => cases h
  | step u n ih =>
    cases h with
    | step u n s =>
      intro heq
      have hself := Moves.step u n s
      rw [← heq] at hself
      exact ih s hself rfl
  | stmt u n r ih ihr =>
    cases h with
    | stmt u n r s =>
      intro heq
      have hself := Moves.stmt u n r s
      rw [← heq] at hself
      exact ih s hself rfl
    | fault u n r s =>
      intro heq
      have hself := Moves.fault u n r s
      rw [← heq] at hself
      exact ihr hself rfl
  | acquire m n ih => cases h
  | release m n ih => cases h

theorem moves_lift {p : Prog σ ε α} {q : Task κ σ ε α} {s t : σ}
    (h : Moves (lift p, s) (q, t)) : ∃ r, q = lift r ∧ Prog.Step (p, s) (r, t) := by
  cases p with
  | ret a => cases h
  | fail e => cases h
  | step u n =>
    cases h with
    | step u n s => exact ⟨_, rfl, .step _ _ _⟩
  | stmt u n r =>
    cases h with
    | stmt u n r s => exact ⟨_, rfl, .stmt _ _ _ _⟩
    | fault u n r s => exact ⟨_, rfl, .fault _ _ _ _⟩

def running : Task κ σ ε α → Bool
  | .step _ _ => true
  | .stmt _ _ _ => true
  | _ => false

def advance : Nat → Task κ σ ε α → σ → Task κ σ ε α × σ
  | n + 1, .step u k, s => (k s).advance n (u s)
  | n + 1, .stmt u k _, s => (k s).advance n (u s)
  | _, p, s => (p, s)

theorem moves_advance (n : Nat) (p : Task κ σ ε α) (s : σ) :
    Relation.ReflTransGen Moves (p, s) (p.advance n s) := by
  induction n generalizing p s with
  | zero => cases p <;> exact .refl
  | succ n ih =>
    cases p with
    | step u k => exact .head (.step u k s) (ih (k s) (u s))
    | stmt u k q => exact .head (.stmt u k q s) (ih (k s) (u s))
    | _ => exact .refl

theorem moves_running {p : Task κ σ ε α} (h : p.running = true) (s : σ) :
    Moves (p, s) (p.advance 1 s) := by
  cases p with
  | step u k =>
    have hstop : (k s).advance 0 (u s) = (k s, u s) := by cases k s <;> rfl
    exact hstop ▸ Moves.step u k s
  | stmt u k q =>
    have hstop : (k s).advance 0 (u s) = (k s, u s) := by cases k s <;> rfl
    exact hstop ▸ Moves.stmt u k q s
  | _ => cases h

end Task

namespace Prog

inductive Gives (S : σ → Prop) : Prog σ ε α → Except ε α → Prop
  | ret (a : α) : Gives S (.ret a) (.ok a)
  | fail (e : ε) : Gives S (.fail e) (.error e)
  | step {u : σ → σ} {n : σ → Prog σ ε α} {r : Except ε α} (s : σ) (hs : S s)
      (h : Gives S (n s) r) : Gives S (.step u n) r
  | stmt {u : σ → σ} {n : σ → Prog σ ε α} {q : Prog σ ε α} {r : Except ε α} (s : σ) (hs : S s)
      (h : Gives S (n s) r) : Gives S (.stmt u n q) r
  | fault {u : σ → σ} {n : σ → Prog σ ε α} {q : Prog σ ε α} {r : Except ε α}
      (h : Gives S q r) : Gives S (.stmt u n q) r

theorem Gives.mono {S T : σ → Prop} {p : Prog σ ε α} {r : Except ε α} (h : p.Gives S r)
    (hST : ∀ s, S s → T s) : p.Gives T r := by
  induction h with
  | ret a => exact .ret a
  | fail e => exact .fail e
  | step s hs _ ih => exact .step s (hST s hs) ih
  | stmt s hs _ ih => exact .stmt s (hST s hs) ih
  | fault _ ih => exact .fault ih

theorem Gives.bind {S : σ → Prop} {p : Prog σ ε α} {f : α → Prog σ ε β} {a : α}
    {r : Except ε β} (h : p.Gives S (.ok a)) (hf : (f a).Gives S r) : (p >>= f).Gives S r := by
  change (p.bind f).Gives S r
  generalize hok : (Except.ok a : Except ε α) = x at h
  induction h with
  | ret b =>
    cases hok
    exact hf
  | fail e => cases hok
  | step s hs _ ih => exact .step s hs (ih hok)
  | stmt s hs _ ih => exact .stmt s hs (ih hok)
  | fault _ ih => exact .fault (ih hok)

theorem gives_query {S : σ → Prop} {e : ε} {f : σ → Except ε α} {s : σ} (hs : S s) :
    (query e f).Gives S (f s) := by
  refine .stmt s hs ?_
  cases f s with
  | ok a => exact .ret a
  | error e' => exact .fail e'

theorem Preserves.of_query {view : σ → γ} {e : ε} {f : σ → Except ε α} {next : α → Prog σ ε β}
    (h : (query e f >>= next).Preserves view) {s : σ} {a : α} (hread : f s = .ok a) :
    (next a).Preserves view := by
  have hnext := (h.1 s).2
  change (Prog.bind (ofExcept (f s)) next).Preserves view at hnext
  rw [hread] at hnext
  exact hnext

theorem Keeps.gives {I : σ → Prop} {Q : α → Prop} {p : Prog σ ε α} (h : p.Keeps I Q)
    {a : α} (hgives : p.Gives I (.ok a)) : Q a := by
  generalize hr : (Except.ok a : Except ε α) = r at hgives
  induction hgives with
  | ret b =>
    cases hr
    exact h
  | fail e => cases hr
  | step s hs _ ih => exact ih (h s hs).2 hr
  | stmt s hs _ ih => exact ih (h.1 s hs).2 hr
  | fault _ ih => exact ih h.2 hr

end Prog

end Vokusz.Lib
