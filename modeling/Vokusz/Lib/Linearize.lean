import Mathlib.Data.List.Nodup
import Vokusz.Lib.Program
import Vokusz.Lib.Transition

namespace Vokusz.Lib

variable {ι σ ε α β γ ν : Type}

theorem Runs.concat {step : σ → α → σ → Prop} {s t u : σ} {acts : List α} {a : α}
    (hrun : Runs step s acts t) (hstep : step t a u) : Runs step s (acts ++ [a]) u := by
  induction hrun with
  | nil s => exact .cons hstep (.nil u)
  | cons hfirst _ ih => exact .cons hfirst (ih hstep)

theorem Runs.map {step : σ → α → σ → Prop} {step' : σ → β → σ → Prop} {f : α → β}
    (h : ∀ s a t, step s a t → step' s (f a) t) {s t : σ} {acts : List α}
    (hrun : Runs step s acts t) : Runs step' s (acts.map f) t := by
  induction hrun with
  | nil s => exact .nil s
  | cons hstep _ ih => exact .cons (h _ _ _ hstep) ih

namespace Prog

variable {view : σ → ν} {act : ν → β → ν → Prop} {Q : β → α → Prop}

structure Done (view : σ → ν) (Q : α → Prop) (p : Prog σ ε α) : Prop where
  quiet : p.Preserves view
  result : p.Keeps (fun _ => True) Q

def Acts (view : σ → ν) (act : ν → β → ν → Prop) (Q : β → α → Prop) : Prog σ ε α → Prop
  | .ret _ => False
  | .fail _ => True
  | .step u n => ∀ s, (view (u s) = view s ∧ (n s).Acts view act Q) ∨
      ∃ b, act (view s) b (view (u s)) ∧ (n s).Done view (Q b)
  | .stmt u n q =>
    (∀ s, (view (u s) = view s ∧ (n s).Acts view act Q) ∨
      ∃ b, act (view s) b (view (u s)) ∧ (n s).Done view (Q b)) ∧ q.Acts view act Q

theorem acts_bind {p : Prog σ ε γ} {f : γ → Prog σ ε α} (h : p.Preserves view)
    (hf : ∀ c, (f c).Acts view act Q) : (p >>= f).Acts view act Q := by
  change (p.bind f).Acts view act Q
  induction p with
  | ret c => exact hf c
  | fail e => trivial
  | step u n ih => exact fun s => .inl ⟨(h s).1, ih s (h s).2⟩
  | stmt u n q ih ihq => exact ⟨fun s => .inl ⟨(h.1 s).1, ih s (h.1 s).2⟩, ihq h.2⟩

theorem acts_statement {e : ε} {f : σ → Except ε γ × σ} {rest : γ → Prog σ ε α}
    (h : ∀ s, match (f s).1 with
      | .ok c => ∃ b, act (view s) b (view (f s).2) ∧ (rest c).Done view (Q b)
      | .error _ => view (f s).2 = view s) :
    (statement e f >>= rest).Acts view act Q := by
  refine ⟨fun s => ?_, trivial⟩
  have hs := h s
  cases hf : (f s).1 with
  | ok c =>
    rw [hf] at hs
    obtain ⟨b, hact, hdone⟩ := hs
    refine .inr ⟨b, hact, ?_⟩
    change ((ofExcept (f s).1).bind rest).Done view (Q b)
    rw [hf]
    exact hdone
  | error e' =>
    rw [hf] at hs
    refine .inl ⟨hs, ?_⟩
    change ((ofExcept (f s).1).bind rest).Acts view act Q
    rw [hf]
    trivial

theorem Done.step {P : α → Prop} {p q : Prog σ ε α} {s t : σ} (h : p.Done view P)
    (hstep : Step (p, s) (q, t)) : view t = view s ∧ q.Done view P := by
  cases hstep with
  | step u n s => exact ⟨(h.quiet s).1, (h.quiet s).2, (h.result s trivial).2⟩
  | stmt u n r s => exact ⟨(h.quiet.1 s).1, (h.quiet.1 s).2, (h.result.1 s trivial).2⟩
  | fault u n r s => exact ⟨rfl, h.quiet.2, h.result.2⟩

theorem Acts.step {p q : Prog σ ε α} {s t : σ} (h : p.Acts view act Q)
    (hstep : Step (p, s) (q, t)) :
    (view t = view s ∧ q.Acts view act Q) ∨
      ∃ b, act (view s) b (view t) ∧ q.Done view (Q b) := by
  cases hstep with
  | step u n s => exact h s
  | stmt u n r s => exact h.1 s
  | fault u n r s => exact .inl ⟨rfl, h.2⟩

end Prog

structure Crowd (ι σ ε α : Type) where
  state : σ
  threads : ι → Prog σ ε α

structure Discipline (view : σ → ν) (act : ν → β → ν → Prop) (Q : β → α → Prop) (R : α → Prop)
    (Holding : Prog σ ε α → Prop) (Waiting : ν → Prog σ ε α → Prop) : Prop where
  step : ∀ {p q s t}, Waiting (view s) p → Prog.Step (p, s) (q, t) →
    (view t = view s ∧ Waiting (view s) q) ∨
      ∃ b, act (view s) b (view t) ∧ q.Done view (Q b)
  stable : ∀ {v w p}, Waiting v p → ¬ Holding p → Waiting w p
  result : ∀ {v a}, Waiting v (.ret a) → R a

namespace Crowd

variable [DecidableEq ι] {view : σ → ν} {act : ι → ν → β → ν → Prop} {Q : β → α → Prop}
  {R : α → Prop} {env : σ → σ → Prop} {allowed : Crowd ι σ ε α → ι → σ → Prop}
  {c d : Crowd ι σ ε α} {Holding : ι → Prog σ ε α → Prop} {Waiting : ι → ν → Prog σ ε α → Prop}

inductive Step (env : σ → σ → Prop) (allowed : Crowd ι σ ε α → ι → σ → Prop) :
    Crowd ι σ ε α → Crowd ι σ ε α → Prop
  | moves {x} (i p t) (h : Prog.Step (x.threads i, x.state) (p, t)) (ha : allowed x i t) :
      Step env allowed x { state := t, threads := Function.update x.threads i p }
  | outside {x} (t) (h : env x.state t) : Step env allowed x { x with state := t }

abbrev RunWhere (env : σ → σ → Prop) (allowed : Crowd ι σ ε α → ι → σ → Prop) :
    Crowd ι σ ε α → Crowd ι σ ε α → Prop :=
  Relation.ReflTransGen (Step env allowed)

abbrev Run (env : σ → σ → Prop) : Crowd ι σ ε α → Crowd ι σ ε α → Prop :=
  RunWhere env (fun _ _ _ => True)

def Undisturbed (view : σ → ν) (Holding : ι → Prog σ ε α → Prop) (x : Crowd ι σ ε α) (i : ι)
    (t : σ) : Prop :=
  view t ≠ view x.state → ∀ j, j ≠ i → ¬ Holding j (x.threads j)

theorem runWhere_thread {i : ι} {p : Prog σ ε α} {t : σ}
    (ha : ∀ x t, (∀ j, j ≠ i → x.threads j = c.threads j) → allowed x i t)
    (h : Relation.ReflTransGen Prog.Step (c.threads i, c.state) (p, t)) :
    RunWhere env allowed c { state := t, threads := Function.update c.threads i p } := by
  generalize hx : (p, t) = x at h
  induction h generalizing p t with
  | refl =>
    obtain ⟨rfl, rfl⟩ := Prod.mk.inj hx
    rw [Function.update_eq_self]
  | @tail y z _ hstep ih =>
    subst hx
    have hself : Function.update c.threads i y.1 i = y.1 := Function.update_self i y.1 c.threads
    have hmove : Step env allowed
        { state := y.2, threads := Function.update c.threads i y.1 }
        { state := t, threads := Function.update (Function.update c.threads i y.1) i p } := by
      refine .moves i p t ?_ (ha _ t (fun j hj => Function.update_of_ne hj y.1 c.threads))
      change Prog.Step (Function.update c.threads i y.1 i, y.2) (p, t)
      rw [hself]
      exact hstep
    rw [Function.update_idem] at hmove
    exact (ih rfl).tail hmove

theorem run_thread {i : ι} {p : Prog σ ε α} {t : σ}
    (h : Relation.ReflTransGen Prog.Step (c.threads i, c.state) (p, t)) :
    Run env c { state := t, threads := Function.update c.threads i p } :=
  runWhere_thread (fun _ _ _ => trivial) h

theorem runWhere_ticks {i : ι} {p : Prog σ ε α} (hp : c.threads i = p) (n : Nat)
    (ha : ∀ k, k < n → ∀ x t, (∀ j, j ≠ i → x.threads j = c.threads j) →
      (x.threads i, x.state) = Prog.ticks k (p, c.state) → allowed x i t) :
    RunWhere env allowed c
      { state := (Prog.ticks n (p, c.state)).2
        threads := Function.update c.threads i (Prog.ticks n (p, c.state)).1 } := by
  induction n generalizing c p with
  | zero =>
    change RunWhere env allowed c { state := c.state, threads := Function.update c.threads i p }
    rw [← hp, Function.update_eq_self]
  | succ n ih =>
    have hfirst : ∀ t, allowed c i t :=
      fun t => ha 0 n.succ_pos c t (fun _ _ => rfl) (by rw [hp, Prog.ticks])
    unfold Prog.ticks
    cases htick : p.tick c.state with
    | none =>
      dsimp only
      rw [← hp, Function.update_eq_self]
    | some y =>
      let d : Crowd ι σ ε α := { state := y.2, threads := Function.update c.threads i y.1 }
      have hmove : Step env allowed c d := by
        refine .moves i y.1 y.2 (Prog.step_iff.mpr (.inl ?_)) (hfirst y.2)
        rw [hp]
        exact htick
      have hticks : ∀ k, Prog.ticks (k + 1) (p, c.state) = Prog.ticks k (y.1, d.state) := by
        intro k
        rw [Prog.ticks, htick]
      have hrest : ∀ k, k < n → ∀ x t, (∀ j, j ≠ i → x.threads j = d.threads j) →
          (x.threads i, x.state) = Prog.ticks k (y.1, d.state) → allowed x i t := by
        intro k hk x t hx hat
        refine ha (k + 1) (Nat.succ_lt_succ hk) x t (fun j hj => ?_) (hat.trans (hticks k).symm)
        rw [hx j hj]
        exact Function.update_of_ne hj y.1 c.threads
      have hrun := ih (Function.update_self i y.1 c.threads) hrest
      rw [Function.update_idem] at hrun
      exact .head hmove hrun

theorem runWhere_alone {i : ι} {a : α} {t : σ}
    (ha : ∀ x t, (∀ j, j ≠ i → x.threads j = c.threads j) → allowed x i t)
    (h : (c.threads i).exec c.state = (.ok a, t)) :
    RunWhere env allowed c { state := t, threads := Function.update c.threads i (.ret a) } := by
  obtain ⟨p, hrun, hp⟩ := Prog.exec_steps (c.threads i) c.state
  rw [h] at hrun hp
  subst hp
  exact runWhere_thread ha hrun

theorem run_alone {i : ι} {a : α} {t : σ} (h : (c.threads i).exec c.state = (.ok a, t)) :
    Run env c { state := t, threads := Function.update c.threads i (.ret a) } :=
  runWhere_alone (fun _ _ _ => trivial) h

omit [DecidableEq ι] in
theorem undisturbed_of_others {i : ι} (h : ∀ j, j ≠ i → ¬ Holding j (c.threads j))
    (x : Crowd ι σ ε α) (t : σ) (hx : ∀ j, j ≠ i → x.threads j = c.threads j) :
    Undisturbed view Holding x i t := by
  intro _ j hj
  rw [hx j hj]
  exact h j hj

structure Linear (view : σ → ν) (act : ι → ν → β → ν → Prop) (Q : β → α → Prop)
    (Waiting : ι → ν → Prog σ ε α → Prop) (guard : ι → ν → ν → Prop) (v : ν)
    (history : List (ι × β)) (d : Crowd ι σ ε α) : Prop where
  runs : Runs (fun v b w => act b.1 v b.2 w ∧ guard b.1 v w) v history (view d.state)
  once : (history.map Prod.fst).Nodup
  waiting : ∀ i, i ∉ history.map Prod.fst → Waiting i (view d.state) (d.threads i)
  done : ∀ i b, (i, b) ∈ history → (d.threads i).Done view (Q b)

variable {v : ν} {history : List (ι × β)} {guard : ι → ν → ν → Prop}

omit [DecidableEq ι] in
theorem Linear.acts {act : ν → β → ν → Prop}
    (h : Linear view (fun _ => act) Q Waiting guard v history d) :
    Runs act v (history.map Prod.snd) (view d.state) :=
  h.runs.map (fun _ _ _ hstep => hstep.1)

theorem Linear.moves (hd : ∀ i, Discipline view (act i) Q R (Holding i) (Waiting i))
    (hl : Linear view act Q Waiting guard v history c) {i : ι} {p : Prog σ ε α} {t : σ}
    (h : Prog.Step (c.threads i, c.state) (p, t)) (hfree : Undisturbed view Holding c i t)
    (hguard : guard i (view c.state) (view t)) :
    ∃ history', Linear view act Q Waiting guard v history'
      { state := t, threads := Function.update c.threads i p } := by
  have hother : ∀ j, j ≠ i → Function.update c.threads i p j = c.threads j :=
    fun j hj => Function.update_of_ne hj p c.threads
  have hself : Function.update c.threads i p i = p := Function.update_self i p c.threads
  have hdone : ∀ j b, (j, b) ∈ history →
      (Function.update c.threads i p j).Done view (Q b) := by
    intro j b hb
    by_cases hj : j = i
    · subst hj
      rw [hself]
      exact ((hl.done j b hb).step h).2
    · rw [hother j hj]
      exact hl.done j b hb
  have hwaiting : ∀ j, j ≠ i → j ∉ history.map Prod.fst →
      Waiting j (view t) (Function.update c.threads i p j) := by
    intro j hj hmem
    rw [hother j hj]
    by_cases hview : view t = view c.state
    · rw [hview]
      exact hl.waiting j hmem
    · exact (hd j).stable (hl.waiting j hmem) (hfree hview j hj)
  by_cases hi : i ∈ history.map Prod.fst
  · obtain ⟨⟨k, b⟩, hb, hk⟩ := List.mem_map.mp hi
    change k = i at hk
    subst hk
    have hview : view t = view c.state := ((hl.done k b hb).step h).1
    exact ⟨history, hview ▸ hl.runs, hl.once,
      fun j hj => hwaiting j (fun heq => hj (heq ▸ hi)) hj, hdone⟩
  rcases (hd i).step (hl.waiting i hi) h with ⟨hview, hp⟩ | ⟨b, hact, hp⟩
  · refine ⟨history, hview ▸ hl.runs, hl.once, fun j hj => ?_, hdone⟩
    have hj' : Waiting j (view t) (Function.update c.threads i p j) := by
      by_cases hji : j = i
      · subst hji
        rw [hself, hview]
        exact hp
      · exact hwaiting j hji hj
    exact hj'
  · refine ⟨history ++ [(i, b)], ?_, ?_, fun j hj => ?_, fun j b' hb => ?_⟩
    · exact hl.runs.concat ⟨hact, hguard⟩
    · rw [List.map_append, List.map_singleton, ← List.concat_eq_append]
      exact hl.once.concat hi
    · rw [List.map_append, List.map_singleton, List.mem_append, List.mem_singleton, not_or] at hj
      exact hwaiting j hj.2 hj.1
    · rcases List.mem_append.mp hb with hb | hb
      · exact hdone j b' hb
      · obtain ⟨rfl, rfl⟩ := Prod.mk.inj (List.mem_singleton.mp hb)
        have hj' : (Function.update c.threads j p j).Done view (Q b') := by
          rw [hself]
          exact hp
        exact hj'

theorem linear_run (guard : ι → ν → ν → Prop) (hd : ∀ i, Discipline view (act i) Q R (Holding i) (Waiting i))
    (hallowed : ∀ x i t, allowed x i t →
      Undisturbed view Holding x i t ∧ guard i (view x.state) (view t))
    (henv : ∀ s t, env s t → view t = view s)
    (hwaiting : ∀ i, Waiting i (view c.state) (c.threads i)) (hrun : RunWhere env allowed c d) :
    ∃ history, Linear view act Q Waiting guard (view c.state) history d := by
  induction hrun with
  | refl =>
    refine ⟨[], .nil _, List.nodup_nil, fun i _ => hwaiting i, fun i b hb => ?_⟩
    cases hb
  | tail _ hstep ih =>
    obtain ⟨history, hl⟩ := ih
    cases hstep with
    | outside t h =>
      have hview := henv _ _ h
      exact ⟨history, hview ▸ hl.runs, hl.once, hview ▸ hl.waiting, hl.done⟩
    | moves i p t h ha => exact hl.moves hd h (hallowed _ i t ha).1 (hallowed _ i t ha).2

theorem Linear.result (hd : ∀ i, Discipline view (act i) Q R (Holding i) (Waiting i))
    (h : Linear view act Q Waiting guard v history d) {i : ι} {a : α} (hi : d.threads i = .ret a) :
    R a ∨ ∃ b, (i, b) ∈ history ∧ Q b a := by
  by_cases hmem : i ∈ history.map Prod.fst
  · obtain ⟨⟨j, b⟩, hb, hj⟩ := List.mem_map.mp hmem
    change j = i at hj
    subst hj
    have hdone := (h.done j b hb).result
    rw [hi] at hdone
    exact .inr ⟨b, hb, hdone⟩
  · have hwaiting := h.waiting i hmem
    rw [hi] at hwaiting
    exact .inl ((hd i).result hwaiting)

end Crowd

theorem acts_discipline {view : σ → ν} {act : ν → β → ν → Prop} {Q : β → α → Prop} :
    Discipline (ε := ε) view act Q (fun _ => False) (fun _ => False)
      (fun _ p => p.Acts view act Q) where
  step := fun h hstep => h.step hstep
  stable := fun h _ => h
  result := fun h => h

end Vokusz.Lib
