import Vokusz.Lib.Linearize

namespace Vokusz.Lib

variable {ι σ ε α ν : Type} [DecidableEq ι]

namespace Crowd

variable {view : σ → ν} {act : ν → ι → ν → Prop} {Waiting : ι → ν → Prog σ ε α → Prop}
  {env : σ → σ → Prop} {allowed : Crowd ι σ ε α → ι → σ → Prop} {c d : Crowd ι σ ε α}

structure Settles (view : σ → ν) (act : ν → ι → ν → Prop)
    (Waiting : ι → ν → Prog σ ε α → Prop) (allowed : Crowd ι σ ε α → ι → σ → Prop) :
    Prop where
  step : ∀ {x i p t}, Waiting i (view x.state) (x.threads i) → allowed x i t →
    Prog.Step (x.threads i, x.state) (p, t) →
    (view t = view x.state ∧ Waiting i (view t) p) ∨
      act (view x.state) i (view t) ∧ ∃ a, p = .ret a
  stable : ∀ {i j v w p}, act v i w → Waiting j v p → Waiting j w p
  result : ∀ {i v a}, ¬ Waiting i v (.ret a)

structure Tallied (view : σ → ν) (act : ν → ι → ν → Prop)
    (Waiting : ι → ν → Prog σ ε α → Prop) (v : ν) (done : List ι) (x : Crowd ι σ ε α) : Prop where
  once : done.Nodup
  runs : Runs act v done (view x.state)
  returned : ∀ i, i ∈ done → ∃ a, x.threads i = .ret a
  waiting : ∀ i, i ∉ done → Waiting i (view x.state) (x.threads i)

variable {v : ν} {done : List ι}

omit [DecidableEq ι] in
theorem Tallied.mem_iff (hs : Settles view act Waiting allowed)
    (h : Tallied view act Waiting v done d) (i : ι) :
    i ∈ done ↔ ∃ a, d.threads i = .ret a := by
  constructor
  · exact h.returned i
  · rintro ⟨a, ha⟩
    by_contra hi
    have hwaiting := h.waiting i hi
    rw [ha] at hwaiting
    exact hs.result hwaiting

theorem Tallied.moves (hs : Settles view act Waiting allowed)
    (h : Tallied view act Waiting v done c) {i : ι} {p : Prog σ ε α} {t : σ}
    (hstep : Prog.Step (c.threads i, c.state) (p, t)) (ha : allowed c i t) :
    ∃ done', Tallied view act Waiting v done'
      { state := t, threads := Function.update c.threads i p } := by
  have hself : Function.update c.threads i p i = p := Function.update_self i p c.threads
  have hother : ∀ j, j ≠ i → Function.update c.threads i p j = c.threads j :=
    fun j hj => Function.update_of_ne hj p c.threads
  have hnot : i ∉ done := by
    intro hi
    obtain ⟨a, ha⟩ := h.returned i hi
    rw [ha] at hstep
    cases hstep
  have hreturned : ∀ j, j ∈ done → ∃ a, Function.update c.threads i p j = .ret a := by
    intro j hj
    rw [hother j (fun heq => hnot (heq ▸ hj))]
    exact h.returned j hj
  rcases hs.step (h.waiting i hnot) ha hstep with ⟨hsame, hp⟩ | ⟨hact, a, rfl⟩
  · refine ⟨done, h.once, ?_, hreturned, fun j hj => ?_⟩
    · rw [hsame]
      exact h.runs
    · have hj' : Waiting j (view t) (Function.update c.threads i p j) := by
        by_cases hji : j = i
        · subst hji
          rw [hself]
          exact hp
        · rw [hother j hji, hsame]
          exact h.waiting j hj
      exact hj'
  · refine ⟨done ++ [i], ?_, h.runs.concat hact, fun j hj => ?_, fun j hj => ?_⟩
    · rw [← List.concat_eq_append]
      exact h.once.concat hnot
    · rcases List.mem_append.mp hj with hj | hj
      · exact hreturned j hj
      · obtain rfl := List.mem_singleton.mp hj
        exact ⟨a, hself⟩
    · rw [List.mem_append, List.mem_singleton, not_or] at hj
      have hj' : Waiting j (view t) (Function.update c.threads i (.ret a) j) := by
        rw [hother j hj.2]
        exact hs.stable hact (h.waiting j hj.1)
      exact hj'

theorem tallied_run (hs : Settles view act Waiting allowed)
    (henv : ∀ s t, env s t → view t = view s)
    (hfirst : ∀ i, Waiting i (view c.state) (c.threads i)) (hrun : RunWhere env allowed c d) :
    ∃ done, Tallied view act Waiting (view c.state) done d := by
  induction hrun with
  | refl =>
    have hnone : ∀ i, i ∈ ([] : List ι) → ∃ a, c.threads i = .ret a :=
      fun i hi => absurd hi List.not_mem_nil
    exact ⟨[], List.nodup_nil, .nil _, hnone, fun i _ => hfirst i⟩
  | tail _ hstep ih =>
    obtain ⟨done, h⟩ := ih
    cases hstep with
    | moves i p t hp ha => exact h.moves hs hp ha
    | outside t ht =>
      have hsame := henv _ _ ht
      exact ⟨done, h.once, hsame ▸ h.runs, h.returned, hsame ▸ h.waiting⟩

end Crowd

end Vokusz.Lib
