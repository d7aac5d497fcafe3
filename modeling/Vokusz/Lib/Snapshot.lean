import Vokusz.Lib.Linearize

namespace Vokusz.Lib

variable {ι σ ε α γ ν : Type}

namespace Prog

def Relies (I : σ → Prop) (view : σ → ν) (G Sees : ν → ν → Prop) (v : ν) : Prog σ ε α → Prop
  | .ret _ => True
  | .fail _ => True
  | .step u n => ∀ s, I s → Sees v (view s) →
      (view (u s) = view s ∧ (n s).Relies I view G Sees (view s)) ∨
        G (view s) (view (u s)) ∧ (n s).Preserves view
  | .stmt u n q =>
    (∀ s, I s → Sees v (view s) →
      (view (u s) = view s ∧ (n s).Relies I view G Sees (view s)) ∨
        G (view s) (view (u s)) ∧ (n s).Preserves view) ∧
    q.Relies I view G Sees v

def Looks (I H : σ → Prop) (view : σ → ν) (G Sees : ν → ν → Prop)
    (After : Prog σ ε α → Prop) : Prog σ ε α → Prop
  | .ret _ => True
  | .fail _ => True
  | .step u n => ∀ s, I s →
      (view (u s) = view s ∧ ((n s).Looks I H view G Sees After ∨
        After (n s) ∧ (n s).Relies H view G Sees (view s))) ∨
      G (view s) (view (u s)) ∧ (n s).Preserves view
  | .stmt u n q =>
    (∀ s, I s →
      (view (u s) = view s ∧ ((n s).Looks I H view G Sees After ∨
        After (n s) ∧ (n s).Relies H view G Sees (view s))) ∨
      G (view s) (view (u s)) ∧ (n s).Preserves view) ∧
    q.Looks I H view G Sees After

def Ahead (view : σ → ν) (After : Prog σ ε α → Prop) (p : Prog σ ε α) : Prop :=
  After p ∧ ¬ p.Preserves view

def Later : Prog σ ε α → Prog σ ε α → Prop :=
  Relation.ReflTransGen (fun p q => ∃ s t, Step (p, s) (q, t))

theorem Later.step {p q r : Prog σ ε α} {s t : σ} (h : Later p q) (hstep : Step (q, s) (r, t)) :
    Later p r :=
  h.tail ⟨s, t, hstep⟩

variable {I H : σ → Prop} {view : σ → ν} {G Sees : ν → ν → Prop} {v : ν}
  {After : Prog σ ε α → Prop} {P : γ → Prop}

theorem relies_of_preserves {p : Prog σ ε α} (h : p.Preserves view) :
    p.Relies I view G Sees v := by
  induction p generalizing v with
  | ret a => trivial
  | fail e => trivial
  | step u n ih => exact fun s _ _ => .inl ⟨(h s).1, ih s (h s).2⟩
  | stmt u n q ih ihq => exact ⟨fun s _ _ => .inl ⟨(h.1 s).1, ih s (h.1 s).2⟩, ihq h.2⟩

theorem looks_of_preserves {p : Prog σ ε α} (h : p.Preserves view) :
    p.Looks I H view G Sees After := by
  induction p with
  | ret a => trivial
  | fail e => trivial
  | step u n ih => exact fun s _ => .inl ⟨(h s).1, .inl (ih s (h s).2)⟩
  | stmt u n q ih ihq => exact ⟨fun s _ => .inl ⟨(h.1 s).1, .inl (ih s (h.1 s).2)⟩, ihq h.2⟩

theorem relies_bind [IsPreorder ν Sees] {p : Prog σ ε γ} {f : γ → Prog σ ε α}
    (h : p.Preserves view) (hk : p.Keeps I P)
    (hf : ∀ c w, P c → Sees v w → (f c).Relies I view G Sees w) :
    (p >>= f).Relies I view G Sees v := by
  change (p.bind f).Relies I view G Sees v
  induction p generalizing v with
  | ret c => exact hf c v hk (refl v)
  | fail e => trivial
  | step u n ih =>
    intro s hs hv
    have hn := ih s (h s).2 (hk s hs).2 (fun c w hc hw => hf c w hc (IsTrans.trans _ _ _ hv hw))
    exact .inl ⟨(h s).1, hn⟩
  | stmt u n q ih ihq =>
    refine ⟨fun s hs hv => ?_, ihq h.2 hk.2 hf⟩
    have hn := ih s (h.1 s).2 (hk.1 s hs).2 (fun c w hc hw => hf c w hc (IsTrans.trans _ _ _ hv hw))
    exact .inl ⟨(h.1 s).1, hn⟩

theorem looks_bind {p : Prog σ ε γ} {f : γ → Prog σ ε α} (h : p.Preserves view)
    (hk : p.Keeps I P) (hf : ∀ c, P c → (f c).Looks I H view G Sees After) :
    (p >>= f).Looks I H view G Sees After := by
  change (p.bind f).Looks I H view G Sees After
  induction p with
  | ret c => exact hf c hk
  | fail e => trivial
  | step u n ih =>
    intro s hs
    exact .inl ⟨(h s).1, .inl (ih s (h s).2 (hk s hs).2)⟩
  | stmt u n q ih ihq =>
    refine ⟨fun s hs => ?_, ihq h.2 hk.2⟩
    exact .inl ⟨(h.1 s).1, .inl (ih s (h.1 s).2 (hk.1 s hs).2)⟩

theorem relies_statement {e : ε} {f : σ → Except ε γ × σ} {rest : γ → Prog σ ε α}
    (herror : ∀ s, I s → ∀ e', (f s).1 = .error e' → view (f s).2 = view s)
    (hok : ∀ s, I s → Sees v (view s) → ∀ c, (f s).1 = .ok c →
      (view (f s).2 = view s ∧ (rest c).Relies I view G Sees (view s)) ∨
        G (view s) (view (f s).2) ∧ (rest c).Preserves view) :
    (statement e f >>= rest).Relies I view G Sees v := by
  refine ⟨fun s hs hv => ?_, trivial⟩
  change (view (f s).2 = view s ∧
      ((ofExcept (f s).1).bind rest).Relies I view G Sees (view s)) ∨
    G (view s) (view (f s).2) ∧ ((ofExcept (f s).1).bind rest).Preserves view
  cases hf : (f s).1 with
  | ok c => exact hok s hs hv c hf
  | error e' => exact .inl ⟨herror s hs e' hf, trivial⟩

theorem relies_query {e : ε} {f : σ → Except ε γ} {rest : γ → Prog σ ε α}
    (h : ∀ s, I s → Sees v (view s) → ∀ c, f s = .ok c →
      (rest c).Relies I view G Sees (view s)) :
    (query e f >>= rest).Relies I view G Sees v := by
  refine ⟨fun s hs hv => .inl ⟨rfl, ?_⟩, trivial⟩
  change ((ofExcept (f s)).bind rest).Relies I view G Sees (view s)
  cases hf : f s with
  | ok c => exact h s hs hv c hf
  | error e' => trivial

theorem looks_query {e : ε} {f : σ → Except ε γ} {rest : γ → Prog σ ε α}
    (h : ∀ s, I s → ∀ c, f s = .ok c → (rest c).Looks I H view G Sees After ∨
      After (rest c) ∧ (rest c).Relies H view G Sees (view s)) :
    (query e f >>= rest).Looks I H view G Sees After := by
  refine ⟨fun s hs => .inl ⟨rfl, ?_⟩, trivial⟩
  change ((ofExcept (f s)).bind rest).Looks I H view G Sees After ∨
    After ((ofExcept (f s)).bind rest) ∧
      ((ofExcept (f s)).bind rest).Relies H view G Sees (view s)
  cases hf : f s with
  | ok c => exact h s hs c hf
  | error e' => exact .inl trivial

theorem Relies.step [IsPreorder ν Sees] {p q : Prog σ ε α} {s t : σ}
    (h : p.Relies I view G Sees v) (hs : I s) (hv : Sees v (view s))
    (hstep : Step (p, s) (q, t)) :
    (view t = view s ∧ ∃ w, Sees w (view s) ∧ q.Relies I view G Sees w) ∨
      G (view s) (view t) ∧ q.Preserves view := by
  have hread : (view t = view s ∧ q.Relies I view G Sees (view s)) →
      view t = view s ∧ ∃ w, Sees w (view s) ∧ q.Relies I view G Sees w :=
    fun hq => ⟨hq.1, view s, refl _, hq.2⟩
  cases hstep with
  | step u n s => exact (h s hs hv).imp_left hread
  | stmt u n r s => exact (h.1 s hs hv).imp_left hread
  | fault u n r s => exact .inl ⟨rfl, v, hv, h.2⟩

theorem Looks.step {p q : Prog σ ε α} {s t : σ} (h : p.Looks I H view G Sees After) (hs : I s)
    (hstep : Step (p, s) (q, t)) :
    (view t = view s ∧ (q.Looks I H view G Sees After ∨
      After q ∧ q.Relies H view G Sees (view s))) ∨
      G (view s) (view t) ∧ q.Preserves view := by
  cases hstep with
  | step u n s => exact h s hs
  | stmt u n r s => exact h.1 s hs
  | fault u n r s => exact .inl ⟨rfl, .inl h.2⟩

end Prog

namespace Crowd

variable [DecidableEq ι] {I : σ → Prop} {H : ι → σ → Prop} {view : σ → ν} {P : ν → Prop}
  {G Sees : ι → ν → ν → Prop} {After : ι → Prog σ ε α → Prop} {env : σ → σ → Prop}
  {allowed : Crowd ι σ ε α → ι → σ → Prop} {c d : Crowd ι σ ε α}

structure Watching (I : σ → Prop) (H : ι → σ → Prop) (view : σ → ν) (P : ν → Prop)
    (G Sees : ι → ν → ν → Prop) (After : ι → Prog σ ε α → Prop) (x : Crowd ι σ ε α) : Prop where
  state : I x.state
  good : P (view x.state)
  keeps : ∀ i, (x.threads i).Keeps I (fun _ => True)
  threads : ∀ i,
    (x.threads i).Looks (fun s => I s ∧ P (view s)) (H i) view (G i) (Sees i) (After i) ∨
    After i (x.threads i) ∧
      ∃ v, Sees i v (view x.state) ∧ (x.threads i).Relies (H i) view (G i) (Sees i) v

structure Considerate (I : σ → Prop) (H : ι → σ → Prop) (view : σ → ν) (P : ν → Prop)
    (G Sees : ι → ν → ν → Prop) (After : ι → Prog σ ε α → Prop)
    (allowed : Crowd ι σ ε α → ι → σ → Prop) : Prop where
  order : ∀ i, IsPreorder ν (Sees i)
  after : ∀ {i p q s t}, After i p → Prog.Step (p, s) (q, t) → After i q
  here : ∀ {x i t}, allowed x i t → Prog.Ahead view (After i) (x.threads i) → I x.state →
    P (view x.state) → H i x.state
  sees : ∀ {x i t j v}, allowed x i t → j ≠ i → Prog.Ahead view (After j) (x.threads j) →
    G i (view x.state) (view t) → Sees j v (view x.state) → Sees j v (view t)
  good : ∀ {x i t}, allowed x i t → P (view x.state) → G i (view x.state) (view t) → P (view t)

omit [DecidableEq ι] in
theorem Watching.acts (hc : Considerate I H view P G Sees After allowed)
    (h : Watching I H view P G Sees After c) {i : ι} {p : Prog σ ε α} {t : σ}
    (hstep : Prog.Step (c.threads i, c.state) (p, t)) (ha : allowed c i t) :
    (view t = view c.state ∧
      (p.Looks (fun s => I s ∧ P (view s)) (H i) view (G i) (Sees i) (After i) ∨
        After i p ∧ ∃ v, Sees i v (view c.state) ∧ p.Relies (H i) view (G i) (Sees i) v)) ∨
      G i (view c.state) (view t) ∧ p.Preserves view := by
  have horder := hc.order i
  rcases h.threads i with hlooks | ⟨hsaw, v, hv, hrelies⟩
  · rcases hlooks.step ⟨h.state, h.good⟩ hstep with ⟨hsame, hp | ⟨hp, hq⟩⟩ | hact
    · exact .inl ⟨hsame, .inl hp⟩
    · exact .inl ⟨hsame, .inr ⟨hp, view c.state, refl _, hq⟩⟩
    · exact .inr hact
  · by_cases hquiet : (c.threads i).Preserves view
    · obtain ⟨hsame, hp⟩ := hquiet.step hstep
      exact .inl ⟨hsame, .inl (Prog.looks_of_preserves hp)⟩
    · have hhere := hc.here ha ⟨hsaw, hquiet⟩ h.state h.good
      rcases hrelies.step hhere hv hstep with ⟨hsame, hq⟩ | hact
      · exact .inl ⟨hsame, .inr ⟨hc.after hsaw hstep, hq⟩⟩
      · exact .inr hact

section

variable (hc : Considerate I H view P G Sees After allowed)

include hc

theorem Watching.moves (h : Watching I H view P G Sees After c) {i : ι} {p : Prog σ ε α} {t : σ}
    (hstep : Prog.Step (c.threads i, c.state) (p, t)) (ha : allowed c i t) :
    Watching I H view P G Sees After
      { state := t, threads := Function.update c.threads i p } ∧
      (view t = view c.state ∨ G i (view c.state) (view t)) := by
  have hself : Function.update c.threads i p i = p := Function.update_self i p c.threads
  have hother : ∀ j, j ≠ i → Function.update c.threads i p j = c.threads j :=
    fun j hj => Function.update_of_ne hj p c.threads
  have hkeeps := (h.keeps i).step h.state hstep
  have hmoved := h.acts hc hstep ha
  have hview : view t = view c.state ∨ G i (view c.state) (view t) :=
    hmoved.imp And.left And.left
  have hgood : P (view t) := by
    rcases hview with hsame | hact
    · rw [hsame]
      exact h.good
    · exact hc.good ha h.good hact
  refine ⟨⟨hkeeps.1, hgood, fun j => ?_, fun j => ?_⟩, hview⟩
  · change (Function.update c.threads i p j).Keeps I _
    by_cases hj : j = i
    · subst hj
      rw [hself]
      exact hkeeps.2
    · rw [hother j hj]
      exact h.keeps j
  · change (Function.update c.threads i p j).Looks _ (H j) view (G j) (Sees j) (After j) ∨
      After j (Function.update c.threads i p j) ∧ ∃ v, Sees j v (view t) ∧
        (Function.update c.threads i p j).Relies (H j) view (G j) (Sees j) v
    by_cases hj : j = i
    · subst hj
      rw [hself]
      rcases hmoved with ⟨hsame, hp⟩ | ⟨-, hquiet⟩
      · rw [hsame]
        exact hp
      · exact .inl (Prog.looks_of_preserves hquiet)
    · rw [hother j hj]
      rcases h.threads j with hlooks | ⟨hsaw, v, hv, hrelies⟩
      · exact .inl hlooks
      · by_cases hquiet : (c.threads j).Preserves view
        · exact .inl (Prog.looks_of_preserves hquiet)
        · have hseen : Sees j v (view t) := by
            rcases hview with hsame | hact
            · rw [hsame]
              exact hv
            · exact hc.sees ha hj ⟨hsaw, hquiet⟩ hact hv
          exact .inr ⟨hsaw, v, hseen, hrelies⟩

theorem Watching.step (henv : ∀ s t, I s → env s t → I t ∧ view t = view s)
    (h : Watching I H view P G Sees After c) (hstep : Step env allowed c d) :
    Watching I H view P G Sees After d ∧ (view d.state = view c.state ∨
      ∃ i, allowed c i d.state ∧ G i (view c.state) (view d.state)) := by
  cases hstep with
  | outside t ht =>
    obtain ⟨hinv, hsame⟩ := henv _ _ h.state ht
    have hgood : P (view t) := by
      rw [hsame]
      exact h.good
    refine ⟨⟨hinv, hgood, h.keeps, ?_⟩, .inl hsame⟩
    rw [hsame]
    exact h.threads
  | moves i p t hp ha =>
    obtain ⟨hwatch, hview⟩ := h.moves hc hp ha
    exact ⟨hwatch, hview.imp_right (fun hact => ⟨i, ha, hact⟩)⟩

theorem Watching.run (henv : ∀ s t, I s → env s t → I t ∧ view t = view s)
    (h : Watching I H view P G Sees After c) (hrun : RunWhere env allowed c d) :
    Watching I H view P G Sees After d := by
  induction hrun with
  | refl => exact h
  | tail _ hstep ih => exact (ih.step hc henv hstep).1

end

end Crowd

end Vokusz.Lib
