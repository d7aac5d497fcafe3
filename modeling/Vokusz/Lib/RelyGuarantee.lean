import Vokusz.Lib.Task

namespace Vokusz.Lib

variable {ι ω κ σ ε α β γ : Type}

namespace Prog

def Respects (I : σ → Prop) (G : σ → σ → Prop) (P : α → Prop) : Prog σ ε α → Prop
  | .ret a => P a
  | .fail _ => True
  | .step u n => ∀ s, I s → I (u s) ∧ G s (u s) ∧ (n s).Respects I G P
  | .stmt u n q =>
    (∀ s, I s → I (u s) ∧ G s (u s) ∧ (n s).Respects I G P) ∧ q.Respects I G P

variable {I : σ → Prop} {G : σ → σ → Prop} {P : α → Prop} {view : σ → γ}

theorem Keeps.respects {p : Prog σ ε α} (h : p.Keeps I P) (hview : p.Preserves view)
    (hG : ∀ s t, I s → view t = view s → G s t) : p.Respects I G P := by
  induction p with
  | ret a => exact h
  | fail e => trivial
  | step u n ih =>
    exact fun s hs => ⟨(h s hs).1, hG _ _ hs (hview s).1, ih s (h s hs).2 (hview s).2⟩
  | stmt u n q ih ihq =>
    exact ⟨fun s hs => ⟨(h.1 s hs).1, hG _ _ hs (hview.1 s).1, ih s (h.1 s hs).2 (hview.1 s).2⟩,
      ihq h.2 hview.2⟩

theorem Preserves.respects {p : Prog σ ε α} (hview : p.Preserves view)
    (hI : ∀ s t, view t = view s → I s → I t) (hG : ∀ s t, I s → view t = view s → G s t) :
    p.Respects I G (fun _ => True) :=
  (hview.keeps hI).respects hview hG

theorem Respects.weaken {G' : σ → σ → Prop} {p : Prog σ ε α} (h : p.Respects I G P)
    (hG : ∀ s t, G s t → G' s t) : p.Respects I G' P := by
  induction p with
  | ret a => exact h
  | fail e => trivial
  | step u n ih => exact fun s hs => ⟨(h s hs).1, hG _ _ (h s hs).2.1, ih s (h s hs).2.2⟩
  | stmt u n q ih ihq =>
    exact ⟨fun s hs => ⟨(h.1 s hs).1, hG _ _ (h.1 s hs).2.1, ih s (h.1 s hs).2.2⟩, ihq h.2⟩

theorem Respects.step {p q : Prog σ ε α} {s t : σ} (h : p.Respects I G P) (hG : ∀ s, G s s)
    (hs : I s) (hstep : Step (p, s) (q, t)) : I t ∧ G s t ∧ q.Respects I G P := by
  cases hstep with
  | step u n s => exact h s hs
  | stmt u n q s => exact h.1 s hs
  | fault u n q s => exact ⟨hs, hG s, h.2⟩

theorem Respects.bind {P' : β → Prop} {p : Prog σ ε α} {f : α → Prog σ ε β}
    (h : p.Respects I G P) (hf : ∀ a, P a → (f a).Respects I G P') :
    (p >>= f).Respects I G P' := by
  change (p.bind f).Respects I G P'
  induction p with
  | ret a => exact hf a h
  | fail e => trivial
  | step u n ih => exact fun s hs => ⟨(h s hs).1, (h s hs).2.1, ih s (h s hs).2.2⟩
  | stmt u n q ih ihq =>
    exact ⟨fun s hs => ⟨(h.1 s hs).1, (h.1 s hs).2.1, ih s (h.1 s hs).2.2⟩, ihq h.2⟩

theorem Respects.attempt {p : Prog σ ε α} (h : p.Respects I G P) :
    p.attempt.Respects I G (fun _ => True) := by
  induction p with
  | ret a => trivial
  | fail e => trivial
  | step u n ih => exact fun s hs => ⟨(h s hs).1, (h s hs).2.1, ih s (h s hs).2.2⟩
  | stmt u n q ih ihq =>
    exact ⟨fun s hs => ⟨(h.1 s hs).1, (h.1 s hs).2.1, ih s (h.1 s hs).2.2⟩, ihq h.2⟩

theorem respects_ofExcept {r : Except ε α} (h : ∀ a, r = .ok a → P a) :
    (ofExcept r : Prog σ ε α).Respects I G P := by
  cases r with
  | ok a => exact h a rfl
  | error e => trivial

theorem respects_require {c : Prop} [Decidable c] {e : ε} :
    (require c e : Prog σ ε Unit).Respects I G (fun _ => c) := by
  unfold require
  split
  · next hc => exact hc
  · trivial

theorem respects_statement {e : ε} {f : σ → Except ε α × σ}
    (h : ∀ s, I s → I (f s).2 ∧ G s (f s).2) (hP : ∀ s, I s → ∀ a, (f s).1 = .ok a → P a) :
    (statement e f).Respects I G P :=
  ⟨fun s hs => ⟨(h s hs).1, (h s hs).2, respects_ofExcept (hP s hs)⟩, trivial⟩

theorem keeps_gives {p : Prog σ ε α} (hquiet : p.Preserves (fun s => s)) :
    p.Keeps I (fun a => p.Gives I (.ok a)) := by
  induction p with
  | ret a => exact .ret a
  | fail e => trivial
  | step u n ih =>
    intro s hs
    have hu : I (u s) := by
      rw [show u s = s from (hquiet s).1]
      exact hs
    exact ⟨hu, (ih s (hquiet s).2).mono (fun a ha => .step s hs ha)⟩
  | stmt u n q ih ihq =>
    refine ⟨fun s hs => ?_, (ihq hquiet.2).mono (fun a ha => .fault ha)⟩
    have hu : I (u s) := by
      rw [show u s = s from (hquiet.1 s).1]
      exact hs
    exact ⟨hu, (ih s (hquiet.1 s).2).mono (fun a ha => .stmt s hs ha)⟩

end Prog

namespace Task

variable {R G : (κ → Prop) → σ → σ → Prop}

def hold (held : κ → Prop) (m : κ) : κ → Prop := fun n => n = m ∨ held n

def drop (held : κ → Prop) (m : κ) : κ → Prop := fun n => n ≠ m ∧ held n

theorem drop_hold {held : κ → Prop} {m : κ} (h : ¬ held m) : drop (hold held m) m = held := by
  funext n
  refine propext ⟨?_, fun hn => ⟨fun e => h (e ▸ hn), .inr hn⟩⟩
  rintro ⟨hne, rfl | hn⟩
  · exact absurd rfl hne
  · exact hn

def Meets (R G : (κ → Prop) → σ → σ → Prop) (Q : Except ε α → (κ → Prop) → σ → Prop) :
    Task κ σ ε α → (κ → Prop) → σ → Prop
  | .ret a, held, s => ∀ s', R held s s' → Q (.ok a) held s'
  | .fail e, held, s => ∀ s', R held s s' → Q (.error e) held s'
  | .step u n, held, s => ∀ s', R held s s' → G held s' (u s') ∧ (n s').Meets R G Q held (u s')
  | .stmt u n q, held, s =>
    ∀ s', R held s s' →
      (G held s' (u s') ∧ (n s').Meets R G Q held (u s')) ∧ q.Meets R G Q held s'
  | .acquire m n, held, s => ¬ held m ∧ ∀ s', R held s s' → n.Meets R G Q (hold held m) s'
  | .release m n, held, s => held m ∧ ∀ s', R held s s' → n.Meets R G Q (drop held m) s'

variable {Q Q' : Except ε α → (κ → Prop) → σ → Prop} {held : κ → Prop} {s t : σ}

structure Environment (R : (κ → Prop) → σ → σ → Prop) : Prop where
  refl : ∀ held s, R held s s
  trans : ∀ held s t u, R held s t → R held t u → R held s u
  fewer : ∀ held held' s t, (∀ m, held m → held' m) → R held' s t → R held s t

theorem Meets.rely (env : Environment R) {p : Task κ σ ε α} (h : p.Meets R G Q held s)
    (ht : R held s t) : p.Meets R G Q held t := by
  cases p with
  | ret a => exact fun s' hs => h s' (env.trans _ _ _ _ ht hs)
  | fail e => exact fun s' hs => h s' (env.trans _ _ _ _ ht hs)
  | step u n => exact fun s' hs => h s' (env.trans _ _ _ _ ht hs)
  | stmt u n q => exact fun s' hs => h s' (env.trans _ _ _ _ ht hs)
  | acquire m n => exact ⟨h.1, fun s' hs => h.2 s' (env.trans _ _ _ _ ht hs)⟩
  | release m n => exact ⟨h.1, fun s' hs => h.2 s' (env.trans _ _ _ _ ht hs)⟩

theorem Meets.moves (env : Environment R) {p q : Task κ σ ε α} (h : p.Meets R G Q held s)
    (hmove : Moves (p, s) (q, t)) :
    (s = t ∨ G held s t) ∧ q.Meets R G Q held t := by
  cases hmove with
  | step u n s => exact ⟨.inr (h s (env.refl _ _)).1, (h s (env.refl _ _)).2⟩
  | stmt u n q s => exact ⟨.inr (h s (env.refl _ _)).1.1, (h s (env.refl _ _)).1.2⟩
  | fault u n q s => exact ⟨.inl rfl, (h s (env.refl _ _)).2⟩

theorem Meets.mono {p : Task κ σ ε α} (h : p.Meets R G Q held s)
    (hQ : ∀ r held s, Q r held s → Q' r held s) : p.Meets R G Q' held s := by
  induction p generalizing held s with
  | ret a => exact fun s' hs => hQ _ _ _ (h s' hs)
  | fail e => exact fun s' hs => hQ _ _ _ (h s' hs)
  | step u n ih => exact fun s' hs => ⟨(h s' hs).1, ih s' (h s' hs).2⟩
  | stmt u n q ih ihq =>
    exact fun s' hs => ⟨⟨(h s' hs).1.1, ih s' (h s' hs).1.2⟩, ihq (h s' hs).2⟩
  | acquire m n ih => exact ⟨h.1, fun s' hs => ih (h.2 s' hs)⟩
  | release m n ih => exact ⟨h.1, fun s' hs => ih (h.2 s' hs)⟩

theorem Meets.reaches {L : σ → σ → Prop} (hrefl : ∀ s, L s s)
    (htrans : ∀ s t u, L s t → L t u → L s u) (hR : ∀ held s t, R held s t → L s t)
    (hG : ∀ held s t, G held s t → L s t) {p : Task κ σ ε α} (h : p.Meets R G Q held s) :
    p.Meets R G (fun r h t => Q r h t ∧ L s t) held s := by
  have hfrom : ∀ s₀, L s₀ s → p.Meets R G (fun r h t => Q r h t ∧ L s₀ t) held s := by
    intro s₀ hs
    induction p generalizing held s with
    | ret a => exact fun s' hs' => ⟨h s' hs', htrans _ _ _ hs (hR _ _ _ hs')⟩
    | fail e => exact fun s' hs' => ⟨h s' hs', htrans _ _ _ hs (hR _ _ _ hs')⟩
    | step u n ih =>
      intro s' hs'
      have hstep := htrans _ _ _ (htrans _ _ _ hs (hR _ _ _ hs')) (hG _ _ _ (h s' hs').1)
      exact ⟨(h s' hs').1, ih s' (h s' hs').2 hstep⟩
    | stmt u n q ih ihq =>
      intro s' hs'
      have hrest := htrans _ _ _ hs (hR _ _ _ hs')
      have hstep := htrans _ _ _ hrest (hG _ _ _ (h s' hs').1.1)
      exact ⟨⟨(h s' hs').1.1, ih s' (h s' hs').1.2 hstep⟩, ihq (h s' hs').2 hrest⟩
    | acquire m n ih =>
      exact ⟨h.1, fun s' hs' => ih (h.2 s' hs') (htrans _ _ _ hs (hR _ _ _ hs'))⟩
    | release m n ih =>
      exact ⟨h.1, fun s' hs' => ih (h.2 s' hs') (htrans _ _ _ hs (hR _ _ _ hs'))⟩
  exact hfrom s (hrefl s)

def continues (R G : (κ → Prop) → σ → σ → Prop) (Q : Except ε β → (κ → Prop) → σ → Prop)
    (f : α → Task κ σ ε β) (r : Except ε α) (held : κ → Prop) (s : σ) : Prop :=
  match r with
  | .ok a => (f a).Meets R G Q held s
  | .error e => Q (.error e) held s

theorem Meets.bind (env : Environment R) {Q : Except ε β → (κ → Prop) → σ → Prop}
    {p : Task κ σ ε α} {f : α → Task κ σ ε β}
    (h : p.Meets R G (continues R G Q f) held s) : (p >>= f).Meets R G Q held s := by
  change (p.bind f).Meets R G Q held s
  induction p generalizing held s with
  | ret a => exact h s (env.refl held s)
  | fail e => exact h
  | step u n ih => exact fun s' hs => ⟨(h s' hs).1, ih s' (h s' hs).2⟩
  | stmt u n q ih ihq =>
    exact fun s' hs => ⟨⟨(h s' hs).1.1, ih s' (h s' hs).1.2⟩, ihq (h s' hs).2⟩
  | acquire m n ih => exact ⟨h.1, fun s' hs => ih (h.2 s' hs)⟩
  | release m n ih => exact ⟨h.1, fun s' hs => ih (h.2 s' hs)⟩

theorem Meets.attempt {Q : Except ε (Except ε α) → (κ → Prop) → σ → Prop} {p : Task κ σ ε α}
    (h : p.Meets R G (fun r => Q (.ok r)) held s) : p.attempt.Meets R G Q held s := by
  induction p generalizing held s with
  | ret a => exact h
  | fail e => exact h
  | step u n ih => exact fun s' hs => ⟨(h s' hs).1, ih s' (h s' hs).2⟩
  | stmt u n q ih ihq =>
    exact fun s' hs => ⟨⟨(h s' hs).1.1, ih s' (h s' hs).1.2⟩, ihq (h s' hs).2⟩
  | acquire m n ih => exact ⟨h.1, fun s' hs => ih (h.2 s' hs)⟩
  | release m n ih => exact ⟨h.1, fun s' hs => ih (h.2 s' hs)⟩

theorem meets_ofExcept {r : Except ε α} (h : ∀ s', R held s s' → Q r held s') :
    (ofExcept r).Meets R G Q held s := by
  cases r with
  | ok a => exact h
  | error e => exact h

theorem meets_locked (env : Environment R) {m : κ} {body : Task κ σ ε α} (hm : ¬ held m)
    (h : ∀ s', R held s s' → body.Meets R G
      (fun r h' t => h' = hold held m ∧ ∀ t', R held t t' → Q r held t') (hold held m) s') :
    (locked m body).Meets R G Q held s := by
  refine ⟨hm, fun s' hs => ?_⟩
  change (body.attempt >>= fun r => unlock m >>= fun _ => ofExcept r).Meets R G Q _ s'
  refine Meets.bind env (Meets.attempt ?_)
  refine (h s' hs).mono (fun r h' t hr => ?_)
  obtain ⟨rfl, hr⟩ := hr
  refine ⟨.inl rfl, fun t' ht => ?_⟩
  have hless : R held t t' := env.fewer _ _ _ _ (fun _ hn => .inr hn) ht
  change (ofExcept r).Meets R G Q (drop (hold held m) m) t'
  rw [drop_hold hm]
  exact meets_ofExcept (fun u hu => hr u (env.trans _ _ _ _ hless hu))

theorem meets_lift {I : σ → Prop} {P : α → Prop} {p : Prog σ ε α}
    (h : p.Respects I (G held) P) (hstable : ∀ s t, R held s t → I s → I t) (hs : I s) :
    (lift p).Meets R G (fun r h t => h = held ∧ I t ∧ ∀ a, r = .ok a → P a) held s := by
  induction p generalizing s with
  | ret a =>
    intro s' hR
    refine ⟨rfl, hstable s s' hR hs, fun b hb => ?_⟩
    cases hb
    exact h
  | fail e => exact fun s' hR => ⟨rfl, hstable s s' hR hs, fun b hb => by cases hb⟩
  | step u n ih =>
    intro s' hR
    obtain ⟨hI, hG, hn⟩ := h s' (hstable s s' hR hs)
    exact ⟨hG, ih s' hn hI⟩
  | stmt u n q ih ihq =>
    intro s' hR
    have hI := hstable s s' hR hs
    obtain ⟨hI', hG, hn⟩ := h.1 s' hI
    exact ⟨⟨hG, ih s' hn hI'⟩, ihq h.2 hI⟩

theorem meets_statement {I : σ → Prop} {e : ε} {f : σ → Except ε α × σ}
    (hG : ∀ s, I s → G held s (f s).2) (hstable : ∀ s t, R held s t → I s → I t) (hs : I s) :
    (lift (Prog.statement e f)).Meets R G (fun _ h _ => h = held) held s := by
  intro s' hR
  refine ⟨⟨hG s' (hstable s s' hR hs), ?_⟩, fun _ _ => rfl⟩
  change (lift (Prog.ofExcept (f s').1)).Meets R G _ held _
  cases (f s').1 with
  | ok a => exact fun _ _ => rfl
  | error e' => exact fun _ _ => rfl

theorem meets_query {e : ε} {f : σ → Except ε α} (hG : ∀ s, G held s s) :
    (lift (Prog.query e f)).Meets R G
      (fun r h t => h = held ∧
        ∀ a, r = .ok a → ∃ s', R held s s' ∧ f s' = .ok a ∧ R held s' t) held s := by
  intro s' hR
  refine ⟨⟨hG s', ?_⟩, fun _ _ => ⟨rfl, fun a ha => by cases ha⟩⟩
  change (lift (Prog.ofExcept (f s'))).Meets R G _ held _
  cases hread : f s' with
  | ok a =>
    intro t ht
    refine ⟨rfl, fun b hb => ?_⟩
    cases hb
    exact ⟨s', hR, hread, ht⟩
  | error e' => exact fun _ _ => ⟨rfl, fun a ha => by cases ha⟩

theorem lift_bind (p : Prog σ ε α) (f : α → Prog σ ε β) :
    (lift (p >>= f) : Task κ σ ε β) = lift p >>= fun a => lift (f a) := by
  change lift (p.bind f) = (lift p).bind _
  induction p with
  | ret a => rfl
  | fail e => rfl
  | step u n ih => exact congrArg (Task.step u) (funext ih)
  | stmt u n q ih ihq => exact congr (congrArg (Task.stmt u) (funext ih)) ihq

theorem lift_attempt (p : Prog σ ε α) :
    (lift p.attempt : Task κ σ ε (Except ε α)) = (lift p).attempt := by
  induction p with
  | ret a => rfl
  | fail e => rfl
  | step u n ih => exact congrArg (Task.step u) (funext ih)
  | stmt u n q ih ihq => exact congr (congrArg (Task.stmt u) (funext ih)) ihq

theorem meets_lift_bind (env : Environment R) {I : σ → Prop} {P : α → Prop} {p : Prog σ ε α}
    {f : α → Prog σ ε β} {Q : Except ε β → (κ → Prop) → σ → Prop}
    (hp : p.Respects I (G held) P) (hstable : ∀ s t, R held s t → I s → I t) (hs : I s)
    (hfail : ∀ e t, Q (.error e) held t)
    (hf : ∀ a t, P a → I t → (lift (f a)).Meets R G Q held t) :
    (lift (p >>= f)).Meets R G Q held s := by
  rw [lift_bind]
  refine Meets.bind env ((meets_lift hp hstable hs).mono ?_)
  rintro r h t ⟨rfl, hI, hP⟩
  cases r with
  | ok a => exact hf a t (hP a rfl) hI
  | error e => exact hfail e t

end Task

structure Pool (ι ω κ σ ε α : Type) where
  state : σ
  owner : κ → Option ι := fun _ => none
  threads : ι → Option (ω × Task κ σ ε α) := fun _ => none

namespace Pool

open Lib.Task

def held (c : Pool ι ω κ σ ε α) (i : ι) : κ → Prop := fun m => c.owner m = some i

theorem held_disjoint {c : Pool ι ω κ σ ε α} {i j : ι} (hij : j ≠ i) (m : κ)
    (hj : c.held j m) : ¬ c.held i m := by
  intro hi
  have heq : some j = some i := hj.symm.trans hi
  exact hij (Option.some.inj heq)

section

variable [DecidableEq κ] {c : Pool ι ω κ σ ε α} {i j : ι} {m : κ}

theorem held_acquired :
    ({ c with owner := Function.update c.owner m (some i) } : Pool ι ω κ σ ε α).held i =
      hold (c.held i) m := by
  funext n
  by_cases hn : n = m
  · subst hn
    simp [held, hold]
  · simp [held, hold, hn]

theorem held_released :
    ({ c with owner := Function.update c.owner m none } : Pool ι ω κ σ ε α).held i =
      drop (c.held i) m := by
  funext n
  by_cases hn : n = m
  · subst hn
    simp [held, drop]
  · simp [held, drop, hn]

theorem held_acquired_of_ne (hij : j ≠ i) (hfree : c.owner m = none) :
    ({ c with owner := Function.update c.owner m (some i) } : Pool ι ω κ σ ε α).held j =
      c.held j := by
  funext n
  by_cases hn : n = m
  · subst hn
    simp [held, hfree, hij.symm]
  · simp [held, hn]

theorem held_released_of_ne (hij : j ≠ i) (hown : c.owner m = some i) :
    ({ c with owner := Function.update c.owner m none } : Pool ι ω κ σ ε α).held j =
      c.held j := by
  funext n
  by_cases hn : n = m
  · subst hn
    simp [held, hown, hij.symm]
  · simp [held, hn]

end

variable {R : ω → (κ → Prop) → σ → σ → Prop} {G : ω → (κ → Prop) → σ → σ → Prop}
  {Q : ω → Except ε α → (κ → Prop) → σ → Prop} {c d : Pool ι ω κ σ ε α}
  {exclusive : ω → Prop}

structure Keeping (exclusive : ω → Prop) (R G : ω → (κ → Prop) → σ → σ → Prop)
    (Q : ω → Except ε α → (κ → Prop) → σ → Prop) (c : Pool ι ω κ σ ε α) : Prop where
  meets : ∀ i op p, c.threads i = some (op, p) → p.Meets (R op) (G op) (Q op) (c.held i) c.state
  idle : ∀ i m, c.threads i = none → c.owner m ≠ some i
  alone : ∀ i j op op' p p', c.threads i = some (op, p) → c.threads j = some (op', p') →
    exclusive op → exclusive op' → i = j

theorem Keeping.others (hk : Keeping exclusive R G Q c) {i : ι} {op : ω} {p : Task κ σ ε α}
    (hi : c.threads i = some (op, p)) (hop : exclusive op) (j : ι) (op' : ω) (p' : Task κ σ ε α)
    (hij : j ≠ i) (hj : c.threads j = some (op', p')) : ¬ exclusive op' :=
  fun hop' => hij (hk.alone j i op' op p' p hj hi hop' hop)

variable [DecidableEq ι]

def set (c : Pool ι ω κ σ ε α) (i : ι) (entry : Option (ω × Task κ σ ε α)) : Pool ι ω κ σ ε α :=
  { c with threads := Function.update c.threads i entry }

theorem set_threads_self (c : Pool ι ω κ σ ε α) (i : ι) (entry : Option (ω × Task κ σ ε α)) :
    (c.set i entry).threads i = entry :=
  Function.update_self _ _ _

theorem set_threads_of_ne {i j : ι} (hij : j ≠ i) (c : Pool ι ω κ σ ε α)
    (entry : Option (ω × Task κ σ ε α)) : (c.set i entry).threads j = c.threads j :=
  Function.update_of_ne hij _ _

theorem Keeping.change (env : ∀ op, Environment (R op)) (hk : Keeping exclusive R G Q c) {i : ι}
    {op : ω} {q : Task κ σ ε α} (hthreads : d.threads = c.threads)
    (hheld : ∀ j, j ≠ i → d.held j = c.held j)
    (hrely : ∀ j op' p, j ≠ i → c.threads j = some (op', p) → R op' (c.held j) c.state d.state)
    (halone : exclusive op → ∀ j op' p, j ≠ i → c.threads j = some (op', p) → ¬ exclusive op')
    (hq : q.Meets (R op) (G op) (Q op) (d.held i) d.state) :
    Keeping exclusive R G Q (d.set i (some (op, q))) where
  meets := by
    intro j op' p hp
    by_cases hij : j = i
    · subst hij
      rw [set_threads_self] at hp
      cases hp
      exact hq
    · rw [set_threads_of_ne hij, hthreads] at hp
      have hmeets := (hk.meets j op' p hp).rely (env op') (hrely j op' p hij hp)
      rwa [← hheld j hij] at hmeets
  idle := by
    intro j m hj
    by_cases hij : j = i
    · subst hij
      rw [set_threads_self] at hj
      cases hj
    · rw [set_threads_of_ne hij, hthreads] at hj
      intro hown
      have hold : c.held j m := hheld j hij ▸ (show d.held j m from hown)
      exact hk.idle j m hj hold
  alone := by
    intro j k op₁ op₂ p₁ p₂ hj hk' h₁ h₂
    by_cases hij : j = i
    · by_cases hik : k = i
      · exact hij.trans hik.symm
      · subst hij
        rw [set_threads_self] at hj
        rw [set_threads_of_ne hik, hthreads] at hk'
        cases hj
        exact absurd h₂ (halone h₁ k op₂ p₂ hik hk')
    · rw [set_threads_of_ne hij, hthreads] at hj
      by_cases hik : k = i
      · subst hik
        rw [set_threads_self] at hk'
        cases hk'
        exact absurd h₁ (halone h₂ j op₁ p₁ hij hj)
      · rw [set_threads_of_ne hik, hthreads] at hk'
        exact hk.alone j k op₁ op₂ p₁ p₂ hj hk' h₁ h₂

theorem Keeping.stop (hk : Keeping exclusive R G Q c) {i : ι} (hi : ∀ m, ¬ c.held i m) :
    Keeping exclusive R G Q (c.set i none) where
  meets := by
    intro j op' p hp
    by_cases hij : j = i
    · subst hij
      rw [set_threads_self] at hp
      cases hp
    · rw [set_threads_of_ne hij] at hp
      exact hk.meets j op' p hp
  idle := by
    intro j m hj
    by_cases hij : j = i
    · subst hij
      exact hi m
    · rw [set_threads_of_ne hij] at hj
      exact hk.idle j m hj
  alone := by
    intro j k op₁ op₂ p₁ p₂ hj hk' h₁ h₂
    have hij : j ≠ i := by
      rintro rfl
      rw [set_threads_self] at hj
      cases hj
    have hik : k ≠ i := by
      rintro rfl
      rw [set_threads_self] at hk'
      cases hk'
    rw [set_threads_of_ne hij] at hj
    rw [set_threads_of_ne hik] at hk'
    exact hk.alone j k op₁ op₂ p₁ p₂ hj hk' h₁ h₂

variable [DecidableEq κ]

inductive Step (program : ω → Task κ σ ε α) (exclusive : ω → Prop) (outside : σ → σ → Prop) :
    Pool ι ω κ σ ε α → Pool ι ω κ σ ε α → Prop
  | start {x} (i op) (h : x.threads i = none)
      (halone : exclusive op → ∀ j op' p, x.threads j = some (op', p) → ¬ exclusive op') :
      Step program exclusive outside x (x.set i (some (op, program op)))
  | ends {x} (i op a) (h : x.threads i = some (op, .ret a)) :
      Step program exclusive outside x (x.set i none)
  | fails {x} (i op e) (h : x.threads i = some (op, .fail e)) :
      Step program exclusive outside x (x.set i none)
  | moves {x} (i op p q t) (h : x.threads i = some (op, p)) (hmove : Moves (p, x.state) (q, t)) :
      Step program exclusive outside x ({ x with state := t }.set i (some (op, q)))
  | acquires {x} (i op m q) (h : x.threads i = some (op, .acquire m q)) (hfree : x.owner m = none) :
      Step program exclusive outside x
        ({ x with owner := Function.update x.owner m (some i) }.set i (some (op, q)))
  | releases {x} (i op m q) (h : x.threads i = some (op, .release m q)) :
      Step program exclusive outside x
        ({ x with owner := Function.update x.owner m none }.set i (some (op, q)))
  | outside {x} (t) (h : outside x.state t) :
      Step program exclusive outside x { x with state := t }

abbrev Run (program : ω → Task κ σ ε α) (exclusive : ω → Prop) (outside : σ → σ → Prop) :
    Pool ι ω κ σ ε α → Pool ι ω κ σ ε α → Prop :=
  Relation.ReflTransGen (Step program exclusive outside)

theorem run_moves {program : ω → Task κ σ ε α} {outside : σ → σ → Prop} {i : ι} {op : ω}
    {p q : Task κ σ ε α} {t : σ} (hi : c.threads i = some (op, p))
    (hmoves : Relation.ReflTransGen Moves (p, c.state) (q, t)) :
    Run program exclusive outside c ({ c with state := t }.set i (some (op, q))) := by
  have hall : ∀ x y : Task κ σ ε α × σ, Relation.ReflTransGen Moves x y →
      Run program exclusive outside ({ c with state := x.2 }.set i (some (op, x.1)))
        ({ c with state := y.2 }.set i (some (op, y.1))) := by
    intro x y hxy
    induction hxy with
    | refl => exact .refl
    | @tail y z _ hmove ih =>
      refine ih.tail ?_
      have hset : { ({ c with state := y.2 } : Pool ι ω κ σ ε α).set i (some (op, y.1)) with
          state := z.2 }.set i (some (op, z.1)) =
          ({ c with state := z.2 } : Pool ι ω κ σ ε α).set i (some (op, z.1)) := by
        simp [set]
      rw [← hset]
      exact .moves i op y.1 z.1 z.2 (set_threads_self _ _ _) hmove
  have hstart : ({ c with state := c.state } : Pool ι ω κ σ ε α).set i (some (op, p)) = c := by
    rw [← hi]
    simp [set]
  have hrun := hall _ _ hmoves
  rwa [hstart] at hrun

structure Compatible (program : ω → Task κ σ ε α) (exclusive : ω → Prop)
    (outside : σ → σ → Prop) (R G : ω → (κ → Prop) → σ → σ → Prop)
    (Q : ω → Except ε α → (κ → Prop) → σ → Prop) : Prop where
  env : ∀ op, Environment (R op)
  meets : ∀ op s, (program op).Meets (R op) (G op) (Q op) (fun _ => False) s
  idle : ∀ op r held s, Q op r held s → ∀ m, ¬ held m
  others : ∀ op op' held held' s t, ¬ (exclusive op ∧ exclusive op') →
    (∀ m, held m → ¬ held' m) → G op' held' s t → R op held s t
  outer : ∀ op held s t, outside s t → R op held s t

variable {program : ω → Task κ σ ε α} {outside : σ → σ → Prop}

theorem Keeping.step_of_rely (env : ∀ op, Environment (R op))
    (hmeets : ∀ op s, (program op).Meets (R op) (G op) (Q op) (fun _ => False) s)
    (hidle : ∀ op r held s, Q op r held s → ∀ m, ¬ held m)
    (hk : Keeping exclusive R G Q c) (hstep : Step program exclusive outside c d)
    (hrely : ∀ j op p, c.threads j = some (op, p) → d.threads j = some (op, p) →
      R op (c.held j) c.state d.state) : Keeping exclusive R G Q d := by
  cases hstep with
  | start i op hi halone =>
    refine hk.change env rfl (fun _ _ => rfl) (fun _ _ _ _ _ => (env _).refl _ _)
      (fun hop j op' p _ => halone hop j op' p) ?_
    have hheld : c.held i = fun _ => False := funext (fun m => eq_false (hk.idle i m hi))
    rw [hheld]
    exact hmeets op c.state
  | ends i op a hi =>
    apply hk.stop
    exact hidle op (.ok a) _ c.state (hk.meets i op _ hi c.state ((env op).refl _ _))
  | fails i op e hi =>
    apply hk.stop
    exact hidle op (.error e) _ c.state (hk.meets i op _ hi c.state ((env op).refl _ _))
  | moves i op p q t hi hmove =>
    obtain ⟨hG, hq⟩ := Meets.moves (env op) (hk.meets i op p hi) hmove
    refine hk.change env rfl (fun _ _ => rfl) (fun j op' p' hij hj => ?_) (hk.others hi) hq
    exact hrely j op' p' hj ((set_threads_of_ne hij _ _).trans hj)
  | acquires i op m q hi hfree =>
    refine hk.change env rfl (fun j hij => held_acquired_of_ne hij hfree)
      (fun _ _ _ _ _ => (env _).refl _ _) (hk.others hi) ?_
    rw [held_acquired]
    exact (hk.meets i op _ hi).2 c.state ((env op).refl _ _)
  | releases i op m q hi =>
    obtain ⟨hown, hq⟩ := hk.meets i op _ hi
    refine hk.change env rfl (fun j hij => held_released_of_ne hij hown)
      (fun _ _ _ _ _ => (env _).refl _ _) (hk.others hi) ?_
    rw [held_released]
    exact hq c.state ((env op).refl _ _)
  | outside t ht =>
    refine ⟨fun i op p hp => ?_, hk.idle, hk.alone⟩
    exact (hk.meets i op p hp).rely (env op) (hrely i op p hp hp)

theorem Keeping.moved (env : ∀ op, Environment (R op)) (hk : Keeping exclusive R G Q c)
    (hstep : Step program exclusive outside c d) :
    d.state = c.state ∨
      (∃ i op p q, c.threads i = some (op, p) ∧ d.threads i = some (op, q) ∧ q ≠ p ∧
        G op (c.held i) c.state d.state) ∨
      outside c.state d.state := by
  cases hstep with
  | moves i op p q t hi hmove =>
    rcases (Meets.moves (env op) (hk.meets i op p hi) hmove).1 with heq | hG
    · exact .inl heq.symm
    · exact .inr (.inl ⟨i, op, p, q, hi, set_threads_self _ _ _, ne_of_moves hmove, hG⟩)
  | outside t ht => exact .inr (.inr ht)
  | _ => exact .inl rfl

section

variable (h : Compatible program exclusive outside R G Q)

include h

theorem Keeping.step (hk : Keeping exclusive R G Q c) (hstep : Step program exclusive outside c d) :
    Keeping exclusive R G Q d := by
  refine hk.step_of_rely h.env h.meets h.idle hstep (fun j op p hj hd => ?_)
  rcases hk.moved h.env hstep with heq | ⟨i, op', p', q, hi, hq, hne, hG⟩ | hout
  · exact heq ▸ (h.env op).refl _ _
  · have hij : j ≠ i := by
      rintro rfl
      rw [hq] at hd
      rw [hi] at hj
      cases hd
      cases hj
      exact hne rfl
    refine h.others op op' _ _ _ _ ?_ (held_disjoint hij) hG
    exact fun hboth => hk.others hi hboth.2 j op p hij hj hboth.1
  · exact h.outer _ _ _ _ hout

theorem keeping_run {s : σ} (hrun : Run program exclusive outside { state := s } c) :
    Keeping exclusive R G Q c := by
  induction hrun with
  | refl =>
    constructor
    · intro i op p hp
      cases hp
    · intro i m _ hown
      cases hown
    · intro i j op op' p p' hp
      cases hp
  | tail _ hstep ih => exact ih.step h hstep

theorem guarantee {s t : σ} {i : ι} {op : ω} {p q : Task κ σ ε α}
    (hrun : Run program exclusive outside { state := s } c) (hi : c.threads i = some (op, p))
    (hmove : Moves (p, c.state) (q, t)) :
    c.state = t ∨ G op (c.held i) c.state t :=
  (Meets.moves (h.env op) ((keeping_run h hrun).meets i op p hi) hmove).1

theorem result {s : σ} {i : ι} {op : ω} {a : α}
    (hrun : Run program exclusive outside { state := s } c) (hi : c.threads i = some (op, .ret a)) :
    Q op (.ok a) (c.held i) c.state :=
  (keeping_run h hrun).meets i op _ hi c.state ((h.env op).refl _ _)

theorem invariant {I : σ → Prop} (hG : ∀ op held s t, G op held s t → I s → I t)
    (hout : ∀ s t, outside s t → I s → I t) {s : σ} (hs : I s)
    (hrun : Run program exclusive outside { state := s } c) : I c.state := by
  induction hrun with
  | refl => exact hs
  | @tail c d hrun hstep ih =>
    cases hstep with
    | moves i op p q t hi hmove =>
      rcases guarantee h hrun hi hmove with heq | hmoved
      · exact heq ▸ ih
      · exact hG op _ _ _ hmoved ih
    | outside t ht => exact hout _ _ ht ih
    | _ => exact ih

end

end Pool

end Vokusz.Lib
