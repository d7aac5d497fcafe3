import Vokusz.Lib.Faults

namespace Vokusz.Lib

variable {σ ε α β : Type}

structure Stage where
  asks : Bool := false
  refuses : Bool := false
  loses : Bool := false
  deriving DecidableEq, Repr

namespace Stage

def blocks (stage : Stage) (fault : Option Nat) : Bool :=
  stage.refuses || stage.asks && fault == some 0

def after (stage : Stage) (fault : Option Nat) : Option Nat :=
  if stage.asks then Prog.passed fault else fault

def passes : List Stage → Option Nat → Option (Option Nat)
  | [], fault => some fault
  | stage :: stages, fault =>
    if stage.blocks fault then none else passes stages (stage.after fault)

def loses? : List Stage → Option Nat → Bool
  | [], _ => false
  | stage :: stages, fault =>
    !stage.blocks fault && (stage.loses || loses? stages (stage.after fault))

def failsLate (stages : List Stage) (fault : Option Nat) : Bool :=
  (passes stages fault).isNone && loses? stages fault

variable {stages more : List Stage} {fault rest : Option Nat}

theorem passes_append :
    passes (stages ++ more) fault = (passes stages fault).bind (passes more) := by
  induction stages generalizing fault with
  | nil => rfl
  | cons stage stages ih =>
    rw [List.cons_append, passes, passes]
    split
    · rfl
    · exact ih

theorem loses_append_of_passes (h : passes stages fault = some rest) :
    loses? (stages ++ more) fault = (stages.any loses || loses? more rest) := by
  induction stages generalizing fault with
  | nil =>
    cases h
    rfl
  | cons stage stages ih =>
    rw [passes] at h
    split at h
    · cases h
    · next hpass =>
      rw [List.cons_append, loses?, ih h, List.any_cons, Bool.eq_false_iff.mpr hpass,
        Bool.not_false, Bool.true_and, Bool.or_assoc]

theorem loses_append_of_blocked (h : passes stages fault = none) :
    loses? (stages ++ more) fault = loses? stages fault := by
  induction stages generalizing fault with
  | nil => cases h
  | cons stage stages ih =>
    rw [List.cons_append, loses?, loses?]
    rw [passes] at h
    split at h
    · next hblocked => rw [hblocked, Bool.not_true, Bool.false_and, Bool.false_and]
    · rw [ih h]

end Stage

namespace Prog

open Stage (passes loses?)

def Throughout (I : σ → Prop) : Prog σ ε α → Option Nat → σ → Prop
  | .ret _, _, s => I s
  | .fail _, _, s => I s
  | .step u n, fault, s => I s ∧ (n s).Throughout I fault (u s)
  | .stmt _ _ q, some 0, s => I s ∧ q.Throughout I none s
  | .stmt u n _, none, s => I s ∧ (n s).Throughout I none (u s)
  | .stmt u n _, some (k + 1), s => I s ∧ (n s).Throughout I (some k) (u s)

variable {I : σ → Prop} {p : Prog σ ε α} {f : α → Prog σ ε β} {fault : Option Nat} {s t : σ}

theorem Throughout.first (h : p.Throughout I fault s) : I s := by
  cases p with
  | ret a => exact h
  | fail e => exact h
  | step u n => exact h.1
  | stmt u n q =>
    cases fault with
    | none => exact h.1
    | some k =>
      cases k with
      | zero => exact h.1
      | succ k => exact h.1

theorem Throughout.last (h : p.Throughout I fault s) : I (p.failing fault s).2 := by
  induction p generalizing fault s with
  | ret a => cases fault <;> exact h
  | fail e => cases fault <;> exact h
  | step u n ih =>
    have hnext := ih s h.2
    cases fault <;> exact hnext
  | stmt u n q ih ihq =>
    cases fault with
    | none => exact ih s h.2
    | some k =>
      cases k with
      | zero => exact ihq h.2
      | succ k => exact ih s h.2

theorem throughout_attempt :
    p.attempt.Throughout I fault s ↔ p.Throughout I fault s := by
  induction p generalizing fault s with
  | ret a => exact Iff.rfl
  | fail e => exact Iff.rfl
  | step u n ih => exact and_congr_right (fun _ => ih s)
  | stmt u n q ih ihq =>
    cases fault with
    | none => exact and_congr_right (fun _ => ih s)
    | some k =>
      cases k with
      | zero => exact and_congr_right (fun _ => ihq)
      | succ k => exact and_congr_right (fun _ => ih s)

theorem throughout_bind : (p >>= f).Throughout I fault s ↔ p.Throughout I fault s ∧
    ∀ a t, p.failing fault s = (.ok a, t) → (f a).Throughout I (p.later fault s) t := by
  change (p.bind f).Throughout I fault s ↔ _
  induction p generalizing fault s with
  | ret a =>
    have hlater : (ret a : Prog σ ε α).later fault s = fault := by cases fault <;> rfl
    have hrun : (ret a : Prog σ ε α).failing fault s = (.ok a, s) := by cases fault <;> rfl
    rw [hlater, hrun]
    constructor
    · intro h
      refine ⟨h.first, fun b t heq => ?_⟩
      cases heq
      exact h
    · intro h
      exact h.2 a s rfl
  | fail e =>
    constructor
    · intro h
      refine ⟨h, fun b t heq => ?_⟩
      cases fault <;> cases heq
    · exact And.left
  | step u n ih =>
    have hnext := @ih s fault (u s)
    cases fault with
    | none => exact (and_congr_right (fun _ => hnext)).trans and_assoc.symm
    | some k => exact (and_congr_right (fun _ => hnext)).trans and_assoc.symm
  | stmt u n q ih ihq =>
    cases fault with
    | none => exact (and_congr_right (fun _ => @ih s none (u s))).trans and_assoc.symm
    | some k =>
      cases k with
      | zero => exact (and_congr_right (fun _ => @ihq none s)).trans and_assoc.symm
      | succ k =>
        have hlater : (stmt u n q).later (some (k + 1)) s = (n s).later (some k) (u s) := by
          simp only [later, Option.bind_some, statements, Nat.add_lt_add_iff_right,
            Nat.add_sub_add_right]
        rw [hlater]
        exact (and_congr_right (fun _ => @ih s (some k) (u s))).trans and_assoc.symm

theorem Preserves.throughout {γ : Type} {view : σ → γ} (h : p.Preserves view)
    (hI : ∀ t, view t = view s → I t) : p.Throughout I fault s := by
  induction p generalizing fault s with
  | ret a => exact hI s rfl
  | fail e => exact hI s rfl
  | step u n ih =>
    exact ⟨hI s rfl, ih s (h s).2 (fun t ht => hI t (ht.trans (h s).1))⟩
  | stmt u n q ih ihq =>
    have hnext : ∀ fault, (n s).Throughout I fault (u s) :=
      fun fault => ih s (h.1 s).2 (fun t ht => hI t (ht.trans (h.1 s).1))
    cases fault with
    | none => exact ⟨hI s rfl, hnext none⟩
    | some k =>
      cases k with
      | zero => exact ⟨hI s rfl, ihq h.2 hI⟩
      | succ k => exact ⟨hI s rfl, hnext (some k)⟩

theorem throughout_free (h : p.statements s = 0) :
    p.Throughout I fault s ↔ p.Throughout I none s := by
  induction p generalizing s with
  | ret a => exact Iff.rfl
  | fail e => exact Iff.rfl
  | step u n ih => exact and_congr_right (fun _ => ih s h)
  | stmt u n q ih _ => cases h

theorem later_bind {a : α} (h : p.exec s = (.ok a, t)) :
    (p >>= f).later fault s = (f a).later (p.later fault s) t := by
  cases fault with
  | none => rfl
  | some k =>
    simp only [later, Option.bind_some, statements_bind h]
    split
    · next hearly =>
      split
      · rfl
      · rw [Option.bind_some, if_pos (by omega)]
    · next hlate =>
      rw [if_neg (by omega), Option.bind_some, if_neg (by omega)]
      congr 1
      omega

structure Follows (p : Prog σ ε α) (s : σ) (stages : List Stage) : Prop where
  fails : ∀ fault, passes stages fault = none → ∃ e t, p.failing fault s = (.error e, t)
  runs : ∀ fault rest, passes stages fault = some rest →
    ∃ a t, p.exec s = (.ok a, t) ∧ p.failing fault s = (.ok a, t) ∧ p.later fault s = rest

def Watches (I : σ → Prop) (p : Prog σ ε α) (s : σ) (stages : List Stage) : Prop :=
  ∀ fault, p.Throughout I fault s ↔ loses? stages fault = false

variable {stages more : List Stage} {refuses loses : Bool}

theorem Follows.error_iff (h : p.Follows s stages) :
    (∃ e, (p.failing fault s).1 = .error e) ↔ passes stages fault = none := by
  constructor
  · rintro ⟨e, he⟩
    cases hpasses : passes stages fault with
    | none => rfl
    | some rest =>
      obtain ⟨a, t, -, hrun, -⟩ := h.runs fault rest hpasses
      rw [hrun] at he
      cases he
  · intro hpasses
    obtain ⟨e, t, hrun⟩ := h.fails fault hpasses
    exact ⟨e, congrArg Prod.fst hrun⟩

theorem Follows.bind (h : p.Follows s stages)
    (hf : ∀ a t, p.exec s = (.ok a, t) → (f a).Follows t more) :
    (p >>= f).Follows s (stages ++ more) := by
  constructor
  · intro fault hpasses
    rw [Stage.passes_append] at hpasses
    cases hfirst : passes stages fault with
    | none =>
      obtain ⟨e, t, hrun⟩ := h.fails fault hfirst
      exact ⟨e, t, failing_bind_error hrun⟩
    | some rest =>
      obtain ⟨a, t, hexec, hrun, hlater⟩ := h.runs fault rest hfirst
      rw [hfirst] at hpasses
      obtain ⟨e, u, hnext⟩ := (hf a t hexec).fails rest hpasses
      exact ⟨e, u, by rw [failing_bind_ok hrun, hlater, hnext]⟩
  · intro fault rest hpasses
    rw [Stage.passes_append] at hpasses
    obtain ⟨left, hfirst, hsecond⟩ := Option.bind_eq_some_iff.mp hpasses
    obtain ⟨a, t, hexec, hrun, hlater⟩ := h.runs fault left hfirst
    obtain ⟨b, u, hexec', hrun', hlater'⟩ := (hf a t hexec).runs left rest hsecond
    refine ⟨b, u, ?_, ?_, ?_⟩
    · rw [exec_bind_of_ok hexec, hexec']
    · rw [failing_bind_ok hrun, hlater, hrun']
    · rw [later_bind hexec, hlater, hlater']

theorem Watches.bind (hp : p.Follows s stages) (h : p.Watches I s stages)
    (hf : ∀ a t, p.exec s = (.ok a, t) → I t → stages.any Stage.loses = false →
      (f a).Watches I t more) :
    (p >>= f).Watches I s (stages ++ more) := by
  intro fault
  rw [throughout_bind, h fault]
  cases hfirst : passes stages fault with
  | none =>
    obtain ⟨e, t, hrun⟩ := hp.fails fault hfirst
    rw [Stage.loses_append_of_blocked hfirst, hrun]
    constructor
    · exact And.left
    · intro hkept
      refine ⟨hkept, fun a u heq => ?_⟩
      cases heq
  | some rest =>
    obtain ⟨a, t, hexec, hrun, hlater⟩ := hp.runs fault rest hfirst
    have hlost := @Stage.loses_append_of_passes stages [] fault rest hfirst
    rw [List.append_nil, loses?, Bool.or_false] at hlost
    rw [Stage.loses_append_of_passes hfirst, hlost, Bool.or_eq_false_iff, hrun, hlater]
    refine and_congr_right (fun hkept => ?_)
    have hthroughout := (h fault).mpr (hlost.trans hkept)
    have hlast := hthroughout.last
    rw [hrun] at hlast
    constructor
    · intro hnext
      exact (hf a t hexec hlast hkept rest).mp (hnext a t rfl)
    · intro hnext b u heq
      cases heq
      exact (hf a t hexec hlast hkept rest).mpr hnext

theorem follows_free {a : α} (h : p.Runs s a t 0) : p.Follows s [{ loses := loses }] := by
  constructor
  · intro fault hpasses
    cases hpasses
  · intro fault rest hpasses
    cases hpasses
    have hrun := @Runs.failing_bind σ ε α α p pure s t a fault h
    rw [bind_pure, failing_pure] at hrun
    refine ⟨a, t, h.1, hrun, ?_⟩
    rw [later, h.2]
    cases fault <;> rfl

theorem watches_free (h : p.statements s = 0) (hI : p.Throughout I none s ↔ loses = false) :
    p.Watches I s [{ loses := loses }] := by
  intro fault
  rw [throughout_free h, hI]
  cases loses <;> exact Iff.rfl

theorem loses_of_kept (h : stages.all (fun stage => !stage.loses) = true) :
    loses? stages fault = false := by
  induction stages generalizing fault with
  | nil => rfl
  | cons stage stages ih =>
    rw [List.all_cons, Bool.and_eq_true, Bool.not_eq_true'] at h
    rw [loses?, h.1, ih h.2, Bool.or_false, Bool.and_false]

theorem Preserves.watches {γ : Type} {view : σ → γ} (h : p.Preserves view)
    (hI : ∀ t, view t = view s → I t) (hkept : stages.all (fun stage => !stage.loses) = true) :
    p.Watches I s stages :=
  fun _ => ⟨fun _ => loses_of_kept hkept, fun _ => h.throughout hI⟩

theorem follows_pure (a : α) : (pure a : Prog σ ε α).Follows s [] := by
  constructor
  · intro fault hpasses
    cases hpasses
  · intro fault rest hpasses
    cases hpasses
    refine ⟨a, s, rfl, failing_pure a fault s, ?_⟩
    cases fault <;> rfl

theorem watches_pure (a : α) (hs : I s) : (pure a : Prog σ ε α).Watches I s [] :=
  fun _ => ⟨fun _ => rfl, fun _ => hs⟩

theorem follows_get {γ : Type} {g : σ → γ} {f : γ → Prog σ ε β}
    (h : (f (g s)).Follows s stages) : (get g >>= f).Follows s stages := by
  constructor
  · intro fault hpasses
    rw [failing_get]
    exact h.fails fault hpasses
  · intro fault rest hpasses
    rw [failing_get]
    exact h.runs fault rest hpasses

theorem watches_get {γ : Type} {g : σ → γ} {f : γ → Prog σ ε β} (hs : I s)
    (h : (f (g s)).Watches I s stages) : (get g >>= f).Watches I s stages :=
  fun fault => Iff.trans ⟨And.right, fun hnext => ⟨hs, hnext⟩⟩ (h fault)

theorem follows_ofExcept (r : Except ε α) :
    (ofExcept r : Prog σ ε α).Follows s [{ refuses := !r.isOk }] := by
  cases r with
  | ok a =>
    constructor
    · intro fault hpasses
      cases hpasses
    · intro fault rest hpasses
      cases hpasses
      refine ⟨a, s, rfl, failing_pure a fault s, ?_⟩
      cases fault <;> rfl
  | error e =>
    constructor
    · exact fun fault _ => ⟨e, s, failing_fail e fault s⟩
    · intro fault rest hpasses
      cases hpasses

theorem watches_ofExcept (r : Except ε α) (hs : I s) :
    (ofExcept r : Prog σ ε α).Watches I s [{ refuses := !r.isOk }] := by
  intro fault
  cases r with
  | ok a => exact ⟨fun _ => rfl, fun _ => hs⟩
  | error e => exact ⟨fun _ => rfl, fun _ => hs⟩

variable {g : σ → Except ε α × σ} {e : ε}

theorem follows_statement (hg : (g s).1.isOk = !refuses) :
    (statement e g).Follows s [{ asks := true, refuses := refuses, loses := loses }] := by
  cases hresult : g s with
  | mk r t =>
    rw [hresult] at hg
    have hexec : (statement e g).exec s = (r, t) := (exec_statement e g s).trans hresult
    cases r with
    | error e' =>
      cases refuses with
      | false => cases hg
      | true =>
        constructor
        · intro fault _
          cases fault with
          | none => exact ⟨e', t, hexec⟩
          | some k =>
            cases k with
            | zero => exact ⟨e, s, rfl⟩
            | succ k =>
              have hrun := @faultAt_statement_error σ ε α α pure s t k e e' g hresult
              rw [bind_pure] at hrun
              exact ⟨e', t, hrun⟩
        · intro fault rest hpasses
          cases hpasses
    | ok a =>
      cases refuses with
      | true => cases hg
      | false =>
        constructor
        · intro fault hpasses
          cases fault with
          | none => cases hpasses
          | some k =>
            cases k with
            | zero => exact ⟨e, s, rfl⟩
            | succ k => cases hpasses
        · intro fault rest hpasses
          cases fault with
          | none =>
            cases hpasses
            exact ⟨a, t, hexec, hexec, rfl⟩
          | some k =>
            cases k with
            | zero => cases hpasses
            | succ k =>
              cases hpasses
              have hrun := @faultAt_statement_ok σ ε α α pure s t a k e g hresult
              rw [bind_pure] at hrun
              refine ⟨a, t, hexec, hrun.trans (failing_pure a (some k) t), ?_⟩
              simp only [later, Option.bind_some, statements_statement]
              rw [if_neg (by omega)]
              rfl

theorem throughout_ofExcept (r : Except ε α) (fault : Option Nat) :
    (ofExcept r : Prog σ ε α).Throughout I fault s ↔ I s := by
  cases r <;> exact Iff.rfl

theorem watches_statement (hs : I s) (hrefused : refuses = true → I (g s).2)
    (hkept : refuses = false → (I (g s).2 ↔ loses = false)) :
    (statement e g).Watches I s [{ asks := true, refuses := refuses, loses := loses }] := by
  have hrun : I s ∧ I (g s).2 ↔ (!refuses && loses) = false := by
    cases refuses with
    | true => exact ⟨fun _ => rfl, fun _ => ⟨hs, hrefused rfl⟩⟩
    | false => exact ⟨fun h => (hkept rfl).mp h.2, fun h => ⟨hs, (hkept rfl).mpr h⟩⟩
  intro fault
  cases fault with
  | none =>
    change I s ∧ (ofExcept (g s).1).Throughout I none (g s).2 ↔ _
    rw [throughout_ofExcept, hrun]
    cases refuses <;> cases loses <;> exact Iff.rfl
  | some k =>
    cases k with
    | zero =>
      change I s ∧ I s ↔ _
      cases refuses <;> exact ⟨fun _ => rfl, fun _ => ⟨hs, hs⟩⟩
    | succ k =>
      change I s ∧ (ofExcept (g s).1).Throughout I (some k) (g s).2 ↔ _
      rw [throughout_ofExcept, hrun]
      cases refuses <;> cases loses <;> exact Iff.rfl

theorem Watches.harmless_iff (hp : p.Follows s stages) (h : p.Watches I s stages)
    (hf : ∀ a, (f a).Unfailing) (fault : Option Nat) :
    ((∃ e, ((p >>= f).failing fault s).1 = .error e) → (p >>= f).Throughout I fault s) ↔
      Stage.failsLate stages fault = false := by
  rw [failing_bind_error_iff hf, hp.error_iff, Stage.failsLate]
  cases hpasses : passes stages fault with
  | some rest => exact ⟨fun _ => rfl, fun _ hnone => by cases hnone⟩
  | none =>
    obtain ⟨e, t, hrun⟩ := hp.fails fault hpasses
    rw [throughout_bind, h fault, hrun]
    constructor
    · intro hharmless
      exact (hharmless rfl).1
    · intro hkept _
      refine ⟨hkept, fun a u heq => ?_⟩
      cases heq

end Prog

end Vokusz.Lib
