import Vokusz.Lib.Program

namespace Vokusz.Lib.Prog

variable {σ ε α β γ δ κ : Type}

section

variable {env : σ → δ} {view : σ → γ}

def Settles (env : σ → δ) (view : σ → γ) (p : Prog σ ε α) : Prop :=
  ∀ s u, env u = env s → view u = view (p.exec s).2 → view (p.exec u).2 = view u

variable {p : Prog σ ε α} {f : α → Prog σ ε β}

theorem settles_of_preserves (h : p.Preserves view) : p.Settles env view :=
  fun _ u _ _ => h.exec u

theorem Settles.again (h : p.Settles env view) (henv : p.Preserves env) (s : σ) :
    view (p.exec (p.exec s).2).2 = view (p.exec s).2 :=
  h s (p.exec s).2 (henv.exec s) rfl

def Fixed (env : σ → δ) (p : Prog σ ε α) : Prop :=
  ∀ s, (p.exec s).2 = s ∧ ∀ u, env u = env s → (p.exec u).1 = (p.exec s).1

theorem fixed_ofExcept (r : Except ε α) : (ofExcept r : Prog σ ε α).Fixed env := by
  cases r <;> exact fun s => ⟨rfl, fun _ _ => rfl⟩

theorem fixed_pure (a : α) : (pure a : Prog σ ε α).Fixed env := fun _ => ⟨rfl, fun _ _ => rfl⟩

theorem fixed_fail (e : ε) : (fail e : Prog σ ε α).Fixed env := fun _ => ⟨rfl, fun _ _ => rfl⟩

theorem fixed_require (c : Prop) [Decidable c] (e : ε) :
    (require c e : Prog σ ε Unit).Fixed env := by
  unfold require
  split
  · exact fixed_pure ()
  · exact fixed_fail e

theorem fixed_get {g : σ → α} (h : ∀ s u, env u = env s → g u = g s) :
    (get g : Prog σ ε α).Fixed env :=
  fun s => ⟨rfl, fun u hu => congrArg Except.ok (h s u hu)⟩

theorem Fixed.bind (h : p.Fixed env) (hf : ∀ a, (f a).Fixed env) : (p >>= f).Fixed env := by
  intro s
  obtain ⟨hstate, hsame⟩ := h s
  cases hp : p.exec s with
  | mk r t =>
    rw [hp] at hstate hsame
    obtain rfl := hstate
    cases r with
    | error e =>
      rw [exec_bind_of_error hp]
      refine ⟨rfl, fun u hu => ?_⟩
      cases hq : p.exec u with
      | mk r' u' =>
        have hr := hsame u hu
        rw [hq] at hr
        obtain rfl : r' = .error e := hr
        rw [exec_bind_of_error hq]
    | ok a =>
      rw [exec_bind_of_ok hp]
      refine ⟨(hf a t).1, fun u hu => ?_⟩
      cases hq : p.exec u with
      | mk r' u' =>
        have hr := hsame u hu
        have hu' := (h u).1
        rw [hq] at hr hu'
        obtain rfl : r' = .ok a := hr
        obtain rfl : u' = u := hu'
        rw [exec_bind_of_ok hq]
        exact (hf a t).2 u' hu

theorem Settles.fixed_bind (h : p.Fixed env)
    (hf : ∀ a s, p.exec s = (.ok a, s) → (f a).Settles env view) :
    (p >>= f).Settles env view := by
  intro s u henv hview
  obtain ⟨hstate, hsame⟩ := h s
  have hu := (h u).1
  have hr := hsame u henv
  cases hp : p.exec s with
  | mk r t =>
    cases hq : p.exec u with
    | mk r' u' =>
      rw [hp] at hstate hr
      rw [hq] at hu hr
      obtain rfl := hstate
      obtain rfl := hu
      obtain rfl : r' = r := hr
      cases r' with
      | error e => rw [exec_bind_of_error hq]
      | ok a =>
        rw [exec_bind_of_ok hp] at hview
        rw [exec_bind_of_ok hq]
        exact hf a t hp t u' henv hview

theorem Settles.read_bind {q : γ → α} {part : γ → κ} (hp : ∀ s, p.exec s = (.ok (q (view s)), s))
    (hq : ∀ v w, part v = part w → f (q v) = f (q w))
    (hpart : ∀ a, (f a).Preserves (fun s => part (view s)))
    (hf : ∀ a, (f a).Settles env view) : (p >>= f).Settles env view := by
  intro s u henv hview
  rw [exec_bind_of_ok (hp s)] at hview
  have hsame : f (q (view u)) = f (q (view s)) := by
    apply hq
    rw [hview]
    exact (hpart _).exec s
  rw [exec_bind_of_ok (hp u), hsame]
  exact (hf _ s u henv hview)

theorem settles_of_effect {G : γ → γ} (h : ∀ s, view (p.exec s).2 = G (view s))
    (hG : ∀ v, G (G v) = G v) : p.Settles env view := by
  intro s u _ hview
  rw [h, hview, h, hG]

def Refreshes (env : σ → δ) (view : σ → γ) (part : γ → κ) (p : Prog σ ε α) : Prop :=
  ∀ s u, env u = env s → part (view u) = part (view (p.exec s).2) →
    view (p.exec u).2 = view u ∧ (p.exec u).1.isOk = (p.exec s).1.isOk

theorem Refreshes.fixed_bind {part : γ → κ} (h : p.Fixed env)
    (hf : ∀ a, (f a).Refreshes env view part) : (p >>= f).Refreshes env view part := by
  intro s u henv hpart
  obtain ⟨hstate, hsame⟩ := h s
  have hu := (h u).1
  have hr := hsame u henv
  cases hp : p.exec s with
  | mk r t =>
    cases hq : p.exec u with
    | mk r' u' =>
      rw [hp] at hstate hr
      rw [hq] at hu hr
      obtain rfl := hstate
      obtain rfl := hu
      obtain rfl : r' = r := hr
      cases r' with
      | error e =>
        rw [exec_bind_of_error hq, exec_bind_of_error hp]
        exact ⟨rfl, rfl⟩
      | ok a =>
        rw [exec_bind_of_ok hp] at hpart ⊢
        rw [exec_bind_of_ok hq]
        exact hf a t u' henv hpart

theorem Refreshes.bind {part : γ → κ} {rest : Prog σ ε β} (h : p.Refreshes env view part)
    (henv : p.Preserves env) (hpart : rest.Preserves (fun s => part (view s)))
    (hrest : rest.Settles env view) : (p >>= fun _ => rest).Settles env view := by
  intro s u hu hview
  cases hp : p.exec s with
  | mk r t =>
    have hsame := henv.exec s
    rw [hp] at hsame
    cases r with
    | error e =>
      rw [exec_bind_of_error hp] at hview
      obtain ⟨hkept, hok⟩ := h s u hu (by rw [hp, hview])
      rw [hp] at hok
      cases hq : p.exec u with
      | mk r' u' =>
        rw [hq] at hkept hok
        cases r' with
        | ok a => cases hok
        | error e' =>
          rw [exec_bind_of_error hq]
          exact hkept
    | ok a =>
      rw [exec_bind_of_ok hp] at hview
      obtain ⟨hkept, hok⟩ := h s u hu (by rw [hp, hview]; exact hpart.exec t)
      rw [hp] at hok
      have henv' := henv.exec u
      cases hq : p.exec u with
      | mk r' u' =>
        rw [hq] at hkept hok henv'
        cases r' with
        | error e => cases hok
        | ok a' =>
          rw [exec_bind_of_ok hq]
          exact (hrest t u' (henv'.trans (hu.trans hsame.symm)) (hkept.trans hview)).trans hkept

theorem Refreshes.read_bind {part : γ → κ} {q : κ → α}
    (hp : ∀ s, p.exec s = (.ok (q (part (view s))), s))
    (hq : ∀ s, q (part (view ((f (q (part (view s)))).exec s).2)) = q (part (view s)))
    (hf : ∀ a, (f a).Refreshes env view part) : (p >>= f).Refreshes env view part := by
  intro s u henv hpart
  rw [exec_bind_of_ok (hp s)] at hpart ⊢
  rw [exec_bind_of_ok (hp u), hpart, hq s]
  exact hf _ s u henv hpart

theorem refreshes_fail {part : γ → κ} (e : ε) :
    (fail e : Prog σ ε α).Refreshes env view part :=
  fun _ _ _ _ => ⟨rfl, rfl⟩

theorem Refreshes.then_read {part : γ → κ} {rest : Prog σ ε β} {q : κ → Except ε β}
    (h : p.Refreshes env view part) (hrest : ∀ s, rest.exec s = (q (part (view s)), s)) :
    (p >>= fun _ => rest).Refreshes env view part := by
  intro s u henv hpart
  cases hp : p.exec s with
  | mk r t =>
    cases r with
    | error e =>
      rw [exec_bind_of_error hp] at hpart ⊢
      obtain ⟨hkept, hok⟩ := h s u henv (by rw [hp]; exact hpart)
      rw [hp] at hok
      cases hu : p.exec u with
      | mk r' u' =>
        rw [hu] at hkept hok
        cases r' with
        | ok a => cases hok
        | error e' =>
          rw [exec_bind_of_error hu]
          exact ⟨hkept, rfl⟩
    | ok a =>
      rw [exec_bind_of_ok hp, hrest] at hpart ⊢
      obtain ⟨hkept, hok⟩ := h s u henv (by rw [hp]; exact hpart)
      rw [hp] at hok
      cases hu : p.exec u with
      | mk r' u' =>
        rw [hu] at hkept hok
        cases r' with
        | error e' => cases hok
        | ok a' =>
          rw [exec_bind_of_ok hu, hrest]
          have hsame : part (view u') = part (view t) := (congrArg part hkept).trans hpart
          exact ⟨hkept, by rw [hsame]⟩

end

end Vokusz.Lib.Prog
