import Mathlib.Data.Fintype.Basic
import Vokusz.Lib.Decimal
import Vokusz.Lib.Transition

namespace Vokusz.Snowflake

open Lib

def epoch : Nat := 1704067200000

def sinceEpoch (now : Nat) : Nat := (now + 2 ^ 64 - epoch) % 2 ^ 64

def ident (timestamp seq : Nat) : Nat := (timestamp <<< 22) % 2 ^ 64 ||| seq

def idOf (timestamp seq : Nat) : String := toString (ident timestamp seq)

theorem ident_eq {timestamp seq : Nat} (ht : timestamp < 2 ^ 42) (hs : seq < 4096) :
    ident timestamp seq = timestamp * 2 ^ 22 + seq := by
  have hfits : timestamp * 2 ^ 22 < 2 ^ 64 := by omega
  rw [ident, Nat.shiftLeft_eq, Nat.mod_eq_of_lt hfits, ← Nat.shiftLeft_eq,
    ← Nat.shiftLeft_add_eq_or_of_lt (by omega : seq < 2 ^ 22)]

theorem idOf_inj {t₁ s₁ t₂ s₂ : Nat} (ht₁ : t₁ < 2 ^ 42) (hs₁ : s₁ < 4096) (ht₂ : t₂ < 2 ^ 42)
    (hs₂ : s₂ < 4096) (h : idOf t₁ s₁ = idOf t₂ s₂) : t₁ = t₂ ∧ s₁ = s₂ := by
  have hnat := Decimal.toString_injective h
  rw [ident_eq ht₁ hs₁, ident_eq ht₂ hs₂] at hnat
  omega

inductive Call where
  | idle
  | load (timestamp : Nat)
  | fetch (timestamp last : Nat)
  | wait (timestamp last seq : Nat)
  | store (timestamp seq : Nat)
  | storeNew (timestamp : Nat)
  | resetSequence (timestamp : Nat)
  deriving DecidableEq, Repr

structure State (ι : Type) where
  clock : Nat
  lastTimestamp : Nat := 0
  sequence : Nat := 0
  calls : ι → Call := fun _ => .idle
  returned : List String := []

inductive Event (ι : Type) where
  | tick (now : Nat)
  | run (i : ι)
  deriving DecidableEq, Repr

variable {ι : Type}

section

variable [DecidableEq ι]

namespace State

def set (s : State ι) (i : ι) (call : Call) : State ι :=
  { s with calls := Function.update s.calls i call }

def fetchAdd (s : State ι) (i : ι) (call : Call) : State ι :=
  { s.set i call with sequence := (s.sequence + 1) % 2 ^ 64 }

def finish (s : State ι) (i : ι) (timestamp seq : Nat) : State ι :=
  { s.set i .idle with returned := s.returned ++ [idOf timestamp seq] }

variable {s : State ι} {i j : ι} {call : Call}

@[simp] theorem set_calls_self : (s.set i call).calls i = call := by simp [set]

theorem set_calls_of_ne (h : j ≠ i) : (s.set i call).calls j = s.calls j := by simp [set, h]

theorem set_calls_cases {c : Call} (h : (s.set i call).calls j = c) :
    j = i ∧ call = c ∨ j ≠ i ∧ s.calls j = c := by
  by_cases hj : j = i
  · subst hj
    exact .inl ⟨rfl, set_calls_self.symm.trans h⟩
  · exact .inr ⟨hj, (set_calls_of_ne hj).symm.trans h⟩

end State

def loop (timestamp last seq : Nat) : Call :=
  if timestamp ≤ last then .wait timestamp last seq else .store timestamp seq

def generate (s : State ι) (i : ι) : State ι :=
  match s.calls i with
  | .idle => s.set i (.load (sinceEpoch s.clock))
  | .load timestamp =>
    if timestamp = s.lastTimestamp then s.set i (.fetch timestamp s.lastTimestamp)
    else s.set i (.storeNew timestamp)
  | .fetch timestamp last =>
    let seq := s.sequence &&& 0xFFF
    s.fetchAdd i (if seq = 0 then loop timestamp last seq else .store timestamp seq)
  | .wait _ last seq => s.set i (loop (sinceEpoch s.clock) last seq)
  | .store timestamp seq => { s.finish i timestamp seq with lastTimestamp := timestamp }
  | .storeNew timestamp => { s.set i (.resetSequence timestamp) with lastTimestamp := timestamp }
  | .resetSequence timestamp => { s.finish i timestamp 0 with sequence := 1 }

def step (s : State ι) : Event ι → Option (State ι)
  | .tick now => if s.clock ≤ now ∧ now < 2 ^ 64 then some { s with clock := now } else none
  | .run i => some (generate s i)

end

namespace Call

def inside : Call → Bool
  | .idle => false
  | .load _ => false
  | _ => true

def opens : Call → Bool
  | .wait _ _ _ => true
  | .store _ seq => seq = 0
  | .storeNew _ => true
  | .resetSequence _ => true
  | _ => false

theorem inside_of_opens {c : Call} (h : c.opens = true) : c.inside = true := by
  cases c with
  | idle => cases h
  | load t => cases h
  | _ => rfl

end Call

section

variable [Fintype ι] [DecidableEq ι]

def alone (s : State ι) (i : ι) : Bool := decide (∀ j, j ≠ i → (s.calls j).inside = false)

def unopened (s : State ι) (i : ι) : Bool := decide (∀ j, j ≠ i → (s.calls j).opens = false)

def undisturbed (s : State ι) : Event ι → Bool
  | .tick _ => true
  | .run i =>
    match s.calls i with
    | .idle => decide (sinceEpoch s.clock < 2 ^ 42)
    | .load timestamp =>
      if timestamp = s.lastTimestamp then unopened s i
      else decide (s.lastTimestamp < timestamp) && alone s i
    | .fetch _ _ => decide (s.sequence &&& 0xFFF ≠ 0) || alone s i
    | .wait _ _ _ => decide (sinceEpoch s.clock < 2 ^ 42)
    | _ => true

end

structure Issued (returned : List String) (last used : Nat) : Prop where
  nodup : returned.Nodup
  below : ∀ x ∈ returned, ∃ t q, x = idOf t q ∧ t < 2 ^ 42 ∧ q < 4096 ∧
    (t < last ∨ t = last ∧ q < used)

theorem Issued.mono {returned : List String} {last used last' used' : Nat}
    (h : Issued returned last used) (hle : last < last' ∨ last = last' ∧ used ≤ used') :
    Issued returned last' used' where
  nodup := h.nodup
  below := by
    intro x hx
    obtain ⟨t, q, hid, ht, hq, hbelow⟩ := h.below x hx
    exact ⟨t, q, hid, ht, hq, by omega⟩

theorem Issued.fresh {returned : List String} {last used t q : Nat} (h : Issued returned last used)
    (ht : t < 2 ^ 42) (hq : q < 4096) (habove : last < t ∨ last = t ∧ used ≤ q) :
    idOf t q ∉ returned := by
  intro hmem
  obtain ⟨t', q', hid, ht', hq', hbelow⟩ := h.below _ hmem
  obtain ⟨rfl, rfl⟩ := idOf_inj ht hq ht' hq' hid
  omega

theorem Issued.append {returned : List String} {last used t q : Nat} (h : Issued returned last used)
    (ht : t < 2 ^ 42) (hq : q < 4096) (hbelow : t < last ∨ t = last ∧ q < used)
    (hfresh : idOf t q ∉ returned) : Issued (returned ++ [idOf t q]) last used where
  nodup := List.nodup_append.mpr ⟨h.nodup, List.nodup_singleton _, by
    intro a ha b hb heq
    rw [List.mem_singleton] at hb
    exact hfresh (hb ▸ heq ▸ ha)⟩
  below := by
    intro x hx
    rcases List.mem_append.mp hx with hx | hx
    · exact h.below x hx
    · rw [List.mem_singleton] at hx
      exact ⟨t, q, hx, ht, hq, hbelow⟩

def used (s : State ι) : Nat := if s.sequence % 4096 = 0 then 4096 else s.sequence % 4096

def shares (last used : Nat) : Call → Prop
  | .idle => True
  | .load _ => True
  | .fetch timestamp l => timestamp = last ∧ l = last
  | .store timestamp seq => timestamp = last ∧ 0 < seq ∧ seq < used
  | _ => False

structure Shared (s : State ι) : Prop where
  issued : Issued s.returned s.lastTimestamp (used s)
  calls : ∀ i, shares s.lastTimestamp (used s) (s.calls i)
  fresh : ∀ i t q, s.calls i = .store t q → idOf t q ∉ s.returned
  distinct : ∀ i j t q, s.calls i = .store t q → s.calls j = .store t q → i = j

def opening (s : State ι) : Call → Prop
  | .wait _ last seq =>
    last = s.lastTimestamp ∧ seq = 0 ∧ s.sequence % 4096 = 1 ∧
      Issued s.returned (s.lastTimestamp + 1) 0
  | .store timestamp seq =>
    s.lastTimestamp < timestamp ∧ timestamp < 2 ^ 42 ∧ seq = 0 ∧ s.sequence % 4096 = 1 ∧
      Issued s.returned (s.lastTimestamp + 1) 0
  | .storeNew timestamp =>
    s.lastTimestamp < timestamp ∧ timestamp < 2 ^ 42 ∧ Issued s.returned (s.lastTimestamp + 1) 0
  | .resetSequence timestamp =>
    timestamp = s.lastTimestamp ∧ Issued s.returned s.lastTimestamp 0
  | _ => False

structure Opened (s : State ι) (i : ι) : Prop where
  others : ∀ j, j ≠ i → (s.calls j).inside = false
  opening : opening s (s.calls i)

structure Inv (s : State ι) : Prop where
  loads : ∀ i t, s.calls i = .load t → t < 2 ^ 42
  last : s.lastTimestamp < 2 ^ 42
  mode : Shared s ∨ ∃ i, Opened s i

variable {s : State ι} {i : ι}

theorem used_le (s : State ι) : used s ≤ 4096 := by
  unfold used
  split <;> omega

theorem used_pos (s : State ι) : 0 < used s := by
  unfold used
  split <;> omega

theorem mask_eq (n : Nat) : n &&& 0xFFF = n % 4096 := Nat.and_two_pow_sub_one_eq_mod n 12

theorem opens_of_opening {c : Call} (h : opening s c) : c.opens = true := by
  cases c with
  | wait t l q => rfl
  | store t q => exact decide_eq_true h.2.2.1
  | storeNew t => rfl
  | resetSequence t => rfl
  | idle => cases h
  | load t => cases h
  | fetch t l => cases h

theorem Opened.eq_of_inside {k : ι} (h : Opened s k) (hi : (s.calls i).inside = true) : i = k := by
  by_contra hne
  rw [h.others i hne] at hi
  cases hi

theorem shares_of_outside {last used : Nat} {c : Call} (h : c.inside = false) :
    shares last used c := by
  cases c with
  | idle => trivial
  | load t => trivial
  | _ => cases h

theorem shared_of_outside (hissued : Issued s.returned s.lastTimestamp (used s))
    (h : ∀ i, (s.calls i).inside = false) : Shared s where
  issued := hissued
  calls := fun i => shares_of_outside (h i)
  fresh := by
    intro i t q hi
    have hout := h i
    rw [hi] at hout
    cases hout
  distinct := by
    intro i j t q hi
    have hout := h i
    rw [hi] at hout
    cases hout

theorem Inv.opened (h : Inv s) {c : Call} (hi : s.calls i = c)
    (hnot : ∀ last used, ¬ shares last used c) (hin : c.inside = true) :
    Opened s i := by
  rcases h.mode with hs | ⟨k, ho⟩
  · exact absurd (hi ▸ hs.calls i) (hnot _ _)
  · rwa [ho.eq_of_inside (i := i) (hi ▸ hin)]

section

variable [DecidableEq ι]

theorem outside_of_set {call : Call} (hcall : call.inside = false)
    (hothers : ∀ j, j ≠ i → (s.calls j).inside = false) (j : ι) :
    ((s.set i call).calls j).inside = false := by
  by_cases hj : j = i
  · subst hj
    rw [State.set_calls_self, hcall]
  · rw [State.set_calls_of_ne hj, hothers j hj]

theorem Shared.set {call : Call} (h : Shared s) (hcall : shares s.lastTimestamp (used s) call)
    (hstore : ∀ t q, call ≠ .store t q) : Shared (s.set i call) where
  issued := h.issued
  calls := by
    intro j
    by_cases hj : j = i
    · subst hj
      rw [State.set_calls_self]
      exact hcall
    · rw [State.set_calls_of_ne hj]
      exact h.calls j
  fresh := by
    intro j t q hj
    rcases State.set_calls_cases hj with ⟨_, hc⟩ | ⟨_, hj⟩
    · exact absurd hc (hstore t q)
    · exact h.fresh j t q hj
  distinct := by
    intro j k t q hj hk
    rcases State.set_calls_cases hj with ⟨_, hc⟩ | ⟨_, hj⟩
    · exact absurd hc (hstore t q)
    rcases State.set_calls_cases hk with ⟨_, hc⟩ | ⟨_, hk⟩
    · exact absurd hc (hstore t q)
    exact h.distinct j k t q hj hk

theorem Opened.set_outside {k : ι} {call : Call} (h : Opened s k) (hi : (s.calls i).inside = false)
    (hcall : call.inside = false) : Opened (s.set i call) k := by
  have hne : k ≠ i := by
    rintro rfl
    rw [Call.inside_of_opens (opens_of_opening h.opening)] at hi
    cases hi
  refine ⟨fun j hj => ?_, ?_⟩
  · by_cases hji : j = i
    · subst hji
      rw [State.set_calls_self, hcall]
    · rw [State.set_calls_of_ne hji, h.others j hj]
  · rw [State.set_calls_of_ne hne]
    exact h.opening

theorem loads_set {call : Call} (h : ∀ j t, s.calls j = .load t → t < 2 ^ 42)
    (hcall : ∀ t, call = .load t → t < 2 ^ 42) :
    ∀ j t, (s.set i call).calls j = .load t → t < 2 ^ 42 := by
  intro j t hj
  rcases State.set_calls_cases hj with ⟨_, hc⟩ | ⟨_, hj⟩
  · exact hcall t hc
  · exact h j t hj

theorem Inv.idle (h : Inv s) (hi : s.calls i = .idle) (ht : sinceEpoch s.clock < 2 ^ 42) :
    Inv (generate s i) := by
  have heq : generate s i = s.set i (.load (sinceEpoch s.clock)) := by simp only [generate, hi]
  rw [heq]
  refine ⟨loads_set h.loads (fun t hc => Call.load.inj hc ▸ ht), h.last, ?_⟩
  · rcases h.mode with hs | ⟨k, ho⟩
    · exact .inl (hs.set trivial (fun _ _ hc => by cases hc))
    · exact .inr ⟨k, ho.set_outside (by rw [hi]; rfl) rfl⟩

theorem Inv.load [Fintype ι] {t : Nat} (h : Inv s) (hi : s.calls i = .load t)
    (hfree : undisturbed s (.run i) = true) : Inv (generate s i) := by
  have hout : (s.calls i).inside = false := by rw [hi]; rfl
  have ht : t < 2 ^ 42 := h.loads i t hi
  simp only [undisturbed, hi] at hfree
  by_cases hlast : t = s.lastTimestamp
  · rw [if_pos hlast, unopened, decide_eq_true_eq] at hfree
    have heq : generate s i = s.set i (.fetch t s.lastTimestamp) := by
      simp only [generate, hi, if_pos hlast]
    rw [heq]
    refine ⟨loads_set h.loads (fun _ hc => by cases hc), h.last, ?_⟩
    rcases h.mode with hs | ⟨k, ho⟩
    · exact .inl (hs.set ⟨hlast, rfl⟩ (fun _ _ hc => by cases hc))
    · have hopens := opens_of_opening ho.opening
      have hk : k ≠ i := by
        rintro rfl
        rw [Call.inside_of_opens hopens] at hout
        cases hout
      rw [hfree k hk] at hopens
      cases hopens
  · rw [if_neg hlast, Bool.and_eq_true, decide_eq_true_eq, alone, decide_eq_true_eq] at hfree
    obtain ⟨hnew, halone⟩ := hfree
    have heq : generate s i = s.set i (.storeNew t) := by
      simp only [generate, hi, if_neg hlast]
    rw [heq]
    refine ⟨loads_set h.loads (fun _ hc => by cases hc), h.last, .inr ⟨i, fun j hj => ?_, ?_⟩⟩
    · rw [State.set_calls_of_ne hj, halone j hj]
    · rw [State.set_calls_self]
      rcases h.mode with hs | ⟨k, ho⟩
      · exact ⟨hnew, ht, hs.issued.mono (.inl (Nat.lt_succ_self _))⟩
      · have hinside := Call.inside_of_opens (opens_of_opening ho.opening)
        by_cases hk : k = i
        · subst hk
          rw [hinside] at hout
          cases hout
        · rw [halone k hk] at hinside
          cases hinside

theorem shares_mono {last u u' : Nat} {c : Call} (h : shares last u c) (hle : u ≤ u') :
    shares last u' c := by
  cases c with
  | store t q => exact ⟨h.1, h.2.1, Nat.lt_of_lt_of_le h.2.2 hle⟩
  | _ => exact h

theorem Shared.take (h : Shared s) (hlast : s.lastTimestamp < 2 ^ 42)
    (hseq : s.sequence % 4096 ≠ 0) :
    Shared (s.fetchAdd i (.store s.lastTimestamp (s.sequence % 4096))) := by
  have hq : s.sequence % 4096 < 4096 := Nat.mod_lt _ (by decide)
  have hnow : used s = s.sequence % 4096 := if_neg hseq
  have hnext : used (s.fetchAdd i (.store s.lastTimestamp (s.sequence % 4096))) =
      s.sequence % 4096 + 1 := by
    change (if (s.sequence + 1) % 2 ^ 64 % 4096 = 0 then 4096
      else (s.sequence + 1) % 2 ^ 64 % 4096) = _
    split <;> omega
  have hnot : ∀ j, s.calls j ≠ .store s.lastTimestamp (s.sequence % 4096) := by
    intro j hj
    have hshare := h.calls j
    rw [hj] at hshare
    have hbelow := hshare.2.2
    omega
  constructor
  · refine h.issued.mono (.inr ⟨rfl, ?_⟩)
    rw [hnext]
    omega
  · intro j
    rw [hnext]
    change shares s.lastTimestamp _ ((s.set i _).calls j)
    by_cases hj : j = i
    · subst hj
      rw [State.set_calls_self]
      exact ⟨rfl, Nat.pos_of_ne_zero hseq, Nat.lt_succ_self _⟩
    · rw [State.set_calls_of_ne hj]
      exact shares_mono (h.calls j) (hnow.le.trans (Nat.le_succ _))
  · intro j t q hj
    rcases State.set_calls_cases hj with ⟨_, hc⟩ | ⟨_, hj⟩
    · obtain ⟨rfl, rfl⟩ := Call.store.inj hc
      exact h.issued.fresh hlast hq (.inr ⟨rfl, hnow.le⟩)
    · exact h.fresh j t q hj
  · intro j k t q hj hk
    rcases State.set_calls_cases hj with ⟨rfl, hc⟩ | ⟨_, hj'⟩
    · rcases State.set_calls_cases hk with ⟨rfl, _⟩ | ⟨_, hk'⟩
      · rfl
      · exact absurd (hk'.trans hc.symm) (hnot k)
    · rcases State.set_calls_cases hk with ⟨rfl, hc⟩ | ⟨_, hk'⟩
      · exact absurd (hj'.trans hc.symm) (hnot j)
      · exact h.distinct j k t q hj' hk'

theorem Inv.fetch [Fintype ι] {t l : Nat} (h : Inv s) (hi : s.calls i = .fetch t l)
    (hfree : undisturbed s (.run i) = true) : Inv (generate s i) := by
  have hs : Shared s := by
    rcases h.mode with hs | ⟨k, ho⟩
    · exact hs
    · have hk := ho.eq_of_inside (i := i) (by rw [hi]; rfl)
      have hopening := ho.opening
      rw [← hk, hi] at hopening
      cases hopening
  have hcall := hs.calls i
  rw [hi] at hcall
  obtain ⟨rfl, hl⟩ := hcall
  simp only [undisturbed, hi, mask_eq, Bool.or_eq_true, decide_eq_true_eq] at hfree
  by_cases hseq : s.sequence % 4096 = 0
  · have halone : ∀ j, j ≠ i → (s.calls j).inside = false := by
      rcases hfree with hne | halone
      · exact absurd hseq hne
      · exact of_decide_eq_true halone
    have heq : generate s i = s.fetchAdd i (.wait s.lastTimestamp l 0) := by
      simp only [generate, hi, mask_eq, hseq, if_true, loop, hl, le_refl]
    rw [heq]
    refine ⟨loads_set h.loads (fun _ hc => by cases hc), h.last, .inr ⟨i, fun j hj => ?_, ?_⟩⟩
    · exact (congrArg Call.inside (State.set_calls_of_ne hj)).trans (halone j hj)
    · change opening _ ((s.set i (.wait s.lastTimestamp l 0)).calls i)
      rw [State.set_calls_self]
      refine ⟨hl, rfl, ?_, hs.issued.mono (.inl (Nat.lt_succ_self _))⟩
      change (s.sequence + 1) % 2 ^ 64 % 4096 = 1
      omega
  · have heq : generate s i = s.fetchAdd i (.store s.lastTimestamp (s.sequence % 4096)) := by
      simp only [generate, hi, mask_eq, if_neg hseq]
    rw [heq]
    exact ⟨loads_set h.loads (fun _ hc => by cases hc), h.last, .inl (hs.take h.last hseq)⟩

theorem Inv.wait {t l q : Nat} (h : Inv s) (hi : s.calls i = .wait t l q)
    (ht : sinceEpoch s.clock < 2 ^ 42) : Inv (generate s i) := by
  have ho := h.opened hi (fun _ _ hs => hs) rfl
  have hopening := ho.opening
  rw [hi] at hopening
  obtain ⟨rfl, rfl, hseq, hissued⟩ := hopening
  have heq : generate s i = s.set i (loop (sinceEpoch s.clock) s.lastTimestamp 0) := by
    simp only [generate, hi]
  rw [heq]
  generalize sinceEpoch s.clock = now at ht
  have hnoload : ∀ t', loop now s.lastTimestamp 0 ≠ .load t' := by
    intro t'
    unfold loop
    split <;> exact Call.noConfusion
  refine ⟨loads_set h.loads (fun t' hc => absurd hc (hnoload t')), h.last,
    .inr ⟨i, fun j hj => ?_, ?_⟩⟩
  · rw [State.set_calls_of_ne hj, ho.others j hj]
  · rw [State.set_calls_self]
    unfold loop
    split
    · exact ⟨rfl, rfl, hseq, hissued⟩
    · next hlater => exact ⟨not_le.mp hlater, ht, rfl, hseq, hissued⟩

theorem Inv.storeNew {t : Nat} (h : Inv s) (hi : s.calls i = .storeNew t) :
    Inv (generate s i) := by
  have ho := h.opened hi (fun _ _ hs => hs) rfl
  have hopening := ho.opening
  rw [hi] at hopening
  obtain ⟨hnew, ht, hissued⟩ := hopening
  have heq : generate s i = { s.set i (.resetSequence t) with lastTimestamp := t } := by
    simp only [generate, hi]
  rw [heq]
  refine ⟨loads_set h.loads (fun _ hc => by cases hc), ht, .inr ⟨i, fun j hj => ?_, ?_⟩⟩
  · exact (congrArg Call.inside (State.set_calls_of_ne hj)).trans (ho.others j hj)
  · change opening _ ((s.set i (.resetSequence t)).calls i)
    rw [State.set_calls_self]
    exact ⟨rfl, hissued.mono (show s.lastTimestamp + 1 < t ∨ s.lastTimestamp + 1 = t ∧ 0 ≤ 0 by
      omega)⟩

theorem Inv.resetSequence {t : Nat} (h : Inv s) (hi : s.calls i = .resetSequence t) :
    Inv (generate s i) := by
  have ho := h.opened hi (fun _ _ hs => hs) rfl
  have hopening := ho.opening
  rw [hi] at hopening
  obtain ⟨rfl, hissued⟩ := hopening
  have heq : generate s i = { s.finish i s.lastTimestamp 0 with sequence := 1 } := by
    simp only [generate, hi]
  rw [heq]
  refine ⟨loads_set h.loads (fun _ hc => by cases hc), h.last, .inl (shared_of_outside ?_ ?_)⟩
  · have hfresh := hissued.fresh h.last (by decide) (.inr ⟨rfl, le_refl 0⟩)
    exact (hissued.mono (.inr ⟨rfl, Nat.zero_le _⟩)).append h.last (by decide)
      (.inr ⟨rfl, used_pos _⟩) hfresh
  · exact outside_of_set rfl ho.others

theorem Shared.finish (h : Shared s) {t q : Nat} (hi : s.calls i = .store t q)
    (hlast : s.lastTimestamp < 2 ^ 42) :
    Shared { s.finish i t q with lastTimestamp := t } := by
  have hcall := h.calls i
  rw [hi] at hcall
  obtain ⟨rfl, -, hq⟩ := hcall
  have hlimit := used_le s
  have hset : Shared (s.set i .idle) := h.set trivial (fun _ _ hc => by cases hc)
  constructor
  · exact h.issued.append hlast (by omega) (.inr ⟨rfl, hq⟩) (h.fresh i _ q hi)
  · exact hset.calls
  · intro j t' q' hj hmem
    rcases State.set_calls_cases hj with ⟨_, hc⟩ | ⟨hne, hj⟩
    · cases hc
    have hshare := h.calls j
    rw [hj] at hshare
    obtain ⟨rfl, -, hq'⟩ := hshare
    rcases List.mem_append.mp hmem with hmem | hmem
    · exact h.fresh j _ q' hj hmem
    · have hsame := idOf_inj hlast (by omega) hlast (by omega) (List.mem_singleton.mp hmem)
      rw [hsame.2] at hj
      exact hne (h.distinct j i _ q hj hi)
  · exact hset.distinct

theorem Inv.store {t q : Nat} (h : Inv s) (hi : s.calls i = .store t q) : Inv (generate s i) := by
  have heq : generate s i = { s.finish i t q with lastTimestamp := t } := by
    simp only [generate, hi]
  have hloads : ∀ j t, (s.set i .idle).calls j = .load t → t < 2 ^ 42 :=
    loads_set h.loads (fun _ hc => by cases hc)
  rw [heq]
  rcases h.mode with hs | ⟨k, ho⟩
  · have hcall := hs.calls i
    rw [hi] at hcall
    exact ⟨hloads, hcall.1 ▸ h.last, .inl (hs.finish hi h.last)⟩
  · have hk := ho.eq_of_inside (i := i) (by rw [hi]; rfl)
    subst hk
    have hopening := ho.opening
    rw [hi] at hopening
    obtain ⟨hnew, ht, rfl, hseq, hissued⟩ := hopening
    refine ⟨hloads, ht, .inl (shared_of_outside ?_ (outside_of_set rfl ho.others))⟩
    have hfresh := hissued.fresh (q := 0) ht (by decide) (by omega)
    have hupto : Issued s.returned t (used s) := hissued.mono (by omega)
    exact hupto.append ht (by decide) (.inr ⟨rfl, used_pos s⟩) hfresh

theorem Inv.step [Fintype ι] {e : Event ι} {t : State ι} (h : Inv s)
    (hfree : undisturbed s e = true) (hstep : step s e = some t) : Inv t := by
  cases e with
  | tick now =>
    simp only [Snowflake.step] at hstep
    split at hstep
    · obtain rfl := Option.some.inj hstep
      exact ⟨h.loads, h.last, h.mode.imp (fun hs => ⟨hs.issued, hs.calls, hs.fresh, hs.distinct⟩)
        (fun ⟨k, ho⟩ => ⟨k, ho.others, ho.opening⟩)⟩
    · cases hstep
  | run i =>
    obtain rfl := Option.some.inj hstep
    cases hi : s.calls i with
    | idle =>
      simp only [undisturbed, hi, decide_eq_true_eq] at hfree
      exact h.idle hi hfree
    | load t => exact h.load hi hfree
    | fetch t l => exact h.fetch hi hfree
    | wait t l q =>
      simp only [undisturbed, hi, decide_eq_true_eq] at hfree
      exact h.wait hi hfree
    | store t q => exact h.store hi
    | storeNew t => exact h.storeNew hi
    | resetSequence t => exact h.resetSequence hi

end

theorem inv_start (clock : Nat) : Inv ({ clock := clock } : State ι) where
  loads := by
    intro i t hi
    cases hi
  last := Nat.two_pow_pos 42
  mode := by
    refine .inl (shared_of_outside ⟨List.nodup_nil, ?_⟩ (fun _ => rfl))
    intro x hx
    cases hx

theorem Inv.nodup (h : Inv s) : s.returned.Nodup := by
  rcases h.mode with hs | ⟨i, ho⟩
  · exact hs.issued.nodup
  · have hopening := ho.opening
    cases hi : s.calls i with
    | wait t l q => exact (hi ▸ hopening).2.2.2.nodup
    | store t q => exact (hi ▸ hopening).2.2.2.2.nodup
    | storeNew t => exact (hi ▸ hopening).2.2.nodup
    | resetSequence t => exact (hi ▸ hopening).2.nodup
    | _ =>
      rw [hi] at hopening
      cases hopening

theorem generate_unique [Fintype ι] [DecidableEq ι] {clock : Nat} {events : List (Event ι)}
    {t : State ι} (hfree : meets step undisturbed { clock := clock } events = true)
    (hrun : runFrom step { clock := clock } events = some t) : t.returned.Nodup := by
  have hkeep : ∀ (s : State ι) e t, Inv s → undisturbed s e = true → step s e = some t → Inv t :=
    fun s e t h => h.step
  exact (run_induction_of_meets hkeep (inv_start clock) hfree hrun).nodup

def firstMilli : State (Fin 2) := { clock := epoch + 1 }

def inTurn : List (Event (Fin 2)) :=
  [.run 0, .run 0, .run 0, .run 0, .run 1, .run 1, .run 1, .run 1]

theorem inTurn_unique :
    (runFrom step firstMilli inTurn).map State.returned = some [idOf 1 0, idOf 1 1] ∧
      [idOf 1 0, idOf 1 1].Nodup := by
  have hrun : (runFrom step firstMilli inTurn).map State.returned = some [idOf 1 0, idOf 1 1] := rfl
  obtain ⟨t, ht, hreturned⟩ := Option.map_eq_some_iff.mp hrun
  exact ⟨hrun, hreturned ▸ generate_unique (by decide +kernel) ht⟩

def sideBySide : List (Event (Fin 2)) :=
  [.run 0, .run 1, .run 0, .run 1, .run 0, .run 0, .run 1, .run 1]

theorem sideBySide_repeats :
    ∃ t, runFrom step firstMilli sideBySide = some t ∧ ¬ t.returned.Nodup := by
  refine ⟨_, rfl, ?_⟩
  change ¬ [idOf 1 0, idOf 1 0].Nodup
  simp

end Vokusz.Snowflake
