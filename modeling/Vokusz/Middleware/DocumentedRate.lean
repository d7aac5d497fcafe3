import Mathlib.Data.Finset.Max
import Mathlib.Order.Interval.Finset.Nat
import Vokusz.Lib.TokenBucket
import Vokusz.Middleware.RateLimit

namespace Vokusz.Middleware.RateLimit

open Lib

section

variable {K : Type} [Field K] [LinearOrder K] [FloorSemiring K]

def credit (seconds : Nat) : Nat := if WINDOW_SECS ≤ seconds then CAPACITY else refill seconds

def credits : K → List K → List Nat
  | _, [] => []
  | lastRefill, now :: times =>
    credit ⌊now - lastRefill⌋₊ ::
      credits (if ⌊now - lastRefill⌋₊ = 0 then lastRefill else now) times

def Affordable : List K → Prop
  | [] => True
  | first :: times => TokenBucket.Covers CAPACITY (0 :: credits first times)

def ownTimes (key : String) (rs : List (Request K)) : List K :=
  (rs.filter (fun r => r.key = key)).map Request.now

def Roomy (key : String) : List (RateLimitBucket K) → List (Request K) → Prop
  | _, [] => True
  | map, r :: rs =>
    (r.key = key → (reserve r map).1 = .ok ()) ∧ Roomy key (serve r map).2 rs

def Admits (key : String) (map : List (RateLimitBucket K)) (rs : List (Request K)) : Prop :=
  ∀ o ∈ outcomes map rs, o.1.key = key → o.2.isOk = true

end

section

variable {K : Type} [Field K] [LinearOrder K] [FloorSemiring K]
  {map : List (RateLimitBucket K)} {key : String} {r : Request K} {rs : List (Request K)}
  {b : RateLimitBucket K} {held : Option (RateLimitBucket K)} {now : K}

@[simp] theorem credit_zero : credit 0 = 0 := by decide

def Follows (now : K) (b : RateLimitBucket K) (held : Option (RateLimitBucket K)) : Prop :=
  held = some b ∨ held = none ∧ b.stale now = true

theorem current_of_follows (h : Follows r.now b held) :
    current r held = current r (some b) := by
  rcases h with rfl | ⟨rfl, hstale⟩
  · rfl
  · simp [current, Option.filter, hstale]

theorem Follows.filter (h : Follows now b held) :
    Follows now b (held.filter (fun b => !b.stale now)) := by
  rcases h with rfl | ⟨rfl, hstale⟩
  · cases hstale : b.stale now with
    | true => exact .inr ⟨by simp [Option.filter, hstale], hstale⟩
    | false => exact .inl (by simp [Option.filter, hstale])
  · exact .inr ⟨rfl, hstale⟩

theorem charge_isOk (b : RateLimitBucket K) (now : K) :
    (b.charge now).1.isOk = decide (0 < b.remaining) := by
  unfold RateLimitBucket.charge
  split
  · rename_i hzero
    simp [hzero, Except.isOk, Except.toBool]
  · rename_i hpos
    simp [Nat.pos_of_ne_zero hpos, Except.isOk, Except.toBool]

theorem charge_remaining (b : RateLimitBucket K) (now : K) :
    (b.charge now).2.remaining = b.remaining - 1 := by
  unfold RateLimitBucket.charge
  split
  · rename_i hzero
    simp [hzero]
  · rfl

theorem admits_cons_own : Admits r.key map (r :: rs) ↔
    (serve r map).1.isOk = true ∧ Admits r.key (serve r map).2 rs := by
  simp [Admits, outcomes]

theorem admits_cons_other (h : r.key ≠ key) :
    Admits key map (r :: rs) ↔ Admits key (serve r map).2 rs := by
  simp [Admits, outcomes, h]

omit [Field K] [LinearOrder K] [FloorSemiring K] in
theorem ownTimes_cons_own : ownTimes r.key (r :: rs) = r.now :: ownTimes r.key rs := by
  simp [ownTimes]

omit [Field K] [LinearOrder K] [FloorSemiring K] in
theorem ownTimes_cons_other (h : r.key ≠ key) : ownTimes key (r :: rs) = ownTimes key rs := by
  simp [ownTimes, h]

variable [IsStrictOrderedRing K]

theorem Follows.mono {now' : K} (h : Follows now b held) (hle : now ≤ now') :
    Follows now' b held := by
  rcases h with hsome | ⟨hnone, hstale⟩
  · exact .inl hsome
  · have hlonger : b.elapsed now ≤ b.elapsed now' := Nat.floor_mono (sub_le_sub_right hle _)
    exact .inr ⟨hnone, decide_eq_true ((of_decide_eq_true hstale).trans hlonger)⟩

theorem refilled_fresh (r : Request K) : (fresh r).refilled r.now = fresh r := by
  simp [RateLimitBucket.refilled, RateLimitBucket.elapsed, fresh, WINDOW_SECS]

theorem charged_none (r : Request K) :
    charged r none = (.ok (CAPACITY - 1), { fresh r with remaining := CAPACITY - 1 }) := by
  have hcurrent : current r none = fresh r := rfl
  rw [charged, hcurrent, refilled_fresh, RateLimitBucket.charge]
  rfl

theorem refilled_current (h : b.remaining ≤ CAPACITY) :
    ((current r (some b)).refilled r.now).remaining =
        min (b.remaining + credit (b.elapsed r.now)) CAPACITY ∧
      ((current r (some b)).refilled r.now).lastRefill =
        if b.elapsed r.now = 0 then b.lastRefill else r.now := by
  cases hstale : b.stale r.now with
  | true =>
    have hwindow : WINDOW_SECS ≤ b.elapsed r.now := of_decide_eq_true hstale
    have hcurrent : current r (some b) = fresh r := by simp [current, Option.filter, hstale]
    have hmoved : b.elapsed r.now ≠ 0 := by
      simp only [WINDOW_SECS] at hwindow
      omega
    rw [hcurrent, refilled_fresh, credit, if_pos hwindow, if_neg hmoved,
      Nat.min_eq_right (Nat.le_add_left _ _)]
    exact ⟨rfl, rfl⟩
  | false =>
    have hwindow : ¬ WINDOW_SECS ≤ b.elapsed r.now := of_decide_eq_false hstale
    have hcurrent : current r (some b) = b := by simp [current, Option.filter, hstale]
    rw [hcurrent, credit, if_neg hwindow, RateLimitBucket.refilled, if_neg hwindow]
    by_cases hmoved : b.elapsed r.now = 0
    · rw [if_pos hmoved, if_neg (by omega), hmoved]
      exact ⟨(Nat.min_eq_left h).symm, rfl⟩
    · rw [if_neg hmoved, if_pos (Nat.pos_of_ne_zero hmoved)]
      have hrefill := refill_lt (Nat.lt_of_not_le hwindow)
      have hsmall : b.remaining + refill (b.elapsed r.now) < 2 ^ 32 :=
        (Nat.add_lt_add_of_le_of_lt h hrefill).trans (by decide)
      exact ⟨by rw [Nat.mod_eq_of_lt hsmall], rfl⟩

theorem admits_iff_of_follows {map : List (RateLimitBucket K)} (hsound : Sound now map)
    (hordered : Ordered rs) (hlater : ∀ r ∈ rs, now ≤ r.now)
    (hfollows : Follows now b (Table.lookup RateLimitBucket.key key map))
    (hremaining : b.remaining ≤ CAPACITY) (hroom : Roomy key map rs) :
    Admits key map rs ↔
      TokenBucket.afloat CAPACITY b.remaining (credits b.lastRefill (ownTimes key rs)) = true := by
  induction rs generalizing map now b with
  | nil => simp [Admits, outcomes, ownTimes, credits, TokenBucket.afloat]
  | cons r rs ih =>
    obtain ⟨hfirst, hrest⟩ := List.pairwise_cons.mp hordered
    have hhere := hsound.mono (hlater r (by simp))
    have hb := hfollows.mono (hlater r (by simp))
    by_cases hown : r.key = key
    · subst hown
      have hok := hroom.1 rfl
      have hcharged : charged r (Table.lookup RateLimitBucket.key r.key map) =
          charged r (some b) := by rw [charged, charged, current_of_follows hb]
      have hafter := lookup_serve_own hhere.distinct hok
      obtain ⟨hremaining', hlast'⟩ := refilled_current (r := r) hremaining
      have hih := ih (b := (charged r (some b)).2) hhere.serve hrest hfirst
        (.inl (hafter.trans (congrArg (fun c => some c.2) hcharged)))
        (by
          rw [charged, charge_remaining, hremaining']
          omega)
        hroom.2
      have hanswer : (serve r map).1 = (charged r (some b)).1 := by
        rw [serve_of_ok hhere.distinct hok, hcharged]
      have hlevel : (charged r (some b)).2.remaining =
          min (b.remaining + credit (b.elapsed r.now)) CAPACITY - 1 := by
        rw [charged, charge_remaining, hremaining']
      have hlast : (charged r (some b)).2.lastRefill =
          if b.elapsed r.now = 0 then b.lastRefill else r.now := by
        rw [charged, charge_lastRefill, hlast']
      rw [admits_cons_own, hanswer, hih, hlevel, hlast, charged, charge_isOk, hremaining',
        ownTimes_cons_own, credits, TokenBucket.afloat, Bool.and_eq_true]
      rfl
    · have hafter := lookup_serve_other hhere.distinct (Ne.symm hown)
      have hih := ih hhere.serve hrest hfirst (hafter ▸ hb.filter) hremaining hroom.2
      rw [admits_cons_other hown, ownTimes_cons_other hown, hih]

theorem admits_iff_affordable (hsound : Sound now map) (hordered : Ordered rs)
    (hlater : ∀ r ∈ rs, now ≤ r.now)
    (hnone : Table.lookup RateLimitBucket.key key map = none) (hroom : Roomy key map rs) :
    Admits key map rs ↔ Affordable (ownTimes key rs) := by
  induction rs generalizing map now with
  | nil => simp [Admits, outcomes, ownTimes, Affordable]
  | cons r rs ih =>
    obtain ⟨hfirst, hrest⟩ := List.pairwise_cons.mp hordered
    have hhere := hsound.mono (hlater r (by simp))
    by_cases hown : r.key = key
    · subst hown
      have hok := hroom.1 rfl
      have hafter := lookup_serve_own hhere.distinct hok
      have hanswer := congrArg Prod.fst (serve_of_ok hhere.distinct hok)
      rw [hnone] at hafter hanswer
      rw [charged_none] at hafter hanswer
      have hrun := admits_iff_of_follows hhere.serve hrest hfirst (.inl hafter)
        (Nat.sub_le CAPACITY 1) hroom.2
      rw [admits_cons_own, hanswer, hrun, ownTimes_cons_own, Affordable,
        TokenBucket.afloat_after_first (by decide)]
      exact and_iff_right rfl
    · have hafter := lookup_serve_other hhere.distinct (Ne.symm hown)
      have hih := ih hhere.serve hrest hfirst (by rw [hafter, hnone]; rfl) hroom.2
      rw [admits_cons_other hown, ownTimes_cons_other hown, hih]

end

section

variable {K : Type} [Field K] [LinearOrder K] [IsStrictOrderedRing K] [FloorSemiring K]
  {run : ℕ → Request K} {key : String}

def firsts (run : ℕ → Request K) (n : ℕ) : List (Request K) := (List.range n).map run

def Timely (run : ℕ → Request K) : Prop := Monotone (fun n => (run n).now)

def WithinRate (run : ℕ → Request K) (key : String) : Prop :=
  ∀ (n : ℕ) (start : K), ((Finset.range n).filter (fun i =>
    (run i).key = key ∧ start ≤ (run i).now ∧ (run i).now ≤ start + WINDOW_SECS)).card ≤ RATE_LIMIT

def NeverRefusedSpace (run : ℕ → Request K) (key : String) : Prop :=
  ∀ n, Roomy key [] (firsts run n)

def NeverRejected (run : ℕ → Request K) (key : String) : Prop :=
  ∀ n, Admits key [] (firsts run n)

omit [Field K] [IsStrictOrderedRing K] [FloorSemiring K] in
theorem ordered_firsts (h : Timely run) (n : ℕ) : Ordered (firsts run n) := by
  rw [Ordered, firsts, List.pairwise_map]
  exact List.pairwise_lt_range.imp (fun hlt => h hlt.le)

theorem never_rejected_iff (htimely : Timely run) (hroom : NeverRefusedSpace run key) :
    NeverRejected run key ↔ ∀ n, Affordable (ownTimes key (firsts run n)) := by
  apply forall_congr'
  intro n
  have hordered := ordered_firsts htimely n
  have hlater : ∀ r ∈ firsts run n, (run 0).now ≤ r.now := by
    intro r hr
    obtain ⟨i, _, rfl⟩ := List.mem_map.mp hr
    exact htimely (Nat.zero_le i)
  exact admits_iff_affordable (sound_empty (run 0).now) hordered hlater rfl (hroom n)

end

section

variable {K : Type} [Field K] [LinearOrder K] [FloorSemiring K]
  {map : List (RateLimitBucket K)} {key : String} {r : Request K} {rs : List (Request K)}

theorem keys_reserve (h : ∀ b ∈ map, b.key = r.key) : ∀ b ∈ (reserve r map).2, b.key = r.key := by
  have hkept : ∀ b ∈ map.filter (fun b => !b.stale r.now), b.key = r.key :=
    fun b hb => h b (List.mem_of_mem_filter hb)
  unfold reserve reserveTracker
  dsimp only
  split
  · exact hkept
  · split
    · exact hkept
    · intro b hb
      rcases List.mem_append.mp hb with hold | hnew
      · exact hkept b hold
      · rw [List.mem_singleton.mp hnew]
        rfl

theorem keys_serve (hdistinct : Table.Distinct RateLimitBucket.key map)
    (h : ∀ b ∈ map, b.key = r.key) : ∀ b ∈ (serve r map).2, b.key = r.key := by
  cases hreserve : (reserve r map).1 with
  | error e =>
    rw [serve_of_error hreserve]
    exact keys_reserve h
  | ok u =>
    rw [serve_of_ok hdistinct hreserve]
    intro b hb
    rcases Table.mem_update hb with hold | ⟨b', _, _, rfl⟩
    · exact keys_reserve h b hold.1
    · exact charged_key r map

omit [Field K] [LinearOrder K] [FloorSemiring K] in
theorem length_le_one (hdistinct : Table.Distinct RateLimitBucket.key map)
    (h : ∀ b ∈ map, b.key = key) : map.length ≤ 1 := by
  cases map with
  | nil => exact Nat.zero_le 1
  | cons b map =>
    cases map with
    | nil => exact le_refl _
    | cons b' map =>
      have hne := (List.pairwise_cons.mp hdistinct).1 b' (by simp)
      exact absurd ((h b (by simp)).trans (h b' (by simp)).symm) hne

theorem reserve_of_one_key (hdistinct : Table.Distinct RateLimitBucket.key map)
    (h : ∀ b ∈ map, b.key = r.key) : (reserve r map).1 = .ok () := by
  have hshort : (map.filter (fun b => !b.stale r.now)).length < Auth.MAX_TRACKERS :=
    ((List.length_filter_le _ _).trans (length_le_one hdistinct h)).trans_lt (by decide)
  unfold reserve reserveTracker
  dsimp only
  split
  · rfl
  · rw [if_neg (not_le.mpr hshort)]

theorem roomy_of_one_key (hdistinct : Table.Distinct RateLimitBucket.key map)
    (h : ∀ b ∈ map, b.key = key) (hkey : ∀ r ∈ rs, r.key = key) : Roomy key map rs := by
  induction rs generalizing map with
  | nil => trivial
  | cons r rs ih =>
    have hr : r.key = key := hkey r (by simp)
    subst hr
    have hrest := ih (distinct_serve hdistinct) (keys_serve hdistinct h)
      (fun r' hr' => hkey r' (by simp [hr']))
    exact ⟨fun _ => reserve_of_one_key hdistinct h, hrest⟩

end

def centiseconds (n : ℕ) : ℕ := n / 60 * 6001 + n % 60 / 2 * 199

def paired (n : ℕ) : Request ℚ := { key := "user:1", now := centiseconds n / 100 }

theorem timely_paired : Timely paired := by
  apply monotone_nat_of_le_succ
  intro n
  have hstep : centiseconds n ≤ centiseconds (n + 1) := by
    unfold centiseconds
    omega
  have hcast : (centiseconds n : ℚ) ≤ centiseconds (n + 1) := Nat.cast_le.mpr hstep
  simp only [paired]
  linarith

theorem card_le_of_spread {S : Finset ℕ} {width : ℕ}
    (h : ∀ i ∈ S, ∀ j ∈ S, i ≤ j → j < i + width) : S.card ≤ width := by
  rcases S.eq_empty_or_nonempty with rfl | hsome
  · exact Nat.zero_le _
  · have hsub : S ⊆ Finset.Ico (S.min' hsome) (S.min' hsome + width) := by
      intro j hj
      have hmin := S.min'_le j hj
      exact Finset.mem_Ico.mpr ⟨hmin, h _ (S.min'_mem hsome) j hj hmin⟩
    have hcard := Finset.card_le_card hsub
    rwa [Nat.card_Ico, Nat.add_sub_cancel_left] at hcard

theorem window_passed_paired (n : ℕ) : (paired n).now + WINDOW_SECS < (paired (n + 60)).now := by
  have hblock : centiseconds (n + 60) = centiseconds n + 6001 := by
    unfold centiseconds
    omega
  simp only [paired, hblock, WINDOW_SECS]
  push_cast
  linarith

theorem within_rate_paired : WithinRate paired "user:1" := by
  intro n start
  apply card_le_of_spread
  intro i hi j hj _
  obtain ⟨_, _, hstart, _⟩ := Finset.mem_filter.mp hi
  obtain ⟨_, _, _, hend⟩ := Finset.mem_filter.mp hj
  by_contra hfar
  have hlater : (paired (i + 60)).now ≤ (paired j).now := timely_paired (not_lt.mp hfar)
  linarith [window_passed_paired i]

theorem never_refused_space_paired : NeverRefusedSpace paired "user:1" := by
  intro n
  apply roomy_of_one_key .nil (by simp)
  intro r hr
  obtain ⟨i, _, rfl⟩ := List.mem_map.mp hr
  rfl

theorem documented_rate_rejected : ¬ ∀ (run : ℕ → Request ℚ) (key : String), Timely run →
    WithinRate run key → NeverRefusedSpace run key → NeverRejected run key := by
  intro h
  have hadmits := h paired "user:1" timely_paired within_rate_paired never_refused_space_paired 144
  have hrejected : ∃ o ∈ outcomes [] (firsts paired 144),
      o.1.key = "user:1" ∧ o.2.isOk = false := by
    decide +kernel
  obtain ⟨o, ho, hkey, hbad⟩ := hrejected
  exact Bool.false_ne_true (hbad.symm.trans (hadmits o ho hkey))

theorem never_rejected_iff_paired : NeverRejected paired "user:1" ↔
    ∀ n, Affordable (ownTimes "user:1" (firsts paired n)) :=
  never_rejected_iff timely_paired never_refused_space_paired

end Vokusz.Middleware.RateLimit
