import Mathlib.Data.Rat.Floor
import Vokusz.Auth

namespace Vokusz.Middleware.RateLimit

open Lib

def RATE_LIMIT : Nat := 60

def BURST : Nat := 10

def CAPACITY : Nat := RATE_LIMIT + BURST

def WINDOW_SECS : Nat := 60

section

variable {ρ : Type} (name : ρ → String)

def reserveTracker (key : String) (expired : ρ → Bool) (initial : ρ) (map : List ρ) :
    Except AppError Unit × List ρ :=
  let kept := map.filter (fun row => !expired row)
  if Table.has name key kept then (.ok (), kept)
  else if Auth.MAX_TRACKERS ≤ kept.length then (.error (.rateLimited 60), kept)
  else (.ok (), kept ++ [initial])

end

structure RateLimitBucket (K : Type) where
  key : String
  remaining : Nat
  lastRefill : K
deriving DecidableEq, Repr

structure Request (K : Type) where
  key : String
  now : K
deriving DecidableEq, Repr

section

variable {K : Type} [Field K] [LinearOrder K] [FloorSemiring K]

namespace RateLimitBucket

def elapsed (now : K) (b : RateLimitBucket K) : Nat := ⌊now - b.lastRefill⌋₊

def stale (now : K) (b : RateLimitBucket K) : Bool := WINDOW_SECS ≤ b.elapsed now

end RateLimitBucket

-- The floating-point product is the rational one for every `elapsed` below the window.
def refill (elapsed : Nat) : Nat := elapsed * CAPACITY / WINDOW_SECS

namespace RateLimitBucket

def refilled (now : K) (b : RateLimitBucket K) : RateLimitBucket K :=
  if WINDOW_SECS ≤ b.elapsed now then { b with remaining := CAPACITY, lastRefill := now }
  else if 0 < b.elapsed now then
    { b with
      remaining := min ((b.remaining + refill (b.elapsed now)) % 2 ^ 32) CAPACITY
      lastRefill := now }
  else b

def charge (now : K) (b : RateLimitBucket K) : Except AppError Nat × RateLimitBucket K :=
  if b.remaining = 0 then
    (.error (.rateLimited (max (WINDOW_SECS - b.elapsed now) 1)), b)
  else (.ok (b.remaining - 1), { b with remaining := b.remaining - 1 })

end RateLimitBucket

def fresh (r : Request K) : RateLimitBucket K :=
  { key := r.key, remaining := CAPACITY, lastRefill := r.now }

def reserve (r : Request K) (map : List (RateLimitBucket K)) :
    Except AppError Unit × List (RateLimitBucket K) :=
  reserveTracker RateLimitBucket.key r.key (RateLimitBucket.stale r.now) (fresh r) map

def serve (r : Request K) (map : List (RateLimitBucket K)) :
    Except AppError Nat × List (RateLimitBucket K) :=
  match reserve r map with
  | (.error e, map) => (.error e, map)
  | (.ok (), map) =>
    match Table.lookup RateLimitBucket.key r.key map with
    | none => (.error (.rateLimited WINDOW_SECS), map)
    | some b =>
      let (verdict, b') := (b.refilled r.now).charge r.now
      (verdict, Table.update RateLimitBucket.key r.key (fun _ => b') map)

def outcomes : List (RateLimitBucket K) → List (Request K) →
    List (Request K × Except AppError Nat)
  | _, [] => []
  | map, r :: rs => (r, (serve r map).1) :: outcomes (serve r map).2 rs

def trackers (map : List (RateLimitBucket K)) (rs : List (Request K)) : List (RateLimitBucket K) :=
  rs.foldl (fun map r => (serve r map).2) map

section

variable {r : Request K} {map : List (RateLimitBucket K)} {key : String} {b : RateLimitBucket K}
  {now : K}

def current (r : Request K) (held : Option (RateLimitBucket K)) : RateLimitBucket K :=
  (held.filter (fun b => !b.stale r.now)).getD (fresh r)

def charged (r : Request K) (held : Option (RateLimitBucket K)) :
    Except AppError Nat × RateLimitBucket K :=
  ((current r held).refilled r.now).charge r.now

@[simp] theorem refilled_key : (b.refilled now).key = b.key := by
  unfold RateLimitBucket.refilled
  split
  · rfl
  · split <;> rfl

@[simp] theorem charge_key : (b.charge now).2.key = b.key := by
  unfold RateLimitBucket.charge
  split <;> rfl

theorem current_key {held : Option (RateLimitBucket K)} (h : ∀ b ∈ held, b.key = r.key) :
    (current r held).key = r.key := by
  cases held with
  | none => rfl
  | some b =>
    cases hstale : b.stale r.now with
    | true => simp [current, Option.filter, hstale, fresh]
    | false => simpa [current, Option.filter, hstale] using h b rfl

section

variable (h : Table.Distinct RateLimitBucket.key map)

include h

theorem distinct_reserve :
    Table.Distinct RateLimitBucket.key (reserve r map).2 := by
  have hkept : Table.Distinct RateLimitBucket.key (map.filter (fun b => !b.stale r.now)) :=
    h.filter _
  unfold reserve reserveTracker
  dsimp only
  split
  · exact hkept
  · rename_i hfree
    split
    · exact hkept
    · exact hkept.insert (Bool.eq_false_iff.mpr hfree)

theorem lookup_reserve_other (hne : key ≠ r.key) :
    Table.lookup RateLimitBucket.key key (reserve r map).2 =
      (Table.lookup RateLimitBucket.key key map).filter (fun b => !b.stale r.now) := by
  rw [← h.lookup_filter]
  unfold reserve reserveTracker
  dsimp only
  split
  · rfl
  · split
    · rfl
    · have hother : (fresh r).key ≠ key := hne.symm
      rw [Table.lookup_append, if_neg hother, Option.or_none]

theorem lookup_reserve_of_ok (hok : (reserve r map).1 = .ok ()) :
    Table.lookup RateLimitBucket.key r.key (reserve r map).2 =
      some (current r (Table.lookup RateLimitBucket.key r.key map)) := by
  rw [current, ← h.lookup_filter]
  unfold reserve reserveTracker at hok ⊢
  dsimp only at hok ⊢
  split at hok
  · rename_i hhas
    rw [if_pos hhas]
    obtain ⟨b, hb⟩ := Option.isSome_iff_exists.mp (Table.lookup_isSome.trans hhas)
    simp [hb]
  · rename_i hfree
    rw [if_neg hfree]
    split at hok
    · cases hok
    · rename_i hroom
      have hnone := Table.lookup_none_of_not_has (Bool.eq_false_iff.mpr hfree)
      have hown : (fresh r).key = r.key := rfl
      rw [if_neg hroom, Table.lookup_append, hnone, if_pos hown]
      rfl

theorem reserve_of_error {e : AppError} (herror : (reserve r map).1 = .error e) :
    (Table.lookup RateLimitBucket.key r.key map).filter (fun b => !b.stale r.now) = none ∧
      Table.lookup RateLimitBucket.key r.key (reserve r map).2 = none := by
  rw [← h.lookup_filter]
  unfold reserve reserveTracker at herror ⊢
  dsimp only at herror ⊢
  split at herror
  · cases herror
  · rename_i hfree
    split at herror
    · rename_i hroom
      rw [if_neg hfree, if_pos hroom]
      have hnone := Table.lookup_none_of_not_has (Bool.eq_false_iff.mpr hfree)
      exact ⟨hnone, hnone⟩
    · cases herror

end

theorem serve_of_error {e : AppError} (herror : (reserve r map).1 = .error e) :
    serve r map = (.error e, (reserve r map).2) := by
  unfold serve
  split
  · rename_i heq
    rw [heq] at herror
    cases herror
    rw [heq]
  · rename_i heq
    rw [heq] at herror
    cases herror

theorem serve_of_ok (h : Table.Distinct RateLimitBucket.key map)
    (hok : (reserve r map).1 = .ok ()) :
    serve r map = ((charged r (Table.lookup RateLimitBucket.key r.key map)).1,
      Table.update RateLimitBucket.key r.key
        (fun _ => (charged r (Table.lookup RateLimitBucket.key r.key map)).2)
        (reserve r map).2) := by
  have hlookup := lookup_reserve_of_ok h hok
  unfold serve
  split
  · rename_i heq
    rw [heq] at hok
    cases hok
  · rename_i kept heq
    rw [heq] at hlookup ⊢
    rw [hlookup]
    rfl

theorem charged_key (r : Request K) (map : List (RateLimitBucket K)) :
    (charged r (Table.lookup RateLimitBucket.key r.key map)).2.key = r.key := by
  rw [charged, charge_key, refilled_key]
  exact current_key (fun b hb => Table.lookup_key hb)

theorem distinct_serve (h : Table.Distinct RateLimitBucket.key map) :
    Table.Distinct RateLimitBucket.key (serve r map).2 := by
  cases hreserve : (reserve r map).1 with
  | error e =>
    rw [serve_of_error hreserve]
    exact distinct_reserve h
  | ok u =>
    rw [serve_of_ok h hreserve]
    exact (distinct_reserve h).update (fun b hb => (charged_key r map).trans hb.symm)

theorem lookup_serve_other (h : Table.Distinct RateLimitBucket.key map) (hne : key ≠ r.key) :
    Table.lookup RateLimitBucket.key key (serve r map).2 =
      (Table.lookup RateLimitBucket.key key map).filter (fun b => !b.stale r.now) := by
  rw [← lookup_reserve_other h hne]
  cases hreserve : (reserve r map).1 with
  | error e => rw [serve_of_error hreserve]
  | ok u =>
    rw [serve_of_ok h hreserve]
    exact Table.lookup_update_ne hne (fun b hb => charged_key r map)

theorem lookup_serve_own (h : Table.Distinct RateLimitBucket.key map)
    (hok : (reserve r map).1 = .ok ()) :
    Table.lookup RateLimitBucket.key r.key (serve r map).2 =
      some (charged r (Table.lookup RateLimitBucket.key r.key map)).2 := by
  rw [serve_of_ok h hok, Table.lookup_update (fun b hb => charged_key r map),
    lookup_reserve_of_ok h hok]
  simp

end

section

variable {r : Request K} {held : Option (RateLimitBucket K)} {b : RateLimitBucket K} {now : K}

def Standing (now : K) (held : Option (RateLimitBucket K)) : Prop :=
  ∀ b ∈ held, b.remaining < CAPACITY ∧ b.lastRefill ≤ now

theorem refilled_remaining_le (h : b.remaining ≤ CAPACITY) (now : K) :
    (b.refilled now).remaining ≤ CAPACITY := by
  unfold RateLimitBucket.refilled
  split
  · exact le_refl _
  · split
    · exact min_le_right _ _
    · exact h

theorem refilled_lastRefill_le (h : b.lastRefill ≤ now) : (b.refilled now).lastRefill ≤ now := by
  unfold RateLimitBucket.refilled
  split
  · exact le_refl _
  · split
    · exact le_refl _
    · exact h

theorem charge_remaining_lt (h : b.remaining ≤ CAPACITY) (now : K) :
    (b.charge now).2.remaining < CAPACITY := by
  unfold RateLimitBucket.charge
  split
  · rename_i hzero
    rw [hzero]
    decide
  · rename_i hpos
    exact lt_of_lt_of_le (Nat.sub_lt (Nat.pos_of_ne_zero hpos) Nat.one_pos) h

theorem charge_lastRefill (b : RateLimitBucket K) (now : K) :
    (b.charge now).2.lastRefill = b.lastRefill := by
  unfold RateLimitBucket.charge
  split <;> rfl

theorem Standing.current (h : Standing r.now held) :
    (current r held).remaining ≤ CAPACITY ∧ (current r held).lastRefill ≤ r.now := by
  have hfresh : (fresh r).remaining ≤ CAPACITY ∧ (fresh r).lastRefill ≤ r.now :=
    ⟨le_refl _, le_refl _⟩
  cases held with
  | none => exact hfresh
  | some b =>
    cases hstale : b.stale r.now with
    | true => simpa [RateLimit.current, Option.filter, hstale] using hfresh
    | false =>
      have hb := h b rfl
      simpa [RateLimit.current, Option.filter, hstale] using And.intro hb.1.le hb.2

theorem Standing.charged (h : Standing r.now held) :
    Standing r.now (some (charged r held).2) := by
  obtain ⟨hremaining, hlast⟩ := h.current
  rintro b ⟨⟩
  constructor
  · exact charge_remaining_lt (refilled_remaining_le hremaining _) _
  · exact (charge_lastRefill _ _).trans_le (refilled_lastRefill_le hlast)

omit [Field K] [FloorSemiring K] in
theorem Standing.filter (h : Standing now held) (p : RateLimitBucket K → Bool) :
    Standing now (held.filter p) := by
  intro b hb
  exact h b (Option.eq_some_of_filter_eq_some hb)

omit [Field K] [FloorSemiring K] in
theorem Standing.mono {now' : K} (h : Standing now held) (hle : now ≤ now') : Standing now' held :=
  fun b hb => ⟨(h b hb).1, (h b hb).2.trans hle⟩

end

section

variable [IsStrictOrderedRing K] {r : Request K} {held : Option (RateLimitBucket K)}
  {b : RateLimitBucket K} {now later : K}

def perSecond : K := CAPACITY / WINDOW_SECS

def level (now : K) (b : RateLimitBucket K) : K :=
  b.remaining + perSecond * (now - b.lastRefill)

def potential (now : K) : Option (RateLimitBucket K) → K
  | none => CAPACITY
  | some b => if 1 ≤ now - b.lastRefill then min (CAPACITY : K) (level now b) else level now b

def spent (verdict : Except AppError Nat) : Nat := if verdict.isOk then 1 else 0

omit [LinearOrder K] [FloorSemiring K] [IsStrictOrderedRing K] in
theorem capacity_cast : ((CAPACITY : Nat) : K) = 70 := by
  norm_num [CAPACITY, RATE_LIMIT, BURST]

omit [LinearOrder K] [FloorSemiring K] [IsStrictOrderedRing K] in
theorem perSecond_eq : (perSecond : K) = 70 / 60 := by
  norm_num [perSecond, CAPACITY, RATE_LIMIT, BURST, WINDOW_SECS]

omit [FloorSemiring K] in
theorem perSecond_nonneg : (0 : K) ≤ perSecond := by
  rw [perSecond_eq]
  norm_num

omit [LinearOrder K] [FloorSemiring K] [IsStrictOrderedRing K] in
theorem level_add (now later : K) (b : RateLimitBucket K) :
    level later b = level now b + perSecond * (later - now) := by
  unfold level
  ring

omit [FloorSemiring K] [IsStrictOrderedRing K] in
theorem potential_some (now : K) (b : RateLimitBucket K) : potential now (some b) =
    if 1 ≤ now - b.lastRefill then min (CAPACITY : K) (level now b) else level now b := rfl

omit [FloorSemiring K] [IsStrictOrderedRing K] in
theorem potential_le_level : potential now (some b) ≤ level now b := by
  rw [potential_some]
  split
  · exact min_le_right _ _
  · exact le_refl _

omit [FloorSemiring K] in
theorem potential_grow (h : now ≤ later) (held : Option (RateLimitBucket K)) :
    potential later held ≤ potential now held + perSecond * (later - now) := by
  have hgain : 0 ≤ (perSecond : K) * (later - now) :=
    mul_nonneg perSecond_nonneg (sub_nonneg.mpr h)
  cases held with
  | none => exact le_add_of_nonneg_right hgain
  | some b =>
    by_cases hold : 1 ≤ now - b.lastRefill
    · have hlater : 1 ≤ later - b.lastRefill := by linarith
      rw [potential_some, potential_some, if_pos hold, if_pos hlater, level_add now later,
        ← min_add_add_right]
      exact min_le_min (le_add_of_nonneg_right hgain) (le_refl _)
    · calc potential later (some b) ≤ level later b := potential_le_level
        _ = level now b + perSecond * (later - now) := level_add now later b
        _ = potential now (some b) + perSecond * (later - now) := by
          rw [potential_some, if_neg hold]

omit [FloorSemiring K] in
theorem potential_nonneg (h : Standing now held) : 0 ≤ potential now held := by
  cases held with
  | none =>
    rw [potential, capacity_cast]
    norm_num
  | some b =>
    have hlevel : 0 ≤ level now b := by
      have hgain := mul_nonneg (perSecond_nonneg : (0 : K) ≤ perSecond)
        (sub_nonneg.mpr (h b rfl).2)
      exact add_nonneg (Nat.cast_nonneg _) hgain
    rw [potential_some]
    split
    · exact le_min (by rw [capacity_cast]; norm_num) hlevel
    · exact hlevel

omit [FloorSemiring K] in
theorem potential_lt (h : Standing now held) :
    potential now held < CAPACITY - 1 + perSecond := by
  have hspare : ((CAPACITY : Nat) : K) < CAPACITY - 1 + perSecond := by
    rw [capacity_cast, perSecond_eq]
    norm_num
  cases held with
  | none => exact hspare
  | some b =>
    rw [potential_some]
    split
    · exact (min_le_left _ _).trans_lt hspare
    · rename_i hrecent
      have hroom : (b.remaining : K) ≤ CAPACITY - 1 := by
        have hsucc : b.remaining + 1 ≤ CAPACITY := (h b rfl).1
        have hcast : ((b.remaining + 1 : Nat) : K) ≤ CAPACITY := Nat.cast_le.mpr hsucc
        push_cast at hcast
        linarith
      have hgain : perSecond * (now - b.lastRefill) < perSecond := by
        rw [perSecond_eq]
        linarith [not_le.mp hrecent]
      exact add_lt_add_of_le_of_lt hroom hgain

theorem elapsed_le (h : 0 < b.elapsed now) : (b.elapsed now : K) ≤ now - b.lastRefill :=
  Nat.floor_le (Nat.pos_of_floor_pos h).le

theorem potential_of_stale (h : b.stale now = true) : potential now (some b) = CAPACITY := by
  have hwindow : WINDOW_SECS ≤ b.elapsed now := of_decide_eq_true h
  have hpos : 0 < b.elapsed now := lt_of_lt_of_le (by decide) hwindow
  have hsixty : (60 : K) ≤ now - b.lastRefill := by
    have hcast : ((WINDOW_SECS : Nat) : K) ≤ b.elapsed now := Nat.cast_le.mpr hwindow
    have hvalue : ((WINDOW_SECS : Nat) : K) = 60 := by norm_num [WINDOW_SECS]
    linarith [elapsed_le hpos]
  have hold : 1 ≤ now - b.lastRefill := by linarith
  rw [potential_some, if_pos hold, min_eq_left]
  have hrem : (0 : K) ≤ b.remaining := Nat.cast_nonneg _
  rw [level, perSecond_eq, capacity_cast]
  linarith

theorem potential_current (r : Request K) (held : Option (RateLimitBucket K)) :
    potential r.now (some (current r held)) ≤ potential r.now held := by
  have hfresh : potential r.now (some (fresh r)) ≤ CAPACITY := by
    apply potential_le_level.trans
    simp [level, fresh]
  cases held with
  | none => exact hfresh
  | some b =>
    cases hstale : b.stale r.now with
    | true =>
      rw [potential_of_stale hstale]
      simpa [current, Option.filter, hstale] using hfresh
    | false => simp [current, Option.filter, hstale]

theorem refill_le (e : Nat) : ((refill e : Nat) : K) ≤ perSecond * e := by
  have hdiv : refill e * WINDOW_SECS ≤ e * CAPACITY := Nat.div_mul_le_self _ _
  have hcast : ((refill e * WINDOW_SECS : Nat) : K) ≤ ((e * CAPACITY : Nat) : K) :=
    Nat.cast_le.mpr hdiv
  rw [Nat.cast_mul, Nat.cast_mul, capacity_cast] at hcast
  have hvalue : ((WINDOW_SECS : Nat) : K) = 60 := by norm_num [WINDOW_SECS]
  rw [hvalue] at hcast
  rw [perSecond_eq]
  linarith

theorem potential_refilled (b : RateLimitBucket K) (now : K) :
    potential now (some (b.refilled now)) ≤ potential now (some b) := by
  unfold RateLimitBucket.refilled
  split
  · rename_i hwindow
    rw [potential_of_stale (decide_eq_true hwindow)]
    apply potential_le_level.trans
    simp [level]
  · split
    · rename_i hpos
      have hold : 1 ≤ now - b.lastRefill := by
        have hcast : ((1 : Nat) : K) ≤ b.elapsed now := Nat.cast_le.mpr hpos
        rw [Nat.cast_one] at hcast
        exact hcast.trans (elapsed_le hpos)
      apply potential_le_level.trans
      rw [potential_some, if_pos hold, level, sub_self, mul_zero, add_zero]
      refine le_min (Nat.cast_le.mpr (min_le_right _ _)) ?_
      have hsum : min ((b.remaining + refill (b.elapsed now)) % 2 ^ 32) CAPACITY ≤
          b.remaining + refill (b.elapsed now) :=
        (min_le_left _ _).trans (Nat.mod_le _ _)
      calc ((min ((b.remaining + refill (b.elapsed now)) % 2 ^ 32) CAPACITY : Nat) : K)
          ≤ ((b.remaining + refill (b.elapsed now) : Nat) : K) := Nat.cast_le.mpr hsum
        _ = b.remaining + (refill (b.elapsed now) : K) := Nat.cast_add _ _
        _ ≤ b.remaining + perSecond * (b.elapsed now : K) := by
          exact add_le_add (le_refl _) (refill_le _)
        _ ≤ level now b := add_le_add (le_refl _)
          (mul_le_mul_of_nonneg_left (elapsed_le hpos) perSecond_nonneg)
    · exact le_refl _

theorem refilled_recent (b : RateLimitBucket K) (now : K) :
    now - (b.refilled now).lastRefill < 1 := by
  unfold RateLimitBucket.refilled
  split
  · simp
  · split
    · simp
    · rename_i hzero
      exact Nat.floor_eq_zero.mp (Nat.eq_zero_of_not_pos hzero)

omit [IsStrictOrderedRing K] in
theorem spent_charge (h : now - b.lastRefill < 1) :
    (spent (b.charge now).1 : K) + potential now (some (b.charge now).2) =
      potential now (some b) := by
  unfold RateLimitBucket.charge
  split
  · simp [spent, Except.isOk, Except.toBool]
  · rename_i hpos
    have hcast : ((b.remaining - 1 : Nat) : K) = b.remaining - 1 :=
      Nat.cast_pred (Nat.pos_of_ne_zero hpos)
    rw [potential_some, potential_some, if_neg (not_le.mpr h), if_neg (not_le.mpr h), level, level,
      hcast]
    simp only [spent, Except.isOk, Except.toBool, if_true, Nat.cast_one]
    ring

theorem spent_charged (r : Request K) (held : Option (RateLimitBucket K)) :
    (spent (charged r held).1 : K) + potential r.now (some (charged r held).2) ≤
      potential r.now held := by
  calc (spent (charged r held).1 : K) + potential r.now (some (charged r held).2)
      = potential r.now (some ((current r held).refilled r.now)) :=
        spent_charge (refilled_recent _ _)
    _ ≤ potential r.now (some (current r held)) := potential_refilled _ _
    _ ≤ potential r.now held := potential_current r held

theorem potential_filter (now : K) (held : Option (RateLimitBucket K)) :
    potential now (held.filter (fun b => !b.stale now)) = potential now held := by
  cases held with
  | none => rfl
  | some b =>
    cases hstale : b.stale now with
    | true =>
      rw [potential_of_stale hstale]
      simp [Option.filter, hstale, potential]
    | false => simp [Option.filter, hstale]

end

section

variable [IsStrictOrderedRing K] {r : Request K} {map : List (RateLimitBucket K)} {key : String}
  {now : K}

structure Sound (now : K) (map : List (RateLimitBucket K)) : Prop where
  distinct : Table.Distinct RateLimitBucket.key map
  standing : ∀ key, Standing now (Table.lookup RateLimitBucket.key key map)

def spentBy (key : String) (r : Request K) (verdict : Except AppError Nat) : Nat :=
  if r.key = key then spent verdict else 0

omit [Field K] [FloorSemiring K] [IsStrictOrderedRing K] in
theorem sound_empty (now : K) : Sound now [] := ⟨.nil, fun _ _ hb => by cases hb⟩

omit [Field K] [FloorSemiring K] [IsStrictOrderedRing K] in
theorem Sound.mono {now' : K} (h : Sound now map) (hle : now ≤ now') : Sound now' map :=
  ⟨h.distinct, fun key => (h.standing key).mono hle⟩

omit [IsStrictOrderedRing K] in
theorem Sound.serve (h : Sound r.now map) : Sound r.now (serve r map).2 := by
  refine ⟨distinct_serve h.distinct, fun key => ?_⟩
  by_cases hown : key = r.key
  · subst hown
    cases hreserve : (reserve r map).1 with
    | error e =>
      rw [serve_of_error hreserve, (reserve_of_error h.distinct hreserve).2]
      exact fun b hb => by cases hb
    | ok u =>
      rw [lookup_serve_own h.distinct hreserve]
      exact (h.standing r.key).charged
  · rw [lookup_serve_other h.distinct hown]
    exact (h.standing key).filter _

theorem Sound.spent (h : Sound r.now map) (key : String) :
    (spentBy key r (RateLimit.serve r map).1 : K) +
        potential r.now (Table.lookup RateLimitBucket.key key (RateLimit.serve r map).2) ≤
      potential r.now (Table.lookup RateLimitBucket.key key map) := by
  unfold spentBy
  by_cases hown : r.key = key
  · subst hown
    rw [if_pos rfl]
    cases hreserve : (reserve r map).1 with
    | error e =>
      obtain ⟨hgone, hnone⟩ := reserve_of_error h.distinct hreserve
      rw [serve_of_error hreserve, hnone, ← potential_filter r.now (Table.lookup _ _ map), hgone]
      simp [RateLimit.spent, Except.isOk, Except.toBool]
    | ok u =>
      rw [lookup_serve_own h.distinct hreserve, serve_of_ok h.distinct hreserve]
      exact spent_charged r _
  · rw [if_neg hown, lookup_serve_other h.distinct (Ne.symm hown), potential_filter]
    simp

def admittedIn (key : String) (start finish : K)
    (answers : List (Request K × Except AppError Nat)) : Nat :=
  answers.countP (fun o => o.1.key = key && start ≤ o.1.now && o.1.now ≤ finish && o.2.isOk)

def Ordered (rs : List (Request K)) : Prop := rs.Pairwise (fun r r' => r.now ≤ r'.now)

variable {rs : List (Request K)} {start finish : K}

omit [Field K] [FloorSemiring K] [IsStrictOrderedRing K] in
theorem Ordered.head_le (h : Ordered (r :: rs)) : ∀ r' ∈ r :: rs, r.now ≤ r'.now := by
  intro r' hr'
  rcases List.mem_cons.mp hr' with rfl | hr'
  · exact le_refl _
  · exact (List.pairwise_cons.mp h).1 r' hr'

omit [IsStrictOrderedRing K] in
theorem admittedIn_after (h : ∀ r ∈ rs, finish < r.now) (map : List (RateLimitBucket K)) :
    admittedIn key start finish (outcomes map rs) = 0 := by
  induction rs generalizing map with
  | nil => rfl
  | cons r rs ih =>
    have hlate : ¬ r.now ≤ finish := not_le.mpr (h r (by simp))
    have hrest := ih (fun r' hr' => h r' (by simp [hr'])) (serve r map).2
    rw [admittedIn] at hrest ⊢
    simp [outcomes, hlate, hrest]

omit [IsStrictOrderedRing K] in
theorem admittedIn_cons (hstart : start ≤ r.now) (hfinish : r.now ≤ finish) :
    admittedIn key start finish (outcomes map (r :: rs)) =
      spentBy key r (serve r map).1 +
        admittedIn key start finish (outcomes (serve r map).2 rs) := by
  simp only [admittedIn, outcomes, List.countP_cons, spentBy, RateLimit.spent]
  by_cases hkey : r.key = key <;> cases hok : (serve r map).1.isOk <;>
    simp [hkey, hstart, hfinish, Nat.add_comm]

theorem admittedIn_inside (hsound : Sound now map) (hordered : Ordered rs)
    (hlater : ∀ r ∈ rs, now ≤ r.now) (hstart : start ≤ now) (hfinish : now ≤ finish) :
    (admittedIn key start finish (outcomes map rs) : K) ≤
      potential now (Table.lookup RateLimitBucket.key key map) + perSecond * (finish - now) := by
  have hspare : 0 ≤ potential now (Table.lookup RateLimitBucket.key key map) +
      perSecond * (finish - now) :=
    add_nonneg (potential_nonneg (hsound.standing key))
      (mul_nonneg perSecond_nonneg (sub_nonneg.mpr hfinish))
  induction rs generalizing map now with
  | nil => simpa [outcomes, admittedIn] using hspare
  | cons r rs ih =>
    obtain ⟨hfirst, hrest⟩ := List.pairwise_cons.mp hordered
    have hnow : now ≤ r.now := hlater r (by simp)
    by_cases hin : r.now ≤ finish
    · have hhere := hsound.mono hnow
      have hafter := hhere.serve
      have htail := ih hafter hrest hfirst (hstart.trans hnow) hin
        (add_nonneg (potential_nonneg (hafter.standing key))
          (mul_nonneg perSecond_nonneg (sub_nonneg.mpr hin)))
      have hspent := hhere.spent key
      have hgrow := potential_grow hnow (Table.lookup RateLimitBucket.key key map)
      rw [admittedIn_cons (hstart.trans hnow) hin, Nat.cast_add]
      linarith
    · have hall : ∀ r' ∈ r :: rs, finish < r'.now :=
        fun r' hr' => (not_le.mp hin).trans_le (hordered.head_le r' hr')
      rw [admittedIn_after hall]
      simpa using hspare

theorem admittedIn_lt (hsound : Sound now map) (hordered : Ordered rs)
    (hlater : ∀ r ∈ rs, now ≤ r.now) (hwindow : start ≤ finish) :
    (admittedIn key start finish (outcomes map rs) : K) <
      CAPACITY - 1 + perSecond + perSecond * (finish - start) := by
  have hspare : 0 ≤ perSecond * (finish - start) :=
    mul_nonneg perSecond_nonneg (sub_nonneg.mpr hwindow)
  have hzero : (0 : K) < CAPACITY - 1 + perSecond + perSecond * (finish - start) := by
    rw [capacity_cast, perSecond_eq] at *
    linarith
  induction rs generalizing map now with
  | nil => simpa [outcomes, admittedIn] using hzero
  | cons r rs ih =>
    obtain ⟨hfirst, hrest⟩ := List.pairwise_cons.mp hordered
    have hhere := hsound.mono (hlater r (by simp))
    by_cases hin : start ≤ r.now
    · by_cases hend : r.now ≤ finish
      · have hinside : (admittedIn key start finish (outcomes map (r :: rs)) : K) ≤
            potential r.now (Table.lookup RateLimitBucket.key key map) +
              perSecond * (finish - r.now) :=
          admittedIn_inside hhere hordered hordered.head_le hin hend
        have hpotential := potential_lt (hhere.standing key)
        have hshorter : perSecond * (finish - r.now) ≤ perSecond * (finish - start) :=
          mul_le_mul_of_nonneg_left (sub_le_sub_left hin _) perSecond_nonneg
        linarith
      · have hall : ∀ r' ∈ r :: rs, finish < r'.now :=
          fun r' hr' => (not_le.mp hend).trans_le (hordered.head_le r' hr')
        rw [admittedIn_after hall]
        simpa using hzero
    · have hskip : admittedIn key start finish (outcomes map (r :: rs)) =
          admittedIn key start finish (outcomes (serve r map).2 rs) := by
        simp [admittedIn, outcomes, hin]
      rw [hskip]
      exact ih hhere.serve hrest hfirst

omit [IsStrictOrderedRing K] in
theorem sound_trackers (hsound : Sound now map) (hordered : Ordered rs)
    (hlater : ∀ r ∈ rs, now ≤ r.now) : ∃ later, Sound later (trackers map rs) := by
  induction rs generalizing map now with
  | nil => exact ⟨now, hsound⟩
  | cons r rs ih =>
    obtain ⟨hfirst, hrest⟩ := List.pairwise_cons.mp hordered
    exact ih (hsound.mono (hlater r (by simp))).serve hrest hfirst

omit [Field K] [FloorSemiring K] [IsStrictOrderedRing K] in
theorem Sound.remaining_lt (h : Sound now map) {b : RateLimitBucket K} (hb : b ∈ map) :
    b.remaining < CAPACITY :=
  (h.standing b.key b (h.distinct.lookup_eq hb)).1

theorem refill_lt {e : Nat} (h : e < WINDOW_SECS) : refill e < CAPACITY := by
  simp only [refill, CAPACITY, RATE_LIMIT, BURST, WINDOW_SECS] at h ⊢
  omega

theorem admitted_bounded (hordered : Ordered rs) :
    (∀ (key : String) (start length : K), 0 ≤ length →
      (admittedIn key start (start + length) (outcomes [] rs) : K) <
        CAPACITY - 1 + CAPACITY * (length + 1) / WINDOW_SECS) ∧
    ∀ b ∈ trackers [] rs, b.remaining ≤ CAPACITY ∧
      ∀ now, b.stale now = false → b.remaining + refill (b.elapsed now) < 2 ^ 32 := by
  constructor
  · intro key start length hlength
    have hwindow : start ≤ start + length := le_add_of_nonneg_right hlength
    have hbound : (admittedIn key start (start + length) (outcomes [] rs) : K) <
        CAPACITY - 1 + perSecond + perSecond * (start + length - start) := by
      cases rs with
      | nil => exact admittedIn_lt (sound_empty start) hordered (by simp) hwindow
      | cons r rs => exact admittedIn_lt (sound_empty r.now) hordered hordered.head_le hwindow
    have hrate : (perSecond : K) + perSecond * (start + length - start) =
        CAPACITY * (length + 1) / WINDOW_SECS := by
      rw [perSecond]
      ring
    rw [add_assoc, hrate] at hbound
    exact hbound
  · intro b hb
    have hsound : ∃ later, Sound later (trackers [] rs) := by
      cases rs with
      | nil => exact ⟨0, sound_empty 0⟩
      | cons r rs => exact sound_trackers (sound_empty r.now) hordered hordered.head_le
    obtain ⟨later, hlater⟩ := hsound
    have hremaining := hlater.remaining_lt hb
    refine ⟨hremaining.le, fun now hstale => ?_⟩
    have hrefill := refill_lt (Nat.lt_of_not_le (of_decide_eq_false hstale))
    exact (Nat.add_lt_add hremaining hrefill).trans (by decide)

end

end

def visits (n : Nat) (now : ℚ) : List (Request ℚ) :=
  List.replicate n { key := "user:1", now := now }

def lateStart : List (Request ℚ) := visits 1 0 ++ visits 69 (999 / 1000) ++ visits 7 6

theorem admitted_exceeds : ¬ ∀ (rs : List (Request ℚ)), Ordered rs →
    ∀ (key : String) (start length : ℚ), 0 ≤ length →
      (admittedIn key start (start + length) (outcomes [] rs) : ℚ) ≤
        CAPACITY + CAPACITY * length / WINDOW_SECS := by
  intro h
  have hordered : Ordered lateStart := by
    unfold Ordered
    decide +kernel
  have hcount : admittedIn "user:1" (999 / 1000) (999 / 1000 + 5001 / 1000)
      (outcomes [] lateStart) = 76 := by
    decide +kernel
  have hbound := h lateStart hordered "user:1" (999 / 1000) (5001 / 1000) (by norm_num)
  rw [hcount] at hbound
  norm_num [CAPACITY, RATE_LIMIT, BURST, WINDOW_SECS] at hbound

theorem admitted_bounded_lateStart :
    (∀ (key : String) (start length : ℚ), 0 ≤ length →
      (admittedIn key start (start + length) (outcomes [] lateStart) : ℚ) <
        CAPACITY - 1 + CAPACITY * (length + 1) / WINDOW_SECS) ∧
    ∀ b ∈ trackers [] lateStart, b.remaining ≤ CAPACITY ∧
      ∀ now, b.stale now = false → b.remaining + refill (b.elapsed now) < 2 ^ 32 :=
  admitted_bounded (by unfold Ordered; decide +kernel)

end Vokusz.Middleware.RateLimit
