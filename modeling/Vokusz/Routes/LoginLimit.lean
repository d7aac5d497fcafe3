import Mathlib.Data.Finset.Card
import Vokusz.Lib.Linearize
import Vokusz.Routes.Login

namespace Vokusz.Auth

open Lib Db Handler

abbrev LoginProgram := Handler LoginResult

section

variable (crypto : Crypto)

def looking (input : LoginRequest) (now : Nat) : LoginProgram := do
  let refusal ← Prog.get (fun s =>
    trackerRefusal LOGIN_WINDOW_SECS LOGIN_MAX_FAILURES now input.username s.loginFailures)
  refusal
  afterCheck crypto input

def reserving (input : LoginRequest) (now : Nat) : LoginProgram := do
  let reserved ← memory (fun s =>
    let (r, trackers) := reserveTracker LOGIN_WINDOW_SECS now input.username s.loginFailures
    (r, { s with loginFailures := trackers }))
  reserved
  looking crypto input now

inductive Inside (name : String) : LoginProgram → Prop
  | checked (input) (h : input.username = name) : Inside name (afterCheck crypto input)
  | verifying (input user credentials storedHash) (h : input.username = name) :
      Inside name (verifyLogin crypto input user credentials storedHash)
  | failing : Inside name (recordAndRefuse name)

inductive Outside (username : String) (clock : Nat) : LoginProgram → Prop
  | start (input) : Outside username clock (login crypto input)
  | reserving (input now) (h : now ≤ clock) : Outside username clock (reserving crypto input now)
  | looking (input now) (h : now ≤ clock) : Outside username clock (looking crypto input now)
  | other (name p) (hne : name ≠ username) (h : Inside crypto name p) : Outside username clock p
  | clearing (name user credentials) :
      Outside username clock (clearAndFinish crypto name user credentials)
  | past (p) (h : p.Preserves (fun s => (s.app.clock, s.loginFailures, s.verified))) :
      Outside username clock p

end

section

variable {crypto : Crypto} {input : LoginRequest} {user : User} {credentials : Credentials}
  {storedHash name : String} {now : Nat} {q : LoginProgram} {s t : Server}

theorem check_bind (f : Unit → LoginProgram) : (loginLimiter.check input.username >>= f) = (do
    let now ← clock
    let reserved ← memory (fun s =>
      let (r, trackers) := reserveTracker LOGIN_WINDOW_SECS now input.username s.loginFailures
      (r, { s with loginFailures := trackers }))
    reserved
    let refusal ← Prog.get (fun s =>
      trackerRefusal LOGIN_WINDOW_SECS LOGIN_MAX_FAILURES now input.username s.loginFailures)
    refusal >>= f) := by
  simp only [Limiter.check, bind_assoc]
  rfl

theorem step_login (h : Prog.Step (login crypto input, s) (q, t)) :
    t = s ∧ q = reserving crypto input s.app.clock := by
  unfold login at h
  split at h
  · cases h
  · rw [check_bind] at h
    cases h
    exact ⟨rfl, rfl⟩

theorem step_reserving (h : Prog.Step (reserving crypto input now, s) (q, t)) :
    t = { s with loginFailures :=
      (reserveTracker LOGIN_WINDOW_SECS now input.username s.loginFailures).2 } ∧
      ((∃ e, q = .fail e) ∨ q = looking crypto input now) := by
  cases h
  refine ⟨rfl, ?_⟩
  dsimp only
  cases (reserveTracker LOGIN_WINDOW_SECS now input.username s.loginFailures).1 with
  | ok _ => exact .inr rfl
  | error e => exact .inl ⟨e, rfl⟩

theorem step_looking (h : Prog.Step (looking crypto input now, s) (q, t)) :
    t = s ∧ ((∃ e, q = .fail e) ∨ (q = afterCheck crypto input ∧
      trackerRefusal LOGIN_WINDOW_SECS LOGIN_MAX_FAILURES now input.username s.loginFailures =
        .ok ())) := by
  cases h
  refine ⟨rfl, ?_⟩
  dsimp only
  cases hr : trackerRefusal LOGIN_WINDOW_SECS LOGIN_MAX_FAILURES now input.username
      s.loginFailures with
  | ok _ => exact .inr ⟨rfl, rfl⟩
  | error e => exact .inl ⟨e, rfl⟩

def refuseOrVerify (crypto : Crypto) (input : LoginRequest) :
    Option (User × Credentials × String) → LoginProgram
  | none => recordAndRefuse input.username
  | some (user, credentials, storedHash) =>
    if user.disabled then .fail (.forbidden "account is disabled")
    else verifyLogin crypto input user credentials storedHash

theorem step_afterCheck (h : Prog.Step (afterCheck crypto input, s) (q, t)) :
    t = s ∧ ((∃ e, q = .fail e) ∨ q = recordAndRefuse input.username ∨
      ∃ user credentials storedHash, q = verifyLogin crypto input user credentials storedHash) := by
  cases h with
  | fault => exact ⟨rfl, .inl ⟨_, rfl⟩⟩
  | stmt =>
    refine ⟨rfl, ?_⟩
    change (∃ e, refuseOrVerify crypto input (loginRow input.username s) = .fail e) ∨
      refuseOrVerify crypto input (loginRow input.username s) = recordAndRefuse input.username ∨
      ∃ user credentials storedHash, refuseOrVerify crypto input (loginRow input.username s) =
        verifyLogin crypto input user credentials storedHash
    cases loginRow input.username s with
    | none => exact .inr (.inl rfl)
    | some row =>
      obtain ⟨user, credentials, storedHash⟩ := row
      unfold refuseOrVerify
      dsimp only
      split
      · exact .inl ⟨_, rfl⟩
      · exact .inr (.inr ⟨user, credentials, storedHash, rfl⟩)

theorem step_verifyLogin
    (h : Prog.Step (verifyLogin crypto input user credentials storedHash, s) (q, t)) :
    t = { s with
      verified := s.verified ++
        [(input.username, (crypto.verifyPassword input.password storedHash).toOption)] } ∧
      match crypto.verifyPassword input.password storedHash with
      | .error e => q = .fail e
      | .ok false => q = recordAndRefuse input.username
      | .ok true => q = clearAndFinish crypto input.username user credentials := by
  cases h
  refine ⟨rfl, ?_⟩
  dsimp only
  cases crypto.verifyPassword input.password storedHash with
  | error e => rfl
  | ok valid => cases valid <;> rfl

theorem step_recordAndRefuse (h : Prog.Step (recordAndRefuse name, s) (q, t)) :
    t = { s with
      loginFailures := Table.update Tracker.key name
        (fun e => { e with failures := min (e.failures + 1) (2 ^ 32 - 1) }) s.loginFailures } ∧
      ∃ e, q = .fail e := by
  cases h
  exact ⟨rfl, _, rfl⟩

theorem step_clearAndFinish (h : Prog.Step (clearAndFinish crypto name user credentials, s) (q, t)) :
    t = { s with loginFailures := Table.delete Tracker.key name s.loginFailures } ∧
      q = finishLogin crypto user credentials := by
  cases h
  exact ⟨rfl, rfl⟩

end

section

def trackerOf (username : String) (s : Server) : Option Tracker :=
  Table.lookup Tracker.key username s.loginFailures

def opens (username : String) (s t : Server) : Bool :=
  match trackerOf username t, trackerOf username s with
  | none, _ => false
  | some _, none => true
  | some new, some old => old.windowStart ≠ new.windowStart

def within (username : String) (s : Server) : Bool :=
  (trackerOf username s).any (fun e => !expired LOGIN_WINDOW_SECS s.app.clock e)

def guessed (username : String) (s t : Server) : Bool :=
  t.verified = s.verified ++ [(username, some false)]

def tally (username : String) (s t : Server) (n : Nat) : Nat :=
  if opens username s t then 0 else if guessed username s t && within username s then n + 1 else n

def Tracked (username : String) (s : Server) (P : Nat → Prop) : Prop :=
  ∀ e, trackerOf username s = some e → expired LOGIN_WINDOW_SECS s.app.clock e = false →
    P e.failures

def Carries (username : String) (s : Server) (n : Nat) (t : Server) (n' : Nat) : Prop :=
  n' ≤ n ∧ ∀ P : Nat → Nat → Prop, P 0 0 → Tracked username s (P n) → Tracked username t (P n')

variable {username key : String} {s t : Server} {n now : Nat} {trackers : List Tracker}

theorem expired_mono {window clock : Nat} {e : Tracker} (h : now ≤ clock)
    (he : expired window now e = true) : expired window clock e = true := by
  simp only [expired, decide_eq_true_eq] at he ⊢
  exact he.trans (Nat.div_le_div_right (Nat.sub_le_sub_right h _))

theorem guessed_of_verified_eq (h : t.verified = s.verified) : guessed username s t = false := by
  simp [guessed, h]

theorem opens_of_same_start {e e' : Tracker} (hs : trackerOf username s = some e)
    (ht : trackerOf username t = some e') (h : e'.windowStart = e.windowStart) :
    opens username s t = false := by
  simp [opens, hs, ht, h]

theorem opens_of_eq (h : trackerOf username t = trackerOf username s) :
    opens username s t = false := by
  cases hs : trackerOf username s with
  | none => simp [opens, h, hs]
  | some e => exact opens_of_same_start hs (h.trans hs) rfl

theorem opens_of_none (h : trackerOf username t = none) : opens username s t = false := by
  simp [opens, h]

theorem tally_of_eq (htracker : trackerOf username t = trackerOf username s)
    (hverified : guessed username s t = false) : tally username s t n = n := by
  simp [tally, opens_of_eq htracker, hverified]

theorem carries_of_eq (htracker : trackerOf username t = trackerOf username s)
    (hclock : t.app.clock = s.app.clock) (hverified : guessed username s t = false) :
    Carries username s n t (tally username s t n) := by
  rw [tally_of_eq htracker hverified]
  refine ⟨le_refl n, fun P _ h e he hlive => h e (htracker ▸ he) (hclock ▸ hlive)⟩

theorem carries_of_none (h : trackerOf username t = none)
    (hverified : guessed username s t = false) :
    Carries username s n t (tally username s t n) := by
  have hn : tally username s t n = n := by simp [tally, opens_of_none h, hverified]
  rw [hn]
  refine ⟨le_refl n, fun P _ _ e he => ?_⟩
  rw [h] at he
  cases he

theorem carries_of_opens {e : Tracker} (ht : trackerOf username t = some e)
    (hfailures : e.failures = 0) (hopens : opens username s t = true) :
    Carries username s n t (tally username s t n) := by
  have hn : tally username s t n = 0 := by simp [tally, hopens]
  rw [hn]
  refine ⟨Nat.zero_le n, fun P hP _ e' he' _ => ?_⟩
  obtain rfl := Option.some.inj (ht.symm.trans he')
  rw [hfailures]
  exact hP

theorem reserveTracker_distinct (h : Table.Distinct Tracker.key trackers) :
    Table.Distinct Tracker.key (reserveTracker LOGIN_WINDOW_SECS now key trackers).2 := by
  have hkept : Table.Distinct Tracker.key
      (trackers.filter (fun t => !expired LOGIN_WINDOW_SECS now t)) := h.sublist List.filter_sublist
  unfold reserveTracker
  dsimp only
  split
  · exact hkept
  · rename_i hhas
    split
    · exact hkept
    · refine List.pairwise_append.mpr ⟨hkept, List.pairwise_singleton _ _, fun e he e' he' => ?_⟩
      obtain rfl := List.mem_singleton.mp he'
      exact fun heq => hhas (Table.has_iff.mpr ⟨e, he, heq⟩)

theorem reserveTracker_cases (username key : String) (now : Nat)
    (h : Table.Distinct Tracker.key trackers) :
    Table.lookup Tracker.key username (reserveTracker LOGIN_WINDOW_SECS now key trackers).2 =
      Table.lookup Tracker.key username trackers ∨
    Table.lookup Tracker.key username (reserveTracker LOGIN_WINDOW_SECS now key trackers).2 =
      none ∨
    (Table.lookup Tracker.key username (reserveTracker LOGIN_WINDOW_SECS now key trackers).2 =
        some { key := username, windowStart := now } ∧
      ∀ e, Table.lookup Tracker.key username trackers = some e →
        expired LOGIN_WINDOW_SECS now e = true) := by
  have hkept := h.lookup_filter (k := username)
    (p := fun t => !expired LOGIN_WINDOW_SECS now t)
  have hsame : ∀ o : Option Tracker,
      o.filter (fun t => !expired LOGIN_WINDOW_SECS now t) = o ∨
        o.filter (fun t => !expired LOGIN_WINDOW_SECS now t) = none := by
    intro o
    cases o with
    | none => exact .inl rfl
    | some e => cases he : expired LOGIN_WINDOW_SECS now e <;> simp [Option.filter, he]
  unfold reserveTracker
  dsimp only
  split
  · rw [hkept]
    exact (hsame _).imp_right .inl
  · rename_i hhas
    split
    · rw [hkept]
      exact (hsame _).imp_right .inl
    · dsimp only
      rw [Table.lookup_append, hkept]
      by_cases hkey : key = username
      · subst hkey
        rw [if_pos rfl]
        have hnone := Table.lookup_none_of_not_has (Bool.eq_false_iff.mpr hhas)
        rw [hkept] at hnone
        rw [hnone, Option.none_or]
        refine .inr (.inr ⟨rfl, fun e he => ?_⟩)
        rw [he] at hnone
        cases hexpired : expired LOGIN_WINDOW_SECS now e with
        | true => rfl
        | false => simp [Option.filter, hexpired] at hnone
      · rw [if_neg hkey, Option.or_none]
        exact (hsame _).imp_right .inl

theorem carries_reserve (hdistinct : Table.Distinct Tracker.key s.loginFailures)
    (ht : t = { s with
      loginFailures := (reserveTracker LOGIN_WINDOW_SECS now key s.loginFailures).2 }) :
    Carries username s n t (tally username s t n) := by
  subst ht
  rcases reserveTracker_cases username key now hdistinct with
    hsame | hnone | ⟨hnew, hover⟩
  · exact carries_of_eq hsame rfl (guessed_of_verified_eq rfl)
  · exact carries_of_none hnone (guessed_of_verified_eq rfl)
  · let reserved : Server := { s with
      loginFailures := (reserveTracker LOGIN_WINDOW_SECS now key s.loginFailures).2 }
    have hopened : trackerOf username reserved = some { key := username, windowStart := now } :=
      hnew
    refine carries_of_opens hopened rfl ?_
    unfold opens
    rw [hopened]
    cases hold : trackerOf username s with
    | none => rfl
    | some e =>
      have hexpired := hover e hold
      simp only [expired, decide_eq_true_eq] at hexpired
      simp only [decide_eq_true_eq]
      intro hstart
      rw [hstart, Nat.sub_self] at hexpired
      cases hexpired

end

section

variable {crypto : Crypto} {username : String} {p q : LoginProgram} {s t : Server} {n n' : Nat}

abbrev Watching (s : Server) : Nat × List Tracker × List (String × Option Bool) :=
  (s.app.clock, s.loginFailures, s.verified)

theorem preserves_finishLogin (user : User) (credentials : Credentials) :
    (finishLogin crypto user credentials).Preserves Watching := by
  have hticket : ∀ ticketHash, (memory (fun s =>
      replaceTicket ticketHash user.id s.app.clock s)).Preserves Watching := by
    intro ticketHash
    refine preserves_memory (fun s => ?_)
    unfold replaceTicket
    dsimp only
    split <;> rfl
  unfold finishLogin
  split
  · have hdraw : (generateToken crypto).Preserves Watching := preserves_memory (fun _ => rfl)
    exact (hdraw.bind fun ticket => (hticket _).bind fun _ => (preserves_lift _).bind fun _ =>
      Prog.preserves_pure _).bind fun _ => Prog.preserves_pure _
  · exact (preserves_issueToken (fun _ _ => rfl) (fun _ _ => rfl) (Prog.preserves_pure _)).bind
      fun _ => Prog.preserves_pure _

theorem outside_fail (clock : Nat) (e : AppError) :
    Outside crypto username clock (.fail e) := .past _ trivial

theorem Outside.mono {clock clock' : Nat} (h : Outside crypto username clock p)
    (hle : clock ≤ clock') : Outside crypto username clock' p := by
  cases h with
  | start input => exact .start input
  | reserving input now hnow => exact .reserving input now (hnow.trans hle)
  | looking input now hnow => exact .looking input now (hnow.trans hle)
  | other name p hne hp => exact .other name p hne hp
  | clearing name user credentials => exact .clearing name user credentials
  | past p hp => exact .past p hp

structure Smooth (username : String) (s t : Server) : Prop where
  clock : t.app.clock = s.app.clock
  distinct : Table.Distinct Tracker.key t.loginFailures
  carries : ∀ n, Carries username s n t (tally username s t n)

def Quiet (crypto : Crypto) (username : String) (s t : Server) (q : LoginProgram) : Prop :=
  Smooth username s t ∧ Outside crypto username s.app.clock q

def Passes (crypto : Crypto) (username : String) (s t : Server) (q : LoginProgram) : Prop :=
  t = s ∧ Tracked username s (fun failures => failures < LOGIN_MAX_FAILURES) ∧
    ∃ input : LoginRequest, input.username = username ∧ q = afterCheck crypto input

theorem smooth_of_eq (hdistinct : Table.Distinct Tracker.key s.loginFailures) (h : t = s) :
    Smooth username s t := by
  subst h
  exact ⟨rfl, hdistinct, fun n => carries_of_eq rfl rfl (guessed_of_verified_eq rfl)⟩

theorem quiet_of_eq (hdistinct : Table.Distinct Tracker.key s.loginFailures) (h : t = s)
    (hq : Outside crypto username s.app.clock q) : Quiet crypto username s t q :=
  ⟨smooth_of_eq hdistinct h, hq⟩

theorem lookup_other {name : String} (hne : name ≠ username) (f : Tracker → Tracker)
    (hf : ∀ e, (f e).key = e.key) (trackers : List Tracker) :
    Table.lookup Tracker.key username (Table.update Tracker.key name f trackers) =
      Table.lookup Tracker.key username trackers :=
  Table.lookup_update_ne (fun h => hne h.symm) (fun e he => (hf e).trans he)

theorem step_other {name : String} (hne : name ≠ username) (h : Inside crypto name p)
    (hdistinct : Table.Distinct Tracker.key s.loginFailures) (hstep : Prog.Step (p, s) (q, t)) :
    Quiet crypto username s t q := by
  cases h with
  | checked input hname =>
    subst hname
    obtain ⟨ht, ⟨e, rfl⟩ | rfl | ⟨user, credentials, storedHash, rfl⟩⟩ := step_afterCheck hstep
    · exact quiet_of_eq hdistinct ht (outside_fail _ e)
    · exact quiet_of_eq hdistinct ht (.other _ _ hne .failing)
    · exact quiet_of_eq hdistinct ht (.other _ _ hne (.verifying input _ _ _ rfl))
  | verifying input user credentials storedHash hname =>
    subst hname
    obtain ⟨rfl, hq⟩ := step_verifyLogin hstep
    have hguessed : guessed username s { s with
        verified := s.verified ++
          [(input.username, (crypto.verifyPassword input.password storedHash).toOption)] } =
        false := by
      simp [guessed, hne]
    refine ⟨⟨rfl, hdistinct, fun n => carries_of_eq rfl rfl hguessed⟩, ?_⟩
    split at hq
    · exact hq ▸ outside_fail _ _
    · exact hq ▸ .other _ _ hne .failing
    · exact hq ▸ .clearing _ user credentials
  | failing =>
    obtain ⟨rfl, e, rfl⟩ := step_recordAndRefuse hstep
    have hsame := lookup_other hne
      (fun e => { e with failures := min (e.failures + 1) (2 ^ 32 - 1) }) (fun _ => rfl)
      s.loginFailures
    exact ⟨⟨rfl, hdistinct.update (fun _ _ => rfl),
      fun n => carries_of_eq hsame rfl (guessed_of_verified_eq rfl)⟩, outside_fail _ e⟩

theorem step_clearing {name : String} {user : User} {credentials : Credentials}
    (hdistinct : Table.Distinct Tracker.key s.loginFailures)
    (hstep : Prog.Step (clearAndFinish crypto name user credentials, s) (q, t)) :
    Quiet crypto username s t q := by
  obtain ⟨rfl, rfl⟩ := step_clearAndFinish hstep
  refine ⟨⟨rfl, hdistinct.delete name, fun n => ?_⟩, .past _ (preserves_finishLogin _ _)⟩
  have hcleared : Table.lookup Tracker.key username
      (Table.delete Tracker.key name s.loginFailures) =
        if username = name then none else trackerOf username s := Table.lookup_delete
  by_cases hname : username = name
  · rw [if_pos hname] at hcleared
    exact carries_of_none hcleared (guessed_of_verified_eq rfl)
  · rw [if_neg hname] at hcleared
    exact carries_of_eq hcleared rfl (guessed_of_verified_eq rfl)

theorem tracked_of_check {name : String} {now : Nat} (hnow : now ≤ s.app.clock)
    (hpass : trackerRefusal LOGIN_WINDOW_SECS LOGIN_MAX_FAILURES now name s.loginFailures =
      .ok ()) : Tracked name s (fun failures => failures < LOGIN_MAX_FAILURES) := by
  intro e he hlive
  have hfound : Table.lookup Tracker.key name s.loginFailures = some e := he
  have hopen : (now - e.windowStart) / 1000 < LOGIN_WINDOW_SECS := by
    by_contra hover
    have hexpired : expired LOGIN_WINDOW_SECS now e = true := by simpa [expired] using hover
    rw [expired_mono hnow hexpired] at hlive
    cases hlive
  by_contra hmany
  unfold trackerRefusal at hpass
  rw [hfound] at hpass
  dsimp only at hpass
  rw [if_pos ⟨hopen, not_lt.mp hmany⟩] at hpass
  cases hpass

theorem step_outside (h : Outside crypto username s.app.clock p)
    (hdistinct : Table.Distinct Tracker.key s.loginFailures) (hstep : Prog.Step (p, s) (q, t)) :
    Quiet crypto username s t q ∨ Passes crypto username s t q := by
  cases h with
  | start input =>
    obtain ⟨ht, rfl⟩ := step_login hstep
    exact .inl (quiet_of_eq hdistinct ht (.reserving input _ (le_refl _)))
  | reserving input now hnow =>
    obtain ⟨rfl, hq⟩ := step_reserving hstep
    refine .inl ⟨⟨rfl, reserveTracker_distinct hdistinct,
      fun n => carries_reserve hdistinct rfl⟩, ?_⟩
    rcases hq with ⟨e, rfl⟩ | rfl
    · exact outside_fail _ e
    · exact .looking input now hnow
  | looking input now hnow =>
    obtain ⟨ht, ⟨e, rfl⟩ | ⟨rfl, hpass⟩⟩ := step_looking hstep
    · exact .inl (quiet_of_eq hdistinct ht (outside_fail _ e))
    by_cases hname : input.username = username
    · exact .inr ⟨ht, hname ▸ tracked_of_check hnow hpass, input, hname, rfl⟩
    · exact .inl (quiet_of_eq hdistinct ht (.other _ _ hname (.checked input rfl)))
  | other name p hne hp => exact .inl (step_other hne hp hdistinct hstep)
  | clearing name user credentials => exact .inl (step_clearing hdistinct hstep)
  | past p hp =>
    obtain ⟨hview, hq⟩ := hp.step hstep
    obtain ⟨hclock, htable⟩ := Prod.mk.inj hview
    obtain ⟨hfailures, hverified⟩ := Prod.mk.inj htable
    have hsame : trackerOf username t = trackerOf username s := by
      unfold trackerOf
      rw [hfailures]
    exact .inl ⟨⟨hclock, hfailures ▸ hdistinct,
      fun n => carries_of_eq hsame hclock (guessed_of_verified_eq hverified)⟩, .past _ hq⟩

inductive Pending (crypto : Crypto) (username : String) : LoginProgram → Prop
  | checked (input) (h : input.username = username) :
      Pending crypto username (afterCheck crypto input)
  | verifying (input user credentials storedHash) (h : input.username = username) :
      Pending crypto username (verifyLogin crypto input user credentials storedHash)

theorem Pending.inside (h : Pending crypto username p) : Inside crypto username p := by
  cases h with
  | checked input h => exact .checked input h
  | verifying input user credentials storedHash h =>
    exact .verifying input user credentials storedHash h

def verifiedAs (name : String) (verdict : Option Bool) (s : Server) : Server :=
  { s with verified := s.verified ++ [(name, verdict)] }

theorem smooth_verifiedAs {verdict : Option Bool} (h : verdict ≠ some false)
    (hdistinct : Table.Distinct Tracker.key s.loginFailures) :
    Smooth username s (verifiedAs username verdict s) := by
  have hguessed : guessed username s (verifiedAs username verdict s) = false := by
    simp [guessed, verifiedAs, h]
  exact ⟨rfl, hdistinct, fun n => carries_of_eq rfl rfl hguessed⟩

def Missed (username : String) (s t : Server) (q : LoginProgram) : Prop :=
  t = verifiedAs username (some false) s ∧ q = recordAndRefuse username

theorem step_pending (h : Pending crypto username p)
    (hdistinct : Table.Distinct Tracker.key s.loginFailures) (hstep : Prog.Step (p, s) (q, t)) :
    (Smooth username s t ∧ (Pending crypto username q ∨ q = recordAndRefuse username ∨
      Outside crypto username s.app.clock q)) ∨ Missed username s t q := by
  cases h with
  | checked input hname =>
    obtain ⟨ht, hq⟩ := step_afterCheck hstep
    refine .inl ⟨smooth_of_eq hdistinct ht, ?_⟩
    rcases hq with ⟨e, rfl⟩ | rfl | ⟨user, credentials, storedHash, rfl⟩
    · exact .inr (.inr (outside_fail _ e))
    · rw [hname]
      exact .inr (.inl rfl)
    · exact .inl (.verifying input user credentials storedHash hname)
  | verifying input user credentials storedHash hname =>
    subst hname
    obtain ⟨ht, hq⟩ := step_verifyLogin hstep
    cases hverdict : crypto.verifyPassword input.password storedHash with
    | error e =>
      rw [hverdict] at hq ht
      obtain rfl : t = verifiedAs input.username none s := ht
      exact .inl ⟨smooth_verifiedAs (by simp) hdistinct, .inr (.inr (hq ▸ outside_fail _ e))⟩
    | ok valid =>
      rw [hverdict] at hq ht
      cases valid with
      | true =>
        obtain rfl : t = verifiedAs input.username (some true) s := ht
        exact .inl ⟨smooth_verifiedAs (by simp) hdistinct,
          .inr (.inr (hq ▸ .clearing _ user credentials))⟩
      | false => exact .inr ⟨ht, hq⟩

end

section

variable {ι : Type} [DecidableEq ι] {username : String} {S F : Finset ι} {i : ι} {s t : Server}
  {n n' : Nat}

def failures (username : String) (s : Server) : Nat :=
  match trackerOf username s with
  | some e => if expired LOGIN_WINDOW_SECS s.app.clock e then 0 else e.failures
  | none => 0

theorem failures_of_live {e : Tracker} (he : trackerOf username s = some e)
    (hlive : expired LOGIN_WINDOW_SECS s.app.clock e = false) :
    failures username s = e.failures := by
  simp [failures, he, hlive]

structure Room (username : String) (S F : Finset ι) (s : Server) (n : Nat) : Prop where
  subset : F ⊆ S
  card : S.card ≤ LOGIN_MAX_FAILURES
  tracked : Tracked username s
    (fun failures => n ≤ failures + F.card ∧ failures + S.card ≤ LOGIN_MAX_FAILURES)

omit [DecidableEq ι] in
theorem Room.carry (h : Room username S F s n) (hc : Carries username s n t n') :
    Room username S F t n' where
  subset := h.subset
  card := h.card
  tracked := hc.2
    (fun m failures => m ≤ failures + F.card ∧ failures + S.card ≤ LOGIN_MAX_FAILURES)
    ⟨Nat.zero_le _, by simpa using h.card⟩ h.tracked

theorem Room.enter (h : Room username S F s n) (hi : i ∉ S) (hcard : S.card < LOGIN_MAX_FAILURES)
    (hroom : Tracked username s (fun failures => failures + S.card < LOGIN_MAX_FAILURES)) :
    Room username (insert i S) F s n := by
  have hinsert : (insert i S).card = S.card + 1 := Finset.card_insert_of_notMem hi
  refine ⟨fun j hj => Finset.mem_insert_of_mem (h.subset hj), by omega, fun e he hlive => ?_⟩
  have hless := hroom e he hlive
  exact ⟨(h.tracked e he hlive).1, by omega⟩

theorem Room.leave (h : Room username S F s n) (hi : i ∉ F) : Room username (S.erase i) F s n := by
  have herase : (S.erase i).card ≤ S.card := Finset.card_erase_le
  refine ⟨fun j hj => Finset.mem_erase.mpr ⟨fun heq => hi (heq ▸ hj), h.subset hj⟩,
    herase.trans h.card, fun e he hlive => ?_⟩
  obtain ⟨hcount, hless⟩ := h.tracked e he hlive
  exact ⟨hcount, by omega⟩

theorem Room.fails (h : Room username S F s n) (hS : i ∈ S) (hF : i ∉ F) :
    Room username S (insert i F) s n := by
  have hinsert : (insert i F).card = F.card + 1 := Finset.card_insert_of_notMem hF
  refine ⟨Finset.insert_subset hS h.subset, h.card, fun e he hlive => ?_⟩
  obtain ⟨hcount, hless⟩ := h.tracked e he hlive
  exact ⟨by omega, hless⟩

theorem tally_missed (n : Nat) :
    tally username s (verifiedAs username (some false) s) n =
      if within username s = true then n + 1 else n := by
  have hopens : opens username s (verifiedAs username (some false) s) = false := opens_of_eq rfl
  have hguessed : guessed username s (verifiedAs username (some false) s) = true := by
    simp [guessed, verifiedAs]
  unfold tally
  rw [hopens, hguessed]
  simp

theorem tracked_of_not_within {P : Nat → Prop} (h : within username s = false) :
    Tracked username s P := by
  intro e he hlive
  simp [within, he, hlive] at h

theorem Room.missed (h : Room username S F s n) (hS : i ∈ S) (hF : i ∉ F)
    (hn : n ≤ LOGIN_MAX_FAILURES) :
    Room username S (insert i F) (verifiedAs username (some false) s)
        (tally username s (verifiedAs username (some false) s) n) ∧
      tally username s (verifiedAs username (some false) s) n ≤ LOGIN_MAX_FAILURES := by
  have hinsert : (insert i F).card = F.card + 1 := Finset.card_insert_of_notMem hF
  have hsubset : insert i F ⊆ S := Finset.insert_subset hS h.subset
  have hle : (insert i F).card ≤ S.card := Finset.card_le_card hsubset
  rw [tally_missed]
  cases hwithin : within username s with
  | true =>
    rw [if_pos rfl]
    obtain ⟨e, he, hlive⟩ := (Option.any_eq_true _ _).mp hwithin
    obtain ⟨hcount, hless⟩ := h.tracked e he (by simpa using hlive)
    refine ⟨⟨hsubset, h.card, fun e he hlive => ?_⟩, by omega⟩
    obtain ⟨hcount, hless⟩ := h.tracked e he hlive
    exact ⟨by omega, hless⟩
  | false =>
    have hafter : within username (verifiedAs username (some false) s) = false := hwithin
    rw [if_neg Bool.false_ne_true]
    exact ⟨⟨hsubset, h.card, tracked_of_not_within hafter⟩, hn⟩

def recorded (username : String) (s : Server) : Server :=
  { s with
    loginFailures := Table.update Tracker.key username
      (fun e => { e with failures := min (e.failures + 1) (2 ^ 32 - 1) }) s.loginFailures }

theorem trackerOf_recorded : trackerOf username (recorded username s) =
    (trackerOf username s).map
      (fun e => { e with failures := min (e.failures + 1) (2 ^ 32 - 1) }) :=
  Table.lookup_update (fun _ h => h)

theorem tally_recorded (n : Nat) : tally username s (recorded username s) n = n := by
  have hopens : opens username s (recorded username s) = false := by
    cases hs : trackerOf username s with
    | none => exact opens_of_none (by rw [trackerOf_recorded, hs, Option.map_none])
    | some e =>
      have hnew : trackerOf username (recorded username s) =
          some { e with failures := min (e.failures + 1) (2 ^ 32 - 1) } := by
        rw [trackerOf_recorded, hs, Option.map_some]
      exact opens_of_same_start hs hnew rfl
  have hguessed : guessed username s (recorded username s) = false := guessed_of_verified_eq rfl
  simp [tally, hopens, hguessed]

theorem Room.recorded (h : Room username S F s n) (hF : i ∈ F) :
    Room username (S.erase i) (F.erase i) (recorded username s) n := by
  have hS : (S.erase i).card + 1 = S.card := Finset.card_erase_add_one (h.subset hF)
  have hF' : (F.erase i).card + 1 = F.card := Finset.card_erase_add_one hF
  have hcard := h.card
  refine ⟨Finset.erase_subset_erase i h.subset, by omega, fun e he hlive => ?_⟩
  rw [trackerOf_recorded] at he
  obtain ⟨old, hold, rfl⟩ := Option.map_eq_some_iff.mp he
  obtain ⟨hcount, hless⟩ := h.tracked old hold hlive
  have hmax : LOGIN_MAX_FAILURES < 2 ^ 32 - 1 := by decide
  have hmin : min (old.failures + 1) (2 ^ 32 - 1) = old.failures + 1 := min_eq_left (by omega)
  dsimp only
  rw [hmin]
  exact ⟨by omega, by omega⟩

end

structure Watch (ι : Type) where
  crowd : Crowd ι Server AppError LoginResult
  guesses : Nat := 0

structure Elsewhere (s t : Server) : Prop where
  clock : s.app.clock ≤ t.app.clock
  failures : t.loginFailures = s.loginFailures
  verified : t.verified = s.verified

namespace Watch

variable {ι : Type} [DecidableEq ι] {crypto : Crypto} {username : String}

inductive Step (username : String)
    (allowed : Crowd ι Server AppError LoginResult → ι → LoginProgram → Prop) :
    Watch ι → Watch ι → Prop
  | moves {x} (i p t) (h : Prog.Step (x.crowd.threads i, x.crowd.state) (p, t))
      (ha : allowed x.crowd i p) :
      Step username allowed x
        { crowd := { state := t, threads := Function.update x.crowd.threads i p }
          guesses := tally username x.crowd.state t x.guesses }
  | outside {x} (t) (h : Elsewhere x.crowd.state t) :
      Step username allowed x { x with crowd := { x.crowd with state := t } }

abbrev RunWhere (username : String)
    (allowed : Crowd ι Server AppError LoginResult → ι → LoginProgram → Prop) :
    Watch ι → Watch ι → Prop :=
  Relation.ReflTransGen (Step username allowed)

def WithinBudget (crypto : Crypto) (username : String) (x : Crowd ι Server AppError LoginResult)
    (i : ι) (p : LoginProgram) : Prop :=
  Inside crypto username p → ∀ S : Finset ι, S.Nonempty →
    (∀ j ∈ S, j ≠ i ∧ Inside crypto username (x.threads j)) →
    failures username x.state + S.card < LOGIN_MAX_FAILURES

def begin (crypto : Crypto) (inputs : ι → LoginRequest) (s : Server) : Watch ι :=
  { crowd := { state := s, threads := fun i => login crypto (inputs i) } }

inductive Placed (crypto : Crypto) (username : String) (S F : Finset ι) (clock : Nat) (i : ι)
    (p : LoginProgram) : Prop
  | failing (hF : i ∈ F) (hp : p = recordAndRefuse username)
  | pending (hS : i ∈ S) (hF : i ∉ F) (hp : Pending crypto username p)
  | outside (hS : i ∉ S) (hp : Outside crypto username clock p)

structure Bounded (crypto : Crypto) (username : String) (w : Watch ι) : Prop where
  distinct : Table.Distinct Tracker.key w.crowd.state.loginFailures
  bound : w.guesses ≤ LOGIN_MAX_FAILURES
  placed : ∃ S F : Finset ι, Room username S F w.crowd.state w.guesses ∧
    ∀ i, Placed crypto username S F w.crowd.state.app.clock i (w.crowd.threads i)

variable {w w' : Watch ι} {S F S' F' : Finset ι} {i j : ι} {p : LoginProgram}
  {threads : ι → LoginProgram} {clock clock' : Nat}

omit [DecidableEq ι] in
theorem Placed.mono (h : Placed crypto username S F clock i p) (hle : clock ≤ clock') :
    Placed crypto username S F clock' i p := by
  cases h with
  | failing hF hp => exact .failing hF hp
  | pending hS hF hp => exact .pending hS hF hp
  | outside hS hp => exact .outside hS (hp.mono hle)

omit [DecidableEq ι] in
theorem Placed.inside (h : Placed crypto username S F clock i p) (hi : i ∈ S) :
    Inside crypto username p := by
  cases h with
  | failing _ hp =>
    rw [hp]
    exact .failing
  | pending _ _ hp => exact hp.inside
  | outside hS _ => exact absurd hi hS

theorem placed_update (h : ∀ j, Placed crypto username S F clock j (threads j))
    (hS : ∀ j, j ≠ i → (j ∈ S' ↔ j ∈ S)) (hF : ∀ j, j ≠ i → (j ∈ F' ↔ j ∈ F))
    (hp : Placed crypto username S' F' clock i p) (j : ι) :
    Placed crypto username S' F' clock j (Function.update threads i p j) := by
  by_cases hj : j = i
  · subst hj
    rw [Function.update_self]
    exact hp
  · rw [Function.update_of_ne hj]
    cases h j with
    | failing hmem hp => exact .failing ((hF j hj).mpr hmem) hp
    | pending hmem hnot hp =>
      exact .pending ((hS j hj).mpr hmem) (fun hin => hnot ((hF j hj).mp hin)) hp
    | outside hnot hp => exact .outside (fun hin => hnot ((hS j hj).mp hin)) hp

theorem mem_insert_of_ne (h : j ≠ i) : j ∈ insert i S ↔ j ∈ S := by
  simp [h]

theorem mem_erase_of_ne (h : j ≠ i) : j ∈ S.erase i ↔ j ∈ S := by
  simp [h]

omit [DecidableEq ι] in
theorem bounded_begin {inputs : ι → LoginRequest} {s : Server} (h : s.loginFailures = []) :
    Bounded crypto username (begin crypto inputs s) where
  distinct := by
    change Table.Distinct Tracker.key s.loginFailures
    rw [h]
    exact List.Pairwise.nil
  bound := Nat.zero_le _
  placed := by
    refine ⟨∅, ∅, ⟨fun _ h => h, Nat.zero_le _, fun e he _ => ?_⟩,
      fun i => .outside (Finset.notMem_empty i) (.start (inputs i))⟩
    change Table.lookup Tracker.key username s.loginFailures = some e at he
    rw [h] at he
    cases he

omit [DecidableEq ι] in
theorem Bounded.elsewhere (hb : Bounded crypto username w) {t : Server}
    (h : Elsewhere w.crowd.state t) :
    Bounded crypto username { w with crowd := { w.crowd with state := t } } := by
  have hsame : trackerOf username t = trackerOf username w.crowd.state := by
    unfold trackerOf
    rw [h.failures]
  have hcarries : Carries username w.crowd.state w.guesses t w.guesses := by
    refine ⟨le_refl _, fun P _ htracked e he hlive => ?_⟩
    rw [hsame] at he
    refine htracked e he ?_
    cases hexpired : expired LOGIN_WINDOW_SECS w.crowd.state.app.clock e with
    | false => rfl
    | true =>
      rw [expired_mono h.clock hexpired] at hlive
      cases hlive
  obtain ⟨S, F, hroom, hplaced⟩ := hb.placed
  exact ⟨h.failures ▸ hb.distinct, hb.bound, S, F, hroom.carry hcarries,
    fun i => (hplaced i).mono h.clock⟩

omit [DecidableEq ι] in
theorem budget_of_within {c : Crowd ι Server AppError LoginResult} {input : LoginRequest}
    (hname : input.username = username)
    (hless : Tracked username c.state (fun failures => failures < LOGIN_MAX_FAILURES))
    (hothers : ∀ j ∈ S, j ≠ i ∧ Inside crypto username (c.threads j))
    (ha : WithinBudget crypto username c i (afterCheck crypto input)) :
    S.card < LOGIN_MAX_FAILURES ∧
      Tracked username c.state (fun failures => failures + S.card < LOGIN_MAX_FAILURES) := by
  rcases S.eq_empty_or_nonempty with hempty | hsome
  · rw [hempty, Finset.card_empty]
    exact ⟨by decide, hless⟩
  · have hlimit := ha (.checked input hname) S hsome hothers
    refine ⟨by omega, fun e he hlive => ?_⟩
    rw [failures_of_live he hlive] at hlimit
    exact hlimit

theorem Bounded.moves (hb : Bounded crypto username w) {t : Server}
    (h : Prog.Step (w.crowd.threads i, w.crowd.state) (p, t))
    (ha : WithinBudget crypto username w.crowd i p) :
    Bounded crypto username
      { crowd := { state := t, threads := Function.update w.crowd.threads i p }
        guesses := tally username w.crowd.state t w.guesses } := by
  obtain ⟨S, F, hroom, hplaced⟩ := hb.placed
  have hsame : ∀ j, j ≠ i → (j ∈ S ↔ j ∈ S) := fun _ _ => Iff.rfl
  cases hplaced i with
  | failing hF hp =>
    rw [hp] at h
    obtain ⟨rfl, e, rfl⟩ := step_recordAndRefuse h
    have hkept : Table.Distinct Tracker.key (recorded username w.crowd.state).loginFailures :=
      hb.distinct.update (fun _ _ => rfl)
    change Bounded crypto username
      { crowd := { state := recorded username w.crowd.state,
                   threads := Function.update w.crowd.threads i (.fail e) }
        guesses := tally username w.crowd.state (recorded username w.crowd.state) w.guesses }
    rw [tally_recorded]
    exact ⟨hkept, hb.bound, S.erase i, F.erase i, hroom.recorded hF,
      placed_update hplaced (fun j hj => mem_erase_of_ne hj) (fun j hj => mem_erase_of_ne hj)
        (.outside (Finset.notMem_erase i S) (outside_fail _ e))⟩
  | pending hS hF hp =>
    rcases step_pending hp hb.distinct h with ⟨hsmooth, hq⟩ | ⟨rfl, rfl⟩
    · have hcarries := hsmooth.carries w.guesses
      have hclock : ∀ j, Placed crypto username S F t.app.clock j (w.crowd.threads j) :=
        fun j => hsmooth.clock ▸ hplaced j
      refine ⟨hsmooth.distinct, hcarries.1.trans hb.bound, ?_⟩
      rcases hq with hq | rfl | hq
      · exact ⟨S, F, hroom.carry hcarries,
          placed_update hclock hsame (fun _ _ => Iff.rfl) (.pending hS hF hq)⟩
      · exact ⟨S, insert i F, (hroom.fails hS hF).carry hcarries,
          placed_update hclock hsame (fun j hj => mem_insert_of_ne hj)
            (.failing (Finset.mem_insert_self i F) rfl)⟩
      · exact ⟨S.erase i, F, (hroom.leave hF).carry hcarries,
          placed_update hclock (fun j hj => mem_erase_of_ne hj) (fun _ _ => Iff.rfl)
            (.outside (Finset.notMem_erase i S) (hsmooth.clock ▸ hq))⟩
    · obtain ⟨hmissed, hbound⟩ := hroom.missed hS hF hb.bound
      exact ⟨hb.distinct, hbound, S, insert i F, hmissed,
        placed_update hplaced hsame (fun j hj => mem_insert_of_ne hj)
          (.failing (Finset.mem_insert_self i F) rfl)⟩
  | outside hS hp =>
    have hF : i ∉ F := fun h => hS (hroom.subset h)
    rcases step_outside hp hb.distinct h with ⟨hsmooth, hq⟩ | ⟨rfl, hless, input, hname, rfl⟩
    · have hcarries := hsmooth.carries w.guesses
      have hclock : ∀ j, Placed crypto username S F t.app.clock j (w.crowd.threads j) :=
        fun j => hsmooth.clock ▸ hplaced j
      exact ⟨hsmooth.distinct, hcarries.1.trans hb.bound, S, F, hroom.carry hcarries,
        placed_update hclock hsame (fun _ _ => Iff.rfl) (.outside hS (hsmooth.clock ▸ hq))⟩
    · rw [tally_of_eq rfl (guessed_of_verified_eq rfl)]
      have hothers : ∀ j ∈ S, j ≠ i ∧ Inside crypto username (w.crowd.threads j) :=
        fun j hj => ⟨fun hji => hS (hji ▸ hj), (hplaced j).inside hj⟩
      have hbudget := budget_of_within hname hless hothers ha
      exact ⟨hb.distinct, hb.bound, insert i S, F, hroom.enter hS hbudget.1 hbudget.2,
        placed_update hplaced (fun j hj => mem_insert_of_ne hj) (fun _ _ => Iff.rfl)
          (.pending (Finset.mem_insert_self i S) hF (.checked input hname))⟩

theorem bounded_run (hb : Bounded crypto username w)
    (hrun : RunWhere username (WithinBudget crypto username) w w') :
    Bounded crypto username w' := by
  induction hrun with
  | refl => exact hb
  | tail _ hstep ih =>
    cases hstep with
    | moves i p t h ha => exact ih.moves h ha
    | outside t h => exact ih.elsewhere h

def tick (username : String) (i : ι) (w : Watch ι) : Watch ι :=
  match (w.crowd.threads i).tick w.crowd.state with
  | some (p, t) =>
    { crowd := { state := t, threads := Function.update w.crowd.threads i p }
      guesses := tally username w.crowd.state t w.guesses }
  | none => w

def ticks (username : String) (schedule : List ι) (w : Watch ι) : Watch ι :=
  schedule.foldl (fun w i => tick username i w) w

theorem ticks_run {allowed : Crowd ι Server AppError LoginResult → ι → LoginProgram → Prop}
    (ha : ∀ x i p, allowed x i p) (schedule : List ι) (w : Watch ι) :
    RunWhere username allowed w (ticks username schedule w) := by
  induction schedule generalizing w with
  | nil => exact .refl
  | cons i schedule ih =>
    refine .trans ?_ (ih (tick username i w))
    unfold tick
    cases htick : (w.crowd.threads i).tick w.crowd.state with
    | none => exact .refl
    | some r => exact .single (.moves i r.1 r.2 (Prog.step_iff.mpr (.inl htick)) (ha _ _ _))

def guarded : Server :=
  { app :=
      { db := { users := [{ id := "1", username := "ann" }] }
        ext := Externals.fixed "2025-01-01 00:00:00" }
    credentials := [{ userId := "1", passwordHash := some "secret" }] }

def wrongGuess : LoginRequest := { username := "ann", password := "guess" }

end Watch

end Vokusz.Auth
