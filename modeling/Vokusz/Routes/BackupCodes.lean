import Mathlib.Data.List.Pairwise
import Vokusz.Lib.Guarded
import Vokusz.Routes.Login

namespace Vokusz.Auth

open Lib Db Handler

section

variable {crypto : Crypto} {userId codeHash : String}

def markRow (row : BackupCode) : BackupCode := { row with used := true }

def marks (v : Option BackupCode) (own : Bool) (w : Option BackupCode) : Prop :=
  ∃ row, v = some row ∧ (own = true → row.used = false) ∧ w = some (markRow row)

def Redeeming (crypto : Crypto) (userId : String) (v : Option BackupCode)
    (p : Handler LoginResponse) : Prop :=
  ∃ row, v = some row ∧ row.used = false ∧ p = (do
    markUsed row.id
    finishMfa crypto userId)

theorem findCode_markUsed (id : Nat) (s : Server) :
    findCode userId codeHash { s with
      backupCodes := Table.update BackupCode.id id markRow s.backupCodes } =
      (findCode userId codeHash s).map (fun row => if row.id = id then markRow row else row) := by
  have hkey : ∀ row : BackupCode,
      codeKey (if row.id = id then markRow row else row) = codeKey row := by
    intro row
    split <;> rfl
  exact Table.lookup_map hkey

theorem preserves_finishMfa {uid : String} :
    (finishMfa crypto uid).Preserves (findCode userId codeHash) := by
  have hforce : (forcePasswordReset uid).Preserves (findCode userId codeHash) :=
    (preserves_read _).attempt.bind fun _ => Prog.preserves_pure _
  exact (Limiter.preserves_clear (fun _ _ => rfl) uid).bind fun _ =>
    preserves_issueToken (fun _ _ => rfl) (fun _ _ => rfl) hforce

abbrev RedeemChecks (crypto : Crypto) (userId codeHash : String) (p : Handler LoginResponse) :
    Prop :=
  p.Checks (findCode userId codeHash) marks (fun own r => r.user.id = userId → own = true)
    (fun r => r.user.id ≠ userId) (Redeeming crypto userId)

theorem redeeming_step {p q : Handler LoginResponse} {s t : Server}
    (h : Redeeming crypto userId (findCode userId codeHash s) p) (hstep : Prog.Step (p, s) (q, t)) :
    (findCode userId codeHash t = findCode userId codeHash s ∧
        (RedeemChecks crypto userId codeHash q ∨
          Redeeming crypto userId (findCode userId codeHash s) q)) ∨
      ∃ own, marks (findCode userId codeHash s) own (findCode userId codeHash t) ∧
        q.Done (findCode userId codeHash) (fun r => r.user.id = userId → own = true) := by
  obtain ⟨row, hrow, hunused, rfl⟩ := h
  rcases Prog.step_statement_bind hstep with ⟨rfl, rfl⟩ | ⟨e, he, -⟩ | ⟨u, -, rfl, rfl⟩
  · exact .inl ⟨rfl, .inl trivial⟩
  · cases he
  · refine .inr ⟨true, ⟨row, hrow, fun _ => hunused, ?_⟩, preserves_finishMfa, ?_⟩
    · refine (findCode_markUsed row.id s).trans ?_
      rw [hrow, Option.map_some, if_pos rfl]
    · exact (keeps_finishMfa crypto userId).mono (fun _ _ _ => rfl)

theorem checks_finishMfa {uid : String} (hother : uid ≠ userId) :
    RedeemChecks crypto userId codeHash (finishMfa crypto uid) := by
  refine Prog.checks_of_preserves preserves_finishMfa ((keeps_finishMfa crypto uid).mono ?_)
  intro r hr heq
  exact hother (hr.symm.trans heq)

theorem checks_markUsed {uid : String} (hother : uid ≠ userId) (id : Nat) :
    RedeemChecks crypto userId codeHash (do
      markUsed id
      finishMfa crypto uid) := by
  refine Prog.checks_statement (fun s => ?_)
  dsimp only
  have hafter : findCode userId codeHash _ = _ := findCode_markUsed id s
  cases hrow : findCode userId codeHash s with
  | none =>
    rw [hrow] at hafter
    exact .inl ⟨hafter, .inl (checks_finishMfa hother)⟩
  | some row =>
    rw [hrow, Option.map_some] at hafter
    by_cases hid : row.id = id
    · rw [if_pos hid] at hafter
      refine .inr ⟨false, ⟨row, rfl, fun h => (by cases h), hafter⟩, preserves_finishMfa, ?_⟩
      exact (keeps_finishMfa crypto uid).mono (fun r hr heq => absurd (hr.symm.trans heq) hother)
    · rw [if_neg hid] at hafter
      exact .inl ⟨hafter, .inl (checks_finishMfa hother)⟩

theorem checks_refusal (uid : String) (e : AppError) (rest : Unit → Handler LoginResponse) :
    RedeemChecks crypto userId codeHash (do
      totpLimiter.recordFailure uid
      (Prog.fail e : Handler Unit) >>= rest) :=
  Prog.checks_bind (Limiter.preserves_recordFailure (fun _ _ => rfl) uid) fun _ => trivial

theorem checks_verifyAndConsume {uid code : String} (hcode : crypto.hashBackupCode code = codeHash) :
    RedeemChecks crypto userId codeHash (do
      verifyAndConsumeBackupCode crypto uid code
      finishMfa crypto uid) := by
  unfold verifyAndConsumeBackupCode
  rw [bind_assoc]
  refine Prog.checks_query (fun s row hrow => ?_)
  rw [hcode, Except.ok.injEq] at hrow
  subst hrow
  cases hfound : findCode uid codeHash s with
  | none => exact .inl (checks_refusal uid _ (fun _ => finishMfa crypto uid))
  | some row =>
    dsimp only
    cases hused : row.used with
    | true => exact .inl (checks_refusal uid _ (fun _ => finishMfa crypto uid))
    | false =>
      rw [if_neg Bool.false_ne_true]
      by_cases huid : uid = userId
      · subst huid
        exact .inr ⟨row, hfound, hused, rfl⟩
      · exact .inl (checks_markUsed huid row.id)

theorem checks_loginMfa {input : MfaLoginRequest} (htotp : isTotpCode (trim input.code) = false)
    (hcode : crypto.hashBackupCode (trim input.code) = codeHash) :
    RedeemChecks crypto userId codeHash (loginMfa crypto input) := by
  refine Prog.checks_bind (preserves_memory (fun _ => rfl)) fun ticket => ?_
  cases ticket with
  | none => trivial
  | some ticket =>
    refine Prog.checks_bind preserves_clock fun now => ?_
    split
    · trivial
    · refine Prog.checks_bind (Limiter.preserves_check (fun _ _ => rfl) _) fun _ => ?_
      dsimp only
      rw [htotp, if_neg Bool.false_ne_true]
      exact checks_verifyAndConsume hcode

theorem redeem_discipline : Discipline (findCode userId codeHash) marks
    (fun own r => r.user.id = userId → own = true) (fun r => r.user.id ≠ userId)
    (Holding (Redeeming crypto userId))
    (fun v p => RedeemChecks crypto userId codeHash p ∨ Redeeming crypto userId v p) := by
  refine checks_discipline redeeming_step ?_
  rintro v a ⟨row, -, -, h⟩
  cases h

theorem marks_pairwise {v w : Option BackupCode} {owns : List Bool} (h : Runs marks v owns w) :
    owns.Pairwise (fun _ later => later = false) := by
  have hused : ∀ v owns w, Runs marks v owns w → (∃ row, v = some row ∧ row.used = true) →
      ∀ own ∈ owns, own = false := by
    intro v owns w h
    induction h with
    | nil v =>
      intro _ own hown
      cases hown
    | cons hstep _ ih =>
      rintro ⟨row, rfl, hrow⟩ own hown
      obtain ⟨row', heq, hunused, rfl⟩ := hstep
      obtain rfl := Option.some.inj heq
      rcases List.mem_cons.mp hown with rfl | hown
      · cases hown' : own with
        | false => rfl
        | true =>
          rw [hunused hown'] at hrow
          cases hrow
      · exact ih ⟨_, rfl, rfl⟩ own hown
  induction h with
  | nil v => exact List.Pairwise.nil
  | cons hstep hrest ih =>
    obtain ⟨row, -, -, rfl⟩ := hstep
    exact List.Pairwise.cons (hused _ _ _ hrest ⟨_, rfl, rfl⟩) ih

end

section

variable {ι : Type} [DecidableEq ι] {crypto : Crypto} {userId codeHash : String}
  {env : Server → Server → Prop} {input : ι → MfaLoginRequest}
  {c d : Crowd ι Server AppError LoginResponse}

def annWithCode : Server :=
  { app :=
      { db := { users := [{ id := "1", username := "ann" }] }
        ext := Externals.fixed "2025-01-01 00:00:00" }
    credentials :=
      [{ userId := "1"
         passwordHash := some "secret"
         totpEnabled := true
         totpSecret := some "x" }]
    backupCodes := [{ id := 1, userId := "1", codeHash := "ABCD2345" }]
    mfaTickets := [{ ticketHash := "first", userId := "1", expiresAt := 1000 }] }

def presented (own : Bool) : MfaLoginRequest :=
  { ticket := if own then "first" else "token 0", code := "ABCD2345" }

def logsIn (s t : Server) : Prop :=
  t = ((login Crypto.plain { username := "ann", password := "secret" }).exec s).2

def halfway : Handler LoginResponse × Server :=
  Prog.ticks 6 (loginMfa Crypto.plain (presented true), annWithCode)

def loggedInAgain : Server :=
  ((login Crypto.plain { username := "ann", password := "secret" }).exec halfway.2).2

def afterSecond : Server := ((loginMfa Crypto.plain (presented false)).exec loggedInAgain).2

end

end Vokusz.Auth
