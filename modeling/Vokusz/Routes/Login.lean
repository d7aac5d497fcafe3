import Vokusz.Auth
import Vokusz.Text

namespace Vokusz.Auth

open Lib Db Handler

variable (crypto : Crypto)

structure LoginRequest where
  username : String
  password : String
deriving DecidableEq, Repr

structure MfaLoginRequest where
  ticket : String
  code : String
deriving DecidableEq, Repr

inductive LoginResult where
  | issued (response : LoginResponse)
  | mfaRequired (ticket : String)
deriving DecidableEq, Repr

def invalidCredentials : AppError := .unauthorized "invalid credentials"

def loginRow (username : String) (s : Server) : Option (User × Credentials × String) :=
  (s.app.db.users.filter (fun u => u.username = username && !u.bot)).findSome? (fun u =>
    (Table.lookup Credentials.userId u.id s.credentials).bind (fun c =>
      c.passwordHash.map (fun hash => (u, c, hash))))

def MFA_TICKET_MILLIS : Nat := 5 * 60 * 1000

def replaceTicket (ticketHash userId : String) (now : Nat) (s : Server) :
    Except AppError Unit × Server :=
  let kept := s.mfaTickets.filter (fun t => t.userId ≠ userId && now < t.expiresAt)
  if MAX_TRACKERS ≤ kept.length then (.error (.rateLimited 60), { s with mfaTickets := kept })
  else
    (.ok (), { s with
      mfaTickets := kept ++
        [{ ticketHash := ticketHash, userId := userId, expiresAt := now + MFA_TICKET_MILLIS }] })

def issueTicket (userId : String) : Handler String := do
  let ticket ← generateToken crypto
  let placed ← memory (fun s => replaceTicket (crypto.hashToken ticket) userId s.app.clock s)
  placed
  return ticket

def recordAndRefuse (username : String) : Handler LoginResult := do
  loginLimiter.recordFailure username
  .fail invalidCredentials

def finishLogin (user : User) (credentials : Credentials) : Handler LoginResult :=
  if credentials.totpEnabled then do
    let ticket ← issueTicket crypto user.id
    return .mfaRequired ticket
  else do
    let response ← issueToken crypto user.id (pure credentials.forcePasswordReset)
    return .issued response

def clearAndFinish (username : String) (user : User) (credentials : Credentials) :
    Handler LoginResult := do
  loginLimiter.clear username
  finishLogin crypto user credentials

def verifyGuess (username password storedHash : String) : Handler Bool := do
  let verdict ← memory (fun s =>
    let verdict := crypto.verifyPassword password storedHash
    (verdict, { s with verified := s.verified ++ [(username, verdict.toOption)] }))
  verdict

def verifyLogin (input : LoginRequest) (user : User) (credentials : Credentials)
    (storedHash : String) : Handler LoginResult := do
  let valid ← verifyGuess crypto input.username input.password storedHash
  if !valid then recordAndRefuse input.username
  else clearAndFinish crypto input.username user credentials

def afterCheck (input : LoginRequest) : Handler LoginResult := do
  let row ← read (fun s => .ok (loginRow input.username s))
  match row with
  | none => recordAndRefuse input.username
  | some (user, credentials, storedHash) =>
    if user.disabled then .fail (.forbidden "account is disabled")
    else verifyLogin crypto input user credentials storedHash

def login (input : LoginRequest) : Handler LoginResult :=
  if 32 < input.username.utf8ByteSize ∨ 128 < input.password.utf8ByteSize then
    .fail (.unauthorized "invalid username or password")
  else do
    loginLimiter.check input.username
    afterCheck crypto input

def verifyTotpCode (userId code : String) : Handler Unit := do
  let row ← read (fun s =>
    match Table.lookup Credentials.userId userId s.credentials with
    | some c => .ok c.totpSecret
    | none => .error AppError.rowNotFound)
  match row with
  | none => .fail (.internal "2FA is enabled but no secret stored")
  | some secret =>
    let now ← clock
    let valid ← crypto.totpValid secret code now
    if !valid then
      totpLimiter.recordFailure userId
      .fail (.unauthorized "invalid TOTP code")
    else return ()

def codeKey (c : BackupCode) : String × String := (c.userId, c.codeHash)

def findCode (userId codeHash : String) (s : Server) : Option BackupCode :=
  Table.lookup codeKey (userId, codeHash) s.backupCodes

def markUsed (id : Nat) : Handler Unit :=
  update (fun s => { s with
    backupCodes := Table.update BackupCode.id id (fun c => { c with used := true })
      s.backupCodes })

def verifyAndConsumeBackupCode (userId code : String) : Handler Unit := do
  let row ← read (fun s => .ok (findCode userId (crypto.hashBackupCode code) s))
  match row with
  | some row =>
    if row.used then
      totpLimiter.recordFailure userId
      .fail (.unauthorized "backup code has already been used")
    else markUsed row.id
  | none =>
    totpLimiter.recordFailure userId
    .fail (.unauthorized "invalid code")

def isTotpCode (code : String) : Bool :=
  code.utf8ByteSize = 6 && code.toList.all Char.isDigit

def takeTicket (ticketHash : String) : Handler (Option MfaTicket) :=
  memory (fun s => (Table.lookup MfaTicket.ticketHash ticketHash s.mfaTickets,
    { s with mfaTickets := Table.delete MfaTicket.ticketHash ticketHash s.mfaTickets }))

def forcePasswordReset (userId : String) : Handler Bool := do
  let row ← (read (fun s =>
    .ok (Table.lookup Credentials.userId userId s.credentials))).attempt
  return (row.toOption.join.map Credentials.forcePasswordReset).getD false

def finishMfa (userId : String) : Handler LoginResponse := do
  totpLimiter.clear userId
  issueToken crypto userId (forcePasswordReset userId)

theorem keeps_finishMfa (uid : String) :
    (finishMfa crypto uid).Keeps (fun _ => True) (fun r => r.user.id = uid) :=
  (Prog.keeps_true _).bind fun _ _ => keeps_issueToken uid (forcePasswordReset uid)

def loginMfa (input : MfaLoginRequest) : Handler LoginResponse := do
  let ticket ← takeTicket (crypto.hashToken input.ticket)
  match ticket with
  | none => .fail (.unauthorized "invalid or expired MFA ticket")
  | some ticket =>
    let now ← clock
    if ticket.expiresAt < now then
      .fail (.unauthorized "MFA ticket has expired — please log in again")
    else
      totpLimiter.check ticket.userId
      let code := trim input.code
      if isTotpCode code then verifyTotpCode crypto ticket.userId code
      else verifyAndConsumeBackupCode crypto ticket.userId code
      finishMfa crypto ticket.userId

end Vokusz.Auth
