import Vokusz.Db.Spaces

namespace Vokusz.Auth

open Lib Db

structure Credentials where
  userId : String
  passwordHash : Option String := none
  forcePasswordReset : Bool := false
  totpEnabled : Bool := false
  totpSecret : Option String := none
deriving DecidableEq, Repr

structure UserToken where
  tokenHash : String
  userId : String
  expiresAt : Nat
  createdAt : Nat
deriving DecidableEq, Repr

structure BotToken where
  tokenHash : String
  userId : String
deriving DecidableEq, Repr

structure GuestToken where
  tokenHash : String
  spaceId : String
  expiresAt : Nat
deriving DecidableEq, Repr

structure BackupCode where
  id : Nat
  userId : String
  codeHash : String
  used : Bool := false
deriving DecidableEq, Repr

structure MfaTicket where
  ticketHash : String
  userId : String
  expiresAt : Nat
deriving DecidableEq, Repr

structure Tracker where
  key : String
  failures : Nat := 0
  windowStart : Nat
deriving DecidableEq, Repr

-- `verified` records what logins had verified: the username and the verdict.
structure Server where
  app : AppState
  credentials : List Credentials := []
  userTokens : List UserToken := []
  botTokens : List BotToken := []
  guestTokens : List GuestToken := []
  backupCodes : List BackupCode := []
  mfaTickets : List MfaTicket := []
  totpAttempts : List Tracker := []
  loginFailures : List Tracker := []
  drawn : Nat := 0
  verified : List (String × Option Bool) := []

-- The hashes, the TOTP algorithm and the random source; `token n` is the n-th token drawn.
structure Crypto where
  verifyPassword : String → String → Except AppError Bool
  hashPassword : String → Nat → String
  hashToken : String → String
  hashBackupCode : String → String
  totpValid : String → String → Nat → Except AppError Bool
  token : Nat → String

def Crypto.plain : Crypto :=
  { verifyPassword := fun password hash => .ok (password = hash)
    hashPassword := fun password _ => password
    hashToken := id
    hashBackupCode := id
    totpValid := fun _ _ _ => .ok false
    token := fun n => "token " ++ toString n }

abbrev Handler := Prog Server AppError

namespace Handler

variable {α : Type}

def fetch (q : Query α) : Handler α := Prog.query App.databaseFault (fun s => q s.app.db)

def read (f : Server → Except AppError α) : Handler α := Prog.query App.databaseFault f

def write (f : Server → Except AppError α × Server) : Handler α :=
  Prog.statement App.databaseFault f

def update (f : Server → Server) : Handler Unit := write (fun s => (.ok (), f s))

def memory (f : Server → α × Server) : Handler α :=
  .step (fun s => (f s).2) (fun s => .ret (f s).1)

def clock : Handler Nat := Prog.get (fun s => s.app.clock)

instance : MonadLift (Except AppError) Handler := ⟨Prog.ofExcept⟩

end Handler

namespace Handler

variable {α ν : Type} {view : Server → ν}

theorem preserves_fetch (q : Query α) : (fetch q).Preserves view := Prog.preserves_query _ _

theorem preserves_read (f : Server → Except AppError α) : (read f).Preserves view :=
  Prog.preserves_query _ _

theorem preserves_write {f : Server → Except AppError α × Server}
    (h : ∀ s, view (f s).2 = view s) : (write f).Preserves view :=
  Prog.preserves_statement h

theorem preserves_update {f : Server → Server} (h : ∀ s, view (f s) = view s) :
    (update f).Preserves view := preserves_write h

theorem preserves_memory {f : Server → α × Server} (h : ∀ s, view (f s).2 = view s) :
    (memory f).Preserves view := fun s => ⟨h s, trivial⟩

theorem preserves_clock : clock.Preserves view := Prog.preserves_get _

theorem preserves_lift (r : Except AppError α) :
    (MonadLiftT.monadLift r : Handler α).Preserves view := Prog.preserves_ofExcept r

end Handler

open Handler

def MAX_TRACKERS : Nat := 10000

def expired (window now : Nat) (t : Tracker) : Bool := window ≤ (now - t.windowStart) / 1000

def reserveTracker (window now : Nat) (key : String) (trackers : List Tracker) :
    Except AppError Unit × List Tracker :=
  let kept := trackers.filter (fun t => !expired window now t)
  if Table.has Tracker.key key kept then (.ok (), kept)
  else if MAX_TRACKERS ≤ kept.length then (.error (.rateLimited 60), kept)
  else (.ok (), kept ++ [{ key := key, windowStart := now }])

def trackerRefusal (window maxFailures now : Nat) (key : String) (trackers : List Tracker) :
    Except AppError Unit :=
  match Table.lookup Tracker.key key trackers with
  | some t =>
    if (now - t.windowStart) / 1000 < window ∧ maxFailures ≤ t.failures then
      .error (.rateLimited (window - (now - t.windowStart) / 1000))
    else .ok ()
  | none => .ok ()

structure Limiter where
  get : Server → List Tracker
  set : List Tracker → Server → Server
  maxFailures : Nat
  window : Nat

namespace Limiter

variable (l : Limiter)

def check (key : String) : Handler Unit := do
  let now ← clock
  let reserved ← memory (fun s =>
    let (r, trackers) := reserveTracker l.window now key (l.get s)
    (r, l.set trackers s))
  reserved
  let refusal ← Prog.get (fun s => trackerRefusal l.window l.maxFailures now key (l.get s))
  refusal

def recordFailure (key : String) : Handler Unit :=
  memory (fun s => ((), l.set (Table.update Tracker.key key
    (fun t => { t with failures := min (t.failures + 1) (2 ^ 32 - 1) }) (l.get s)) s))

def clear (key : String) : Handler Unit :=
  memory (fun s => ((), l.set (Table.delete Tracker.key key (l.get s)) s))

variable {l} {ν : Type} {view : Server → ν}

section

variable (h : ∀ trackers s, view (l.set trackers s) = view s) (key : String)

include h key

theorem preserves_check :
    (l.check key).Preserves view :=
  preserves_clock.bind fun _ => (preserves_memory (fun s => h _ s)).bind fun _ =>
    (preserves_lift _).bind fun _ => (Prog.preserves_get _).bind fun _ => preserves_lift _

theorem preserves_recordFailure :
    (l.recordFailure key).Preserves view := preserves_memory (fun s => h _ s)

theorem preserves_clear :
    (l.clear key).Preserves view := preserves_memory (fun s => h _ s)

end

end Limiter

def TOTP_MAX_FAILURES : Nat := 5

def TOTP_WINDOW_SECS : Nat := 900

def LOGIN_MAX_FAILURES : Nat := 5

def LOGIN_WINDOW_SECS : Nat := 900

def totpLimiter : Limiter :=
  { get := Server.totpAttempts
    set := fun trackers s => { s with totpAttempts := trackers }
    maxFailures := TOTP_MAX_FAILURES
    window := TOTP_WINDOW_SECS }

def loginLimiter : Limiter :=
  { get := Server.loginFailures
    set := fun trackers s => { s with loginFailures := trackers }
    maxFailures := LOGIN_MAX_FAILURES
    window := LOGIN_WINDOW_SECS }

section

variable (crypto : Crypto)

def verifyPassword (password storedHash : String) : Handler Bool := do
  let verdict ← Prog.get (fun _ => crypto.verifyPassword password storedHash)
  verdict

def MAX_SESSIONS_PER_USER : Nat := 25

def TOKEN_LIFETIME_SECS : Nat := 30 * 86400

def generateToken : Handler String :=
  memory (fun s => (crypto.token s.drawn, { s with drawn := s.drawn + 1 }))

def insertToken (tokenHash userId : String) (expiresAt : Nat) : Handler Unit :=
  write (fun s =>
    if !s.app.db.hasUser userId then (.error AppError.foreignKeyViolation, s)
    else if Table.has UserToken.tokenHash tokenHash s.userTokens then
      (.error AppError.uniqueViolation, s)
    else
      (.ok (), { s with
        userTokens := s.userTokens ++
          [{ tokenHash := tokenHash
             userId := userId
             expiresAt := expiresAt
             createdAt := s.app.clock / 1000 }] }))

def dropTokens (p : UserToken → Bool) (s : Server) : Server :=
  { s with userTokens := s.userTokens.filter (fun t => !p t) }

def cleanupExpiredTokens (userId : String) : Handler Unit := do
  let now ← clock
  let _ ← (update (dropTokens (fun t => t.userId = userId && t.expiresAt < now / 1000))).attempt

def oldest (userId : String) (n : Nat) (tokens : List UserToken) : List String :=
  ((Table.orderBy UserToken.createdAt (tokens.filter (fun t => t.userId = userId))).take n).map
    UserToken.tokenHash

def enforceSessionLimit (userId : String) : Handler Unit := do
  let counted ← (read (fun s =>
    .ok (s.userTokens.filter (fun t => t.userId = userId)).length)).attempt
  let count := counted.toOption.getD 0
  if MAX_SESSIONS_PER_USER < count then
    let _ ← (update (fun s =>
      dropTokens (fun t => t.userId = userId &&
        (oldest userId (count - MAX_SESSIONS_PER_USER) s.userTokens).contains t.tokenHash)
        s)).attempt

structure LoginResponse where
  user : User
  token : String
  forcePasswordReset : Bool
deriving DecidableEq, Repr

def issueToken (userId : String) (forceReset : Handler Bool) : Handler LoginResponse := do
  let user ← fetch (Users.getUser userId)
  let token ← generateToken crypto
  let now ← clock
  insertToken (crypto.hashToken token) userId (now / 1000 + TOKEN_LIFETIME_SECS)
  cleanupExpiredTokens userId
  enforceSessionLimit userId
  let forcePasswordReset ← forceReset
  return { user := user, token := token, forcePasswordReset := forcePasswordReset }

variable {crypto} {ν : Type} {view : Server → ν}

theorem preserves_verifyPassword (password storedHash : String) :
    (verifyPassword crypto password storedHash).Preserves view :=
  (Prog.preserves_get _).bind fun _ => preserves_lift _

theorem preserves_issueToken (htokens : ∀ tokens s, view { s with userTokens := tokens } = view s)
    (hdrawn : ∀ n s, view { s with drawn := n } = view s) {userId : String}
    {forceReset : Handler Bool} (hforce : forceReset.Preserves view) :
    (issueToken crypto userId forceReset).Preserves view := by
  have hinsert : ∀ tokenHash expiresAt,
      (insertToken tokenHash userId expiresAt).Preserves view := by
    intro tokenHash expiresAt
    refine preserves_write (fun s => ?_)
    split
    · rfl
    · split
      · rfl
      · exact htokens _ s
  have hdrop : ∀ p : Server → UserToken → Bool,
      (update (fun s => dropTokens (p s) s)).Preserves view :=
    fun p => preserves_update (fun s => htokens _ s)
  have hcleanup : (cleanupExpiredTokens userId).Preserves view :=
    preserves_clock.bind fun now => (hdrop (fun _ => _)).attempt.bind fun _ => Prog.preserves_pure _
  have hlimit : (enforceSessionLimit userId).Preserves view := by
    refine (preserves_read _).attempt.bind fun counted => ?_
    dsimp only
    split
    · exact (hdrop _).attempt.bind fun _ => Prog.preserves_pure _
    · exact Prog.preserves_pure _
  exact (preserves_fetch _).bind fun user => (preserves_memory (fun s => hdrawn _ s)).bind
    fun token => preserves_clock.bind fun now => (hinsert _ _).bind fun _ => hcleanup.bind
      fun _ => hlimit.bind fun _ => hforce.bind fun _ => Prog.preserves_pure _

theorem keeps_issueToken (userId : String) (forceReset : Handler Bool) :
    (issueToken crypto userId forceReset).Keeps (fun _ => True) (fun r => r.user.id = userId) := by
  have htrue : ∀ {α} (p : Handler α), p.Maintains (fun _ => True) :=
    fun p => p.keeps_true
  have huser : (fetch (Users.getUser userId)).Keeps (fun _ => True) (fun u => u.id = userId) := by
    refine Prog.keeps_query (fun s _ u hu => ?_)
    unfold Users.getUser at hu
    split at hu
    · cases hu
      rename_i hlookup
      exact Table.lookup_key hlookup
    · cases hu
  exact huser.bind fun user huser => (htrue _).bind fun token _ => (htrue _).bind fun now _ =>
    (htrue _).bind fun _ _ => (htrue _).bind fun _ _ => (htrue _).bind fun _ _ =>
      (htrue _).bind fun _ _ => huser

end

end Vokusz.Auth
