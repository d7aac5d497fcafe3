import Vokusz.Lib.Mint
import Vokusz.Routes.Sessions

namespace Vokusz.Auth

open Lib Db Handler
open Permissions (AuthUser)

section

inductive Credential where
  | bearer (row : UserToken)
  | bot (row : BotToken)
  | ticket (row : MfaTicket)

namespace Credential

def hash : Credential → String
  | bearer row => row.tokenHash
  | bot row => row.tokenHash
  | ticket row => row.ticketHash

def userId : Credential → String
  | bearer row => row.userId
  | bot row => row.userId
  | ticket row => row.userId

end Credential

def Issued (s : Server) : Credential → Prop
  | .bearer row => row ∈ s.userTokens
  | .bot row => row ∈ s.botTokens
  | .ticket row => row ∈ s.mfaTickets

def mint (crypto : Crypto) : Mint Server Credential String :=
  { drawn := Server.drawn
    present := Issued
    nameOf := Credential.hash
    name := fun n => crypto.hashToken (crypto.token n) }

def Sheds (s t : Server) : Prop :=
  t.drawn = s.drawn ∧ (∀ c, Issued t c → Issued s c) ∧ t.app.clock = s.app.clock

abbrev Stores (s : Server) :
    Nat × Nat × List UserToken × List BotToken × List MfaTicket :=
  (s.app.clock, s.drawn, s.userTokens, s.botTokens, s.mfaTickets)

variable {s t : Server}

theorem sheds_of_stores (h : Stores t = Stores s) : Sheds s t := by
  obtain ⟨hclock, h⟩ := Prod.mk.inj h
  obtain ⟨hdrawn, h⟩ := Prod.mk.inj h
  obtain ⟨huser, h⟩ := Prod.mk.inj h
  obtain ⟨hbot, hticket⟩ := Prod.mk.inj h
  refine ⟨hdrawn, fun c hc => ?_, hclock⟩
  cases c with
  | bearer row =>
    change row ∈ s.userTokens
    exact huser ▸ hc
  | bot row =>
    change row ∈ s.botTokens
    exact hbot ▸ hc
  | ticket row =>
    change row ∈ s.mfaTickets
    exact hticket ▸ hc

theorem sheds_dropTokens (p : UserToken → Bool) (s : Server) : Sheds s (dropTokens p s) := by
  refine ⟨rfl, fun c hc => ?_, rfl⟩
  cases c with
  | bearer row => exact (List.mem_filter.mp hc).1
  | bot row => exact hc
  | ticket row => exact hc

theorem sheds_dropBotTokens (userId : String) (s : Server) :
    Sheds s (dropBotTokens userId s) := by
  refine ⟨rfl, fun c hc => ?_, rfl⟩
  cases c with
  | bearer row => exact hc
  | bot row => exact (List.mem_filter.mp hc).1
  | ticket row => exact hc

end

section

variable {crypto : Crypto} {α : Type} {held : Set Nat}

abbrev Shedding (p : Handler α) : Prop :=
  p.Respects (fun _ => True) Sheds (fun _ => True)

theorem shedding_of_preserves {p : Handler α} (h : p.Preserves Stores) : Shedding p :=
  h.respects (fun _ _ _ _ => trivial) (fun _ _ _ hview => sheds_of_stores hview)

theorem shedding_update {f : Server → Server} (h : ∀ s, Sheds s (f s)) :
    Shedding (Handler.update f) :=
  Prog.respects_statement (fun s _ => ⟨trivial, h s⟩) (fun _ _ _ _ => trivial)

theorem Shedding.mints {p : Handler α} (h : Shedding p) :
    p.Mints (mint crypto) (fun _ h => h = held) held := by
  have hsheds : p.Respects (fun _ => True) (mint crypto).Sheds (fun _ => True) :=
    h.weaken (fun _ _ hst => ⟨hst.1, hst.2.1⟩)
  exact hsheds.mints

theorem mints_of_preserves {p : Handler α} (h : p.Preserves Stores) :
    p.Mints (mint crypto) (fun _ h => h = held) held :=
  (shedding_of_preserves h).mints

theorem mints_generateToken :
    (generateToken crypto).Mints (mint crypto)
      (fun token held' => ∃ k ∈ held', crypto.hashToken token = (mint crypto).name k) held := by
  intro s
  refine ⟨insert s.drawn held, .draws rfl (fun c hc => ?_), s.drawn, Set.mem_insert _ _, rfl⟩
  cases c <;> exact hc

variable {tokenHash userId : String} {expiresAt k : Nat}

theorem mints_insertToken (hk : k ∈ held) (hname : tokenHash = (mint crypto).name k) :
    (insertToken tokenHash userId expiresAt).Mints (mint crypto) (fun _ _ => True) held := by
  refine ⟨fun s => ?_, trivial⟩
  dsimp only
  split
  · exact ⟨held, .quiet rfl (fun _ hc => hc), trivial⟩
  · split
    · exact ⟨held, .quiet rfl (fun _ hc => hc), trivial⟩
    · let row : UserToken :=
        { tokenHash := tokenHash
          userId := userId
          expiresAt := expiresAt
          createdAt := s.app.clock / 1000 }
      refine ⟨held \ {k}, .mints k (.bearer row) hk hname rfl (fun c hc => ?_), trivial⟩
      cases c with
      | bearer row' =>
        rcases List.mem_append.mp hc with hold | hnew
        · exact .inl hold
        · exact .inr (congrArg Credential.bearer (List.mem_singleton.mp hnew))
      | bot row' => exact .inl hc
      | ticket row' => exact .inl hc

theorem Shedding.bind {β : Type} {p : Handler α} {f : α → Handler β} (h : Shedding p)
    (hf : ∀ a, Shedding (f a)) : Shedding (p >>= f) := Prog.Respects.bind h (fun a _ => hf a)

theorem shedding_cleanup (userId : String) : Shedding (cleanupExpiredTokens userId) := by
  have hdrop : ∀ p, Shedding (Handler.update (dropTokens p)).attempt :=
    fun p => (shedding_update (sheds_dropTokens p)).attempt
  exact (shedding_of_preserves preserves_clock).bind fun now =>
    (hdrop _).bind fun _ => shedding_of_preserves (Prog.preserves_pure _)

theorem shedding_limit (userId : String) : Shedding (enforceSessionLimit userId) := by
  refine (shedding_of_preserves (preserves_read _).attempt).bind fun counted => ?_
  dsimp only
  split
  · exact (shedding_update (fun s => sheds_dropTokens _ s)).attempt.bind fun _ _ => trivial
  · trivial

theorem mints_issueToken {forceReset : Handler Bool} (hforce : forceReset.Preserves Stores) :
    (issueToken crypto userId forceReset).Mints (mint crypto) (fun _ _ => True) held := by
  refine (mints_of_preserves (preserves_fetch _)).bind fun user _ hheld => ?_
  refine mints_generateToken.bind fun token drawn htoken => ?_
  obtain ⟨k, hk, hname⟩ := htoken
  refine (mints_of_preserves preserves_clock).bind fun now held' heq => ?_
  rw [heq]
  refine (mints_insertToken hk hname).bind fun _ _ _ => ?_
  refine (shedding_cleanup userId).mints.bind fun _ _ _ => ?_
  refine (shedding_limit userId).mints.bind fun _ _ _ => ?_
  exact (mints_of_preserves hforce).bind fun _ _ _ => trivial

theorem mints_replaceTicket {now : Server → Nat} (hk : k ∈ held)
    (hname : tokenHash = (mint crypto).name k) :
    (memory (fun s => replaceTicket tokenHash userId (now s) s)).Mints (mint crypto)
      (fun _ _ => True) held := by
  intro s
  unfold replaceTicket
  dsimp only
  split
  · refine ⟨held, .quiet rfl (fun c hc => ?_), trivial⟩
    cases c with
    | bearer row => exact hc
    | bot row => exact hc
    | ticket row => exact (List.mem_filter.mp hc).1
  · let row : MfaTicket :=
      { ticketHash := tokenHash, userId := userId, expiresAt := now s + MFA_TICKET_MILLIS }
    refine ⟨held \ {k}, .mints k (.ticket row) hk hname rfl (fun c hc => ?_), trivial⟩
    cases c with
    | bearer row' => exact .inl hc
    | bot row' => exact .inl hc
    | ticket row' =>
      rcases List.mem_append.mp hc with hold | hnew
      · exact .inl (List.mem_filter.mp hold).1
      · exact .inr (congrArg Credential.ticket (List.mem_singleton.mp hnew))

theorem mints_finishLogin (user : User) (credentials : Credentials) :
    (finishLogin crypto user credentials).Mints (mint crypto) (fun _ _ => True) held := by
  unfold finishLogin
  split
  · have hticket : (issueTicket crypto user.id).Mints (mint crypto) (fun _ _ => True) held := by
      refine mints_generateToken.bind fun token drawn htoken => ?_
      obtain ⟨k, hk, hname⟩ := htoken
      refine (mints_replaceTicket hk hname).bind fun placed _ _ => ?_
      exact (mints_of_preserves (preserves_lift placed)).bind fun _ _ _ => trivial
    exact hticket.bind fun _ _ _ => trivial
  · exact (mints_issueToken (Prog.preserves_pure _)).bind fun _ _ _ => trivial

theorem preserves_refuse {ν : Type} {view : Server → ν}
    (h : ∀ trackers s, view (loginLimiter.set trackers s) = view s) (username : String) :
    (recordAndRefuse username).Preserves view :=
  (Limiter.preserves_recordFailure h username).bind fun _ => Prog.preserves_fail _

theorem mints_login (input : LoginRequest) :
    (login crypto input).Mints (mint crypto) (fun _ _ => True) held := by
  have hrefuse : ∀ {held : Set Nat}, (recordAndRefuse input.username).Mints (mint crypto)
      (fun _ _ => True) held :=
    (mints_of_preserves (preserves_refuse (fun _ _ => rfl) _)).mono (fun _ _ _ => trivial)
  unfold login
  split
  · trivial
  refine (mints_of_preserves (Limiter.preserves_check (fun _ _ => rfl) _)).bind fun _ _ _ => ?_
  refine (mints_of_preserves (preserves_read _)).bind fun row _ _ => ?_
  cases row with
  | none => exact hrefuse
  | some row =>
    obtain ⟨user, credentials, storedHash⟩ := row
    dsimp only
    split
    · trivial
    have hguess : (verifyGuess crypto input.username input.password storedHash).Preserves Stores :=
      (preserves_memory (fun _ => rfl)).bind fun _ => preserves_lift _
    refine (mints_of_preserves hguess).bind fun valid _ _ => ?_
    split
    · exact hrefuse
    · refine (mints_of_preserves (Limiter.preserves_clear (fun _ _ => rfl) _)).bind fun _ _ _ => ?_
      exact mints_finishLogin user credentials

def redeem (crypto : Crypto) (input : MfaLoginRequest) : Option MfaTicket → Handler LoginResponse
  | none => .fail (.unauthorized "invalid or expired MFA ticket")
  | some ticket => do
    let now ← clock
    if ticket.expiresAt < now then
      .fail (.unauthorized "MFA ticket has expired — please log in again")
    else
      totpLimiter.check ticket.userId
      let code := trim input.code
      if isTotpCode code then verifyTotpCode crypto ticket.userId code
      else verifyAndConsumeBackupCode crypto ticket.userId code
      finishMfa crypto ticket.userId

theorem loginMfa_eq (input : MfaLoginRequest) : loginMfa crypto input =
    takeTicket (crypto.hashToken input.ticket) >>= redeem crypto input := by
  unfold loginMfa
  congr 1

theorem shedding_takeTicket (ticketHash : String) : Shedding (takeTicket ticketHash) := by
  intro s _
  refine ⟨trivial, ⟨rfl, fun c hc => ?_, rfl⟩, trivial⟩
  cases c with
  | bearer row => exact hc
  | bot row => exact hc
  | ticket row => exact (Table.mem_delete.mp hc).1

section

variable {ν : Type} {view : Server → ν}

structure Inert (view : Server → ν) : Prop where
  loginFailures : ∀ x s, view { s with loginFailures := x } = view s
  totpAttempts : ∀ x s, view { s with totpAttempts := x } = view s
  verified : ∀ x s, view { s with verified := x } = view s
  backupCodes : ∀ x s, view { s with backupCodes := x } = view s

theorem preserves_verifyTotpCode (h : Inert view) (userId code : String) :
    (verifyTotpCode crypto userId code).Preserves view := by
  refine (preserves_read _).bind fun row => ?_
  cases row with
  | none => exact Prog.preserves_fail _
  | some secret =>
    refine preserves_clock.bind fun now => (preserves_lift _).bind fun valid => ?_
    cases valid with
    | false =>
      exact (Limiter.preserves_recordFailure (fun x s => h.totpAttempts x s) _).bind fun _ =>
        Prog.preserves_fail _
    | true => exact Prog.preserves_pure _

theorem preserves_verifyAndConsume (h : Inert view) (userId code : String) :
    (verifyAndConsumeBackupCode crypto userId code).Preserves view := by
  have hrefuse : ∀ e, (totpLimiter.recordFailure userId >>= fun _ =>
      (Prog.fail e : Handler Unit)).Preserves view :=
    fun e => (Limiter.preserves_recordFailure (fun x s => h.totpAttempts x s) _).bind fun _ =>
      Prog.preserves_fail _
  refine (preserves_read _).bind fun row => ?_
  cases row with
  | none => exact hrefuse _
  | some row =>
    dsimp only
    split
    · exact hrefuse _
    · exact preserves_update (fun s => h.backupCodes _ s)

structure Blind (view : Server → ν) : Prop extends Inert view where
  drawn : ∀ x s, view { s with drawn := x } = view s
  userTokens : ∀ x s, view { s with userTokens := x } = view s
  mfaTickets : ∀ x s, view { s with mfaTickets := x } = view s

theorem preserves_forcePasswordReset (userId : String) :
    (forcePasswordReset userId).Preserves view :=
  (preserves_read _).attempt.bind fun _ => Prog.preserves_pure _

theorem Blind.issueToken (h : Blind view) {userId : String} {forceReset : Handler Bool}
    (hforce : forceReset.Preserves view) :
    (issueToken crypto userId forceReset).Preserves view :=
  preserves_issueToken (fun x s => h.userTokens x s) (fun x s => h.drawn x s) hforce

theorem Blind.finishLogin (h : Blind view) (user : User) (credentials : Credentials) :
    (finishLogin crypto user credentials).Preserves view := by
  have hticket : ∀ ticketHash, (memory (fun s =>
      replaceTicket ticketHash user.id s.app.clock s)).Preserves view := by
    intro ticketHash
    refine preserves_memory (fun s => ?_)
    unfold replaceTicket
    dsimp only
    split
    · exact h.mfaTickets _ s
    · exact h.mfaTickets _ s
  have hdraw : (generateToken crypto).Preserves view := preserves_memory (fun s => h.drawn _ s)
  unfold Auth.finishLogin
  split
  · exact (hdraw.bind fun ticket => (hticket _).bind fun _ => (preserves_lift _).bind fun _ =>
      Prog.preserves_pure _).bind fun _ => Prog.preserves_pure _
  · exact (h.issueToken (Prog.preserves_pure _)).bind fun _ => Prog.preserves_pure _

theorem Blind.login (h : Blind view) (input : LoginRequest) :
    (login crypto input).Preserves view := by
  have hset : ∀ trackers s, view (loginLimiter.set trackers s) = view s :=
    fun x s => h.loginFailures x s
  unfold Auth.login
  split
  · exact Prog.preserves_fail _
  refine (Limiter.preserves_check hset _).bind fun _ => (preserves_read _).bind fun row => ?_
  cases row with
  | none => exact preserves_refuse hset _
  | some row =>
    obtain ⟨user, credentials, storedHash⟩ := row
    dsimp only
    split
    · exact Prog.preserves_fail _
    have hguess : (verifyGuess crypto input.username input.password storedHash).Preserves view :=
      (preserves_memory (fun s => h.verified _ s)).bind fun _ => preserves_lift _
    refine hguess.bind fun valid => ?_
    split
    · exact preserves_refuse hset _
    · exact (Limiter.preserves_clear hset _).bind fun _ => h.finishLogin user credentials

theorem Blind.redeem (h : Blind view) (input : MfaLoginRequest) (ticket : Option MfaTicket) :
    (redeem crypto input ticket).Preserves view := by
  have hset : ∀ trackers s, view (totpLimiter.set trackers s) = view s :=
    fun x s => h.totpAttempts x s
  cases ticket with
  | none => exact Prog.preserves_fail _
  | some ticket =>
    have hfinish : (finishMfa crypto ticket.userId).Preserves view :=
      (Limiter.preserves_clear hset _).bind fun _ => h.issueToken (preserves_forcePasswordReset _)
    refine preserves_clock.bind fun now => ?_
    dsimp only
    split
    · exact Prog.preserves_fail _
    refine (Limiter.preserves_check hset _).bind fun _ => ?_
    split
    · exact (preserves_verifyTotpCode h.toInert _ _).bind fun _ => hfinish
    · exact (preserves_verifyAndConsume h.toInert _ _).bind fun _ => hfinish

theorem Blind.loginMfa (h : Blind view) (input : MfaLoginRequest) :
    (loginMfa crypto input).Preserves view := by
  rw [loginMfa_eq]
  exact (preserves_memory (fun s => h.mfaTickets _ s)).bind fun ticket => h.redeem input ticket

end

theorem inert_stores : Inert Stores := ⟨fun _ _ => rfl, fun _ _ => rfl, fun _ _ => rfl, fun _ _ => rfl⟩

theorem mints_redeem (input : MfaLoginRequest) (ticket : Option MfaTicket) :
    (redeem crypto input ticket).Mints (mint crypto) (fun _ _ => True) held := by
  cases ticket with
  | none => trivial
  | some ticket =>
    have hfinish : ∀ held, (finishMfa crypto ticket.userId).Mints (mint crypto)
        (fun _ _ => True) held := by
      intro held
      refine (mints_of_preserves (Limiter.preserves_clear (fun _ _ => rfl) _)).bind
        fun _ _ _ => ?_
      exact mints_issueToken (preserves_forcePasswordReset _)
    refine (mints_of_preserves preserves_clock).bind fun now _ _ => ?_
    dsimp only
    split
    · trivial
    refine (mints_of_preserves (Limiter.preserves_check (fun _ _ => rfl) _)).bind fun _ _ _ => ?_
    split
    · exact (mints_of_preserves (preserves_verifyTotpCode inert_stores _ _)).bind
        fun _ held' _ => hfinish held'
    · exact (mints_of_preserves (preserves_verifyAndConsume inert_stores _ _)).bind
        fun _ held' _ => hfinish held'

theorem mints_loginMfa (input : MfaLoginRequest) :
    (loginMfa crypto input).Mints (mint crypto) (fun _ _ => True) held := by
  rw [loginMfa_eq]
  exact (shedding_takeTicket _).mints.bind fun ticket _ _ => mints_redeem input ticket

theorem preserves_setFields {ν : Type} {view : Server → ν} (userId : String)
    (input : AdminUpdateUser) (h : ∀ s, view (withFields userId input s) = view s) :
    (setFields userId input).Preserves view := by
  refine preserves_write (fun s => ?_)
  split
  · rfl
  · exact h s

theorem shedding_setFields (userId : String) (input : AdminUpdateUser) :
    Shedding (setFields userId input) :=
  shedding_of_preserves (preserves_setFields userId input (fun _ => rfl))

theorem shedding_fetch {α : Type} (q : Query α) : Shedding (fetch q) :=
  shedding_of_preserves (preserves_fetch q)

theorem shedding_adminUpdateUser (userId : String) (input : AdminUpdateUser) :
    Shedding (adminUpdateUser userId input) := by
  have hrevoke : Shedding (revokeTokens userId input) := by
    unfold revokeTokens
    split
    · exact (shedding_update (sheds_dropTokens _)).bind fun _ =>
        shedding_update (sheds_dropBotTokens userId)
    · trivial
  unfold adminUpdateUser
  split
  · exact shedding_fetch _
  · exact (shedding_setFields userId input).bind fun _ => hrevoke.bind fun _ => shedding_fetch _

theorem shedding_lift {α : Type} (r : Except AppError α) :
    Shedding (MonadLiftT.monadLift r : Handler α) := shedding_of_preserves (preserves_lift r)

theorem shedding_updateUser (auth : AuthUser) (userId : String) (input : AdminUpdateUser) :
    Shedding (updateUser auth userId input) := by
  refine (shedding_lift _).bind fun _ => (shedding_fetch _).bind fun target => ?_
  split
  · trivial
  split
  · refine (shedding_fetch _).bind fun adminCount => ?_
    split
    · trivial
    · exact shedding_adminUpdateUser userId input
  · exact shedding_adminUpdateUser userId input

theorem shedding_storePassword (userId passwordHash : String) (force : Bool) :
    Shedding (storePassword userId passwordHash force) :=
  shedding_of_preserves (preserves_update (fun _ => rfl))

theorem shedding_changePassword (auth : AuthUser) (authHeader : Option String)
    (input : ChangePasswordRequest) (salt : Nat) :
    Shedding (changePassword crypto auth authHeader input salt) := by
  unfold changePassword
  split
  · trivial
  · exact (shedding_of_preserves (preserves_verifyUserPassword _ _ _)).bind fun _ =>
      (shedding_storePassword _ _ _).bind fun _ => shedding_update (sheds_dropTokens _)

theorem shedding_dropBackupCodes (userId : String) : Shedding (dropBackupCodes userId) :=
  shedding_of_preserves (preserves_update (fun _ => rfl))

theorem shedding_disableTotp (userId : String) : Shedding (disableTotp userId) := by
  have hoff : ∀ f : Server → Server, (∀ s, Stores (f s) = Stores s) →
      Shedding (Handler.update f) := fun f h => shedding_of_preserves (preserves_update h)
  exact (hoff _ (fun _ => rfl)).bind fun _ => shedding_dropBackupCodes userId

theorem shedding_resetUserPassword (auth : AuthUser) (userId newPassword : String) (salt : Nat) :
    Shedding (resetUserPassword crypto auth userId newPassword salt) := by
  refine (shedding_lift _).bind fun _ => ?_
  split
  · trivial
  refine (shedding_fetch _).bind fun target => ?_
  split
  · trivial
  · exact (shedding_storePassword _ _ _).bind fun _ =>
      (shedding_update (sheds_dropTokens _)).bind fun _ => shedding_disableTotp userId

variable (crypto) in
theorem mints_serve (request : Request) :
    (request.serve crypto).Mints (mint crypto) (fun _ _ => True) held := by
  cases request with
  | login input => exact (mints_login input).bind fun _ _ _ => trivial
  | loginMfa input => exact (mints_loginMfa input).bind fun _ _ _ => trivial
  | changePassword auth authHeader input salt =>
    exact (shedding_changePassword auth authHeader input salt).mints.bind fun _ _ _ => trivial
  | revokeAllSessions auth =>
    exact (shedding_update (sheds_dropTokens _)).mints.bind fun _ _ _ => trivial
  | updateUser auth userId input =>
    exact (shedding_updateUser auth userId input).mints.bind fun _ _ _ => trivial
  | resetUserPassword auth userId newPassword salt =>
    exact (shedding_resetUserPassword auth userId newPassword salt).mints.bind
      fun _ _ _ => trivial

def Steady (s t : Server) : Prop :=
  t.app.clock = s.app.clock ∧ ∀ row ∈ t.botTokens, row ∈ s.botTokens

abbrev Steadying {α : Type} (p : Handler α) : Prop :=
  p.Respects (fun _ => True) Steady (fun _ => True)

theorem Shedding.steadying {α : Type} {p : Handler α} (h : Shedding p) : Steadying p :=
  h.weaken (fun _ _ hst => ⟨hst.2.2, fun row hrow => hst.2.1 (.bot row) hrow⟩)

theorem steadying_of_preserves {α : Type} {p : Handler α}
    (h : p.Preserves (fun s => (s.app.clock, s.botTokens))) : Steadying p := by
  refine h.respects (fun _ _ _ _ => trivial) (fun s t _ hview => ?_)
  obtain ⟨hclock, hbots⟩ := Prod.mk.inj hview
  exact ⟨hclock, fun row hrow => hbots ▸ hrow⟩

theorem blind_steady : Blind (fun s => (s.app.clock, s.botTokens)) :=
  { loginFailures := fun _ _ => rfl
    totpAttempts := fun _ _ => rfl
    verified := fun _ _ => rfl
    backupCodes := fun _ _ => rfl
    drawn := fun _ _ => rfl
    userTokens := fun _ _ => rfl
    mfaTickets := fun _ _ => rfl }

variable (crypto) in
theorem steadying_serve (request : Request) : Steadying (request.serve crypto) := by
  cases request with
  | login input =>
    exact (steadying_of_preserves (blind_steady.login input)).bind fun _ _ => trivial
  | loginMfa input =>
    exact (steadying_of_preserves (blind_steady.loginMfa input)).bind fun _ _ => trivial
  | changePassword auth authHeader input salt =>
    exact (shedding_changePassword auth authHeader input salt).steadying.bind fun _ _ => trivial
  | revokeAllSessions auth =>
    exact (shedding_update (sheds_dropTokens _)).steadying.bind fun _ _ => trivial
  | updateUser auth userId input =>
    exact (shedding_updateUser auth userId input).steadying.bind fun _ _ => trivial
  | resetUserPassword auth userId newPassword salt =>
    exact (shedding_resetUserPassword auth userId newPassword salt).steadying.bind
      fun _ _ => trivial

end

end Vokusz.Auth
