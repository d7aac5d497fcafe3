import Vokusz.Lib.Decimal
import Vokusz.Lib.Establish
import Vokusz.Routes.Credentials

namespace Vokusz.Auth

open Lib Db Handler
open Permissions (AuthUser)

section

variable {crypto : Crypto} {user : String} {kept : Option String} {s t : Server}
  {p q : Handler Response}

def Request.Revokes (crypto : Crypto) (user : String) (kept : Option String) : Request → Prop
  | .changePassword auth authHeader _ _ =>
    auth.userId = user ∧ kept = some (currentTokenHash crypto authHeader)
  | .revokeAllSessions auth => auth.userId = user ∧ kept = none
  | .updateUser _ userId input => userId = user ∧ input.revokes = true ∧ kept = none
  | .resetUserPassword _ userId _ _ => userId = user ∧ kept = none
  | _ => False

inductive Closing (user : String) : Handler Response → Prop
  | bots : Closing user (do
      update (dropBotTokens user)
      let u ← fetch (Users.getUser user)
      return .user u)
  | reading : Closing user (do
      let u ← fetch (Users.getUser user)
      return .user u)
  | totp : Closing user (do
      disableTotp user
      return .ok)
  | codes : Closing user (do
      dropBackupCodes user
      return .ok)

def BearersGone (user : String) (kept : Option String) (s : Server) : Prop :=
  ∀ row ∈ s.userTokens, row.userId = user → some row.tokenHash = kept

def BotsGone (user : String) (s : Server) : Prop := ∀ row ∈ s.botTokens, row.userId ≠ user

theorem finished_query {α : Type} {e : AppError} {f : Server → Except AppError α}
    {g : α → Response} (h : Prog.Step (Prog.query e f >>= fun a => pure (g a), s) (q, t)) :
    t = s ∧ q.Finished := by
  cases h with
  | fault => exact ⟨rfl, .inr ⟨e, rfl⟩⟩
  | stmt =>
    refine ⟨rfl, ?_⟩
    change ((Prog.ofExcept (f s)).bind (fun a => pure (g a))).Finished
    cases f s with
    | ok a => exact .inl ⟨g a, rfl⟩
    | error e => exact .inr ⟨e, rfl⟩

theorem closing_step (h : Closing user p) (hstep : Prog.Step (p, s) (q, t)) :
    t.userTokens = s.userTokens ∧ (∀ row ∈ t.botTokens, row ∈ s.botTokens) ∧
      (Closing user q ∨ q.Finished) := by
  cases h with
  | bots =>
    cases hstep with
    | fault => exact ⟨rfl, fun _ h => h, .inr (.inr ⟨_, rfl⟩)⟩
    | stmt => exact ⟨rfl, fun _ h => (List.mem_filter.mp h).1, .inl .reading⟩
  | reading =>
    obtain ⟨rfl, hq⟩ := finished_query hstep
    exact ⟨rfl, fun _ h => h, .inr hq⟩
  | totp =>
    cases hstep with
    | fault => exact ⟨rfl, fun _ h => h, .inr (.inr ⟨_, rfl⟩)⟩
    | stmt => exact ⟨rfl, fun _ h => h, .inl .codes⟩
  | codes =>
    cases hstep with
    | fault => exact ⟨rfl, fun _ h => h, .inr (.inr ⟨_, rfl⟩)⟩
    | stmt => exact ⟨rfl, fun _ h => h, .inr (.inl ⟨_, rfl⟩)⟩

theorem establishes_update {P : Server → Prop} {f : Server → Server} {rest : Handler Response}
    (hP : ∀ s, P (f s)) (hrest : Closing user rest ∨ rest.Finished) :
    (do
      Handler.update f
      rest : Handler Response).Establishes P (Closing user) :=
  ⟨fun s => .inr ⟨hP s, hrest⟩, trivial⟩

theorem bearersGone_dropTokens {p : UserToken → Bool}
    (h : ∀ row, p row = false → row.userId = user → some row.tokenHash = kept) (s : Server) :
    BearersGone user kept (dropTokens p s) := by
  intro row hrow
  have hkept := (List.mem_filter.mp hrow).2
  exact h row (by simpa using hkept)

theorem revokes_not_empty {input : AdminUpdateUser} (h : input.revokes = true) :
    input.isEmpty = false := by
  obtain ⟨isAdmin, disabled, force, username, displayName⟩ := input
  cases disabled with
  | some d => simp [AdminUpdateUser.isEmpty]
  | none =>
    cases force with
    | some f => simp [AdminUpdateUser.isEmpty]
    | none => simp [AdminUpdateUser.revokes] at h

theorem adminUpdateUser_revoking {input : AdminUpdateUser} (h : input.revokes = true)
    (f : User → Handler Response) : (adminUpdateUser user input >>= f) = (do
      setFields user input
      update (dropTokens (fun t => t.userId = user))
      update (dropBotTokens user)
      let u ← fetch (Users.getUser user)
      f u) := by
  unfold adminUpdateUser revokeTokens
  rw [if_neg (by simp [revokes_not_empty h]), if_pos h]
  simp only [bind_assoc]

theorem bearersGone_all (s : Server) :
    BearersGone user none (dropTokens (fun t => t.userId = user) s) :=
  bearersGone_dropTokens (fun row hrow hid => absurd hid (by simpa using hrow)) s

theorem establishes_updateUser {auth : AuthUser} {input : AdminUpdateUser} {P : Server → Prop}
    (h : (adminUpdateUser user input >>= fun u => pure (.user u)).Establishes P (Closing user)) :
    ((Request.updateUser auth user input).serve crypto).Establishes P (Closing user) := by
  change ((updateUser auth user input) >>= fun u => pure (.user u)).Establishes P (Closing user)
  unfold updateUser
  simp only [bind_assoc]
  refine Prog.establishes_bind (fun _ => Prog.establishes_bind (fun target => ?_) _) _
  split
  · trivial
  split
  · rw [bind_assoc]
    refine Prog.establishes_bind (fun adminCount => ?_) _
    split
    · trivial
    · exact h
  · exact h

theorem establishes_bearersGone {request : Request} (h : request.Revokes crypto user kept) :
    (request.serve crypto).Establishes (BearersGone user kept) (Closing user) := by
  cases request with
  | login input => exact h.elim
  | loginMfa input => exact h.elim
  | changePassword auth authHeader input salt =>
    obtain ⟨rfl, rfl⟩ := h
    change (changePassword crypto auth authHeader input salt >>= fun _ =>
      pure Response.ok).Establishes _ _
    unfold changePassword
    split
    · trivial
    simp only [bind_assoc]
    refine Prog.establishes_bind (fun _ => Prog.establishes_bind (fun _ => ?_) _) _
    refine establishes_update (bearersGone_dropTokens (fun row hrow hid => ?_))
      (.inr (.inl ⟨_, rfl⟩))
    simpa [hid] using hrow
  | revokeAllSessions auth =>
    obtain ⟨rfl, rfl⟩ := h
    exact establishes_update bearersGone_all (.inr (.inl ⟨_, rfl⟩))
  | updateUser auth userId input =>
    obtain ⟨rfl, hrevokes, rfl⟩ := h
    refine establishes_updateUser ?_
    rw [adminUpdateUser_revoking hrevokes]
    exact Prog.establishes_bind (fun _ => establishes_update bearersGone_all (.inl .bots)) _
  | resetUserPassword auth userId newPassword salt =>
    obtain ⟨rfl, rfl⟩ := h
    change (resetUserPassword crypto auth userId newPassword salt >>= fun _ =>
      pure Response.ok).Establishes _ _
    unfold resetUserPassword
    simp only [bind_assoc]
    refine Prog.establishes_bind (fun _ => ?_) _
    split
    · trivial
    rw [bind_assoc]
    refine Prog.establishes_bind (fun target => ?_) _
    split
    · trivial
    simp only [bind_assoc]
    refine Prog.establishes_bind (fun _ => ?_) _
    exact establishes_update bearersGone_all (.inl .totp)

theorem establishes_botsGone {auth : AuthUser} {input : AdminUpdateUser}
    (h : input.revokes = true) :
    ((Request.updateUser auth user input).serve crypto).Establishes (BotsGone user)
      (Closing user) := by
  refine establishes_updateUser ?_
  rw [adminUpdateUser_revoking h]
  refine Prog.establishes_bind (fun _ => Prog.establishes_bind (fun _ => ?_) _) _
  refine establishes_update (fun s row hrow => ?_) (.inl .reading)
  simpa using (List.mem_filter.mp hrow).2

variable (crypto) in
theorem shedding_revocation {request : Request} (h : request.Revokes crypto user kept) :
    Shedding (request.serve crypto) := by
  cases request with
  | login input => exact h.elim
  | loginMfa input => exact h.elim
  | changePassword auth authHeader input salt =>
    exact (shedding_changePassword auth authHeader input salt).bind fun _ => trivial
  | revokeAllSessions auth =>
    exact (shedding_update (sheds_dropTokens _)).bind fun _ => trivial
  | updateUser auth userId input => exact (shedding_updateUser auth userId input).bind fun _ => trivial
  | resetUserPassword auth userId newPassword salt =>
    exact (shedding_resetUserPassword auth userId newPassword salt).bind fun _ => trivial

end

section

variable {crypto : Crypto} {user : String} {input : MfaLoginRequest} {s t : Server}
  {p q : Handler Response} {now now' : Nat}

def redemption (crypto : Crypto) (input : MfaLoginRequest) (ticket : MfaTicket) :
    Handler Response := redeem crypto input (some ticket) >>= fun r => pure (.session r)

def Redeems (crypto : Crypto) (user : String) (p : Handler Response) : Prop :=
  ¬ p.Finished ∧ ∃ input ticket, ticket.userId = user ∧
    Prog.Leaves (redemption crypto input ticket) p

def NotFor (user : String) (r : Response) : Prop :=
  ∀ response, r = .session response → response.user.id ≠ user

theorem keeps_redemption (ticket : MfaTicket) (h : ticket.userId ≠ user) :
    (redemption crypto input ticket).Keeps (fun _ => True) (NotFor user) := by
  have hfinish : (finishMfa crypto ticket.userId).Keeps (fun _ => True)
      (fun r => r.user.id = ticket.userId) := keeps_finishMfa crypto ticket.userId
  have hredeem : (redeem crypto input (some ticket)).Keeps (fun _ => True)
      (fun r => r.user.id = ticket.userId) := by
    refine (Prog.keeps_true _).bind fun now _ => ?_
    split
    · trivial
    refine (Prog.keeps_true _).bind fun _ _ => ?_
    dsimp only
    split
    · exact (Prog.keeps_true _).bind fun _ _ => hfinish
    · exact (Prog.keeps_true _).bind fun _ _ => hfinish
  refine hredeem.bind fun r hr response heq => ?_
  cases heq
  rw [hr]
  exact h

theorem step_loginMfa
    (hstep : Prog.Step ((Request.loginMfa input).serve crypto, s) (q, t)) :
    t.app.clock = s.app.clock ∧ ((∃ e, q = .fail e) ∨
      ∃ ticket ∈ s.mfaTickets, ticket.ticketHash = crypto.hashToken input.ticket ∧
        q = redemption crypto input ticket) := by
  change Prog.Step (loginMfa crypto input >>= fun r => pure (Response.session r), s) (q, t) at hstep
  rw [loginMfa_eq, bind_assoc] at hstep
  cases hstep
  refine ⟨rfl, ?_⟩
  dsimp only
  cases hfound : Table.lookup MfaTicket.ticketHash (crypto.hashToken input.ticket)
      s.mfaTickets with
  | none => exact .inl ⟨_, rfl⟩
  | some ticket =>
    exact .inr ⟨ticket, Table.lookup_mem hfound, Table.lookup_key hfound, rfl⟩

inductive Presenting (crypto : Crypto) (input : MfaLoginRequest) : Handler Response → Prop
  | start : Presenting crypto input ((Request.loginMfa input).serve crypto)
  | taken (ticket p) (h : Prog.Leaves (redemption crypto input ticket) p) :
      Presenting crypto input p
  | refused (e) : Presenting crypto input (.fail e)

theorem Presenting.step (h : Presenting crypto input p) (hstep : Prog.Step (p, s) (q, t)) :
    Presenting crypto input q := by
  cases h with
  | start =>
    obtain ⟨-, ⟨e, rfl⟩ | ⟨ticket, -, -, rfl⟩⟩ := step_loginMfa hstep
    · exact .refused e
    · exact .taken ticket _ .refl
  | taken ticket p h => exact .taken ticket q (h.tail ⟨s, t, hstep⟩)
  | refused e => cases hstep

inductive Late (crypto : Crypto) (user : String) (input : MfaLoginRequest) (now : Nat) :
    Handler Response → Prop
  | start : Late crypto user input now ((Request.loginMfa input).serve crypto)
  | stale (ticket) (h : ticket.expiresAt < now) :
      Late crypto user input now (redemption crypto input ticket)
  | other (rest) (h : rest.Keeps (fun _ => True) (NotFor user)) : Late crypto user input now rest

theorem Late.mono (h : Late crypto user input now p) (hle : now ≤ now') :
    Late crypto user input now' p := by
  cases h with
  | start => exact .start
  | stale ticket h => exact .stale ticket (h.trans_le hle)
  | other p h => exact .other p h

theorem Late.step (h : Late crypto user input s.app.clock p)
    (hover : ∀ row ∈ s.mfaTickets, row.ticketHash = crypto.hashToken input.ticket →
      row.userId = user → row.expiresAt < s.app.clock)
    (hstep : Prog.Step (p, s) (q, t)) : Late crypto user input s.app.clock q := by
  cases h with
  | start =>
    obtain ⟨-, ⟨e, rfl⟩ | ⟨ticket, hmem, hhash, rfl⟩⟩ := step_loginMfa hstep
    · exact .other _ trivial
    · by_cases huser : ticket.userId = user
      · exact .stale ticket (hover ticket hmem hhash huser)
      · exact .other _ (keeps_redemption ticket huser)
  | stale ticket h =>
    cases hstep
    refine .other _ ?_
    dsimp only [Prog.bind]
    rw [if_pos h]
    trivial
  | other p h => exact .other q (h.step trivial hstep).2

theorem Late.result (h : Late crypto user input now p) {response : LoginResponse}
    (hp : p = .ret (.session response)) : response.user.id ≠ user := by
  cases h with
  | start => cases hp
  | stale ticket h => cases hp
  | other p h =>
    rw [hp] at h
    exact h response rfl

end

section

abbrev Serving (ι : Type) := Crowd ι Server AppError Response

structure OtherRequests (crypto : Crypto) (user : String) (s t : Server) : Prop where
  clock : s.app.clock ≤ t.app.clock
  issues : (mint crypto).Sheds s t ∨
    (t.drawn = s.drawn + 1 ∧ ∃ c : Credential, c.hash = (mint crypto).name s.drawn ∧
      c.userId ≠ user ∧ ∀ c', Issued t c' → Issued s c' ∨ c' = c)

variable {ι : Type} [DecidableEq ι] {crypto : Crypto} {user : String} {kept : Option String}
  {requests : ι → Request} {s t : Server} {i j : ι} {a x d : Serving ι}

def serving (crypto : Crypto) (requests : ι → Request) (s : Server) : Serving ι :=
  { state := s, threads := fun i => (requests i).serve crypto }

def NoneBetween (user : String) (x : Serving ι) (i : ι) (t : Server) : Prop :=
  (∃ j, j ≠ i ∧ Closing user (x.threads j)) →
    ∀ row ∈ t.userTokens, row.userId = user → row ∈ x.state.userTokens

structure NoTicket (crypto : Crypto) (user : String) (x : Serving ι) : Prop where
  tickets : ∀ row ∈ x.state.mfaTickets, row.userId = user → row.expiresAt < x.state.app.clock
  redeems : ∀ j, ¬ Redeems crypto user (x.threads j)

structure Revoked (crypto : Crypto) (requests : ι → Request) (user : String)
    (kept : Option String) (a x d : Serving ι) : Prop where
  bearer : ∀ row ∈ a.state.userTokens, row.userId = user → some row.tokenHash ≠ kept →
    resolveBearerHash row.tokenHash d.state = none
  session : ∀ token session, resolveToken crypto token a.state = some session →
    session.userId = user → session.isGuest = false →
    (session.isBot = true ∨ some session.tokenHash ≠ kept) →
    session.continues d.state = false ∧
      ∀ token' s, resumeParked crypto token' session s d.state = none
  ticket : ∀ j input response, requests j = .loginMfa input → ¬ (x.threads j).Finished →
    d.threads j = .ret (.session response) → response.user.id = user →
    ∀ c, Issued a.state c → c.hash ≠ crypto.hashToken input.ticket

abbrev Served (crypto : Crypto) (user : String) : Serving ι → Serving ι → Prop :=
  Crowd.RunWhere (OtherRequests crypto user) (NoneBetween user)

theorem OtherRequests.outside (h : OtherRequests crypto user s t) : (mint crypto).Outside s t := by
  rcases h.issues with hsheds | ⟨hdrawn, c, hname, -, hnew⟩
  · exact .inl hsheds
  · exact .inr ⟨hdrawn, c, hname, hnew⟩

theorem OtherRequests.mine (h : OtherRequests crypto user s t) {c : Credential}
    (hc : Issued t c) (huser : c.userId = user) : Issued s c := by
  rcases h.issues with hsheds | ⟨-, c', -, hne, hnew⟩
  · exact hsheds.2 c hc
  · rcases hnew c hc with hold | rfl
    · exact hold
    · exact absurd huser hne

theorem steady_refl (s : Server) : Steady s s := ⟨rfl, fun _ h => h⟩

theorem sheds_refl (s : Server) : Sheds s s := ⟨rfl, fun _ h => h, rfl⟩

omit [DecidableEq ι] in
theorem ledger_serving
    (hfresh : ∀ c n, Issued s c → c.hash = crypto.hashToken (crypto.token n) → n < s.drawn)
    (hunique : ∀ c c', Issued s c → Issued s c' → c.hash = c'.hash → c = c') :
    Ledger (mint crypto) (fun _ => ∅) (serving crypto requests s) where
  mints := fun i => mints_serve crypto (requests i)
  numbered :=
    { below := fun _ _ h => h.elim
      apart := fun _ _ _ h => h.elim
      unique := hunique
      spent := fun c hc k hk => ⟨hfresh c k hc hk.symm, fun _ h => h⟩ }

theorem bearersGone_done (hrevokes : (requests i).Revokes crypto user kept)
    (hrun : Served crypto user (serving crypto requests s) x) {response : Response}
    (hdone : Prog.Step (x.threads i, x.state) (.ret response, t)) : BearersGone user kept t := by
  have hown : ∀ {p q : Handler Response} {s t : Server}, Closing user p →
      BearersGone user kept s → Prog.Step (p, s) (q, t) →
      BearersGone user kept t ∧ (Closing user q ∨ q.Finished) := by
    intro p q s t hclosing hgone hstep
    obtain ⟨htokens, -, hq⟩ := closing_step hclosing hstep
    exact ⟨fun row hrow => hgone row (htokens ▸ hrow), hq⟩
  refine Crowd.towards_completes hown (Crowd.towards_run hown ?_ ?_
    (.inl (establishes_bearersGone hrevokes)) hrun) hdone
  · intro x j q t _ hj hclosing hgone _ hnone row hrow huser
    exact hgone row (hnone ⟨i, fun h => hj h.symm, hclosing⟩ row hrow huser) huser
  · intro s t henv hgone row hrow huser
    exact hgone row (henv.mine (c := .bearer row) hrow huser) huser

theorem botsGone_done {auth : AuthUser} {input : AdminUpdateUser}
    (hrequest : requests i = .updateUser auth user input) (hrevokes : input.revokes = true)
    (hrun : Served crypto user (serving crypto requests s) x) {response : Response}
    (hdone : Prog.Step (x.threads i, x.state) (.ret response, t)) : BotsGone user t := by
  have hown : ∀ {p q : Handler Response} {s t : Server}, Closing user p →
      BotsGone user s → Prog.Step (p, s) (q, t) →
      BotsGone user t ∧ (Closing user q ∨ q.Finished) := by
    intro p q s t hclosing hgone hstep
    obtain ⟨-, hbots, hq⟩ := closing_step hclosing hstep
    exact ⟨fun row hrow => hgone row (hbots row hrow), hq⟩
  have hstart : ((serving crypto requests s).threads i).Establishes (BotsGone user)
      (Closing user) := by
    change ((requests i).serve crypto).Establishes (BotsGone user) (Closing user)
    rw [hrequest]
    exact establishes_botsGone hrevokes
  refine Crowd.towards_completes hown (Crowd.towards_run hown ?_ ?_ (.inl hstart) hrun) hdone
  · intro x j q t hpast _ _ hgone hstep _ row hrow
    have hsteady : Steadying (x.threads j) :=
      Crowd.respects_run steady_refl (steadying_serve crypto (requests j)) hpast
    exact hgone row ((hsteady.step steady_refl trivial hstep).2.1.2 row hrow)
  · intro s t henv hgone row hrow huser
    exact hgone row (henv.mine (c := .bot row) hrow huser) huser

theorem clock_run {allowed : Serving ι → ι → Server → Prop}
    (hsteady : ∀ j, Steadying (x.threads j))
    (hrun : Crowd.RunWhere (OtherRequests crypto user) allowed x d) :
    x.state.app.clock ≤ d.state.app.clock := by
  induction hrun with
  | refl => exact le_refl _
  | @tail y _ hpast hstep ih =>
    cases hstep with
    | outside t ht => exact ih.trans ht.clock
    | moves j p t hmove _ =>
      have hy : Steadying (y.threads j) := Crowd.respects_run steady_refl (hsteady j) hpast
      exact ih.trans (le_of_eq (hy.step steady_refl trivial hmove).2.1.1.symm)

theorem presenting_run {input : MfaLoginRequest} (hrequest : requests j = .loginMfa input)
    (hrun : Served crypto user (serving crypto requests s) x) :
    Presenting crypto input (x.threads j) := by
  induction hrun with
  | refl =>
    change Presenting crypto input ((requests j).serve crypto)
    rw [hrequest]
    exact .start
  | @tail y _ _ hstep ih =>
    cases hstep with
    | outside t ht => exact ih
    | moves k p t hmove _ =>
      change Presenting crypto input (Function.update y.threads k p j)
      by_cases hjk : j = k
      · subst hjk
        rw [Function.update_self]
        exact ih.step hmove
      · rw [Function.update_of_ne hjk]
        exact ih

omit [DecidableEq ι] in
theorem late_of_presenting {input : MfaLoginRequest} {now : Nat}
    (h : Presenting crypto input (x.threads j)) (hunfinished : ¬ (x.threads j).Finished)
    (hclear : NoTicket crypto user x) : Late crypto user input now (x.threads j) := by
  generalize hp : x.threads j = p at h hunfinished
  cases h with
  | start => exact .start
  | taken ticket _ hleaves =>
    by_cases huser : ticket.userId = user
    · refine absurd ⟨?_, input, ticket, huser, ?_⟩ (hclear.redeems j)
      · rw [hp]
        exact hunfinished
      · rw [hp]
        exact hleaves
    · exact .other _ (hleaves.keeps (keeps_redemption ticket huser))
  | refused e => exact absurd (.inr ⟨e, rfl⟩) hunfinished

theorem late_run {input : MfaLoginRequest} {held : ι → Set Nat}
    {allowed : Serving ι → ι → Server → Prop}
    (hinj : Function.Injective (mint crypto).name) (hledger : Ledger (mint crypto) held x)
    (hspent : Spent (mint crypto) held x.state (crypto.hashToken input.ticket))
    (hover : ∀ row ∈ x.state.mfaTickets, row.userId = user → row.expiresAt < x.state.app.clock)
    (hsteady : ∀ k, Steadying (x.threads k))
    (hlate : Late crypto user input x.state.app.clock (x.threads j))
    (hrun : Crowd.RunWhere (OtherRequests crypto user) allowed x d) :
    Late crypto user input d.state.app.clock (d.threads j) := by
  induction hrun with
  | refl => exact hlate
  | @tail y _ hpast hstep ih =>
    cases hstep with
    | outside t ht => exact ih.mono ht.clock
    | moves k p t hmove _ =>
      have hk : Steadying (y.threads k) := Crowd.respects_run steady_refl (hsteady k) hpast
      have hclock : t.app.clock = y.state.app.clock :=
        (hk.step steady_refl trivial hmove).2.1.1
      change Late crypto user input t.app.clock (Function.update y.threads k p j)
      rw [hclock]
      by_cases hjk : j = k
      · subst hjk
        rw [Function.update_self]
        refine ih.step (fun row hrow hhash huser => ?_) hmove
        obtain ⟨_, _, haged⟩ := hledger.run hinj (fun _ _ h => h.outside) hpast
        have hold : Issued x.state (.ticket row) := by
          refine haged.present (.ticket row) ?_ hrow
          change Spent (mint crypto) held x.state row.ticketHash
          rw [hhash]
          exact hspent
        exact (hover row hold huser).trans_le (clock_run hsteady hpast)
      · rw [Function.update_of_ne hjk]
        exact ih

end

section

variable {crypto : Crypto} {user : String} {kept : Option String} {s t : Server}

theorem row_of_bearer {tokenHash : String} {auth : AuthUser}
    (h : resolveBearerHash tokenHash s = some auth) :
    ∃ row ∈ s.userTokens, row.tokenHash = tokenHash ∧ row.userId = auth.userId ∧
      auth.isBot = false ∧ auth.isGuest = false := by
  unfold resolveBearerHash at h
  split at h
  · cases h
  rename_i row hrow
  split at h
  · cases h
  split at h
  · cases h
  split at h
  · cases h
  cases h
  exact ⟨row, Table.lookup_mem hrow, Table.lookup_key hrow, rfl, rfl, rfl⟩

theorem row_of_bot {tokenHash : String} {auth : AuthUser}
    (h : resolveBotHash tokenHash s = some auth) :
    ∃ row ∈ s.botTokens, row.tokenHash = tokenHash ∧ row.userId = auth.userId ∧
      auth.isBot = true := by
  unfold resolveBotHash at h
  split at h
  · cases h
  rename_i row hrow
  split at h
  · cases h
  split at h
  · cases h
  cases h
  exact ⟨row, Table.lookup_mem hrow, Table.lookup_key hrow, rfl, rfl⟩

theorem guest_of_guestHash {tokenHash : String} {auth : AuthUser}
    (h : resolveGuestHash tokenHash s = some auth) : auth.isGuest = true := by
  unfold resolveGuestHash at h
  split at h
  · cases h
  split at h
  · cases h
  split at h
  · cases h
  split at h
  · cases h
  cases h
  rfl

theorem credential_of_session {token : String} {session : ResolvedAuth}
    (h : resolveToken crypto token s = some session) (hguest : session.isGuest = false) :
    (session.isBot = true ∧ ∃ row ∈ s.botTokens,
      row.tokenHash = session.tokenHash ∧ row.userId = session.userId) ∨
    (session.isBot = false ∧ ∃ row ∈ s.userTokens,
      row.tokenHash = session.tokenHash ∧ row.userId = session.userId) := by
  unfold resolveToken at h
  split at h
  · cases h
  split at h
  · rename_i raw _
    obtain ⟨auth, hauth, rfl⟩ := Option.map_eq_some_iff.mp h
    obtain ⟨row, hrow, hhash, huser, hbot⟩ := row_of_bot hauth
    exact .inl ⟨hbot, row, hrow, hhash, huser⟩
  · split at h
    · cases h
    rename_i raw _
    dsimp only at h
    split at h
    · rename_i auth hauth
      cases h
      obtain ⟨row, hrow, hhash, huser, hbot, -⟩ := row_of_bearer hauth
      exact .inr ⟨hbot, row, hrow, hhash, huser⟩
    · obtain ⟨auth, hauth, rfl⟩ := Option.map_eq_some_iff.mp h
      exact absurd (guest_of_guestHash hauth) (by rw [show auth.isGuest = false from hguest]; decide)

structure Cleared (user : String) (kept : Option String) (s : Server) : Prop where
  bearers : BearersGone user kept s
  bots : BotsGone user s
  tickets : ∀ row ∈ s.mfaTickets, row.userId = user → row.expiresAt < s.app.clock

variable {ι : Type} [DecidableEq ι] {requests : ι → Request} {i : ι} {a x d : Serving ι}

theorem cleared_done (hrevokes : (requests i).Revokes crypto user kept)
    (hrun : Served crypto user (serving crypto requests s) x) {response : Response}
    (hdone : Prog.Step (x.threads i, x.state) (.ret response, t)) (hclear : NoTicket crypto user x)
    (hbots : BotsGone user x.state ∨ ∃ auth input, requests i = .updateUser auth user input) :
    Cleared user kept t := by
  have hshedding : Shedding (x.threads i) :=
    Crowd.respects_run sheds_refl (shedding_revocation crypto hrevokes) hrun
  obtain ⟨-, hissued, hclock⟩ := (hshedding.step sheds_refl trivial hdone).2.1
  refine ⟨bearersGone_done hrevokes hrun hdone, ?_, fun row hrow huser => ?_⟩
  · rcases hbots with hnone | ⟨auth, input, hrequest⟩
    · exact fun row hrow => hnone row (hissued (.bot row) hrow)
    · rw [hrequest] at hrevokes
      exact botsGone_done hrequest hrevokes.2.1 hrun hdone
  · rw [hclock]
    exact hclear.tickets row (hissued (.ticket row) hrow) huser

theorem credential_persists {held heldt : ι → Set Nat} {y : Serving ι}
    (hinj : Function.Injective (mint crypto).name) (hledger : Ledger (mint crypto) held a)
    (haged : Aged (mint crypto) held a.state heldt y.state)
    (hledgery : Ledger (mint crypto) heldt y)
    (hafter : Crowd.Run (OtherRequests crypto user) y d) {c c' : Credential}
    (hc : Issued a.state c) (hc' : Issued d.state c') (hhash : c'.hash = c.hash) :
    Issued y.state c ∧ c' = c := by
  have hthen : Spent (mint crypto) held a.state c'.hash := by
    rw [hhash]
    exact hledger.numbered.spent c hc
  obtain ⟨_, _, hagedd⟩ := hledgery.run hinj (fun _ _ h => h.outside) hafter
  have hmid : Issued y.state c' := hagedd.present c' (haged.spent _ hthen) hc'
  have hold : Issued a.state c' := haged.present c' hthen hmid
  obtain rfl := hledger.numbered.unique c' c hold hc hhash
  exact ⟨hmid, rfl⟩

theorem session_over {s t : Server} {token : String} {session : ResolvedAuth}
    (hbearer : ∀ row ∈ s.userTokens, row.userId = user → some row.tokenHash ≠ kept →
      resolveBearerHash row.tokenHash t = none)
    (hbot : ∀ row ∈ s.botTokens, row.userId = user → resolveBotHash row.tokenHash t = none)
    (htoken : resolveToken crypto token s = some session) (huser : session.userId = user)
    (hguest : session.isGuest = false)
    (hkept : session.isBot = true ∨ some session.tokenHash ≠ kept) :
    session.continues t = false := by
  unfold ResolvedAuth.continues resolveHash
  rcases credential_of_session htoken hguest with
    ⟨hisBot, row, hrow, hhash, hid⟩ | ⟨hisBot, row, hrow, hhash, hid⟩
  · rw [if_pos hisBot, ← hhash, hbot row hrow (hid.trans huser)]
    rfl
  · have hnotKept : some row.tokenHash ≠ kept := by
      rcases hkept with hbot' | hkept
      · rw [hisBot] at hbot'
        cases hbot'
      · rw [hhash]
        exact hkept
    rw [hisBot, hguest, if_neg Bool.false_ne_true, if_neg Bool.false_ne_true, ← hhash,
      hbearer row hrow (hid.trans huser) hnotKept]
    rfl

theorem resumeParked_over {token : String} {session : ResolvedAuth} {s t : Server}
    (h : session.continues t = false) : resumeParked crypto token session s t = none := by
  unfold resumeParked
  split
  · rfl
  · split
    · rfl
    · rw [h, if_neg Bool.false_ne_true]

theorem steadying_done {response : Response}
    (hrun : Served crypto user (serving crypto requests s) x) (k : ι) :
    Steadying (Function.update x.threads i (.ret response) k) := by
  by_cases hki : k = i
  · subst hki
    rw [Function.update_self]
    trivial
  · rw [Function.update_of_ne hki]
    exact Crowd.respects_run steady_refl (steadying_serve crypto (requests k)) hrun

theorem revocation_complete
    (hinj : Function.Injective (fun n => crypto.hashToken (crypto.token n)))
    (hfresh : ∀ c n, Issued s c → c.hash = crypto.hashToken (crypto.token n) → n < s.drawn)
    (hunique : ∀ c c', Issued s c → Issued s c' → c.hash = c'.hash → c = c')
    (hrevokes : (requests i).Revokes crypto user kept)
    (hpast : Served crypto user (serving crypto requests s) a) (hrun : Served crypto user a x)
    {response : Response} (hdone : Prog.Step (x.threads i, x.state) (.ret response, t))
    (hclear : NoTicket crypto user x)
    (hbots : BotsGone user x.state ∨ ∃ auth input, requests i = .updateUser auth user input)
    (hafter : Crowd.Run (OtherRequests crypto user)
      { state := t, threads := Function.update x.threads i (.ret response) } d) :
    Revoked crypto requests user kept a x d := by
  have hoffers : ∀ s t, OtherRequests crypto user s t → (mint crypto).Outside s t :=
    fun _ _ h => h.outside
  have hcleared := cleared_done hrevokes (hpast.trans hrun) hdone hclear hbots
  obtain ⟨held, hledger, -⟩ := (ledger_serving hfresh hunique).run hinj hoffers hpast
  obtain ⟨heldx, hledgerx, hagedx⟩ := hledger.run hinj hoffers hrun
  obtain ⟨heldt, hledgert, hagedt⟩ := hledgerx.moves hinj hdone
  have haged : Aged (mint crypto) held a.state heldt t := hagedx.trans hagedt
  have hbearer : ∀ row ∈ a.state.userTokens, row.userId = user →
      some row.tokenHash ≠ kept → resolveBearerHash row.tokenHash d.state = none := by
    intro row hrow huser hkept
    cases hresolved : resolveBearerHash row.tokenHash d.state with
    | none => rfl
    | some auth =>
      obtain ⟨row', hrow', hhash, -⟩ := row_of_bearer hresolved
      have hmid : Issued t (.bearer row) ∧ Credential.bearer row' = .bearer row :=
        credential_persists hinj hledger haged hledgert hafter hrow hrow' hhash
      exact absurd (hcleared.bearers row hmid.1 huser) hkept
  have hbot : ∀ row ∈ a.state.botTokens, row.userId = user →
      resolveBotHash row.tokenHash d.state = none := by
    intro row hrow huser
    cases hresolved : resolveBotHash row.tokenHash d.state with
    | none => rfl
    | some auth =>
      obtain ⟨row', hrow', hhash, -⟩ := row_of_bot hresolved
      have hmid : Issued t (.bot row) ∧ Credential.bot row' = .bot row :=
        credential_persists hinj hledger haged hledgert hafter hrow hrow' hhash
      exact absurd huser (hcleared.bots row hmid.1)
  refine ⟨hbearer, fun token session htoken huser hguest hkept => ?_, ?_⟩
  · have hover := session_over hbearer hbot htoken huser hguest hkept
    exact ⟨hover, fun _ _ => resumeParked_over hover⟩
  · intro j input result hrequest hunfinished hresult hfor c hc hhash
    have hj : j ≠ i := by
      rintro rfl
      rw [hrequest] at hrevokes
      exact hrevokes
    have hlate : Late crypto user input t.app.clock
        (Function.update x.threads i (.ret response) j) := by
      rw [Function.update_of_ne hj]
      exact late_of_presenting (presenting_run hrequest (hpast.trans hrun)) hunfinished hclear
    have hspent : Spent (mint crypto) heldt t (crypto.hashToken input.ticket) := by
      rw [← hhash]
      exact haged.spent _ (hledger.numbered.spent c hc)
    exact (late_run hinj hledgert hspent hcleared.tickets (steadying_done (hpast.trans hrun))
      hlate hafter).result hresult hfor

end

theorem plain_injective :
    Function.Injective (fun n => Crypto.plain.hashToken (Crypto.plain.token n)) := by
  intro m n h
  have hdigits : "token " ++ toString m = "token " ++ toString n := h
  have hlists := congrArg String.toList hdigits
  rw [String.toList_append, String.toList_append] at hlists
  exact Decimal.toString_injective (String.toList_injective (List.append_cancel_left hlists))

def signedIn : Server :=
  { app :=
      { db := { users := [{ id := "1", username := "ann" }] }
        ext := Externals.fixed "2025-01-01 00:00:00" }
    credentials := [{ userId := "1", passwordHash := some "secret" }]
    userTokens := [{ tokenHash := "old", userId := "1", expiresAt := 1000, createdAt := 0 }] }

theorem issued_signedIn {c : Credential} (h : Issued signedIn c) :
    c = .bearer { tokenHash := "old", userId := "1", expiresAt := 1000, createdAt := 0 } := by
  cases c with
  | bearer row => exact congrArg Credential.bearer (List.mem_singleton.mp h)
  | bot row => cases h
  | ticket row => cases h

theorem results_redemption (crypto : Crypto) (input : MfaLoginRequest) (ticket : MfaTicket) :
    (redemption crypto input ticket).Keeps (fun _ => True)
      (fun r => ∃ response, r = .session response) :=
  (Prog.keeps_true _).bind fun response _ => ⟨response, rfl⟩

def revokingAll : Unit → Request := fun _ => .revokeAllSessions { userId := "1" }

theorem signedIn_revoked :
    ∃ d : Serving Unit, (resolveBearerHash "old" signedIn).isSome = true ∧
      resolveBearerHash "old" d.state = none ∧
      Revoked Crypto.plain revokingAll "1" none (serving Crypto.plain revokingAll signedIn)
        (serving Crypto.plain revokingAll signedIn) d := by
  have hfresh : ∀ c n, Issued signedIn c →
      c.hash = Crypto.plain.hashToken (Crypto.plain.token n) → n < signedIn.drawn := by
    intro c n hc hhash
    rw [issued_signedIn hc] at hhash
    have hlength := congrArg String.length hhash
    change 3 = ("token " ++ toString n).length at hlength
    rw [String.length_append] at hlength
    change 3 = 6 + (toString n).length at hlength
    omega
  have hunique : ∀ c c', Issued signedIn c → Issued signedIn c' → c.hash = c'.hash → c = c' :=
    fun c c' hc hc' _ => (issued_signedIn hc).trans (issued_signedIn hc').symm
  have hclear : NoTicket Crypto.plain "1" (serving Crypto.plain revokingAll signedIn) := by
    refine ⟨fun row hrow => absurd hrow List.not_mem_nil, ?_⟩
    rintro j ⟨-, input, ticket, -, hleaves⟩
    obtain ⟨response, h⟩ :=
      ((hleaves.keeps (results_redemption Crypto.plain input ticket)).1 signedIn trivial).2
    cases h
  have hrevoked : Revoked Crypto.plain revokingAll "1" none
      (serving Crypto.plain revokingAll signedIn) (serving Crypto.plain revokingAll signedIn) _ :=
    revocation_complete plain_injective hfresh hunique (i := ()) ⟨rfl, rfl⟩ .refl .refl
      (.stmt _ _ _ _) hclear (.inl (fun row hrow => absurd hrow List.not_mem_nil)) .refl
  exact ⟨_, by decide +kernel, hrevoked.bearer _ List.mem_cons_self rfl (by simp), hrevoked⟩

def twoFactor : Server :=
  { signedIn with
    credentials :=
      [{ userId := "1"
         passwordHash := some "secret"
         totpEnabled := true
         totpSecret := some "x" }]
    backupCodes := [{ id := 1, userId := "1", codeHash := "ABCD2345" }] }

def firstStep : Request := .login { username := "ann", password := "secret" }

def secondStep : Request := .loginMfa { ticket := "token 0", code := "ABCD2345" }

def threeRequests : Fin 3 → Request
  | 0 => firstStep
  | 1 => .revokeAllSessions { userId := "1" }
  | 2 => secondStep

def ticketed : Server := ((firstStep.serve Crypto.plain).exec twoFactor).2

def allRevoked : Server := dropTokens (fun t => t.userId = "1") ticketed

def signsIn (user : String) : Except AppError Response × Server → Bool
  | (.ok (.session r), s) => r.user.id = user && (resolveBearerHash r.token s).isSome
  | _ => false

theorem signsIn_cases {answer : Except AppError Response × Server} {user : String}
    (h : signsIn user answer = true) :
    ∃ session s, answer = (.ok (.session session), s) ∧ session.user.id = user ∧
      (resolveBearerHash session.token s).isSome = true := by
  obtain ⟨result, s⟩ := answer
  unfold signsIn at h
  split at h
  · rename_i r _ heq
    cases heq
    simp only [Bool.and_eq_true, decide_eq_true_eq] at h
    exact ⟨r, s, rfl, h.1, h.2⟩
  · cases h

theorem twoFactor_ticket_survives :
    ∃ (a d : Serving (Fin 3)) (response : Response) (t : Server) (session : LoginResponse),
      Crowd.Run (OtherRequests Crypto.plain "1")
        (serving Crypto.plain threeRequests twoFactor) a ∧
      (threeRequests 1).Revokes Crypto.plain "1" none ∧
      Prog.Step (a.threads 1, a.state) (.ret response, t) ∧
      Crowd.Run (OtherRequests Crypto.plain "1")
        { state := t, threads := Function.update a.threads 1 (.ret response) } d ∧
      (∃ row ∈ a.state.mfaTickets, row.userId = "1" ∧ row.ticketHash = "token 0") ∧
      d.threads 2 = .ret (.session session) ∧ session.user.id = "1" ∧
      (resolveBearerHash session.token d.state).isSome = true ∧
      ¬ Revoked Crypto.plain threeRequests "1" none a a d := by
  obtain ⟨r, s, hlogin⟩ : (firstStep.serve Crypto.plain).Succeeds twoFactor := by decide +kernel
  obtain rfl : ticketed = s := by
    unfold ticketed
    rw [hlogin]
  obtain ⟨session, u, hmfa, huser, hresolves⟩ := signsIn_cases
    (show signsIn "1" ((secondStep.serve Crypto.plain).exec allRevoked) = true by decide +kernel)
  have hticket : ∃ row ∈ ticketed.mfaTickets, row.userId = "1" ∧ row.ticketHash = "token 0" := by
    decide +kernel
  let start : Serving (Fin 3) := serving Crypto.plain threeRequests twoFactor
  let afterLogin : Serving (Fin 3) :=
    { state := ticketed, threads := Function.update start.threads 0 (.ret r) }
  let afterRevocation : Serving (Fin 3) :=
    { state := allRevoked, threads := Function.update afterLogin.threads 1 (.ret .ok) }
  have hfirst : Crowd.Run (OtherRequests Crypto.plain "1") start afterLogin :=
    Crowd.run_alone hlogin
  have hrevoked : Prog.Step (afterLogin.threads 1, afterLogin.state) (.ret .ok, allRevoked) :=
    .stmt _ _ _ _
  have hsecond : Crowd.Run (OtherRequests Crypto.plain "1") afterRevocation
      { state := u, threads := Function.update afterRevocation.threads 2 (.ret (.session session)) } :=
    Crowd.run_alone hmfa
  have hwaiting : ¬ (afterLogin.threads 2).Finished := by
    rintro (⟨_, h⟩ | ⟨_, h⟩)
    · cases h
    · cases h
  refine ⟨afterLogin, _, .ok, allRevoked, session, hfirst, ⟨rfl, rfl⟩, hrevoked, hsecond, hticket,
    rfl, huser, hresolves, fun h => ?_⟩
  obtain ⟨row, hrow, -, hhash⟩ := hticket
  exact h.ticket 2 _ session rfl hwaiting rfl huser (.ticket row) hrow hhash

end Vokusz.Auth
