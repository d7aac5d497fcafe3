import Vokusz.Lib.SortOrder
import Vokusz.Routes.Login

namespace Vokusz.Auth.SessionCap

open Lib Db Handler

abbrev SessionOrder := SortOrder UserToken.createdAt

section

variable (crypto : Crypto) (order : SessionOrder)

def enforceSessionLimit (userId : String) : Handler Unit := do
  let counted ← (read (fun s =>
    .ok (s.userTokens.filter (fun t => t.userId = userId)).length)).attempt
  let count := counted.toOption.getD 0
  if MAX_SESSIONS_PER_USER < count then
    let _ ← (update (fun s =>
      dropTokens (fun t => t.userId = userId &&
        (order.firstNames UserToken.tokenHash (count - MAX_SESSIONS_PER_USER)
          (s.userTokens.filter (fun t => t.userId = userId))).contains t.tokenHash) s)).attempt

def issueToken (userId : String) (forceReset : Handler Bool) : Handler LoginResponse := do
  let user ← fetch (Users.getUser userId)
  let token ← generateToken crypto
  let now ← clock
  insertToken (crypto.hashToken token) userId (now / 1000 + TOKEN_LIFETIME_SECS)
  cleanupExpiredTokens userId
  enforceSessionLimit order userId
  let forcePasswordReset ← forceReset
  return { user := user, token := token, forcePasswordReset := forcePasswordReset }

end

inductive Factor where
  | password (forceReset : Bool)
  | mfa
deriving DecidableEq, Repr

def Factor.forceReset (userId : String) : Factor → Handler Bool
  | .password forceReset => pure forceReset
  | .mfa => forcePasswordReset userId

structure Attempt where
  clock : Nat
  userId : String
  factor : Factor
deriving DecidableEq, Repr

section

variable (crypto : Crypto)

def Attempt.arrive (a : Attempt) (s : Server) : Server :=
  { s with app := { s.app with clock := a.clock } }

def Attempt.handle (order : SessionOrder) (a : Attempt) : Handler LoginResponse :=
  issueToken crypto order a.userId (a.factor.forceReset a.userId)

def Attempt.outcome (order : SessionOrder) (a : Attempt) (s : Server) :
    Except AppError LoginResponse × Server :=
  (a.handle crypto order).exec (a.arrive s)

end

section

variable (order : SessionOrder) (userId : String) (tokens : List UserToken)

def owned : List UserToken := tokens.filter (fun t => t.userId = userId)

def unexpired (now : Nat) : List UserToken :=
  tokens.filter (fun t => !(t.userId = userId && t.expiresAt < now / 1000))

def limited : List UserToken :=
  if MAX_SESSIONS_PER_USER < (owned userId tokens).length then
    tokens.filter (fun t => !(t.userId = userId &&
      (order.firstNames UserToken.tokenHash
        ((owned userId tokens).length - MAX_SESSIONS_PER_USER)
        (owned userId tokens)).contains t.tokenHash))
  else tokens

variable {order userId tokens} {t : UserToken}

theorem mem_owned : t ∈ owned userId tokens ↔ t ∈ tokens ∧ t.userId = userId := by
  simp [owned]

theorem mem_of_mem_limited (h : t ∈ limited order userId tokens) : t ∈ tokens := by
  unfold limited at h
  split at h
  · exact List.mem_of_mem_filter h
  · exact h

theorem distinct_limited (h : Table.Distinct UserToken.tokenHash tokens) :
    Table.Distinct UserToken.tokenHash (limited order userId tokens) := by
  unfold limited
  split
  · exact h.filter _
  · exact h

theorem owned_limited (hlong : MAX_SESSIONS_PER_USER < (owned userId tokens).length) :
    owned userId (limited order userId tokens) =
      (owned userId tokens).filter (fun t => !(order.firstNames UserToken.tokenHash
        ((owned userId tokens).length - MAX_SESSIONS_PER_USER)
        (owned userId tokens)).contains t.tokenHash) := by
  rw [limited, if_pos hlong, owned, List.filter_filter, owned, List.filter_filter]
  apply List.filter_congr
  intro t _
  cases decide (t.userId = userId) <;> simp

theorem length_limited_le (h : Table.Distinct UserToken.tokenHash tokens) :
    (owned userId (limited order userId tokens)).length ≤ MAX_SESSIONS_PER_USER := by
  by_cases hlong : MAX_SESSIONS_PER_USER < (owned userId tokens).length
  · have hdistinct : Table.Distinct UserToken.tokenHash (owned userId tokens) := h.filter _
    rw [owned_limited hlong, order.length_filter_firstNames hdistinct]
    omega
  · rw [limited, if_neg hlong]
    omega

def rivals (t : UserToken) (tokens : List UserToken) : List UserToken :=
  (owned t.userId tokens).filter (fun r => t.createdAt ≤ r.createdAt)

theorem length_rivals (tokens : List UserToken) :
    ((owned t.userId tokens).filter (fun r => r.createdAt < t.createdAt)).length +
      (rivals t tokens).length = (owned t.userId tokens).length := by
  rw [rivals, ← List.countP_eq_length_filter, ← List.countP_eq_length_filter]
  have hsplit := List.length_eq_countP_add_countP (fun r => r.createdAt < t.createdAt)
    (l := owned t.userId tokens)
  rw [hsplit]
  congr 1
  apply List.countP_congr
  intro r _
  simp

theorem mem_limited_iff (h : Table.Distinct UserToken.tokenHash tokens) (ht : t ∈ tokens) :
    (∀ order, t ∈ limited order t.userId tokens) ↔
      (rivals t tokens).length ≤ MAX_SESSIONS_PER_USER := by
  have hown : t ∈ owned t.userId tokens := mem_owned.mpr ⟨ht, rfl⟩
  have hdistinct : Table.Distinct UserToken.tokenHash (owned t.userId tokens) := h.filter _
  have hnodup : (owned t.userId tokens).Nodup :=
    hdistinct.imp (fun hne heq => hne (congrArg UserToken.tokenHash heq))
  have hcount := length_rivals (t := t) tokens
  by_cases hlong : MAX_SESSIONS_PER_USER < (owned t.userId tokens).length
  · have hmem : ∀ order : SessionOrder, t ∈ limited order t.userId tokens ↔
        t ∉ (order.sort (owned t.userId tokens)).take
          ((owned t.userId tokens).length - MAX_SESSIONS_PER_USER) := by
      intro order
      rw [← order.firstNames_contains hdistinct hown, limited, if_pos hlong]
      simp [ht]
    rw [forall_congr' hmem, SortOrder.forall_not_mem_take_iff hnodup hown]
    omega
  · constructor
    · intro _
      omega
    · intro _ order
      rwa [limited, if_neg hlong]

end

section

variable (crypto : Crypto)

def Attempt.drew (a : Attempt) (s : Server) : Server := { a.arrive s with drawn := s.drawn + 1 }

def Attempt.row (a : Attempt) (s : Server) : UserToken :=
  { tokenHash := crypto.hashToken (crypto.token s.drawn)
    userId := a.userId
    expiresAt := a.clock / 1000 + TOKEN_LIFETIME_SECS
    createdAt := a.clock / 1000 }

def Attempt.refused (a : Attempt) (s : Server) : Bool :=
  !s.app.db.hasUser a.userId ||
    Table.has UserToken.tokenHash (a.row crypto s).tokenHash s.userTokens

def Attempt.tokens (order : SessionOrder) (a : Attempt) (s : Server) : List UserToken :=
  limited order a.userId (unexpired a.userId (s.userTokens ++ [a.row crypto s]) a.clock)

def Capped (order : SessionOrder) (a : Attempt) (s : Server) : Prop :=
  ∀ response, (a.outcome crypto order s).1 = .ok response →
    (owned a.userId (a.outcome crypto order s).2.userTokens).length ≤ MAX_SESSIONS_PER_USER ∧
      ∃ t ∈ (a.outcome crypto order s).2.userTokens,
        t.tokenHash = crypto.hashToken response.token ∧ t.userId = a.userId

def AllCapped : Server → List Attempt → Prop
  | _, [] => True
  | s, a :: as => ∀ order, Capped crypto order a s ∧ AllCapped (a.outcome crypto order s).2 as

def Attempt.roomy (a : Attempt) (s : Server) : Bool :=
  a.refused crypto s ||
    ((unexpired a.userId s.userTokens a.clock).filter
      (fun t => t.userId = a.userId && a.clock / 1000 ≤ t.createdAt)).length <
        MAX_SESSIONS_PER_USER

def AllRoomy : Server → List Attempt → Prop
  | _, [] => True
  | s, a :: as => a.roomy crypto s = true ∧ ∀ order, AllRoomy (a.outcome crypto order s).2 as

def after (order : SessionOrder) (s : Server) (attempts : List Attempt) : Server :=
  attempts.foldl (fun s a => (a.outcome crypto order s).2) s

variable {crypto} {order : SessionOrder} {a : Attempt} {s : Server} {userId : String}

theorem exec_cleanup : (cleanupExpiredTokens userId).exec s =
    (.ok (), { s with userTokens := unexpired userId s.userTokens s.app.clock }) := rfl

theorem exec_limit : (enforceSessionLimit order userId).exec s =
    (.ok (), { s with userTokens := limited order userId s.userTokens }) := by
  unfold enforceSessionLimit limited
  have hread : ((read (fun s : Server =>
      .ok (s.userTokens.filter (fun t => t.userId = userId)).length)).attempt).exec s =
      (.ok (.ok (owned userId s.userTokens).length), s) := rfl
  rw [Prog.exec_bind_of_ok hread]
  dsimp only [Except.toOption, Option.getD_some]
  by_cases hlong : MAX_SESSIONS_PER_USER < (owned userId s.userTokens).length
  · rw [if_pos hlong, if_pos hlong]
    rfl
  · rw [if_neg hlong, if_neg hlong]
    rfl

theorem exec_forceReset (factor : Factor) (userId : String) (s : Server) :
    ∃ forced, (factor.forceReset userId).exec s = (.ok forced, s) := by
  cases factor with
  | password forceReset => exact ⟨forceReset, rfl⟩
  | mfa => exact ⟨_, rfl⟩

theorem exec_getUser_of_missing (h : s.app.db.hasUser userId = false) :
    (fetch (Users.getUser userId)).exec s = (.error (.notFound "unknown_user"), s) := by
  rw [fetch, Prog.exec_query, Users.getUser, Table.lookup_none_of_not_has h]

theorem exec_getUser_of_has (h : s.app.db.hasUser userId = true) :
    ∃ user, (fetch (Users.getUser userId)).exec s = (.ok user, s) := by
  obtain ⟨user, huser⟩ := Users.getUser_of_has h
  exact ⟨user, by rw [fetch, Prog.exec_query, huser]⟩

theorem exec_insertToken_of_taken {tokenHash : String} {expiresAt : Nat}
    (huser : s.app.db.hasUser userId = true)
    (htaken : Table.has UserToken.tokenHash tokenHash s.userTokens = true) :
    (insertToken tokenHash userId expiresAt).exec s = (.error AppError.uniqueViolation, s) := by
  simp [insertToken, write, huser, htaken]

theorem exec_insertToken_of_free {tokenHash : String} {expiresAt : Nat}
    (huser : s.app.db.hasUser userId = true)
    (hfree : Table.has UserToken.tokenHash tokenHash s.userTokens = false) :
    (insertToken tokenHash userId expiresAt).exec s = (.ok (),
      { s with
        userTokens := s.userTokens ++
          [{ tokenHash := tokenHash
             userId := userId
             expiresAt := expiresAt
             createdAt := s.app.clock / 1000 }] }) := by
  simp [insertToken, write, huser, hfree]

theorem outcome_of_missing (h : s.app.db.hasUser a.userId = false) :
    a.outcome crypto order s = (.error (.notFound "unknown_user"), a.arrive s) :=
  Prog.exec_bind_of_error (exec_getUser_of_missing h)

theorem outcome_of_has (h : s.app.db.hasUser a.userId = true) :
    ∃ user, a.outcome crypto order s = (do
      insertToken (a.row crypto s).tokenHash a.userId (a.row crypto s).expiresAt
      cleanupExpiredTokens a.userId
      enforceSessionLimit order a.userId
      let forced ← a.factor.forceReset a.userId
      return { user := user, token := crypto.token s.drawn, forcePasswordReset := forced } :
        Handler LoginResponse).exec (a.drew s) := by
  obtain ⟨user, hfound⟩ := exec_getUser_of_has (s := a.arrive s) h
  have htoken : (generateToken crypto).exec (a.arrive s) =
      (.ok (crypto.token s.drawn), a.drew s) := rfl
  have hclock : clock.exec (a.drew s) = (.ok a.clock, a.drew s) := rfl
  refine ⟨user, ?_⟩
  rw [Attempt.outcome, Attempt.handle, issueToken, Prog.exec_bind_of_ok hfound,
    Prog.exec_bind_of_ok htoken, Prog.exec_bind_of_ok hclock]
  rfl

theorem refused_eq_false (h : a.refused crypto s = false) :
    s.app.db.hasUser a.userId = true ∧
      Table.has UserToken.tokenHash (a.row crypto s).tokenHash s.userTokens = false := by
  simpa [Attempt.refused] using h

theorem outcome_of_refused (h : a.refused crypto s = true) :
    (∃ e, (a.outcome crypto order s).1 = .error e) ∧
      (a.outcome crypto order s).2.userTokens = s.userTokens := by
  cases huser : s.app.db.hasUser a.userId with
  | false =>
    rw [outcome_of_missing huser]
    exact ⟨⟨_, rfl⟩, rfl⟩
  | true =>
    have htaken : Table.has UserToken.tokenHash (a.row crypto s).tokenHash s.userTokens = true := by
      simpa [Attempt.refused, huser] using h
    have hinsert := @exec_insertToken_of_taken (a.drew s) a.userId (a.row crypto s).tokenHash
      (a.row crypto s).expiresAt huser htaken
    obtain ⟨user, hout⟩ := @outcome_of_has crypto order a s huser
    rw [hout, Prog.exec_bind_of_error hinsert]
    exact ⟨⟨_, rfl⟩, rfl⟩

theorem outcome_of_issued (h : a.refused crypto s = false) :
    ∃ user forced, a.outcome crypto order s =
      (.ok { user := user, token := crypto.token s.drawn, forcePasswordReset := forced },
        { a.drew s with userTokens := a.tokens crypto order s }) := by
  obtain ⟨huser, hfree⟩ := refused_eq_false h
  obtain ⟨user, hout⟩ := @outcome_of_has crypto order a s huser
  obtain ⟨forced, hforced⟩ := exec_forceReset a.factor a.userId
    { a.drew s with userTokens := a.tokens crypto order s }
  have hinsert := @exec_insertToken_of_free (a.drew s) a.userId (a.row crypto s).tokenHash
    (a.row crypto s).expiresAt huser hfree
  refine ⟨user, forced, ?_⟩
  rw [hout, Prog.exec_bind_of_ok hinsert, Prog.exec_bind_of_ok exec_cleanup,
    Prog.exec_bind_of_ok exec_limit]
  exact Prog.exec_bind_of_ok hforced

theorem distinct_outcome (h : Table.Distinct UserToken.tokenHash s.userTokens) :
    Table.Distinct UserToken.tokenHash (a.outcome crypto order s).2.userTokens := by
  cases hrefused : a.refused crypto s with
  | true =>
    rw [(outcome_of_refused hrefused).2]
    exact h
  | false =>
    obtain ⟨user, forced, hout⟩ := @outcome_of_issued crypto order a s hrefused
    rw [hout]
    have hfree := (refused_eq_false hrefused).2
    exact distinct_limited ((h.insert hfree).filter _)

theorem unexpired_insert (a : Attempt) (s : Server) :
    unexpired a.userId (s.userTokens ++ [a.row crypto s]) a.clock =
      unexpired a.userId s.userTokens a.clock ++ [a.row crypto s] := by
  simp [unexpired, Attempt.row]

theorem length_rivals_row (a : Attempt) (s : Server) :
    (rivals (a.row crypto s) (unexpired a.userId s.userTokens a.clock ++ [a.row crypto s])).length =
      ((unexpired a.userId s.userTokens a.clock).filter
        (fun t => t.userId = a.userId && a.clock / 1000 ≤ t.createdAt)).length + 1 := by
  rw [rivals, owned, List.filter_filter, List.filter_append, List.length_append]
  have hlast : [a.row crypto s].filter (fun t =>
      decide ((a.row crypto s).createdAt ≤ t.createdAt) &&
        decide (t.userId = (a.row crypto s).userId)) = [a.row crypto s] := by
    simp
  rw [hlast]
  congr 2
  apply List.filter_congr
  intro t _
  exact Bool.and_comm _ _

theorem capped_iff (h : Table.Distinct UserToken.tokenHash s.userTokens) :
    (∀ order, Capped crypto order a s) ↔ a.roomy crypto s = true := by
  cases hrefused : a.refused crypto s with
  | true =>
    simp only [Attempt.roomy, hrefused, Bool.true_or, iff_true]
    intro order response hok
    obtain ⟨e, he⟩ := (@outcome_of_refused crypto order a s hrefused).1
    rw [he] at hok
    cases hok
  | false =>
    have hfree := (refused_eq_false hrefused).2
    have hinserted := h.insert hfree
    have hdistinct : Table.Distinct UserToken.tokenHash
        (unexpired a.userId s.userTokens a.clock ++ [a.row crypto s]) := by
      rw [← unexpired_insert]
      exact hinserted.filter _
    have hroom := mem_limited_iff (t := a.row crypto s) hdistinct (by simp)
    rw [length_rivals_row, Nat.succ_le_iff] at hroom
    simp only [Attempt.roomy, hrefused, Bool.false_or, decide_eq_true_eq]
    rw [← hroom]
    apply forall_congr'
    intro order
    obtain ⟨user, forced, hout⟩ := @outcome_of_issued crypto order a s hrefused
    have htokens : (a.outcome crypto order s).2.userTokens = limited order a.userId
        (unexpired a.userId s.userTokens a.clock ++ [a.row crypto s]) := by
      rw [hout, ← unexpired_insert]
      rfl
    rw [Capped, htokens]
    constructor
    · intro hcapped
      obtain ⟨_, t, ht, hhash, huser⟩ := hcapped _ (by rw [hout])
      have hlast : a.row crypto s ∈ unexpired a.userId s.userTokens a.clock ++ [a.row crypto s] :=
        List.mem_concat_self
      have hsame : t = a.row crypto s := hdistinct.same (mem_of_mem_limited ht) hlast hhash
      rwa [hsame] at ht
    · intro hkept response hok
      rw [hout] at hok
      cases hok
      exact ⟨length_limited_le hdistinct, _, hkept, rfl, rfl⟩

theorem sessions_capped_iff {attempts : List Attempt}
    (h : Table.Distinct UserToken.tokenHash s.userTokens) :
    AllCapped crypto s attempts ↔ AllRoomy crypto s attempts := by
  induction attempts generalizing s with
  | nil => exact Iff.rfl
  | cons a attempts ih =>
    simp only [AllCapped, AllRoomy, forall_and, capped_iff h]
    exact and_congr_right' (forall_congr' (fun order => ih (distinct_outcome h)))

theorem AllCapped.append {attempts rest : List Attempt}
    (h : AllCapped crypto s (attempts ++ rest)) (order : SessionOrder) :
    AllCapped crypto (after crypto order s attempts) rest := by
  induction attempts generalizing s with
  | nil => exact h
  | cons a attempts ih => exact ih (h order).2

end

def ann : Server :=
  { app := { db := { users := [{ id := "1", username := "ann" }] }, ext := .fixed "" } }

def hurried : Attempt := { clock := 500, userId := "1", factor := .password false }

def lastRow : UserToken :=
  { tokenHash := "token 25", userId := "1", expiresAt := TOKEN_LIFETIME_SECS, createdAt := 0 }

def lastFirst : SessionOrder := .favouring _ lastRow

def crowded : Server := after Crypto.plain lastFirst ann (List.replicate 25 hurried)

theorem sessions_not_capped : ¬ AllCapped Crypto.plain ann (List.replicate 26 hurried) := by
  intro h
  have hrun : AllCapped Crypto.plain ann (List.replicate 25 hurried ++ [hurried]) := h
  have hlast : Capped Crypto.plain lastFirst hurried crowded := (hrun.append lastFirst lastFirst).1
  have hissued : (hurried.outcome Crypto.plain lastFirst crowded).1 = .ok
      { user := { id := "1", username := "ann" }
        token := "token 25"
        forcePasswordReset := false } := by
    decide +kernel
  obtain ⟨_, t, ht, hhash, _⟩ := hlast _ hissued
  have hgone : ∀ t ∈ (hurried.outcome Crypto.plain lastFirst crowded).2.userTokens,
      t.tokenHash ≠ "token 25" := by
    decide +kernel
  exact hgone t ht hhash

theorem sessions_capped_iff_of_three :
    AllCapped Crypto.plain ann (List.replicate 3 hurried) ↔
      AllRoomy Crypto.plain ann (List.replicate 3 hurried) :=
  sessions_capped_iff List.Pairwise.nil

end Vokusz.Auth.SessionCap
