import Vokusz.Error
import Vokusz.Db.Schema
import Vokusz.Lib.Stays

namespace Vokusz

open Lib (Prog)

structure GatewayBroadcast where
  spaceId : Option String
  targetUserIds : Option (List String)
  event : Json
  intent : String
  requiredPermission : Option String := none
  deriving DecidableEq, Repr

structure FederationContext where
  domain : String
  publicUrl : String
  deriving DecidableEq, Repr

-- `chrono`, `reqwest::Url` and the clock formatting are library code outside the repository.
structure Externals where
  parseRfc3339 : String → Option Nat
  urlScheme : String → Option String
  formatTime : Nat → String
  formatRfc3339 : Nat → String := formatTime
  parseNaive : String → String → Option Nat := fun _ _ => none

def Externals.fixed (time : String) : Externals :=
  { parseRfc3339 := fun _ => none
    urlScheme := fun _ => some "https"
    formatTime := fun _ => time }

structure SignedRequest where
  targetDomain : String
  path : String
  body : Json
  deriving DecidableEq, Repr

structure Response where
  success : Bool
  status : String
  text : String := ""
  json : Option Json
  deriving DecidableEq, Repr

structure AppState where
  db : Db.Tables
  federation : Option FederationContext := none
  ext : Externals
  clock : Nat := 0
  snowflake : Nat := 0
  gatewayTx : List GatewayBroadcast := []
  requests : List SignedRequest := []
  presences : List (String × String) := []
  maxAvatarSize : Nat := 2 * 1024 * 1024
  storagePath : List String := []
  files : List (List String) := []

abbrev App := Prog AppState AppError

namespace AppState

variable (s : AppState)

def now : String := s.ext.formatTime (s.clock / 1000)

def withDb (db : Db.Tables) : AppState := { s with db := db }

@[simp] theorem withDb_db (db : Db.Tables) : (s.withDb db).db = db := rfl

@[simp] theorem withDb_federation (db : Db.Tables) : (s.withDb db).federation = s.federation := rfl

@[simp] theorem withDb_ext (db : Db.Tables) : (s.withDb db).ext = s.ext := rfl

@[simp] theorem withDb_gatewayTx (db : Db.Tables) : (s.withDb db).gatewayTx = s.gatewayTx := rfl

@[simp] theorem withDb_requests (db : Db.Tables) : (s.withDb db).requests = s.requests := rfl

@[simp] theorem withDb_clock (db : Db.Tables) : (s.withDb db).clock = s.clock := rfl

@[simp] theorem withDb_snowflake (db : Db.Tables) : (s.withDb db).snowflake = s.snowflake := rfl

@[simp] theorem withDb_self : s.withDb s.db = s := rfl

@[simp] theorem withDb_withDb (db db' : Db.Tables) : (s.withDb db).withDb db' = s.withDb db' := rfl

end AppState

abbrev Query := ReaderT Db.Tables (Except AppError)

namespace Query

variable {α β : Type}

def fail (e : AppError) : Query α := fun _ => .error e

def require (c : Prop) [Decidable c] (e : AppError) : Query Unit :=
  fun _ => if c then .ok () else .error e

variable (db : Db.Tables)

@[simp] theorem pure_apply (a : α) : (pure a : Query α) db = .ok a := rfl

@[simp] theorem fail_apply (e : AppError) : (fail e : Query α) db = .error e := rfl

@[simp] theorem require_apply (c : Prop) [Decidable c] (e : AppError) :
    (require c e) db = if c then .ok () else .error e := rfl

theorem require_holds {c : Prop} [Decidable c] {e : AppError} {u : Unit} {db : Db.Tables}
    (h : require c e db = .ok u) : c := by
  by_contra hnot
  rw [require_apply, if_neg hnot] at h
  cases h

@[simp] theorem map_apply (f : α → β) (q : Query α) : (f <$> q) db = (q db).map f := rfl

theorem bind_apply (q : Query α) (f : α → Query β) :
    (q >>= f) db =
      match q db with
      | .ok a => f a db
      | .error e => .error e := by
  change (q db >>= fun a => f a db) = _
  cases q db <;> rfl

theorem bind_ok {q : Query α} {f : α → Query β} {b : β} :
    (q >>= f) db = .ok b ↔ ∃ a, q db = .ok a ∧ f a db = .ok b := by
  rw [bind_apply]
  cases q db <;> simp

def Ignores (f : Db.Tables → Db.Tables) (q : Query α) : Prop := ∀ db, q (f db) = q db

variable {f : Db.Tables → Db.Tables}

theorem ignores_pure (a : α) : (pure a : Query α).Ignores f := fun _ => rfl

theorem ignores_fail (e : AppError) : (fail e : Query α).Ignores f := fun _ => rfl

theorem ignores_require (c : Prop) [Decidable c] (e : AppError) : (require c e).Ignores f :=
  fun _ => rfl

theorem Ignores.bind {q : Query α} {g : α → Query β} (hq : q.Ignores f)
    (hg : ∀ a, (g a).Ignores f) : (q >>= g).Ignores f := by
  intro db
  rw [bind_apply, bind_apply, hq db]
  cases q db with
  | ok a => exact hg a db
  | error e => rfl

theorem ignores_ite {c : Prop} [Decidable c] {p q : Query α} (hp : p.Ignores f)
    (hq : q.Ignores f) : (if c then p else q).Ignores f := by
  split
  · exact hp
  · exact hq

end Query

namespace App

variable {α : Type}

def databaseFault : AppError := .database "internal database error"

def query (q : Query α) : App α :=
  Prog.query databaseFault (fun s => q s.db)

instance : MonadLift Query App := ⟨query⟩

instance : MonadLift (Except AppError) App := ⟨Prog.ofExcept⟩

def execute (f : Db.Tables → Except AppError α × Db.Tables) : App α :=
  Prog.statement databaseFault (fun s => ((f s.db).1, s.withDb (f s.db).2))

-- One writing statement; `check` is the constraint that the statement may violate.
def write (check : Db.Tables → Option AppError) (f : Db.Tables → Db.Tables) : App Unit :=
  execute (fun db =>
    match check db with
    | some e => (.error e, db)
    | none => (.ok (), f db))

def update (f : Db.Tables → Db.Tables) : App Unit := write (fun _ => none) f

def writeCounted (check : Db.Tables → Option AppError) (affected : Db.Tables → Bool)
    (f : Db.Tables → Db.Tables) : App Bool :=
  execute (fun db =>
    match check db with
    | some e => (.error e, db)
    | none => (.ok (affected db), f db))

def foreignKey (present : Bool) : Option AppError :=
  if present then none else some AppError.foreignKeyViolation

def unique (free : Bool) : Option AppError :=
  if free then none else some AppError.uniqueViolation

def federation : App (Option FederationContext) := Prog.get (fun s => s.federation)

def externals : App Externals := Prog.get (fun s => s.ext)

def now : App String := Prog.get AppState.now

def nowSeconds : App Nat := Prog.get (fun s => s.clock / 1000)

def nowMillis : App Nat := Prog.get (fun s => s.clock)

def generateId : App String :=
  .step (fun s => { s with snowflake := s.snowflake + 1 })
    (fun s => .ret (toString s.snowflake))

theorem snowflake_injective {m n : Nat} (h : toString m = toString n) : m = n := by
  have hdigits : Nat.toDigits 10 m = Nat.toDigits 10 n := by
    rw [← Nat.toList_repr, ← Nat.toList_repr]
    exact congrArg String.toList h
  have hparse := congrArg (fun cs => Nat.ofDigitChars 10 cs 0) hdigits
  simpa [Nat.ofDigitChars_toDigits] using hparse

def send (b : GatewayBroadcast) : App Unit :=
  Prog.modify (fun s => { s with gatewayTx := s.gatewayTx ++ [b] })

def ok? (p : App α) : App (Option α) := do
  let r ← p.attempt
  return r.toOption

def found? (q : Query α) : App (Option α) := ok? (query q)

theorem foreignKey_none {present : Bool} : foreignKey present = none ↔ present = true := by
  cases present <;> simp [foreignKey]

variable {s : AppState}

@[simp] theorem exec_query (q : Query α) : (query q).exec s = (q s.db, s) := by
  simp [query]

@[simp] theorem exec_lift (q : Query α) :
    (MonadLiftT.monadLift q : App α).exec s = (q s.db, s) :=
  exec_query q

@[simp] theorem exec_execute (f : Db.Tables → Except AppError α × Db.Tables) :
    (execute f).exec s = ((f s.db).1, s.withDb (f s.db).2) := by
  simp [execute]

@[simp] theorem exec_update (f : Db.Tables → Db.Tables) :
    (update f).exec s = (.ok (), s.withDb (f s.db)) := by
  simp [update, write]

@[simp] theorem exec_liftExcept (r : Except AppError α) :
    (MonadLiftT.monadLift r : App α).exec s = (r, s) :=
  Prog.exec_ofExcept r s

theorem exec_lift_ok {q : Query α} {a : α} {s' : AppState} :
    (MonadLiftT.monadLift q : App α).exec s = (.ok a, s') ↔ q s.db = .ok a ∧ s = s' := by
  simp

theorem exec_liftExcept_ok {r : Except AppError α} {a : α} {s' : AppState} :
    (MonadLiftT.monadLift r : App α).exec s = (.ok a, s') ↔ r = .ok a ∧ s = s' := by
  simp

theorem exec_execute_ok {f : Db.Tables → Except AppError α × Db.Tables} {a : α} {s' : AppState} :
    (execute f).exec s = (.ok a, s') ↔ (f s.db).1 = .ok a ∧ s.withDb (f s.db).2 = s' := by
  simp

theorem exec_write (check : Db.Tables → Option AppError) (f : Db.Tables → Db.Tables) :
    (write check f).exec s =
      match check s.db with
      | some e => (.error e, s)
      | none => (.ok (), s.withDb (f s.db)) := by
  rw [write, exec_execute]
  cases check s.db <;> simp

theorem exec_write_of_none {check : Db.Tables → Option AppError} {f : Db.Tables → Db.Tables}
    (h : check s.db = none) : (write check f).exec s = (.ok (), s.withDb (f s.db)) := by
  rw [exec_write, h]

theorem exec_writeCounted (check : Db.Tables → Option AppError) (affected : Db.Tables → Bool)
    (f : Db.Tables → Db.Tables) :
    (writeCounted check affected f).exec s =
      match check s.db with
      | some e => (.error e, s)
      | none => (.ok (affected s.db), s.withDb (f s.db)) := by
  rw [writeCounted, exec_execute]
  cases check s.db <;> simp

@[simp] theorem exec_federation : federation.exec s = (.ok s.federation, s) := rfl

@[simp] theorem exec_externals : externals.exec s = (.ok s.ext, s) := rfl

@[simp] theorem exec_now : now.exec s = (.ok s.now, s) := rfl

@[simp] theorem exec_nowSeconds : nowSeconds.exec s = (.ok (s.clock / 1000), s) := rfl

@[simp] theorem exec_nowMillis : nowMillis.exec s = (.ok s.clock, s) := rfl

@[simp] theorem exec_generateId : generateId.exec s =
    (.ok (toString s.snowflake), { s with snowflake := s.snowflake + 1 }) := rfl

@[simp] theorem exec_send (b : GatewayBroadcast) : (send b).exec s =
    (.ok (), { s with gatewayTx := s.gatewayTx ++ [b] }) := rfl

theorem exec_ok? (p : App α) :
    (ok? p).exec s = (.ok (p.exec s).1.toOption, (p.exec s).2) := by
  unfold ok?
  rw [Prog.exec_bind, Prog.exec_attempt]
  rfl

@[simp] theorem exec_found? (q : Query α) :
    (found? q).exec s = (.ok (q s.db).toOption, s) := by
  simp [found?, exec_ok?]

theorem total_update (f : Db.Tables → Db.Tables) : (update f).Total :=
  fun s => ⟨(), s.withDb (f s.db), exec_update f⟩

theorem total_ok? (p : App α) : (ok? p).Total :=
  (Prog.total_attempt p).bind (fun _ => Prog.total_pure _)

theorem total_found? (q : Query α) : (found? q).Total := total_ok? _

section

variable {γ : Type} {view : AppState → γ}

theorem preserves_query (q : Query α) : (query q).Preserves view := Prog.preserves_query _ _

theorem preserves_lift (q : Query α) :
    (MonadLiftT.monadLift q : App α).Preserves view := preserves_query q

theorem preserves_liftExcept (r : Except AppError α) :
    (MonadLiftT.monadLift r : App α).Preserves view := Prog.preserves_ofExcept r

theorem preserves_found? (q : Query α) : (found? q).Preserves view :=
  (preserves_query q).attempt.bind (fun _ => Prog.preserves_pure _)

theorem preserves_execute {f : Db.Tables → Except AppError α × Db.Tables}
    (h : ∀ s : AppState, view (s.withDb (f s.db).2) = view s) : (execute f).Preserves view :=
  Prog.preserves_statement h

theorem preserves_write {check : Db.Tables → Option AppError} {f : Db.Tables → Db.Tables}
    (h : ∀ s : AppState, view (s.withDb (f s.db)) = view s) : (write check f).Preserves view := by
  apply preserves_execute
  intro s
  cases check s.db with
  | none => exact h s
  | some e => rfl

theorem preserves_update {f : Db.Tables → Db.Tables}
    (h : ∀ s : AppState, view (s.withDb (f s.db)) = view s) : (update f).Preserves view :=
  preserves_write h

theorem preserves_writeCounted {check : Db.Tables → Option AppError}
    {affected : Db.Tables → Bool} {f : Db.Tables → Db.Tables}
    (h : ∀ s : AppState, view (s.withDb (f s.db)) = view s) :
    (writeCounted check affected f).Preserves view := by
  apply preserves_execute
  intro s
  cases check s.db with
  | none => exact h s
  | some e => rfl

theorem preserves_generateId
    (h : ∀ (s : AppState) (n : Nat), view { s with snowflake := n } = view s) :
    generateId.Preserves view :=
  fun s => ⟨h s _, trivial⟩

end

theorem exec_bind_db {β : Type} {f : β → App α} (hf : ∀ b, (f b).Preserves AppState.db)
    (p : App β) (s : AppState) : ((p >>= f).exec s).2.db = (p.exec s).2.db :=
  Prog.Preserves.exec_bind hf p s

theorem exec_checked {β : Type} (check : Query β) (rest : β → App α) (s : AppState) :
    (((query check >>= rest).exec s).2 = s) ∨
      ∃ b, check s.db = .ok b ∧ (query check >>= rest).exec s = (rest b).exec s := by
  rw [Prog.exec_bind, exec_query]
  cases check s.db with
  | error e => exact .inl rfl
  | ok b => exact .inr ⟨b, rfl, rfl⟩

theorem exec_guarded_write {β : Type} (check : Query β) (con : β → Db.Tables → Option AppError)
    (f : β → Db.Tables → Db.Tables) (rest : β → App α)
    (hrest : ∀ b, (rest b).Preserves AppState.db) (s : AppState) :
    ((do
      let b ← query check
      write (con b) (f b)
      rest b).exec s).2.db = s.db ∨
    ∃ b, check s.db = .ok b ∧
      ((do
        let b ← query check
        write (con b) (f b)
        rest b).exec s).2.db = f b s.db := by
  rw [Prog.exec_bind, exec_query]
  cases hcheck : check s.db with
  | error e => exact .inl rfl
  | ok b =>
    dsimp only
    rw [Prog.exec_bind, exec_write]
    cases con b s.db with
    | some e => exact .inl rfl
    | none =>
      refine .inr ⟨b, rfl, ?_⟩
      dsimp only
      exact (hrest b).exec _

section

variable {I : AppState → Prop} {Q : α → Prop}

theorem keeps_query {q : Query α} (h : ∀ s, I s → ∀ a, q s.db = .ok a → Q a) :
    (query q).Keeps I Q :=
  Prog.keeps_query h

theorem keeps_lift {q : Query α} (h : ∀ s, I s → ∀ a, q s.db = .ok a → Q a) :
    (MonadLiftT.monadLift q : App α).Keeps I Q :=
  keeps_query h

theorem keeps_check {β : Type} {R : β → Prop} {r : Except AppError Unit} {f : Unit → App β}
    (hf : r = .ok () → (f ()).Keeps I R) :
    ((MonadLiftT.monadLift r : App Unit) >>= f).Keeps I R := by
  cases r with
  | error e => trivial
  | ok u => exact hf rfl

theorem keeps_ok? {p : App α} (h : p.Keeps I Q) : (ok? p).Maintains I :=
  h.attempt.bind (fun _ _ => trivial)

theorem stays_checked {β : Type} {q : Query α} {f : α → App β} {s : AppState} (hs : I s)
    (hf : ∀ a, q s.db = .ok a → (f a).Stays I s) :
    ((MonadLiftT.monadLift q : App α) >>= f).Stays I s := by
  have hread : (MonadLiftT.monadLift q : App α).Keeps (fun t => t = s)
      (fun a => q s.db = .ok a) :=
    keeps_lift (fun t ht a ha => ht ▸ ha)
  exact Prog.stays_guard hs hread hf

theorem stays_generateId {f : String → App α} {s : AppState} (hs : I s)
    (hf : (f (toString s.snowflake)).Stays I { s with snowflake := s.snowflake + 1 }) :
    (generateId >>= f).Stays I s :=
  ⟨hs, hf⟩

theorem stays_write {check : Db.Tables → Option AppError} {f : Db.Tables → Db.Tables}
    {s : AppState} (hs : I s) (ht : check s.db = none → I (s.withDb (f s.db))) :
    (write check f).Stays I s := by
  refine Prog.stays_statement hs ?_
  dsimp only
  cases hcheck : check s.db with
  | some e => exact hs
  | none => exact ht hcheck

theorem stays_update {f : Db.Tables → Db.Tables} {s : AppState} (hs : I s)
    (ht : I (s.withDb (f s.db))) : (update f).Stays I s :=
  stays_write hs (fun _ => ht)

theorem keeps_write_checked {check : Db.Tables → Option AppError} {f : Db.Tables → Db.Tables}
    (h : ∀ s : AppState, I s → check s.db = none → I (s.withDb (f s.db))) :
    (write check f).Maintains I := by
  refine Prog.keeps_statement (fun s hs => ?_) (fun _ _ _ _ => trivial)
  dsimp only
  cases hcheck : check s.db with
  | none => exact h s hs hcheck
  | some e => exact hs

theorem keeps_write {check : Db.Tables → Option AppError} {f : Db.Tables → Db.Tables}
    (h : ∀ s : AppState, I s → I (s.withDb (f s.db))) :
    (write check f).Maintains I :=
  keeps_write_checked (fun s hs _ => h s hs)

theorem keeps_update {f : Db.Tables → Db.Tables}
    (h : ∀ s : AppState, I s → I (s.withDb (f s.db))) : (update f).Maintains I :=
  keeps_write h

theorem keeps_generateId (h : ∀ s : AppState, I s → I { s with snowflake := s.snowflake + 1 }) :
    generateId.Maintains I :=
  fun s hs => ⟨h s hs, trivial⟩

end

end App

end Vokusz
