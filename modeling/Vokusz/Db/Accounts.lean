import Vokusz.State
import Vokusz.Lib.Table

namespace Vokusz.Db

open Lib

namespace Tables

def hasUser (db : Tables) (id : String) : Bool := Table.has User.id id db.users

def usernameFree (db : Tables) (id username : String) : Bool :=
  db.users.all (fun u => u.id = id || u.username ≠ username)

end Tables

namespace Users

def getUser (userId : String) : Query User :=
  fun db =>
    match Table.lookup User.id userId db.users with
    | some u => .ok u
    | none => .error (.notFound "unknown_user")

def remoteUser (id origin handle : String) (displayName avatar : Option String) : User :=
  { id := id
    username := handle
    displayName := some (displayName.getD handle)
    avatar := avatar
    origin := some origin }

def upsertRemoteUser (id origin handle : String) (displayName avatar : Option String) :
    App User := do
  App.write
    (fun db => App.unique (db.usernameFree id handle))
    (fun db =>
      { db with
        users := Table.upsert User.id (remoteUser id origin handle displayName avatar)
          (fun u =>
            { u with
              username := handle
              displayName := some (displayName.getD handle)
              avatar := avatar
              origin := some origin })
          db.users })
  getUser id

def ensureRemoteUser (id origin handle : String) (displayName avatar : Option String) :
    App Unit :=
  App.write
    (fun db => App.unique (db.hasUser id || db.usernameFree id handle))
    (fun db =>
      { db with
        users := Table.insertNew User.id (remoteUser id origin handle displayName avatar)
          db.users })

def createUser (username displayName : String) : App User := do
  let id ← App.generateId
  let now ← App.now
  App.write
    (fun db => App.unique (!db.hasUser id && db.usernameFree id username))
    (fun db =>
      { db with
        users := db.users ++
          [{ id := id
             username := username
             displayName := some displayName
             createdAt := now }] })
  getUser id

def createSystemUser : App User := do
  let created ← (createUser "System" "System").attempt
  match created with
  | .ok user => return user
  | .error (.conflict _) =>
    let suffix ← App.generateId
    createUser ("System_" ++ suffix) "System"
  | .error e => Prog.fail e

def getOrCreateSystemUser : App String := do
  let found ← App.query (fun db => .ok (db.users.find? User.system))
  match found with
  | some user => return user.id
  | none =>
    let user ← createSystemUser
    App.update (fun db =>
      { db with users := Table.update User.id user.id (fun u => { u with system := true }) db.users })
    return user.id

section

variable {s t : AppState} {id origin handle : String} {displayName avatar : Option String}

theorem exec_ensureRemoteUser : (ensureRemoteUser id origin handle displayName avatar).exec s =
    if s.db.hasUser id || s.db.usernameFree id handle then
      (.ok (), s.withDb
        { s.db with
          users := Table.insertNew User.id (remoteUser id origin handle displayName avatar)
            s.db.users })
    else (.error AppError.uniqueViolation, s) := by
  rw [ensureRemoteUser, App.exec_write]
  cases s.db.hasUser id || s.db.usernameFree id handle <;> rfl

theorem ensureRemoteUser_succeeds :
    (ensureRemoteUser id origin handle displayName avatar).Succeeds s ↔
      (s.db.hasUser id || s.db.usernameFree id handle) = true := by
  unfold Prog.Succeeds
  rw [exec_ensureRemoteUser]
  cases s.db.hasUser id || s.db.usernameFree id handle <;> simp

theorem ensureRemoteUser_hasUser {a : Unit}
    (h : (ensureRemoteUser id origin handle displayName avatar).exec s = (.ok a, t)) :
    t.db.hasUser id = true := by
  rw [exec_ensureRemoteUser] at h
  split at h
  · cases h
    exact Table.has_insertNew
  · cases h

theorem getUser_of_has {db : Tables} (h : db.hasUser id = true) :
    ∃ user, getUser id db = .ok user := by
  rw [Tables.hasUser, ← Table.lookup_isSome, Option.isSome_iff_exists] at h
  obtain ⟨user, huser⟩ := h
  exact ⟨user, by simp [getUser, huser]⟩

theorem getUser_ok {db : Tables} {user : User} (h : getUser id db = .ok user) :
    user ∈ db.users ∧ user.id = id := by
  rw [getUser] at h
  cases huser : Table.lookup User.id id db.users with
  | none =>
    rw [huser] at h
    cases h
  | some found =>
    rw [huser] at h
    cases h
    exact ⟨Table.lookup_mem huser, Table.lookup_key huser⟩

theorem getUser_id {db : Tables} {user : User} (h : getUser id db = .ok user) : user.id = id :=
  (getUser_ok h).2

theorem upsertRemoteUser_succeeds :
    (upsertRemoteUser id origin handle displayName avatar).Succeeds s ↔
      s.db.usernameFree id handle = true := by
  unfold Prog.Succeeds upsertRemoteUser
  cases hfree : s.db.usernameFree id handle with
  | false =>
    simp only [Prog.exec_bind, App.exec_write, hfree]
    simp [App.unique]
  | true =>
    refine iff_of_true ?_ rfl
    rw [Prog.exec_bind_of_ok (App.exec_write_of_none (by simp [App.unique, hfree])), App.exec_lift]
    refine (getUser_of_has ?_).imp (fun user huser => ⟨_, congrArg (Prod.mk · _) huser⟩)
    exact Table.has_upsert (fun _ => rfl)

theorem upsertRemoteUser_hasUser {user : User}
    (h : (upsertRemoteUser id origin handle displayName avatar).exec s = (.ok user, t)) :
    t.db.hasUser id = true := by
  obtain ⟨_, u, _, hread⟩ := Prog.exec_bind_ok.mp h
  obtain ⟨huser, rfl⟩ := App.exec_lift_ok.mp hread
  unfold getUser at huser
  split at huser
  · rename_i found hlookup
    rw [Tables.hasUser, ← Table.lookup_isSome, hlookup]
    rfl
  · cases huser

end

variable {γ : Type} {view : AppState → γ}

theorem preserves_upsertRemoteUser (id origin handle : String) (displayName avatar : Option String)
    (h : ∀ (s : AppState) us, view (s.withDb { s.db with users := us }) = view s) :
    (upsertRemoteUser id origin handle displayName avatar).Preserves view :=
  (App.preserves_write (fun s => h s _)).bind (fun _ => App.preserves_lift _)

end Users

namespace Relationships

def isBlockedBy (blockerId blockedId : String) : Query Bool :=
  fun db =>
    .ok (db.relationships.any (fun r =>
      r.userId = blockerId && r.targetUserId = blockedId && r.kind = 2))

end Relationships

end Vokusz.Db
