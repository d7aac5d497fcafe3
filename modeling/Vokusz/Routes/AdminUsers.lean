import Vokusz.Auth
import Vokusz.Automod.Routes
import Vokusz.Lib.Guarded

namespace Vokusz.Auth

open Lib Db Handler

variable (crypto : Crypto)

structure AdminUpdateUser where
  isAdmin : Option Bool := none
  disabled : Option Bool := none
  forcePasswordReset : Option Bool := none
  username : Option String := none
  displayName : Option String := none
deriving DecidableEq, Repr

namespace AdminUpdateUser

variable (input : AdminUpdateUser)

def isEmpty : Bool :=
  input.isAdmin.isNone && input.disabled.isNone && input.forcePasswordReset.isNone &&
    input.username.isNone && input.displayName.isNone

def applyUser (u : User) : User :=
  { u with
    username := input.username.getD u.username
    displayName := input.displayName <|> u.displayName
    isAdmin := input.isAdmin.getD u.isAdmin
    disabled := input.disabled.getD u.disabled }

def applyCredentials (c : Credentials) : Credentials :=
  { c with forcePasswordReset := input.forcePasswordReset.getD c.forcePasswordReset }

def revokes : Bool := input.forcePasswordReset = some true || input.disabled = some true

end AdminUpdateUser

def withUsers (f : List User → List User) (s : Server) : Server :=
  { s with app := s.app.withDb { s.app.db with users := f s.app.db.users } }

def dropBotTokens (userId : String) (s : Server) : Server :=
  { s with botTokens := s.botTokens.filter (fun t => t.userId ≠ userId) }

def nameTaken (userId : String) (input : AdminUpdateUser) (db : Tables) : Bool :=
  db.hasUser userId && input.username.any (fun name =>
    db.users.any (fun u => u.username = name && u.id ≠ userId))

def withFields (userId : String) (input : AdminUpdateUser) (s : Server) : Server :=
  { withUsers (Table.update User.id userId input.applyUser) s with
    credentials :=
      Table.update Credentials.userId userId input.applyCredentials s.credentials }

def setFields (userId : String) (input : AdminUpdateUser) : Handler Unit :=
  write (fun s =>
    if nameTaken userId input s.app.db then (.error AppError.uniqueViolation, s)
    else (.ok (), withFields userId input s))

def revokeTokens (userId : String) (input : AdminUpdateUser) : Handler Unit :=
  if input.revokes then do
    update (dropTokens (fun t => t.userId = userId))
    update (dropBotTokens userId)
  else pure ()

def adminUpdateUser (userId : String) (input : AdminUpdateUser) : Handler User := do
  if input.isEmpty then fetch (Users.getUser userId)
  else
    setFields userId input
    revokeTokens userId input
    fetch (Users.getUser userId)

def countAdmins : Query Nat :=
  fun db => .ok (db.users.filter (fun u => u.isAdmin)).length

def updateUser (auth : Permissions.AuthUser) (userId : String) (input : AdminUpdateUser) :
    Handler User := do
  Automod.requireServerAdmin auth
  let target ← fetch (Users.getUser userId)
  if auth.userId = userId ∧ input.isAdmin = some false then
    .fail (.badRequest "cannot remove your own admin privileges")
  else
    if input.isAdmin = some false ∧ target.isAdmin then
      let adminCount ← fetch countAdmins
      if adminCount ≤ 1 then .fail (.badRequest "cannot remove the last server admin")
      else adminUpdateUser userId input
    else adminUpdateUser userId input

def withoutUser (userId : String) (s : Server) : Server :=
  let db := s.app.db
  let own := (db.messages.filter (fun m => m.authorId = userId)).map MessageRow.id
  let kept := db.deleteMessages own
  { s with
    app := s.app.withDb { kept with
      users := Table.delete User.id userId db.users
      reports := (db.reports.filter (fun r => r.reporterId ≠ userId)).map (fun r =>
        if r.actionedBy = some userId then { r with actionedBy := none } else r)
      reactions := kept.reactions.filter (fun r => r.userId ≠ userId)
      dmParticipants := db.dmParticipants.filter (fun p => p.userId ≠ userId)
      memberRoles := db.memberRoles.filter (fun r => r.userId ≠ userId)
      members := db.members.filter (fun m => m.userId ≠ userId)
      bans := (db.bans.filter (fun b => b.userId ≠ userId)).map (fun b =>
        if b.bannedBy = some userId then { b with bannedBy := none } else b)
      invites := db.invites.map (fun i =>
        if i.inviterId = some userId then { i with inviterId := none } else i)
      emojis := db.emojis.map (fun e =>
        if e.creatorId = some userId then { e with creatorId := none } else e)
      channels := db.channels.map (fun c =>
        if c.ownerId = some userId then { c with ownerId := none } else c)
      channelMutes := db.channelMutes.filter (fun m => m.userId ≠ userId)
      relationships := db.relationships.filter (fun r =>
        r.userId ≠ userId && r.targetUserId ≠ userId)
      readStates := kept.readStates.filter (fun r => r.userId ≠ userId)
      messageCooldowns := db.messageCooldowns.filter (fun c => c.userId ≠ userId) }
    credentials := Table.delete Credentials.userId userId s.credentials
    userTokens := s.userTokens.filter (fun t => t.userId ≠ userId)
    botTokens := s.botTokens.filter (fun t => t.userId ≠ userId)
    backupCodes := s.backupCodes.filter (fun c => c.userId ≠ userId) }

def deleteRows (userId : String) : Handler Unit := update (withoutUser userId)

def deleteAccount (userId : String) : Handler Unit := do
  let owned ← fetch (fun db => .ok (db.spaces.filter (fun sp => sp.ownerId = userId)).length)
  if 0 < owned then
    .fail (.badRequest "user owns spaces — transfer ownership before deleting")
  else deleteRows userId

def deleteUser (auth : Permissions.AuthUser) (userId : String) : Handler Unit := do
  Automod.requireServerAdmin auth
  if auth.userId = userId then
    .fail (.badRequest "cannot delete your own account via admin API")
  else
    let target ← fetch (Users.getUser userId)
    if target.isAdmin then
      .fail (.badRequest "cannot delete an admin user — remove admin flag first")
    else deleteAccount userId

def verifyUserPassword (userId password : String) : Handler Unit := do
  let row ← read (fun s =>
    match Table.lookup Credentials.userId userId s.credentials with
    | some c => .ok c.passwordHash
    | none => .error AppError.rowNotFound)
  match row with
  | none => .fail (.badRequest "account has no password")
  | some storedHash =>
    let valid ← verifyPassword crypto password storedHash
    if !valid then .fail (.unauthorized "invalid password") else return ()

theorem preserves_verifyUserPassword {ν : Type} {view : Server → ν} (userId password : String) :
    (verifyUserPassword crypto userId password).Preserves view := by
  refine (preserves_read _).bind fun row => ?_
  cases row with
  | none => exact Prog.preserves_fail _
  | some storedHash =>
    refine (preserves_verifyPassword _ _).bind fun valid => ?_
    cases valid with
    | false => exact Prog.preserves_fail _
    | true => exact Prog.preserves_pure _

def deleteCurrentUser (auth : Permissions.AuthUser) (password : String) : Handler Unit := do
  if auth.isGuest then .fail (.badRequest "guest accounts cannot be deleted")
  else
    verifyUserPassword crypto auth.userId password
    deleteAccount auth.userId

end Vokusz.Auth
