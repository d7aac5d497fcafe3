import Vokusz.Routes.AdminUsers
import Vokusz.Routes.Login

namespace Vokusz.Auth

open Lib Db Handler
open Permissions (AuthUser)
open Federation.Outbound (startsWith)

def resolveBotHash (tokenHash : String) (s : Server) : Option AuthUser :=
  match Table.lookup BotToken.tokenHash tokenHash s.botTokens with
  | none => none
  | some row =>
    match Table.lookup User.id row.userId s.app.db.users with
    | none => none
    | some u =>
      if u.disabled then none
      else some { userId := row.userId, isBot := true, isAdmin := u.isAdmin }

def resolveBearerHash (tokenHash : String) (s : Server) : Option AuthUser :=
  match Table.lookup UserToken.tokenHash tokenHash s.userTokens with
  | none => none
  | some row =>
    match Table.lookup User.id row.userId s.app.db.users with
    | none => none
    | some u =>
      if row.expiresAt * 1000 < s.app.clock then none
      else if u.disabled then none
      else some { userId := row.userId, isAdmin := u.isAdmin }

def resolveGuestHash (tokenHash : String) (s : Server) : Option AuthUser :=
  match Table.lookup GuestToken.tokenHash tokenHash s.guestTokens with
  | none => none
  | some row =>
    match Table.lookup SpaceRow.id row.spaceId s.app.db.spaces with
    | none => none
    | some space =>
      if !space.allowGuestAccess then none
      else if row.expiresAt * 1000 < s.app.clock then none
      else some
        { userId := "guest:" ++ String.ofList (tokenHash.toList.take 16)
          isGuest := true
          guestSpaceId := some row.spaceId }

def resolveHash (tokenHash : String) (bot guest : Bool) (s : Server) : Option AuthUser :=
  if bot then resolveBotHash tokenHash s
  else if guest then resolveGuestHash tokenHash s
  else resolveBearerHash tokenHash s

def afterPrefix (pre s : String) : Option String :=
  if startsWith pre s then some (String.ofList (s.toList.drop pre.length)) else none

structure ResolvedAuth where
  tokenHash : String
  userId : String
  isBot : Bool
  isGuest : Bool
  guestSpaceId : Option String
deriving DecidableEq, Repr

def ResolvedAuth.of (tokenHash : String) (auth : AuthUser) : ResolvedAuth :=
  { tokenHash := tokenHash
    userId := auth.userId
    isBot := auth.isBot
    isGuest := auth.isGuest
    guestSpaceId := auth.guestSpaceId }

def resolveToken (crypto : Crypto) (token : String) (s : Server) : Option ResolvedAuth :=
  if 256 < token.utf8ByteSize then none
  else
    match afterPrefix "Bot " token with
    | some raw =>
      let hash := crypto.hashToken raw
      (resolveHash hash true false s).map (ResolvedAuth.of hash)
    | none =>
      match afterPrefix "Bearer " token with
      | none => none
      | some raw =>
        let hash := crypto.hashToken raw
        match resolveHash hash false false s with
        | some auth => some (ResolvedAuth.of hash auth)
        | none => (resolveHash hash false true s).map (ResolvedAuth.of hash)

namespace ResolvedAuth

variable (session : ResolvedAuth)

def continues (s : Server) : Bool :=
  (resolveHash session.tokenHash session.isBot session.isGuest s).isSome

end ResolvedAuth

-- A RESUME resolves its token, claims the parked session, and that session looks at its own
-- credential, later, before it hands over.
def resumeParked (crypto : Crypto) (token : String) (parked : ResolvedAuth) (s t : Server) :
    Option ResolvedAuth :=
  match resolveToken crypto token s with
  | none => none
  | some auth =>
    if parked.userId ≠ auth.userId then none
    else if parked.continues t then some auth
    else none

section

variable (crypto : Crypto)

structure ChangePasswordRequest where
  oldPassword : String
  newPassword : String
deriving DecidableEq, Repr

def invalidPasswordLength : AppError :=
  .badRequest "password must be between 8 and 128 characters"

def storePassword (userId passwordHash : String) (force : Bool) : Handler Unit :=
  update (fun s => { s with
    credentials := Table.update Credentials.userId userId
      (fun c => { c with passwordHash := some passwordHash, forcePasswordReset := force })
      s.credentials })

def currentTokenHash (authHeader : Option String) : String :=
  crypto.hashToken ((afterPrefix "Bearer " (authHeader.getD "")).getD "")

def changePassword (auth : AuthUser) (authHeader : Option String) (input : ChangePasswordRequest)
    (salt : Nat) : Handler Unit :=
  if input.newPassword.utf8ByteSize < 8 ∨ 128 < input.newPassword.utf8ByteSize then
    .fail invalidPasswordLength
  else do
    verifyUserPassword crypto auth.userId input.oldPassword
    storePassword auth.userId (crypto.hashPassword input.newPassword salt) false
    update (dropTokens (fun t =>
      t.userId = auth.userId && t.tokenHash ≠ currentTokenHash crypto authHeader))

def revokeAllSessions (auth : AuthUser) : Handler Unit :=
  update (dropTokens (fun t => t.userId = auth.userId))

def dropBackupCodes (userId : String) : Handler Unit :=
  update (fun s => { s with backupCodes := s.backupCodes.filter (fun c => c.userId ≠ userId) })

def disableTotp (userId : String) : Handler Unit := do
  update (fun s => { s with
    credentials := Table.update Credentials.userId userId
      (fun c => { c with totpSecret := none, totpEnabled := false }) s.credentials })
  dropBackupCodes userId

def resetUserPassword (auth : AuthUser) (userId newPassword : String) (salt : Nat) :
    Handler Unit := do
  Automod.requireServerAdmin auth
  if newPassword.utf8ByteSize < 8 ∨ 128 < newPassword.utf8ByteSize then
    .fail invalidPasswordLength
  else
    let target ← fetch (Users.getUser userId)
    if target.bot then .fail (.badRequest "cannot reset password for a bot user")
    else
      storePassword userId (crypto.hashPassword newPassword salt) true
      update (dropTokens (fun t => t.userId = userId))
      disableTotp userId

end

inductive Request where
  | login (input : LoginRequest)
  | loginMfa (input : MfaLoginRequest)
  | changePassword (auth : AuthUser) (authHeader : Option String) (input : ChangePasswordRequest)
      (salt : Nat)
  | revokeAllSessions (auth : AuthUser)
  | updateUser (auth : AuthUser) (userId : String) (input : AdminUpdateUser)
  | resetUserPassword (auth : AuthUser) (userId newPassword : String) (salt : Nat)

inductive Response where
  | login (result : LoginResult)
  | session (response : LoginResponse)
  | user (user : User)
  | ok

def Request.serve (crypto : Crypto) : Request → Handler Response
  | login input => Auth.login crypto input >>= fun r => pure (.login r)
  | loginMfa input => Auth.loginMfa crypto input >>= fun r => pure (.session r)
  | changePassword auth authHeader input salt =>
    Auth.changePassword crypto auth authHeader input salt >>= fun _ => pure .ok
  | revokeAllSessions auth => Auth.revokeAllSessions auth >>= fun _ => pure .ok
  | updateUser auth userId input =>
    Auth.updateUser auth userId input >>= fun u => pure (.user u)
  | resetUserPassword auth userId newPassword salt =>
    Auth.resetUserPassword crypto auth userId newPassword salt >>= fun _ => pure .ok

end Vokusz.Auth
