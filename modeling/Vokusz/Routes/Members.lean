import Vokusz.Federation.Forward
import Vokusz.Routes.Spaces
import Vokusz.Storage

namespace Vokusz.Routes.Members

open Db Permissions Federation
open Lib (Prog)

def memberLeave (spaceId userId : String) : App Unit :=
  broadcastSpace (some spaceId) "member.leave" (Apply.memberEventJson spaceId userId) "members"

def fanoutLeave (spaceId userId : String) (targets : List String) : App Unit := do
  let fed ← App.federation
  match fed with
  | none => return ()
  | some fed =>
    let _ ← (Outbound.fanoutToTargets spaceId "m.member.leave"
      (Outbound.memberLeavePayload fed.domain userId) targets).attempt
    return ()

def done : Json := .obj [("data", .null)]

def kickMember (spaceId userId : String) (auth : AuthUser) : App Json := do
  requirePermission spaceId auth "kick_members"
  requireHierarchy spaceId auth userId
  let targets ← App.found? (Federation.interestedServers spaceId)
  Db.Members.removeMember spaceId userId
  memberLeave spaceId userId
  fanoutLeave spaceId userId (targets.getD [])
  return done

def requireLeaver (spaceId : String) (auth : AuthUser) : Query Unit :=
  if auth.isAdmin then return () else requireMembership spaceId auth.userId

def leaveRemote (home spaceId : String) (auth : AuthUser) (reply : Except AppError Response) :
    App Json := do
  let actor ← Users.getUser auth.userId
  Forward.forwardLeave home spaceId actor reply
  Db.Members.removeMember spaceId auth.userId
  memberLeave spaceId auth.userId
  return done

def removeLeaver (spaceId userId : String) (deleteData : Bool) : App Unit :=
  if deleteData then Db.Members.removeMemberAndData spaceId userId
  else Db.Members.removeMember spaceId userId

def leaveLocal (spaceId : String) (auth : AuthUser) (deleteData : Bool) : App Json := do
  let targets ← App.found? (Federation.interestedServers spaceId)
  removeLeaver spaceId auth.userId deleteData
  memberLeave spaceId auth.userId
  fanoutLeave spaceId auth.userId (targets.getD [])
  return done

def leaveSpace (spaceId : String) (auth : AuthUser) (deleteData : Bool)
    (reply : Except AppError Response) : App Json := do
  requireLeaver spaceId auth
  let space ← Spaces.getSpaceRow spaceId
  Prog.require (space.ownerId ≠ auth.userId)
    (.badRequest "space owner must transfer ownership before leaving")
  let home ← Federation.spaceOrigin spaceId
  match home with
  | some home => leaveRemote home spaceId auth reply
  | none => leaveLocal spaceId auth deleteData

def memberRowToJson (row : MemberRow) (roleIds : List String) : Json :=
  .obj [("user_id", .str row.userId), ("space_id", .str row.spaceId),
    ("nickname", .ofOption row.nickname), ("avatar", .ofOption row.avatar),
    ("roles", .strings roleIds), ("deaf", .bool row.deaf), ("mute", .bool row.mute),
    ("timed_out_until", .ofOption row.timedOutUntil), ("permissions", .null)]

def roleInSpace (spaceId roleId : String) : Query RoleRow := do
  let role ← Roles.getRoleRow roleId
  Query.require (role.spaceId = spaceId) (.notFound "role not found in this space")
  return role

def requireBelow (spaceId : String) (auth : AuthUser) (position : Int) : Query Unit :=
  if auth.isAdmin then return () else requireRoleHierarchy spaceId auth.userId position

def requireWhen (present : Bool) (q : Query Unit) : Query Unit :=
  if present then q else return ()

def checkRoleChange (spaceId userId roleId : String) (auth : AuthUser) : Query Unit := do
  requirePermission spaceId auth "manage_roles"
  requireWhen (userId ≠ auth.userId) (requireHierarchy spaceId auth userId)
  let role ← roleInSpace spaceId roleId
  requireBelow spaceId auth role.position

def broadcastMember (spaceId userId : String) : App Unit := do
  let row ← Db.Members.getMemberRow spaceId userId
  let roleIds ← Db.Members.getMemberRoleIds spaceId userId
  broadcastSpace (some spaceId) "member.update" (memberRowToJson row roleIds) "members"

def addRole (spaceId userId roleId : String) (auth : AuthUser) : App Json := do
  checkRoleChange spaceId userId roleId auth
  Db.Members.addRoleToMember spaceId userId roleId
  broadcastMember spaceId userId
  return done

def removeRole (spaceId userId roleId : String) (auth : AuthUser) : App Json := do
  checkRoleChange spaceId userId roleId auth
  Db.Members.removeRoleFromMember spaceId userId roleId
  broadcastMember spaceId userId
  return done

def checkRoleList (spaceId : String) (auth : AuthUser) : List String → Query Unit
  | [] => return ()
  | roleId :: roles => do
    let role ← roleInSpace spaceId roleId
    requireBelow spaceId auth role.position
    checkRoleList spaceId auth roles

def checkRoles (spaceId userId : String) (auth : AuthUser) (roles : Option (List String)) :
    Query Unit :=
  match roles with
  | some roles => do
    requirePermission spaceId auth "manage_roles"
    requireHierarchy spaceId auth userId
    checkRoleList spaceId auth roles
  | none => return ()

def checkTimeout (spaceId userId : String) (auth : AuthUser) (ext : Externals)
    (timeout : Option (Option String)) : Query (Option (Option String)) :=
  match timeout with
  | none => return none
  | some ts => do
    requirePermission spaceId auth "moderate_members"
    requireHierarchy spaceId auth userId
    match ts with
    | none => return some none
    | some ts =>
      match ext.parseRfc3339 ts with
      | some millis => return some (some (ext.formatRfc3339 (millis / 1000)))
      | none => Query.fail (.badRequest "communication_disabled_until must be an RFC3339 timestamp")

def checkUpdateMember (spaceId userId : String) (auth : AuthUser) (ext : Externals)
    (input : Db.Members.UpdateMember) : Query Db.Members.UpdateMember := do
  requireWhen input.nickname.isSome (requirePermission spaceId auth "manage_nicknames")
  requireWhen input.avatar.isSome (requirePermission spaceId auth "manage_nicknames")
  checkRoles spaceId userId auth input.roles
  requireWhen (input.mute.isSome || input.deaf.isSome) (requireHierarchy spaceId auth userId)
  requireWhen input.mute.isSome (requirePermission spaceId auth "mute_members")
  requireWhen input.deaf.isSome (requirePermission spaceId auth "deafen_members")
  let timeout ← checkTimeout spaceId userId auth ext input.communicationDisabledUntil
  return { input with communicationDisabledUntil := timeout }

def dropOldAvatar (spaceId userId : String) : App Unit := do
  let old ← Db.Members.getMemberRow spaceId userId
  match old.avatar with
  | some avatar => let _ ← (Storage.deleteFile avatar).attempt
  | none => return ()

def memberEntity (spaceId userId : String) : String := spaceId ++ "_" ++ userId

def storeAvatar (spaceId userId : String) (admission : Except AppError Unit)
    (avatar : Option String) : App (Option String) := do
  let maxSize ← Prog.get AppState.maxAvatarSize
  match avatar with
  | none => return none
  | some avatar =>
    if Storage.isDataUri avatar then
      dropOldAvatar spaceId userId
      let (url, _, _, _) ← Storage.saveAvatarImage "avatars" (memberEntity spaceId userId) avatar
        maxSize admission
      return some url
    else if avatar = "" then
      dropOldAvatar spaceId userId
      Storage.deleteAvatar "avatars" (memberEntity spaceId userId)
      return some avatar
    else return some avatar

def updateChecked (spaceId userId : String) (admission : Except AppError Unit)
    (input : Db.Members.UpdateMember) : App Json := do
  let avatar ← storeAvatar spaceId userId admission input.avatar
  let row ← Db.Members.updateMember spaceId userId { input with avatar := avatar }
  let roleIds ← Db.Members.getMemberRoleIds spaceId userId
  let json := memberRowToJson row roleIds
  broadcastSpace (some spaceId) "member.update" json "members"
  return .obj [("data", json)]

def updateMember (spaceId userId : String) (auth : AuthUser) (input : Db.Members.UpdateMember)
    (admission : Except AppError Unit) : App Json := do
  let ext ← App.externals
  let input ← checkUpdateMember spaceId userId auth ext input
  updateChecked spaceId userId admission input

end Vokusz.Routes.Members
