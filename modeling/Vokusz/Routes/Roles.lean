import Vokusz.Routes.Channels
import Vokusz.Routes.Members

namespace Vokusz.Routes.Roles

open Db Permissions Federation
open Db.Roles (CreateRole UpdateRole)
open Lib (Prog)
open Members (roleInSpace requireBelow)

def checkKnown : List String → Query Unit
  | [] => return ()
  | p :: perms => do
    Query.require (p ∈ Channels.allPermissions) (.badRequest ("unknown permission: " ++ p))
    checkKnown perms

def checkHeld (actorPerms : List String) : List String → Query Unit
  | [] => return ()
  | p :: perms => do
    Query.require (p ∈ actorPerms)
      (.forbidden ("you cannot grant a permission you do not have: " ++ p))
    checkHeld actorPerms perms

def validateRolePermissions (spaceId : String) (auth : AuthUser) (permissions : List String) :
    Query Unit := do
  checkKnown permissions
  let actorPerms ← resolveMemberPermissionsWithAdmin spaceId auth.userId auth.isAdmin
  if actorPerms.any (fun p => p = "administrator") then return ()
  else checkHeld actorPerms permissions

def validateOptional (spaceId : String) (auth : AuthUser) (permissions : Option (List String)) :
    Query Unit :=
  match permissions with
  | some permissions => validateRolePermissions spaceId auth permissions
  | none => return ()

def roleRowToJson (row : RoleRow) : Json :=
  .obj [("id", .str row.id), ("name", .str row.name), ("color", .num row.color),
    ("hoist", .bool row.hoist), ("icon", .ofOption row.icon), ("position", .num row.position),
    ("permissions", .strings row.permissions), ("managed", .bool row.managed),
    ("mentionable", .bool row.mentionable)]

def broadcastRolesChanged (spaceId : String) : App Unit := do
  let row ← Db.Spaces.getSpaceRow spaceId
  let space ← Spaces.spaceWithMetadata row
  broadcastSpace (some spaceId) "space.update" space "spaces"

def invalidName : AppError := .badRequest "role name must be between 1 and 100 characters"

def checkCreate (spaceId : String) (auth : AuthUser) (input : CreateRole) : Query Unit := do
  requirePermission spaceId auth "manage_roles"
  Query.require (trim input.name ≠ "" ∧ (trim input.name).utf8ByteSize ≤ 100) invalidName
  validateOptional spaceId auth input.permissions
  let space ← Db.Spaces.getSpaceRow spaceId
  Query.require (auth.isAdmin ∨ space.ownerId = auth.userId)
    (.forbidden "only the domain owner can create permission groups")

def createChecked (spaceId : String) (input : CreateRole) : App Json := do
  let row ← Db.Roles.createRole spaceId input
  broadcastRolesChanged spaceId
  return .obj [("data", roleRowToJson row)]

def createRole (spaceId : String) (auth : AuthUser) (input : CreateRole) : App Json := do
  checkCreate spaceId auth input
  createChecked spaceId input

def checkUpdate (spaceId roleId : String) (auth : AuthUser) (input : UpdateRole) :
    Query Unit := do
  requirePermission spaceId auth "manage_roles"
  let target ← roleInSpace spaceId roleId
  requireBelow spaceId auth target.position
  validateOptional spaceId auth input.permissions
  Query.require (∀ name ∈ input.name, trim name ≠ "" ∧ name.utf8ByteSize ≤ 100) invalidName

def updateChecked (spaceId roleId : String) (input : UpdateRole) : App Json := do
  let row ← Db.Roles.updateRole roleId { input with position := none }
  broadcastRolesChanged spaceId
  return .obj [("data", roleRowToJson row)]

def updateRole (spaceId roleId : String) (auth : AuthUser) (input : UpdateRole) : App Json := do
  checkUpdate spaceId roleId auth input
  updateChecked spaceId roleId input

def checkDelete (spaceId roleId : String) (auth : AuthUser) : Query Unit := do
  requirePermission spaceId auth "manage_roles"
  let target ← roleInSpace spaceId roleId
  Query.require (target.position ≠ 0) (.forbidden "cannot delete the @everyone role")
  requireBelow spaceId auth target.position

def deleteRole (spaceId roleId : String) (auth : AuthUser) : App Json := do
  checkDelete spaceId roleId auth
  Db.Roles.deleteRole roleId
  broadcastRolesChanged spaceId
  return Members.done

def checkMove (spaceId : String) (auth : AuthUser) (old new : Int) : Query Unit :=
  if old = new then return ()
  else do
    requireBelow spaceId auth old
    requireBelow spaceId auth new

def checkOrder (spaceId : String) (auth : AuthUser) (roles : List RoleRow) :
    List String → List (String × Int) → Query Unit
  | _, [] => return ()
  | seen, u :: updates => do
    match roles.find? (fun r => r.id = u.1) with
    | none => Query.fail (.notFound "role not found in this space")
    | some role =>
      Query.require (u.1 ∉ seen ∧ 0 ≤ u.2 ∧ (role.position = 0 ↔ u.2 = 0))
        (.badRequest "invalid role positions; @everyone must remain at zero")
      checkMove spaceId auth role.position u.2
      checkOrder spaceId auth roles (u.1 :: seen) updates

def checkReorder (spaceId : String) (auth : AuthUser) (updates : List (String × Int)) :
    Query Unit := do
  requirePermission spaceId auth "manage_roles"
  let roles ← Db.Roles.listRoles spaceId
  checkOrder spaceId auth roles [] updates

def reorderRoles (spaceId : String) (auth : AuthUser) (updates : List (String × Int)) :
    App Json := do
  checkReorder spaceId auth updates
  Db.Roles.reorderRoles spaceId updates
  broadcastRolesChanged spaceId
  let rows ← Db.Roles.listRoles spaceId
  return .obj [("data", .arr (rows.map roleRowToJson))]

end Vokusz.Routes.Roles
