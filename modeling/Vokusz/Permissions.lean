import Vokusz.Db.Channels

namespace Vokusz.Permissions

open Db
open Lib (Prog)

structure AuthUser where
  userId : String
  isBot : Bool := false
  isAdmin : Bool := false
  isGuest : Bool := false
  guestSpaceId : Option String := none
  deriving DecidableEq, Repr

def hasPermission (perms : List String) (perm : String) : Bool :=
  perms.any (fun p => p = "administrator" || p = perm)

def pushMissing (perms : List String) (p : String) : List String :=
  if perms.contains p then perms else perms ++ [p]

def extendMissing (perms new : List String) : List String := new.foldl pushMissing perms

def applyOverwrite (allow deny perms : List String) : List String :=
  extendMissing (perms.filter (fun p => !deny.contains p)) allow

def resolveMemberPermissionsInner (spaceId userId : String) (isServerAdmin : Bool) :
    Query (List String) := do
  if isServerAdmin then return ["administrator"]
  else
    let space ← Spaces.getSpaceRow spaceId
    if space.ownerId = userId then return ["administrator"]
    else
      let _ ← (fun db =>
        match Members.getMemberRow spaceId userId db with
        | .error (.notFound _) => .error (.forbidden "you are not a member of this space")
        | r => r : Query MemberRow)
      let roles ← Roles.listRoles spaceId
      let everyone := (roles.find? (fun r => r.position = 0)).map RoleRow.permissions
      let memberRoleIds ← Members.getMemberRoleIds spaceId userId
      let assigned := roles.filter (fun r => memberRoleIds.contains r.id)
      return (assigned.map RoleRow.permissions).foldl extendMissing (everyone.getD [])

def resolveMemberPermissions (spaceId userId : String) : Query (List String) :=
  resolveMemberPermissionsInner spaceId userId false

def resolveMemberPermissionsWithAdmin (spaceId userId : String) (isServerAdmin : Bool) :
    Query (List String) :=
  resolveMemberPermissionsInner spaceId userId isServerAdmin

def guestPermissions : List String := ["view_channel", "read_history"]

def requireGuestSpacePermission (auth : AuthUser) (spaceId perm : String) : Query Unit := do
  Query.require (auth.guestSpaceId = some spaceId)
    (.forbidden "guest token not valid for this space")
  Query.require (perm ∈ guestPermissions) (.forbidden "guest accounts cannot perform this action")

def requirePermission (spaceId : String) (auth : AuthUser) (perm : String) : Query Unit := do
  if auth.isGuest then requireGuestSpacePermission auth spaceId perm
  else
    let perms ← resolveMemberPermissionsWithAdmin spaceId auth.userId auth.isAdmin
    Query.require (hasPermission perms perm) (.forbidden ("missing permission: " ++ perm))

def requireMembership (spaceId userId : String) : Query Unit := do
  let perms ← resolveMemberPermissions spaceId userId
  Query.require (hasPermission perms "view_channel") (.forbidden "missing permission: view_channel")

def applyEveryoneOverwrite (overwrites : List PermissionOverwrite)
    (everyoneRoleId : Option String) (perms : List String) : List String :=
  match everyoneRoleId with
  | none => perms
  | some eid =>
    match overwrites.find? (fun o => o.overwriteType = "role" && o.id = eid) with
    | none => perms
    | some ow => applyOverwrite ow.allow ow.deny perms

def applyRoleOverwrites (overwrites : List PermissionOverwrite) (memberRoleIds : List String)
    (everyoneRoleId : Option String) (perms : List String) : List String :=
  let roleOverwrites := overwrites.filter (fun o =>
    o.overwriteType = "role" && memberRoleIds.contains o.id && everyoneRoleId ≠ some o.id)
  let roleAllow := (roleOverwrites.map PermissionOverwrite.allow).foldl extendMissing []
  let roleDeny := (roleOverwrites.map PermissionOverwrite.deny).foldl extendMissing []
  applyOverwrite roleAllow (roleDeny.filter (fun d => !roleAllow.contains d)) perms

def applyMemberOverwrite (overwrites : List PermissionOverwrite) (userId : String)
    (perms : List String) : List String :=
  match overwrites.find? (fun o => o.overwriteType = "member" && o.id = userId) with
  | none => perms
  | some ow => applyOverwrite ow.allow ow.deny perms

def resolveChannelPermissions (channelId spaceId userId : String) : Query (List String) := do
  let perms ← resolveMemberPermissions spaceId userId
  if perms.any (fun p => p = "administrator") then return perms
  else
    let channel ← Channels.getChannelRow channelId
    Query.require (channel.spaceId = some spaceId) (.forbidden "channel belongs to another space")
    let overwrites ← PermissionOverwrites.listOverwrites channelId
    if overwrites.isEmpty then return perms
    else
      let roles ← Roles.listRoles spaceId
      let everyoneRoleId := (roles.find? (fun r => r.position = 0)).map RoleRow.id
      let memberRoleIds ← Members.getMemberRoleIds spaceId userId
      let perms := applyEveryoneOverwrite overwrites everyoneRoleId perms
      let perms := applyRoleOverwrites overwrites memberRoleIds everyoneRoleId perms
      let perms := applyMemberOverwrite overwrites userId perms
      return perms.filter (fun p => p ≠ "administrator")

def isTimedOut (ext : Externals) (now : Nat) (timedOutUntil : Option String) : Bool :=
  match timedOutUntil.bind ext.parseRfc3339 with
  | some t => now < t
  | none => false

def requireNotTimedOut (spaceId : String) (auth : AuthUser) : App Unit := do
  if auth.isAdmin then return ()
  else
    let member ← App.query (fun db =>
      match Members.getMemberRow spaceId auth.userId db with
      | .ok m => .ok (some m)
      | .error (.notFound _) => .ok none
      | .error e => .error e)
    let ext ← App.externals
    let now ← App.nowMillis
    Prog.require (¬ isTimedOut ext now (member.bind MemberRow.timedOutUntil))
      (.forbidden "you are timed out in this space")

def slowmodeCooldownMs (channel : ChannelRow) (auth : AuthUser) : Query Int := do
  let cooldownMs := max 0 (min 21600 channel.rateLimit) * 1000
  if cooldownMs = 0 ∨ auth.isAdmin then return 0
  else
    match channel.spaceId with
    | none => return cooldownMs
    | some spaceId =>
      let perms ← resolveChannelPermissions channel.id spaceId auth.userId
      if hasPermission perms "manage_messages" || hasPermission perms "manage_channels" then
        return 0
      else return cooldownMs

def requireDmAccess (channelId userId : String) : Query Unit := do
  let found ← DmParticipants.isParticipant channelId userId
  Query.require found (.forbidden "you are not a participant in this DM")

def requireGuestChannelPermission (channel : ChannelRow) (auth : AuthUser) (perm : String) :
    Query String := do
  if channel.isDm then Query.fail (.forbidden "guest accounts cannot access DMs")
  else
    match channel.spaceId with
    | none => Query.fail (.badRequest "channel has no space")
    | some spaceId =>
      Query.require (auth.guestSpaceId = some spaceId)
        (.forbidden "guest token not valid for this space")
      Query.require channel.allowAnonymousRead
        (.forbidden "this channel is not publicly readable")
      Query.require (perm ∈ guestPermissions)
        (.forbidden "guest accounts cannot perform this action")
      return spaceId

def requireChannelPermission (channelId : String) (auth : AuthUser) (perm : String) :
    Query String := do
  let channel ← Channels.getChannelRow channelId
  if auth.isGuest then requireGuestChannelPermission channel auth perm
  else if channel.isDm then
    requireDmAccess channelId auth.userId
    return ""
  else
    match channel.spaceId with
    | none => Query.fail (.badRequest "channel has no space")
    | some spaceId =>
      if auth.isAdmin then return spaceId
      else
        let perms ← resolveChannelPermissions channelId spaceId auth.userId
        Query.require (hasPermission perms "view_channel" && hasPermission perms perm)
          (.forbidden ("missing permission: " ++ perm))
        return spaceId

section

open Query

variable (users : List User)

def withUsers (db : Tables) : Tables := { db with users := users }

theorem resolveMemberPermissions_users (spaceId userId : String) :
    (resolveMemberPermissions spaceId userId).Ignores (withUsers users) := by
  unfold resolveMemberPermissions resolveMemberPermissionsInner
  refine ignores_ite (ignores_pure _) ?_
  refine Ignores.bind (fun _ => rfl) (fun space => ?_)
  refine ignores_ite (ignores_pure _) ?_
  refine Ignores.bind (fun _ => rfl) (fun _ => ?_)
  refine Ignores.bind (fun _ => rfl) (fun roles => ?_)
  exact Ignores.bind (fun _ => rfl) (fun _ => ignores_pure _)

theorem resolveChannelPermissions_users (channelId spaceId userId : String) :
    (resolveChannelPermissions channelId spaceId userId).Ignores (withUsers users) := by
  refine (resolveMemberPermissions_users users _ _).bind (fun perms => ?_)
  refine ignores_ite (ignores_pure _) ?_
  refine Ignores.bind (fun _ => rfl) (fun channel => ?_)
  refine (ignores_require _ _).bind (fun _ => ?_)
  refine Ignores.bind (fun _ => rfl) (fun overwrites => ?_)
  refine ignores_ite (ignores_pure _) ?_
  refine Ignores.bind (fun _ => rfl) (fun roles => ?_)
  exact Ignores.bind (fun _ => rfl) (fun _ => ignores_pure _)

theorem requireGuestChannelPermission_users (channel : ChannelRow) (auth : AuthUser)
    (perm : String) :
    (requireGuestChannelPermission channel auth perm).Ignores (withUsers users) := by
  refine ignores_ite (ignores_fail _) ?_
  cases channel.spaceId with
  | none => exact ignores_fail _
  | some spaceId =>
    refine (ignores_require _ _).bind (fun _ => ?_)
    refine (ignores_require _ _).bind (fun _ => ?_)
    exact (ignores_require _ _).bind (fun _ => ignores_pure _)

theorem requireChannelPermission_users (channelId : String) (auth : AuthUser) (perm : String) :
    (requireChannelPermission channelId auth perm).Ignores (withUsers users) := by
  refine Ignores.bind (fun _ => rfl) (fun channel => ?_)
  refine ignores_ite (requireGuestChannelPermission_users users _ _ _) ?_
  refine ignores_ite ?_ ?_
  · refine Ignores.bind ?_ (fun _ => ignores_pure _)
    exact Ignores.bind (fun _ => rfl) (fun _ => ignores_require _ _)
  · cases channel.spaceId with
    | none => exact ignores_fail _
    | some spaceId =>
      refine ignores_ite (ignores_pure _) ?_
      refine (resolveChannelPermissions_users users _ _ _).bind (fun perms => ?_)
      exact (ignores_require _ _).bind (fun _ => ignores_pure _)

end

def member (userId : String) : AuthUser := { userId := userId }

def requireChannelMembership (channelId userId : String) : Query String :=
  requireChannelPermission channelId (member userId) "view_channel"

def i64Max : Int := 2 ^ 63 - 1

def getHighestRolePosition (spaceId userId : String) : Query Int := do
  let space ← Spaces.getSpaceRow spaceId
  if space.ownerId = userId then return i64Max
  else
    let roleIds ← Members.getMemberRoleIds spaceId userId
    if roleIds.isEmpty then return 0
    else
      let roles ← Roles.listRoles spaceId
      return ((roles.filter (fun r => roleIds.contains r.id)).map RoleRow.position).max?.getD 0

def requireHierarchy (spaceId : String) (auth : AuthUser) (targetId : String) : Query Unit := do
  if auth.isAdmin then return ()
  else
    let actorPos ← getHighestRolePosition spaceId auth.userId
    let targetPos ← getHighestRolePosition spaceId targetId
    Query.require (targetPos < actorPos)
      (.forbidden "you cannot act on a member with an equal or higher role")

def requireRoleHierarchy (spaceId actorId : String) (rolePosition : Int) : Query Unit := do
  let actorPos ← getHighestRolePosition spaceId actorId
  Query.require (rolePosition < actorPos)
    (.forbidden "you cannot manage a role at or above your highest role")

def requireGuestAccess (channel : ChannelRow) (auth : AuthUser) : Query Unit := do
  if auth.isGuest then
    match channel.spaceId with
    | none => Query.fail (.forbidden "guests cannot access DMs")
    | some spaceId =>
      let space ← Spaces.getSpaceRow spaceId
      Query.require space.allowGuestAccess (.forbidden "guest access is disabled")
  else return ()

def requireAnonymousAccess (channel : ChannelRow) : Query Unit := do
  if channel.allowAnonymousRead then
    match channel.spaceId with
    | some spaceId =>
      let space ← Spaces.getSpaceRow spaceId
      Query.require space.isPublic (.unauthorized "authentication required")
    | none => Query.fail (.unauthorized "authentication required")
  else Query.fail (.unauthorized "authentication required")

def requireHistory (channelId : String) (auth : AuthUser) (history : Bool) : Query Unit := do
  if history then
    let _ ← requireChannelPermission channelId auth "read_history"
    return ()
  else return ()

def requireChannelReadAccess (channel : ChannelRow) (auth : Option AuthUser) (history : Bool) :
    Query Unit := do
  match auth with
  | some auth =>
    requireGuestAccess channel auth
    let _ ← requireChannelPermission channel.id auth "view_channel"
    requireHistory channel.id auth history
  | none => requireAnonymousAccess channel

end Vokusz.Permissions
