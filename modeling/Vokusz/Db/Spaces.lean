import Vokusz.Db.Accounts

namespace Vokusz.Db

open Lib

namespace Tables

def hasSpace (db : Tables) (id : String) : Bool := Table.has SpaceRow.id id db.spaces

def hasMember (db : Tables) (spaceId userId : String) : Bool :=
  db.members.any (fun m => m.spaceId = spaceId && m.userId = userId)

def removeMember (db : Tables) (spaceId userId : String) : Tables :=
  { db with
    members := db.members.filter (fun m => !(m.spaceId = spaceId && m.userId = userId))
    memberRoles := db.memberRoles.filter (fun r => !(r.spaceId = spaceId && r.userId = userId)) }

def hasRole (db : Tables) (id : String) : Bool := Table.has RoleRow.id id db.roles

end Tables

namespace Spaces

def getSpaceRow (spaceId : String) : Query SpaceRow :=
  fun db =>
    match Table.lookup SpaceRow.id spaceId db.spaces with
    | some sp => .ok sp
    | none => .error (.notFound "unknown_space")

theorem getSpaceRow_ok {db : Tables} {spaceId : String} {row : SpaceRow}
    (h : getSpaceRow spaceId db = .ok row) : row ∈ db.spaces ∧ row.id = spaceId := by
  unfold getSpaceRow at h
  cases hlookup : Table.lookup SpaceRow.id spaceId db.spaces with
  | none =>
    rw [hlookup] at h
    cases h
  | some found =>
    rw [hlookup] at h
    cases h
    exact ⟨Table.lookup_mem hlookup, Table.lookup_key hlookup⟩

theorem hasSpace_iff {db : Tables} {spaceId : String} :
    db.hasSpace spaceId = true ↔ ∃ row, getSpaceRow spaceId db = .ok row := by
  rw [Tables.hasSpace, ← Table.lookup_isSome, Option.isSome_iff_exists]
  unfold getSpaceRow
  cases Table.lookup SpaceRow.id spaceId db.spaces <;> simp

def listSpaceIdsForUser (userId : String) : Query (List String) :=
  fun db => .ok ((db.members.filter (fun m => m.userId = userId)).map MemberRow.spaceId)

def countMembers (spaceId : String) : Query Nat :=
  fun db => .ok (db.members.filter (fun m =>
    m.spaceId = spaceId && db.users.any (fun u => u.id = m.userId && !u.system))).length

def countMemberships (userIds : List String) (spaceId : String) : Query Nat :=
  fun db => .ok (db.members.filter (fun m =>
    m.spaceId = spaceId && userIds.contains m.userId &&
      db.users.any (fun u => u.id = m.userId && !u.system))).length

end Spaces

namespace Roles

def inSpace (db : Tables) (spaceId : String) : List RoleRow :=
  Table.orderBy RoleRow.position (db.roles.filter (fun r => r.spaceId = spaceId))

def getRoleRow (roleId : String) : Query RoleRow :=
  fun db =>
    match Table.lookup RoleRow.id roleId db.roles with
    | some r => .ok r
    | none => .error (.notFound "unknown_role")

def listRoles (spaceId : String) : Query (List RoleRow) :=
  fun db => .ok (inSpace db spaceId)

structure CreateRole where
  name : String
  color : Option Int := none
  hoist : Option Bool := none
  permissions : Option (List String) := none
  mentionable : Option Bool := none
  deriving DecidableEq, Repr

structure UpdateRole where
  name : Option String := none
  color : Option Int := none
  hoist : Option Bool := none
  icon : Option String := none
  position : Option Int := none
  permissions : Option (List String) := none
  mentionable : Option Bool := none
  deriving DecidableEq, Repr

def UpdateRole.apply (input : UpdateRole) (r : RoleRow) : RoleRow :=
  { r with
    name := input.name.getD r.name
    color := input.color.getD r.color
    hoist := input.hoist.getD r.hoist
    icon := input.icon.orElse (fun _ => r.icon)
    position := input.position.getD r.position
    permissions := input.permissions.getD r.permissions
    mentionable := input.mentionable.getD r.mentionable }

def newRole (spaceId id : String) (input : CreateRole) (maxPos : Option Int) : RoleRow :=
  { id := id
    spaceId := spaceId
    name := input.name
    position := maxPos.getD 0 + 1
    permissions := input.permissions.getD []
    color := input.color.getD 0
    hoist := input.hoist.getD false
    mentionable := input.mentionable.getD false }

def maxPosition (spaceId : String) : Query (Option Int) :=
  fun db => .ok ((db.roles.filter (fun r => r.spaceId = spaceId)).map RoleRow.position).max?

def insertRow (row : RoleRow) (db : Tables) : Tables := { db with roles := db.roles ++ [row] }

def createRole (spaceId : String) (input : CreateRole) : App RoleRow := do
  let id ← App.generateId
  let maxPos ← maxPosition spaceId
  App.write (fun db => App.unique (!db.hasRole id) <|> App.foreignKey (db.hasSpace spaceId))
    (insertRow (newRole spaceId id input maxPos))
  getRoleRow id

def updateRow (roleId : String) (input : UpdateRole) (db : Tables) : Tables :=
  { db with roles := Table.update RoleRow.id roleId input.apply db.roles }

def updateRole (roleId : String) (input : UpdateRole) : App RoleRow := do
  App.update (updateRow roleId input)
  getRoleRow roleId

def deleteRow (roleId : String) (db : Tables) : Tables :=
  { db with
    roles := Table.delete RoleRow.id roleId db.roles
    memberRoles := db.memberRoles.filter (fun m => m.roleId ≠ roleId)
    emojiRoles := db.emojiRoles.filter (fun e => e.roleId ≠ roleId) }

def deleteRole (roleId : String) : App Unit := App.update (deleteRow roleId)

def moveRow (spaceId : String) (rows : List RoleRow) (u : String × Int) : List RoleRow :=
  rows.map (fun r => if r.id = u.1 ∧ r.spaceId = spaceId then { r with position := u.2 } else r)

def moveRows (spaceId : String) (updates : List (String × Int)) (db : Tables) : Tables :=
  { db with roles := updates.foldl (moveRow spaceId) db.roles }

def reorderRoles (spaceId : String) (updates : List (String × Int)) : App Unit :=
  App.update (moveRows spaceId updates)

end Roles

namespace Members

def getMemberRow (spaceId userId : String) : Query MemberRow :=
  fun db =>
    match db.members.find? (fun m => m.spaceId = spaceId && m.userId = userId) with
    | some m => .ok m
    | none => .error (.notFound "member not found")

theorem getMemberRow_ok {db : Tables} {spaceId userId : String} {row : MemberRow}
    (h : getMemberRow spaceId userId db = .ok row) :
    row ∈ db.members ∧ row.spaceId = spaceId ∧ row.userId = userId := by
  unfold getMemberRow at h
  cases hfind : db.members.find? (fun m => m.spaceId = spaceId && m.userId = userId) with
  | none =>
    rw [hfind] at h
    cases h
  | some found =>
    rw [hfind] at h
    cases h
    have hkey := List.find?_some hfind
    simp only [Bool.and_eq_true, decide_eq_true_eq] at hkey
    exact ⟨List.mem_of_find?_eq_some hfind, hkey⟩

def roleIds (db : Tables) (spaceId userId : String) : List String :=
  (db.memberRoles.filter (fun r => r.userId = userId && r.spaceId = spaceId)).map MemberRole.roleId

def getMemberRoleIds (spaceId userId : String) : Query (List String) :=
  fun db => .ok (roleIds db spaceId userId)

def insertMember (row : MemberRow) (db : Tables) : Tables :=
  { db with
    members := Table.insertNew (fun m : MemberRow => (m.userId, m.spaceId)) row db.members }

def removeMember (spaceId userId : String) : App Unit :=
  App.update (fun db => db.removeMember spaceId userId)

def memberRoleKey (m : MemberRole) : String × String × String := (m.userId, m.spaceId, m.roleId)

def assign (row : MemberRole) (db : Tables) : Tables :=
  { db with memberRoles := Table.insertNew memberRoleKey row db.memberRoles }

def unassign (row : MemberRole) (db : Tables) : Tables :=
  { db with memberRoles := Table.delete memberRoleKey (memberRoleKey row) db.memberRoles }

theorem memberRoleKey_injective {m m' : MemberRole} (h : memberRoleKey m = memberRoleKey m') :
    m = m' := by
  cases m
  cases m'
  simp only [memberRoleKey, Prod.mk.injEq] at h
  simp [h]

theorem mem_assign_self (row : MemberRole) (db : Tables) :
    row ∈ (assign row db).memberRoles := by
  unfold assign Table.insertNew
  dsimp only
  split
  · rename_i hhas
    obtain ⟨m, hm, hkey⟩ := Table.has_iff.mp hhas
    rw [← memberRoleKey_injective hkey]
    exact hm
  · simp

def assignable (row : MemberRole) (db : Tables) : Bool :=
  db.hasMember row.spaceId row.userId && db.hasRole row.roleId

def addRoleToMember (spaceId userId roleId : String) : App Unit :=
  let row : MemberRole := { userId := userId, spaceId := spaceId, roleId := roleId }
  App.write
    (fun db => App.foreignKey
      (Table.has memberRoleKey (memberRoleKey row) db.memberRoles || assignable row db))
    (assign row)

def removeRoleFromMember (spaceId userId roleId : String) : App Unit :=
  App.update (unassign { userId := userId, spaceId := spaceId, roleId := roleId })

structure UpdateMember where
  nickname : Option String := none
  avatar : Option String := none
  roles : Option (List String) := none
  mute : Option Bool := none
  deaf : Option Bool := none
  communicationDisabledUntil : Option (Option String) := none
  deriving DecidableEq, Repr

def setMember (spaceId userId : String) (f : MemberRow → MemberRow) (db : Tables) : Tables :=
  { db with
    members := Table.update (fun m : MemberRow => (m.spaceId, m.userId)) (spaceId, userId) f
      db.members }

def setWhen {α : Type} (spaceId userId : String) (value : Option α)
    (f : α → MemberRow → MemberRow) : App Unit :=
  match value with
  | some v => App.update (setMember spaceId userId (f v))
  | none => return ()

def clearRoles (spaceId userId : String) (db : Tables) : Tables :=
  { db with
    memberRoles := db.memberRoles.filter (fun m => !(m.userId = userId && m.spaceId = spaceId)) }

def insertRole (row : MemberRole) : App Unit :=
  App.write
    (fun db => App.unique (!Table.has memberRoleKey (memberRoleKey row) db.memberRoles) <|>
      App.foreignKey (assignable row db))
    (fun db => { db with memberRoles := db.memberRoles ++ [row] })

def replaceRoles (spaceId userId : String) (roles : List String) : App Unit := do
  App.update (clearRoles spaceId userId)
  Prog.forEach roles (fun roleId =>
    insertRole { userId := userId, spaceId := spaceId, roleId := roleId })

def updateRoles (spaceId userId : String) (roles : Option (List String)) : App Unit :=
  match roles with
  | some roles => replaceRoles spaceId userId roles
  | none => return ()

def updateMember (spaceId userId : String) (input : UpdateMember) : App MemberRow := do
  setWhen spaceId userId input.nickname (fun v m => { m with nickname := some v })
  setWhen spaceId userId input.avatar (fun v m =>
    { m with avatar := if v = "" then none else some v })
  setWhen spaceId userId input.mute (fun v m => { m with mute := v })
  setWhen spaceId userId input.deaf (fun v m => { m with deaf := v })
  setWhen spaceId userId input.communicationDisabledUntil (fun v m =>
    { m with timedOutUntil := v })
  updateRoles spaceId userId input.roles
  getMemberRow spaceId userId

end Members

namespace Bans

def getBan (spaceId userId : String) : Query BanRow :=
  fun db =>
    match db.bans.find? (fun b => b.spaceId = spaceId && b.userId = userId) with
    | some b => .ok b
    | none => .error (.notFound "ban not found")

def createBan (spaceId userId : String) (reason : Option String) (bannedBy : String) :
    App BanRow := do
  App.update (fun db => db.removeMember spaceId userId)
  let now ← App.now
  App.write
    (fun db => App.foreignKey (db.hasUser userId && db.hasSpace spaceId && db.hasUser bannedBy))
    (fun db =>
      { db with
        bans := db.bans.filter (fun b => !(b.spaceId = spaceId && b.userId = userId)) ++
          [{ userId := userId
             spaceId := spaceId
             reason := reason
             bannedBy := some bannedBy
             createdAt := now }] })
  getBan spaceId userId

end Bans

namespace Emojis

structure Emoji where
  id : Option String
  name : String
  animated : Bool
  imageUrl : Option String
  roleIds : List String
  deriving DecidableEq, Repr

def withRoles (db : Tables) (e : EmojiRow) : Emoji :=
  { id := some e.id
    name := e.name
    animated := e.animated
    imageUrl := e.imagePath
    roleIds := (db.emojiRoles.filter (fun r => r.emojiId = e.id)).map EmojiRole.roleId }

def getEmoji (emojiId : String) : Query Emoji :=
  fun db =>
    match Table.lookup EmojiRow.id emojiId db.emojis with
    | some e => .ok (withRoles db e)
    | none => .error (.notFound "unknown_emoji")

def listEmojis (spaceId : String) : Query (List Emoji) :=
  fun db => .ok ((db.emojis.filter (fun e => e.spaceId = spaceId)).map (withRoles db))

def emojiOrigin (emojiId : String) : Query (Option String) :=
  fun db => .ok ((Table.lookup EmojiRow.id emojiId db.emojis).bind EmojiRow.origin)

def emojiSpaceId (emojiId : String) : Query (Option String) :=
  fun db => .ok ((Table.lookup EmojiRow.id emojiId db.emojis).map EmojiRow.spaceId)

def upsertRemoteEmoji (id origin spaceId name : String) (animated : Bool)
    (imageUrl : Option String) (roleIds : List String) : App Unit := do
  App.write
    (fun db => App.foreignKey (Table.has EmojiRow.id id db.emojis || db.hasSpace spaceId))
    (fun db =>
      { db with
        emojis := Table.upsert EmojiRow.id
          { id := id
            spaceId := spaceId
            name := name
            animated := animated
            imagePath := imageUrl
            origin := some origin }
          (fun e =>
            { e with
              name := name
              animated := animated
              imagePath := imageUrl
              origin := some origin })
          db.emojis })
  App.update (fun db =>
    { db with emojiRoles := db.emojiRoles.filter (fun r => r.emojiId ≠ id) })
  Prog.forEach roleIds (fun roleId => do
    let found ← App.query (fun db => .ok (Table.has RoleRow.id roleId db.roles))
    if found then
      App.update (fun db =>
        { db with
          emojiRoles := Table.insertNew (fun r : EmojiRole => (r.emojiId, r.roleId))
            { emojiId := id, roleId := roleId } db.emojiRoles })
    else return ())

def deleteEmoji (emojiId : String) : App (Option String) := do
  let imagePath ← App.query (fun db =>
    .ok ((Table.lookup EmojiRow.id emojiId db.emojis).bind EmojiRow.imagePath))
  App.update (fun db =>
    { db with
      emojis := Table.delete EmojiRow.id emojiId db.emojis
      emojiRoles := db.emojiRoles.filter (fun r => r.emojiId ≠ emojiId) })
  return imagePath

theorem exec_deleteEmoji (s : AppState) (id : String) :
    ∃ image t, (deleteEmoji id).exec s = (.ok image, t) := by
  unfold deleteEmoji
  simp only [Prog.exec_bind, App.exec_query, App.exec_update, Prog.exec_pure]
  exact ⟨_, _, rfl⟩

end Emojis

end Vokusz.Db
