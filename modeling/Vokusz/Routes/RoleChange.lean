import Mathlib.Data.List.Induction
import Vokusz.Permissions.Rank
import Vokusz.Routes.Roles

namespace Vokusz.Routes.Roles

open Db Permissions
open Db.Roles (CreateRole UpdateRole)
open Lib (Prog)

inductive RoleRequest where
  | createRole (spaceId : String) (input : CreateRole)
  | updateRole (spaceId roleId : String) (input : UpdateRole)
  | deleteRole (spaceId roleId : String)
  | reorderRoles (spaceId : String) (updates : List (String × Int))
  | addRole (spaceId userId roleId : String)
  | removeRole (spaceId userId roleId : String)
  | updateMember (spaceId userId : String) (input : Db.Members.UpdateMember)
      (admission : Except AppError Unit)

def RoleRequest.serve (auth : AuthUser) : RoleRequest → App Json
  | .createRole spaceId input => Roles.createRole spaceId auth input
  | .updateRole spaceId roleId input => Roles.updateRole spaceId roleId auth input
  | .deleteRole spaceId roleId => Roles.deleteRole spaceId roleId auth
  | .reorderRoles spaceId updates => Roles.reorderRoles spaceId auth updates
  | .addRole spaceId userId roleId => Members.addRole spaceId userId roleId auth
  | .removeRole spaceId userId roleId => Members.removeRole spaceId userId roleId auth
  | .updateMember spaceId userId input admission =>
    Members.updateMember spaceId userId auth input admission

def serveAll (auth : AuthUser) (s : AppState) (reqs : List RoleRequest) : AppState :=
  reqs.foldl (fun s req => ((req.serve auth).exec s).2) s

def Below (db : Tables) (actorId spaceId : String) (position : Int) : Prop :=
  ∃ h, getHighestRolePosition spaceId actorId db = .ok h ∧ position < h

def Outranks (db : Tables) (actorId spaceId userId : String) : Prop :=
  ∃ h, getHighestRolePosition spaceId userId db = .ok h ∧ Below db actorId spaceId h

inductive Change (auth : AuthUser) (db : Tables) :
    RoleRequest → List RoleRow → List MemberRole → Prop
  | same (req) : Change auth db req db.roles db.memberRoles
  | create (req) {space : SpaceRow} {row : RoleRow}
      (hspace : Spaces.getSpaceRow row.spaceId db = .ok space)
      (howner : space.ownerId = auth.userId) (hfresh : db.hasRole row.id = false) :
      Change auth db req (db.roles ++ [row]) db.memberRoles
  | update (req) {role : RoleRow} {input : UpdateRole} (hrole : role ∈ db.roles)
      (hbelow : Below db auth.userId role.spaceId role.position)
      (hposition : input.position = none)
      (hheld : ∀ p ∈ input.permissions.getD [],
        HoldsInSpace db role.spaceId auth.userId p) :
      Change auth db req (Lib.Table.update RoleRow.id role.id input.apply db.roles)
        db.memberRoles
  | delete (req) {role : RoleRow} (hrole : role ∈ db.roles)
      (hbelow : Below db auth.userId role.spaceId role.position)
      (hposition : role.position ≠ 0) :
      Change auth db req (Lib.Table.delete RoleRow.id role.id db.roles)
        (db.memberRoles.filter (fun m => m.roleId ≠ role.id))
  | reorder (req) {spaceId : String} {position : RoleRow → Int}
      (hmoved : ∀ r ∈ db.roles, position r = r.position ∨
        r.spaceId = spaceId ∧ Below db auth.userId spaceId r.position ∧
          Below db auth.userId spaceId (position r))
      (hzero : ∀ r ∈ db.roles, position r = 0 ↔ r.position = 0) :
      Change auth db req (db.roles.map (fun r => { r with position := position r }))
        db.memberRoles
  | assign {userId : String} {role : RoleRow} (hrole : role ∈ db.roles)
      (hbelow : Below db auth.userId role.spaceId role.position)
      (hcheck : Members.checkRoleChange role.spaceId userId role.id auth db = .ok ()) :
      Change auth db (.addRole role.spaceId userId role.id) db.roles
        (Lib.Table.insertNew Members.memberRoleKey ⟨userId, role.spaceId, role.id⟩
          db.memberRoles)
  | unassign (req) {userId : String} {role : RoleRow} (hrole : role ∈ db.roles)
      (hbelow : Below db auth.userId role.spaceId role.position) :
      Change auth db req db.roles
        (Lib.Table.delete Members.memberRoleKey (userId, role.spaceId, role.id) db.memberRoles)
  | replace (req) {spaceId userId : String} {ids : List String}
      (houtranks : Outranks db auth.userId spaceId userId)
      (hroles : ∀ id ∈ ids, ∃ role ∈ db.roles, role.id = id ∧ role.spaceId = spaceId ∧
        Below db auth.userId spaceId role.position) :
      Change auth db req db.roles
        ((Members.clearRoles spaceId userId db).memberRoles ++
          ids.map (fun id => ⟨userId, spaceId, id⟩))

section

variable {auth : AuthUser} {db : Tables} {spaceId userId roleId p : String} {position : Int}
  {role : RoleRow}

theorem requireRoleHierarchy_ok (h : requireRoleHierarchy spaceId userId position db = .ok ()) :
    Below db userId spaceId position := by
  obtain ⟨hi, hhigh, hreq⟩ := (Query.bind_ok db).mp h
  exact ⟨hi, hhigh, Query.require_holds hreq⟩

theorem requireBelow_ok (hadmin : auth.isAdmin = false)
    (h : Members.requireBelow spaceId auth position db = .ok ()) :
    Below db auth.userId spaceId position := by
  rw [Members.requireBelow, hadmin] at h
  exact requireRoleHierarchy_ok h

theorem requireHierarchy_ok (hadmin : auth.isAdmin = false)
    (h : requireHierarchy spaceId auth userId db = .ok ()) :
    Outranks db auth.userId spaceId userId := by
  rw [requireHierarchy, hadmin] at h
  obtain ⟨actor, hactor, h⟩ := (Query.bind_ok db).mp h
  obtain ⟨target, htarget, h⟩ := (Query.bind_ok db).mp h
  exact ⟨target, htarget, actor, hactor, Query.require_holds h⟩

theorem roleInSpace_ok (h : Members.roleInSpace spaceId roleId db = .ok role) :
    role ∈ db.roles ∧ role.id = roleId ∧ role.spaceId = spaceId := by
  obtain ⟨r, hr, h⟩ := (Query.bind_ok db).mp h
  obtain ⟨_, hreq, h⟩ := (Query.bind_ok db).mp h
  cases h
  unfold Db.Roles.getRoleRow at hr
  cases hlookup : Lib.Table.lookup RoleRow.id roleId db.roles with
  | none =>
    rw [hlookup] at hr
    cases hr
  | some r =>
    rw [hlookup] at hr
    cases hr
    exact ⟨Lib.Table.lookup_mem hlookup, Lib.Table.lookup_key hlookup, Query.require_holds hreq⟩

theorem checkRoleChange_ok (hadmin : auth.isAdmin = false)
    (h : Members.checkRoleChange spaceId userId roleId auth db = .ok ()) :
    ∃ role ∈ db.roles, role.id = roleId ∧ role.spaceId = spaceId ∧
      Below db auth.userId spaceId role.position := by
  obtain ⟨_, _, h⟩ := (Query.bind_ok db).mp h
  obtain ⟨_, _, h⟩ := (Query.bind_ok db).mp h
  obtain ⟨role, hrole, h⟩ := (Query.bind_ok db).mp h
  obtain ⟨hmem, hid, hspace⟩ := roleInSpace_ok hrole
  exact ⟨role, hmem, hid, hspace, requireBelow_ok hadmin h⟩

theorem checkRoleList_ok (hadmin : auth.isAdmin = false) {ids : List String}
    (h : Members.checkRoleList spaceId auth ids db = .ok ()) :
    ∀ id ∈ ids, ∃ role ∈ db.roles, role.id = id ∧ role.spaceId = spaceId ∧
      Below db auth.userId spaceId role.position := by
  induction ids with
  | nil =>
    intro id hid
    cases hid
  | cons x ids ih =>
    obtain ⟨role, hrole, h⟩ := (Query.bind_ok db).mp h
    obtain ⟨_, hbelow, hrest⟩ := (Query.bind_ok db).mp h
    intro id hid
    rcases List.mem_cons.mp hid with rfl | hid
    · obtain ⟨hmem, hid, hspace⟩ := roleInSpace_ok hrole
      exact ⟨role, hmem, hid, hspace, requireBelow_ok hadmin hbelow⟩
    · exact ih hrest id hid

theorem checkHeld_ok {actorPerms perms : List String}
    (h : checkHeld actorPerms perms db = .ok ()) : ∀ p ∈ perms, p ∈ actorPerms := by
  induction perms with
  | nil =>
    intro p hp
    cases hp
  | cons x perms ih =>
    obtain ⟨_, hx, hrest⟩ := (Query.bind_ok db).mp h
    intro p hp
    rcases List.mem_cons.mp hp with rfl | hp
    · exact Query.require_holds hx
    · exact ih hrest p hp

theorem validateOptional_ok (hadmin : auth.isAdmin = false) {permissions : Option (List String)}
    (h : validateOptional spaceId auth permissions db = .ok ()) :
    ∀ p ∈ permissions.getD [], HoldsInSpace db spaceId auth.userId p := by
  cases permissions with
  | none =>
    intro p hp
    cases hp
  | some permissions =>
    obtain ⟨_, _, h⟩ := (Query.bind_ok db).mp h
    obtain ⟨actorPerms, hactor, h⟩ := (Query.bind_ok db).mp h
    rw [hadmin] at hactor
    intro p hp
    refine ⟨actorPerms, hactor, ?_⟩
    by_cases hall : actorPerms.any (fun p => p = "administrator") = true
    · exact hasPermission_iff.mpr (.inl (by simpa using hall))
    · rw [if_neg hall] at h
      exact hasPermission_iff.mpr (.inr (checkHeld_ok h p hp))

theorem checkUpdate_ok (hadmin : auth.isAdmin = false) {input : UpdateRole}
    (h : checkUpdate spaceId roleId auth input db = .ok ()) :
    ∃ role ∈ db.roles, role.id = roleId ∧ Below db auth.userId role.spaceId role.position ∧
      ∀ p ∈ input.permissions.getD [], HoldsInSpace db role.spaceId auth.userId p := by
  obtain ⟨_, _, h⟩ := (Query.bind_ok db).mp h
  obtain ⟨role, hrole, h⟩ := (Query.bind_ok db).mp h
  obtain ⟨_, hbelow, h⟩ := (Query.bind_ok db).mp h
  obtain ⟨_, hvalid, _⟩ := (Query.bind_ok db).mp h
  obtain ⟨hmem, hid, rfl⟩ := roleInSpace_ok hrole
  exact ⟨role, hmem, hid, requireBelow_ok hadmin hbelow, validateOptional_ok hadmin hvalid⟩

theorem checkDelete_ok (hadmin : auth.isAdmin = false)
    (h : checkDelete spaceId roleId auth db = .ok ()) :
    ∃ role ∈ db.roles, role.id = roleId ∧ role.position ≠ 0 ∧
      Below db auth.userId role.spaceId role.position := by
  obtain ⟨_, _, h⟩ := (Query.bind_ok db).mp h
  obtain ⟨role, hrole, h⟩ := (Query.bind_ok db).mp h
  obtain ⟨_, hposition, hbelow⟩ := (Query.bind_ok db).mp h
  obtain ⟨hmem, hid, rfl⟩ := roleInSpace_ok hrole
  refine ⟨role, hmem, hid, ?_, requireBelow_ok hadmin hbelow⟩
  intro hzero
  rw [Query.require_apply, if_neg (not_not.mpr hzero)] at hposition
  cases hposition

theorem checkCreate_ok (hadmin : auth.isAdmin = false) {input : CreateRole}
    (h : checkCreate spaceId auth input db = .ok ()) :
    ∃ space, Spaces.getSpaceRow spaceId db = .ok space ∧ space.ownerId = auth.userId := by
  obtain ⟨_, _, h⟩ := (Query.bind_ok db).mp h
  obtain ⟨_, _, h⟩ := (Query.bind_ok db).mp h
  obtain ⟨_, _, h⟩ := (Query.bind_ok db).mp h
  obtain ⟨space, hspace, h⟩ := (Query.bind_ok db).mp h
  have howner := Query.require_holds h
  rw [hadmin] at howner
  exact ⟨space, hspace, howner.resolve_left Bool.false_ne_true⟩

end

section

variable {γ : Type} {view : AppState → γ}

theorem preserves_broadcastRolesChanged (spaceId : String)
    (htx : ∀ (s : AppState) tx, view { s with gatewayTx := tx } = view s) :
    (broadcastRolesChanged spaceId).Preserves view := by
  refine (App.preserves_lift _).bind (fun row => ?_)
  refine (Spaces.preserves_spaceWithMetadata row).bind (fun _ => ?_)
  exact Prog.preserves_modify (fun s => htx s _)

theorem preserves_broadcastMember (spaceId userId : String)
    (htx : ∀ (s : AppState) tx, view { s with gatewayTx := tx } = view s) :
    (Members.broadcastMember spaceId userId).Preserves view := by
  refine (App.preserves_lift _).bind (fun row => ?_)
  refine (App.preserves_lift _).bind (fun roleIds => ?_)
  exact Prog.preserves_modify (fun s => htx s _)

theorem preserves_dropOldAvatar (spaceId userId : String)
    (hfiles : ∀ (s : AppState) files, view { s with files := files } = view s) :
    (Members.dropOldAvatar spaceId userId).Preserves view := by
  refine (App.preserves_lift _).bind (fun old => ?_)
  cases old.avatar with
  | none => exact Prog.preserves_pure _
  | some avatar =>
    exact (Storage.preserves_deleteFile avatar hfiles).attempt.bind
      (fun _ => Prog.preserves_pure _)

theorem preserves_storeAvatar (spaceId userId : String) (admission : Except AppError Unit)
    (avatar : Option String)
    (hfiles : ∀ (s : AppState) files, view { s with files := files } = view s) :
    (Members.storeAvatar spaceId userId admission avatar).Preserves view := by
  refine (Prog.preserves_get _).bind (fun maxSize => ?_)
  cases avatar with
  | none => exact Prog.preserves_pure _
  | some avatar =>
    refine Prog.preserves_ite ?_ (Prog.preserves_ite ?_ (Prog.preserves_pure _))
    · refine (preserves_dropOldAvatar spaceId userId hfiles).bind (fun _ => ?_)
      exact (Storage.preserves_saveAvatarImage _ _ _ _ _ hfiles).bind
        (fun _ => Prog.preserves_pure _)
    · refine (preserves_dropOldAvatar spaceId userId hfiles).bind (fun _ => ?_)
      exact Prog.Preserves.bind (Prog.preserves_modify (fun s => hfiles s _))
        (fun _ => Prog.preserves_pure _)

theorem preserves_setWhen {α : Type} (spaceId userId : String) (value : Option α)
    (f : α → MemberRow → MemberRow)
    (hset : ∀ (s : AppState) v,
      view (s.withDb (Members.setMember spaceId userId (f v) s.db)) = view s) :
    (Members.setWhen spaceId userId value f).Preserves view := by
  cases value with
  | none => exact Prog.preserves_pure _
  | some v => exact App.preserves_update (fun s => hset s v)

end

section

variable {s : AppState}

theorem exec_setWhen {α : Type} (spaceId userId : String) (value : Option α)
    (f : α → MemberRow → MemberRow) :
    ∃ t, (Members.setWhen spaceId userId value f).exec s = (.ok (), t) ∧
      t.db.roles = s.db.roles ∧ t.db.memberRoles = s.db.memberRoles := by
  cases value with
  | none => exact ⟨s, rfl, rfl, rfl⟩
  | some v => exact ⟨_, App.exec_update _, rfl, rfl⟩

theorem exec_insertRoles (spaceId userId : String) (ids : List String) (s : AppState) :
    ∃ pre, pre <+: ids ∧
      ((Prog.forEach ids (fun id => Members.insertRole ⟨userId, spaceId, id⟩)).exec s).2.db =
        { s.db with
          memberRoles := s.db.memberRoles ++ pre.map (fun id => ⟨userId, spaceId, id⟩) } := by
  induction ids generalizing s with
  | nil => exact ⟨[], List.prefix_rfl, by simp⟩
  | cons id ids ih =>
    rw [Prog.forEach_cons]
    rcases Prog.exec_bind_cases (Members.insertRole ⟨userId, spaceId, id⟩)
      (fun _ => Prog.forEach ids (fun id => Members.insertRole ⟨userId, spaceId, id⟩)) s with
      ⟨e, t, hrow, hexec⟩ | ⟨_, t, hrow, hexec⟩
    · refine ⟨[], List.nil_prefix, ?_⟩
      rw [hexec]
      rw [Members.insertRole, App.exec_write] at hrow
      split at hrow
      · cases hrow
        simp
      · cases hrow
    · rw [Members.insertRole, App.exec_write] at hrow
      split at hrow
      · cases hrow
      · cases hrow
        obtain ⟨pre, hpre, hdb⟩ := ih (s.withDb _)
        refine ⟨id :: pre, List.cons_prefix_cons.mpr ⟨rfl, hpre⟩, ?_⟩
        rw [hexec, hdb]
        simp

theorem exec_updateRoles (spaceId userId : String) (roles : Option (List String))
    (s : AppState) :
    ((Members.updateRoles spaceId userId roles).exec s).2.db.roles = s.db.roles ∧
      (((Members.updateRoles spaceId userId roles).exec s).2.db.memberRoles =
          s.db.memberRoles ∨
        ∃ ids pre, roles = some ids ∧ pre <+: ids ∧
          ((Members.updateRoles spaceId userId roles).exec s).2.db.memberRoles =
            (Members.clearRoles spaceId userId s.db).memberRoles ++
              pre.map (fun id => ⟨userId, spaceId, id⟩)) := by
  cases roles with
  | none => exact ⟨rfl, .inl rfl⟩
  | some ids =>
    rw [Members.updateRoles, Members.replaceRoles, Prog.exec_bind_of_ok (App.exec_update _)]
    obtain ⟨pre, hpre, hdb⟩ := exec_insertRoles spaceId userId ids
      (s.withDb (Members.clearRoles spaceId userId s.db))
    rw [hdb]
    exact ⟨rfl, .inr ⟨ids, pre, rfl, hpre, rfl⟩⟩

theorem exec_updateMember (spaceId userId : String) (input : Db.Members.UpdateMember)
    (s : AppState) :
    ((Db.Members.updateMember spaceId userId input).exec s).2.db.roles = s.db.roles ∧
      (((Db.Members.updateMember spaceId userId input).exec s).2.db.memberRoles =
          s.db.memberRoles ∨
        ∃ ids pre, input.roles = some ids ∧ pre <+: ids ∧
          ((Db.Members.updateMember spaceId userId input).exec s).2.db.memberRoles =
            (Members.clearRoles spaceId userId s.db).memberRoles ++
              pre.map (fun id => ⟨userId, spaceId, id⟩)) := by
  unfold Db.Members.updateMember
  obtain ⟨t₁, h₁, hr₁, hm₁⟩ := exec_setWhen (s := s) spaceId userId input.nickname
    (fun v m => { m with nickname := some v })
  obtain ⟨t₂, h₂, hr₂, hm₂⟩ := exec_setWhen (s := t₁) spaceId userId input.avatar
    (fun v m => { m with avatar := if v = "" then none else some v })
  obtain ⟨t₃, h₃, hr₃, hm₃⟩ := exec_setWhen (s := t₂) spaceId userId input.mute
    (fun v m => { m with mute := v })
  obtain ⟨t₄, h₄, hr₄, hm₄⟩ := exec_setWhen (s := t₃) spaceId userId input.deaf
    (fun v m => { m with deaf := v })
  obtain ⟨t₅, h₅, hr₅, hm₅⟩ := exec_setWhen (s := t₄) spaceId userId
    input.communicationDisabledUntil (fun v m => { m with timedOutUntil := v })
  rw [Prog.exec_bind_of_ok h₁, Prog.exec_bind_of_ok h₂, Prog.exec_bind_of_ok h₃,
    Prog.exec_bind_of_ok h₄, Prog.exec_bind_of_ok h₅]
  have hroles : t₅.db.roles = s.db.roles := by rw [hr₅, hr₄, hr₃, hr₂, hr₁]
  have hassigned : t₅.db.memberRoles = s.db.memberRoles := by rw [hm₅, hm₄, hm₃, hm₂, hm₁]
  obtain ⟨hkeep, hcases⟩ := exec_updateRoles spaceId userId input.roles t₅
  have hclear : (Members.clearRoles spaceId userId t₅.db).memberRoles =
      (Members.clearRoles spaceId userId s.db).memberRoles := by
    simp only [Members.clearRoles, hassigned]
  rw [App.exec_bind_db (fun _ => App.preserves_lift _), hkeep, hroles, ← hassigned, ← hclear]
  exact ⟨rfl, hcases⟩

theorem exec_createChecked (spaceId : String) (input : CreateRole) (s : AppState) :
    ((createChecked spaceId input).exec s).2.db = s.db ∨
      ∃ row : RoleRow, row.spaceId = spaceId ∧ s.db.hasRole row.id = false ∧
        ((createChecked spaceId input).exec s).2.db = Db.Roles.insertRow row s.db := by
  unfold createChecked
  rw [App.exec_bind_db (fun row => (preserves_broadcastRolesChanged spaceId
    (fun _ _ => rfl)).bind (fun _ => Prog.preserves_pure _))]
  unfold Db.Roles.createRole
  rw [Prog.exec_bind_of_ok App.exec_generateId, Prog.exec_bind_of_ok
    ((App.exec_lift_ok (q := Db.Roles.maxPosition spaceId)).mpr ⟨rfl, rfl⟩)]
  rw [App.exec_bind_db (fun _ => App.preserves_lift _), App.exec_write]
  split
  · exact .inl rfl
  · rename_i hok
    refine .inr ⟨_, rfl, ?_, rfl⟩
    by_contra hused
    rw [Bool.not_eq_false] at hused
    change s.db.hasRole (toString s.snowflake) = true at hused
    dsimp only at hok
    rw [hused] at hok
    cases hok

theorem exec_memberUpdateChecked (spaceId userId : String) (admission : Except AppError Unit)
    (input : Db.Members.UpdateMember) (s : AppState) :
    ((Members.updateChecked spaceId userId admission input).exec s).2.db.roles = s.db.roles ∧
      (((Members.updateChecked spaceId userId admission input).exec s).2.db.memberRoles =
          s.db.memberRoles ∨
        ∃ ids pre, input.roles = some ids ∧ pre <+: ids ∧
          ((Members.updateChecked spaceId userId admission input).exec s).2.db.memberRoles =
            (Members.clearRoles spaceId userId s.db).memberRoles ++
              pre.map (fun id => ⟨userId, spaceId, id⟩)) := by
  unfold Members.updateChecked
  have hstore := preserves_storeAvatar spaceId userId admission input.avatar
    (fun (_ : AppState) _ => (rfl : AppState.db _ = AppState.db _))
  rcases Prog.exec_bind_cases (Members.storeAvatar spaceId userId admission input.avatar) _ s with
    ⟨e, t, havatar, hexec⟩ | ⟨avatar, t, havatar, hexec⟩
  · rw [hexec, hstore.of_exec havatar]
    exact ⟨rfl, .inl rfl⟩
  · rw [hexec, App.exec_bind_db]
    · have hdb : t.db = s.db := hstore.of_exec havatar
      rw [← hdb]
      exact exec_updateMember spaceId userId { input with avatar := avatar } t
    · intro row
      refine (App.preserves_lift _).bind (fun roleIds => ?_)
      exact Prog.Preserves.bind (Prog.preserves_modify (fun _ => rfl))
        (fun _ => Prog.preserves_pure _)

end

section

variable {auth : AuthUser} {db : Tables} {spaceId : String}

def movedPosition (spaceId : String) (updates : List (String × Int)) (r : RoleRow) : Int :=
  updates.foldl (fun p u => if r.id = u.1 ∧ r.spaceId = spaceId then u.2 else p) r.position

theorem foldl_moveRow (updates : List (String × Int)) (rows : List RoleRow) :
    updates.foldl (Db.Roles.moveRow spaceId) rows =
      rows.map (fun r => { r with position := movedPosition spaceId updates r }) := by
  induction updates generalizing rows with
  | nil => simp [movedPosition]
  | cons u updates ih =>
    rw [List.foldl_cons, ih, Db.Roles.moveRow, List.map_map]
    apply List.map_congr_left
    intro r _
    by_cases hr : r.id = u.1 ∧ r.spaceId = spaceId
    · simp [movedPosition, hr.1, hr.2]
    · simp [movedPosition, hr]

theorem movedPosition_cases (updates : List (String × Int)) (r : RoleRow) :
    movedPosition spaceId updates r = r.position ∨
      ∃ u ∈ updates, r.id = u.1 ∧ r.spaceId = spaceId ∧
        movedPosition spaceId updates r = u.2 := by
  induction updates using List.reverseRecOn with
  | nil => exact .inl rfl
  | append_singleton updates u ih =>
    have hlast : movedPosition spaceId (updates ++ [u]) r =
        if r.id = u.1 ∧ r.spaceId = spaceId then u.2 else movedPosition spaceId updates r := by
      simp [movedPosition]
    by_cases hr : r.id = u.1 ∧ r.spaceId = spaceId
    · refine .inr ⟨u, by simp, hr.1, hr.2, ?_⟩
      rw [hlast, if_pos hr]
    · rw [hlast, if_neg hr]
      rcases ih with h | ⟨v, hv, hid, hspace, h⟩
      · exact .inl h
      · exact .inr ⟨v, by simp [hv], hid, hspace, h⟩

theorem checkMove_ok (hadmin : auth.isAdmin = false) {old new : Int}
    (h : checkMove spaceId auth old new db = .ok ()) :
    old = new ∨ Below db auth.userId spaceId old ∧ Below db auth.userId spaceId new := by
  by_cases heq : old = new
  · exact .inl heq
  · rw [checkMove, if_neg heq] at h
    obtain ⟨_, hold, hnew⟩ := (Query.bind_ok db).mp h
    exact .inr ⟨requireBelow_ok hadmin hold, requireBelow_ok hadmin hnew⟩

theorem checkOrder_ok (hadmin : auth.isAdmin = false) {roles : List RoleRow}
    {seen : List String} {updates : List (String × Int)}
    (h : checkOrder spaceId auth roles seen updates db = .ok ()) :
    ∀ u ∈ updates, ∃ role ∈ roles, role.id = u.1 ∧ (role.position = 0 ↔ u.2 = 0) ∧
      (role.position = u.2 ∨ Below db auth.userId spaceId role.position ∧
        Below db auth.userId spaceId u.2) := by
  induction updates generalizing seen with
  | nil =>
    intro u hu
    cases hu
  | cons x updates ih =>
    rw [checkOrder] at h
    cases hfind : roles.find? (fun r => r.id = x.1) with
    | none =>
      rw [hfind] at h
      cases h
    | some role =>
      rw [hfind] at h
      obtain ⟨_, hvalid, h⟩ := (Query.bind_ok db).mp h
      obtain ⟨_, hmove, hrest⟩ := (Query.bind_ok db).mp h
      intro u hu
      rcases List.mem_cons.mp hu with rfl | hu
      · refine ⟨role, List.mem_of_find?_eq_some hfind, by simpa using List.find?_some hfind,
          ?_, checkMove_ok hadmin hmove⟩
        exact (Query.require_holds hvalid).2.2
      · exact ih hrest u hu

theorem checkReorder_ok (hadmin : auth.isAdmin = false) (hkeys : RoleKeys db)
    {updates : List (String × Int)} (h : checkReorder spaceId auth updates db = .ok ())
    {r : RoleRow} (hr : r ∈ db.roles) :
    (movedPosition spaceId updates r = r.position ∨
      r.spaceId = spaceId ∧ Below db auth.userId spaceId r.position ∧
        Below db auth.userId spaceId (movedPosition spaceId updates r)) ∧
      (movedPosition spaceId updates r = 0 ↔ r.position = 0) := by
  obtain ⟨_, _, h⟩ := (Query.bind_ok db).mp h
  obtain ⟨roles, hroles, h⟩ := (Query.bind_ok db).mp h
  cases hroles
  rcases @movedPosition_cases spaceId updates r with hsame | ⟨u, hu, hid, hspace, hpos⟩
  · rw [hsame]
    exact ⟨.inl rfl, Iff.rfl⟩
  · obtain ⟨role, hrole, hroleId, hzero, hmove⟩ := checkOrder_ok hadmin h u hu
    cases hkeys.eq_of_id (mem_inSpace.mp hrole).1 hr (hroleId.trans hid.symm)
    rw [hpos]
    refine ⟨?_, hzero.symm⟩
    rcases hmove with heq | ⟨hold, hnew⟩
    · exact .inl heq.symm
    · exact .inr ⟨hspace, hold, hnew⟩

end

section

variable {auth : AuthUser} {s : AppState}

section

variable (hadmin : auth.isAdmin = false)

include hadmin

theorem change_createRole (spaceId : String) (input : CreateRole) :
    Change auth s.db (.createRole spaceId input)
      ((createRole spaceId auth input).exec s).2.db.roles
      ((createRole spaceId auth input).exec s).2.db.memberRoles := by
  have hsplit : ((createRole spaceId auth input).exec s).2 = s ∨
      ∃ b, checkCreate spaceId auth input s.db = .ok b ∧
        (createRole spaceId auth input).exec s = (createChecked spaceId input).exec s :=
    App.exec_checked _ _ s
  rcases hsplit with hsame | ⟨_, hcheck, hexec⟩
  · rw [hsame]
    exact .same _
  · obtain ⟨space, hspace, howner⟩ := checkCreate_ok hadmin hcheck
    rw [hexec]
    rcases exec_createChecked spaceId input s with hdb | ⟨row, rfl, hfresh, hdb⟩
    · rw [hdb]
      exact .same _
    · rw [hdb]
      exact .create _ hspace howner hfresh

theorem change_updateRole (spaceId roleId : String) (input : UpdateRole) :
    Change auth s.db (.updateRole spaceId roleId input)
      ((updateRole spaceId roleId auth input).exec s).2.db.roles
      ((updateRole spaceId roleId auth input).exec s).2.db.memberRoles := by
  have hsplit : ((updateRole spaceId roleId auth input).exec s).2 = s ∨
      ∃ b, checkUpdate spaceId roleId auth input s.db = .ok b ∧
        (updateRole spaceId roleId auth input).exec s =
          (updateChecked spaceId roleId input).exec s :=
    App.exec_checked _ _ s
  rcases hsplit with hsame | ⟨_, hcheck, hexec⟩
  · rw [hsame]
    exact .same _
  · obtain ⟨role, hrole, rfl, hbelow, hheld⟩ := checkUpdate_ok hadmin hcheck
    have hdb : ((updateChecked spaceId role.id input).exec s).2.db =
        Db.Roles.updateRow role.id { input with position := none } s.db := by
      unfold updateChecked Db.Roles.updateRole
      rw [App.exec_bind_db (fun row => (preserves_broadcastRolesChanged spaceId
        (fun _ _ => rfl)).bind (fun _ => Prog.preserves_pure _)),
        App.exec_bind_db (fun _ => App.preserves_lift _), App.exec_update]
      rfl
    rw [hexec, hdb]
    exact .update _ hrole hbelow rfl hheld

theorem change_deleteRole (spaceId roleId : String) :
    Change auth s.db (.deleteRole spaceId roleId)
      ((deleteRole spaceId roleId auth).exec s).2.db.roles
      ((deleteRole spaceId roleId auth).exec s).2.db.memberRoles := by
  have hsplit : ((deleteRole spaceId roleId auth).exec s).2.db = s.db ∨
      ∃ b, checkDelete spaceId roleId auth s.db = .ok b ∧
        ((deleteRole spaceId roleId auth).exec s).2.db = Db.Roles.deleteRow roleId s.db :=
    App.exec_guarded_write (checkDelete spaceId roleId auth) (fun _ _ => none)
      (fun _ => Db.Roles.deleteRow roleId) _
      (fun _ => (preserves_broadcastRolesChanged spaceId (fun _ _ => rfl)).bind
        (fun _ => Prog.preserves_pure _)) s
  rcases hsplit with hdb | ⟨_, hcheck, hdb⟩
  · rw [hdb]
    exact .same _
  · obtain ⟨role, hrole, rfl, hposition, hbelow⟩ := checkDelete_ok hadmin hcheck
    rw [hdb]
    exact .delete _ hrole hbelow hposition

theorem change_addRole (spaceId userId roleId : String) :
    Change auth s.db (.addRole spaceId userId roleId)
      ((Members.addRole spaceId userId roleId auth).exec s).2.db.roles
      ((Members.addRole spaceId userId roleId auth).exec s).2.db.memberRoles := by
  have hsplit : ((Members.addRole spaceId userId roleId auth).exec s).2.db = s.db ∨
      ∃ b, Members.checkRoleChange spaceId userId roleId auth s.db = .ok b ∧
        ((Members.addRole spaceId userId roleId auth).exec s).2.db =
          Members.assign ⟨userId, spaceId, roleId⟩ s.db :=
    App.exec_guarded_write (Members.checkRoleChange spaceId userId roleId auth) _
      (fun _ => Members.assign ⟨userId, spaceId, roleId⟩) _
      (fun _ => (preserves_broadcastMember spaceId userId (fun _ _ => rfl)).bind
        (fun _ => Prog.preserves_pure _)) s
  rcases hsplit with hdb | ⟨_, hcheck, hdb⟩
  · rw [hdb]
    exact .same _
  · obtain ⟨role, hrole, rfl, rfl, hbelow⟩ := checkRoleChange_ok hadmin hcheck
    rw [hdb]
    exact .assign hrole hbelow hcheck

theorem change_removeRole (spaceId userId roleId : String) :
    Change auth s.db (.removeRole spaceId userId roleId)
      ((Members.removeRole spaceId userId roleId auth).exec s).2.db.roles
      ((Members.removeRole spaceId userId roleId auth).exec s).2.db.memberRoles := by
  have hsplit : ((Members.removeRole spaceId userId roleId auth).exec s).2.db = s.db ∨
      ∃ b, Members.checkRoleChange spaceId userId roleId auth s.db = .ok b ∧
        ((Members.removeRole spaceId userId roleId auth).exec s).2.db =
          Members.unassign ⟨userId, spaceId, roleId⟩ s.db :=
    App.exec_guarded_write (Members.checkRoleChange spaceId userId roleId auth) (fun _ _ => none)
      (fun _ => Members.unassign ⟨userId, spaceId, roleId⟩) _
      (fun _ => (preserves_broadcastMember spaceId userId (fun _ _ => rfl)).bind
        (fun _ => Prog.preserves_pure _)) s
  rcases hsplit with hdb | ⟨_, hcheck, hdb⟩
  · rw [hdb]
    exact .same _
  · obtain ⟨role, hrole, rfl, rfl, hbelow⟩ := checkRoleChange_ok hadmin hcheck
    rw [hdb]
    exact .unassign _ hrole hbelow

theorem change_reorderRoles (hkeys : RoleKeys s.db) (spaceId : String)
    (updates : List (String × Int)) :
    Change auth s.db (.reorderRoles spaceId updates)
      ((reorderRoles spaceId auth updates).exec s).2.db.roles
      ((reorderRoles spaceId auth updates).exec s).2.db.memberRoles := by
  have hsplit : ((reorderRoles spaceId auth updates).exec s).2.db = s.db ∨
      ∃ b, checkReorder spaceId auth updates s.db = .ok b ∧
        ((reorderRoles spaceId auth updates).exec s).2.db =
          Db.Roles.moveRows spaceId updates s.db := by
    refine App.exec_guarded_write (checkReorder spaceId auth updates) (fun _ _ => none)
      (fun _ => Db.Roles.moveRows spaceId updates) _ (fun _ => ?_) s
    refine (preserves_broadcastRolesChanged spaceId (fun _ _ => rfl)).bind (fun _ => ?_)
    exact (App.preserves_lift _).bind (fun _ => Prog.preserves_pure _)
  rcases hsplit with hdb | ⟨_, hcheck, hdb⟩
  · rw [hdb]
    exact .same _
  · rw [hdb]
    unfold Db.Roles.moveRows
    rw [foldl_moveRow]
    exact .reorder _ (fun r hr => (checkReorder_ok hadmin hkeys hcheck hr).1)
      (fun r hr => (checkReorder_ok hadmin hkeys hcheck hr).2)

theorem checkUpdateMember_roles {db : Tables} {spaceId userId : String} {ext : Externals}
    {input checked : Db.Members.UpdateMember}
    (h : Members.checkUpdateMember spaceId userId auth ext input db = .ok checked)
    {ids : List String} (hids : checked.roles = some ids) :
    Outranks db auth.userId spaceId userId ∧
      ∀ id ∈ ids, ∃ role ∈ db.roles, role.id = id ∧ role.spaceId = spaceId ∧
        Below db auth.userId spaceId role.position := by
  obtain ⟨_, _, h⟩ := (Query.bind_ok db).mp h
  obtain ⟨_, _, h⟩ := (Query.bind_ok db).mp h
  obtain ⟨_, hroles, h⟩ := (Query.bind_ok db).mp h
  obtain ⟨_, _, h⟩ := (Query.bind_ok db).mp h
  obtain ⟨_, _, h⟩ := (Query.bind_ok db).mp h
  obtain ⟨_, _, h⟩ := (Query.bind_ok db).mp h
  obtain ⟨timeout, _, h⟩ := (Query.bind_ok db).mp h
  cases h
  change input.roles = some ids at hids
  rw [hids] at hroles
  obtain ⟨_, _, hroles⟩ := (Query.bind_ok db).mp hroles
  obtain ⟨_, hrank, hlist⟩ := (Query.bind_ok db).mp hroles
  exact ⟨requireHierarchy_ok hadmin hrank, checkRoleList_ok hadmin hlist⟩

theorem change_updateMember (spaceId userId : String) (input : Db.Members.UpdateMember)
    (admission : Except AppError Unit) :
    Change auth s.db (.updateMember spaceId userId input admission)
      ((Members.updateMember spaceId userId auth input admission).exec s).2.db.roles
      ((Members.updateMember spaceId userId auth input admission).exec s).2.db.memberRoles := by
  have hsplit : ((Members.updateMember spaceId userId auth input admission).exec s).2 = s ∨
      ∃ b, Members.checkUpdateMember spaceId userId auth s.ext input s.db = .ok b ∧
        (Members.updateMember spaceId userId auth input admission).exec s =
          (Members.updateChecked spaceId userId admission b).exec s :=
    App.exec_checked (Members.checkUpdateMember spaceId userId auth s.ext input) _ s
  rcases hsplit with hsame | ⟨checked, hcheck, hexec⟩
  · rw [hsame]
    exact .same _
  · rw [hexec]
    obtain ⟨hroles, hassigned | ⟨ids, pre, hids, hpre, hassigned⟩⟩ :=
      exec_memberUpdateChecked spaceId userId admission checked s
    · rw [hroles, hassigned]
      exact .same _
    · obtain ⟨hrank, hlist⟩ := checkUpdateMember_roles hadmin hcheck hids
      rw [hroles, hassigned]
      exact .replace _ hrank (fun id hid => hlist id (hpre.subset hid))

theorem serve_change (hkeys : RoleKeys s.db) (req : RoleRequest) :
    Change auth s.db req ((req.serve auth).exec s).2.db.roles
      ((req.serve auth).exec s).2.db.memberRoles := by
  cases req with
  | createRole spaceId input => exact change_createRole hadmin spaceId input
  | updateRole spaceId roleId input => exact change_updateRole hadmin spaceId roleId input
  | deleteRole spaceId roleId => exact change_deleteRole hadmin spaceId roleId
  | reorderRoles spaceId updates => exact change_reorderRoles hadmin hkeys spaceId updates
  | addRole spaceId userId roleId => exact change_addRole hadmin spaceId userId roleId
  | removeRole spaceId userId roleId => exact change_removeRole hadmin spaceId userId roleId
  | updateMember spaceId userId input admission =>
    exact change_updateMember hadmin spaceId userId input admission

end

def memberKey (m : MemberRow) : String × String := (m.spaceId, m.userId)

def outline (s : AppState) : List SpaceRow × List (String × String) :=
  (s.db.spaces, s.db.members.map memberKey)

theorem preserves_createChecked (spaceId : String) (input : CreateRole) :
    (createChecked spaceId input).Preserves outline := by
  refine Prog.Preserves.bind ?_ (fun row => (preserves_broadcastRolesChanged spaceId
    (fun _ _ => rfl)).bind (fun _ => Prog.preserves_pure _))
  refine (App.preserves_generateId (fun _ _ => rfl)).bind (fun id => ?_)
  refine (App.preserves_lift _).bind (fun maxPos => ?_)
  exact Prog.Preserves.bind (App.preserves_write (fun _ => rfl)) (fun _ => App.preserves_lift _)

theorem preserves_updateChecked (spaceId roleId : String) (input : UpdateRole) :
    (updateChecked spaceId roleId input).Preserves outline := by
  refine Prog.Preserves.bind ?_ (fun row => (preserves_broadcastRolesChanged spaceId
    (fun _ _ => rfl)).bind (fun _ => Prog.preserves_pure _))
  exact Prog.Preserves.bind (App.preserves_update (fun _ => rfl)) (fun _ => App.preserves_lift _)

theorem outline_setMember (spaceId userId : String) (f : MemberRow → MemberRow)
    (hf : ∀ m, memberKey (f m) = memberKey m) (s : AppState) :
    outline (s.withDb (Members.setMember spaceId userId f s.db)) = outline s :=
  Prod.ext rfl (Lib.Table.map_key_update (fun m _ => hf m))

theorem preserves_replaceRoles (spaceId userId : String) (ids : List String) :
    (Members.replaceRoles spaceId userId ids).Preserves outline :=
  Prog.Preserves.bind (App.preserves_update (fun _ => rfl))
    (fun _ => Prog.preserves_forEach (fun _ _ => App.preserves_write (fun _ => rfl)))

theorem preserves_setColumn {α : Type} (spaceId userId : String) (value : Option α)
    (f : α → MemberRow → MemberRow) (hf : ∀ v m, memberKey (f v m) = memberKey m) :
    (Members.setWhen spaceId userId value f).Preserves outline :=
  preserves_setWhen spaceId userId value f
    (fun s v => outline_setMember spaceId userId (f v) (hf v) s)

theorem preserves_updateMember (spaceId userId : String) (input : Db.Members.UpdateMember) :
    (Db.Members.updateMember spaceId userId input).Preserves outline := by
  refine Prog.Preserves.bind (preserves_setColumn _ _ _ _ (fun _ _ => by rfl)) (fun _ => ?_)
  refine Prog.Preserves.bind (preserves_setColumn _ _ _ _ (fun _ _ => by rfl)) (fun _ => ?_)
  refine Prog.Preserves.bind (preserves_setColumn _ _ _ _ (fun _ _ => by rfl)) (fun _ => ?_)
  refine Prog.Preserves.bind (preserves_setColumn _ _ _ _ (fun _ _ => by rfl)) (fun _ => ?_)
  refine Prog.Preserves.bind (preserves_setColumn _ _ _ _ (fun _ _ => by rfl)) (fun _ => ?_)
  refine Prog.Preserves.bind ?_ (fun _ => App.preserves_lift _)
  cases input.roles with
  | none => exact Prog.preserves_pure _
  | some ids => exact preserves_replaceRoles spaceId userId ids

theorem preserves_memberUpdateChecked (spaceId userId : String)
    (admission : Except AppError Unit) (input : Db.Members.UpdateMember) :
    (Members.updateChecked spaceId userId admission input).Preserves outline := by
  refine (preserves_storeAvatar spaceId userId admission input.avatar (fun _ _ => rfl)).bind
    (fun avatar => ?_)
  refine (preserves_updateMember spaceId userId _).bind (fun row => ?_)
  refine (App.preserves_lift _).bind (fun roleIds => ?_)
  exact Prog.Preserves.bind (Prog.preserves_modify (fun _ => rfl))
    (fun _ => Prog.preserves_pure _)

theorem preserves_serve (req : RoleRequest) : (req.serve auth).Preserves outline := by
  cases req with
  | createRole spaceId input =>
    exact (App.preserves_lift _).bind (fun _ => preserves_createChecked spaceId input)
  | updateRole spaceId roleId input =>
    exact (App.preserves_lift _).bind (fun _ => preserves_updateChecked spaceId roleId input)
  | deleteRole spaceId roleId =>
    refine (App.preserves_lift _).bind (fun _ => ?_)
    refine Prog.Preserves.bind (App.preserves_update (fun _ => rfl)) (fun _ => ?_)
    exact (preserves_broadcastRolesChanged spaceId (fun _ _ => rfl)).bind
      (fun _ => Prog.preserves_pure _)
  | reorderRoles spaceId updates =>
    refine (App.preserves_lift _).bind (fun _ => ?_)
    refine Prog.Preserves.bind (App.preserves_update (fun _ => rfl)) (fun _ => ?_)
    refine (preserves_broadcastRolesChanged spaceId (fun _ _ => rfl)).bind (fun _ => ?_)
    exact (App.preserves_lift _).bind (fun _ => Prog.preserves_pure _)
  | addRole spaceId userId roleId =>
    refine (App.preserves_lift _).bind (fun _ => ?_)
    refine Prog.Preserves.bind (App.preserves_write (fun _ => rfl)) (fun _ => ?_)
    exact (preserves_broadcastMember spaceId userId (fun _ _ => rfl)).bind
      (fun _ => Prog.preserves_pure _)
  | removeRole spaceId userId roleId =>
    refine (App.preserves_lift _).bind (fun _ => ?_)
    refine Prog.Preserves.bind (App.preserves_update (fun _ => rfl)) (fun _ => ?_)
    exact (preserves_broadcastMember spaceId userId (fun _ _ => rfl)).bind
      (fun _ => Prog.preserves_pure _)
  | updateMember spaceId userId input admission =>
    refine (Prog.preserves_get _).bind (fun ext => ?_)
    exact (App.preserves_lift _).bind
      (fun checked => preserves_memberUpdateChecked spaceId userId admission checked)

theorem serve_spaces (req : RoleRequest) :
    ((req.serve auth).exec s).2.db.spaces = s.db.spaces :=
  congrArg Prod.fst ((preserves_serve req).exec s)

theorem serve_members (req : RoleRequest) :
    ((req.serve auth).exec s).2.db.members.map memberKey = s.db.members.map memberKey :=
  congrArg Prod.snd ((preserves_serve req).exec s)

end

end Vokusz.Routes.Roles
