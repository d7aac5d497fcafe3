import Vokusz.Db.SpaceSlugs
import Vokusz.Routes.ChannelEdits
import Vokusz.Routes.RoleChange

namespace Vokusz.Permissions

def basePermissions : List String :=
  ["view_channel", "send_messages", "read_history", "add_reactions", "create_invites",
    "change_nickname", "connect", "speak", "use_vad", "embed_links", "attach_files",
    "use_external_emojis", "stream"]

def defaultEveryonePermissions : List String :=
  basePermissions ++ ["use_soundboard", "create_threads", "send_in_threads"]

def moderatorPermissions : List String :=
  basePermissions ++
    ["kick_members", "ban_members", "manage_messages", "mute_members", "deafen_members",
      "move_members", "manage_nicknames", "moderate_members", "mention_everyone", "manage_threads",
      "manage_events"]

def adminPermissions : List String :=
  moderatorPermissions ++
    ["manage_channels", "manage_space", "manage_roles", "manage_webhooks", "manage_emojis",
      "manage_soundboard", "view_audit_log", "priority_speaker"]

end Vokusz.Permissions

namespace Vokusz.Db.Spaces

open Lib Permissions
open Channels (CreateChannel)

def freeSlug (input : CreateSpace) : Query String := fun db =>
  match input.baseSlug with
  | .error e => .error e
  | .ok base =>
    match ensureUniqueSlug db base none (db.spaces.length + 1) with
    | some slug => .ok slug
    | none => .error App.databaseFault

def insertSpace (row : SpaceRow) : App Unit :=
  App.write
    (fun db => App.unique (!(db.hasSpace row.id || slugTaken db none row.slug)) <|>
      App.foreignKey (db.hasUser row.ownerId))
    (fun db => { db with spaces := db.spaces ++ [row] })

def insertRole (row : RoleRow) : App Unit :=
  App.write
    (fun db => App.unique (!db.hasRole row.id) <|> App.foreignKey (db.hasSpace row.spaceId))
    (Roles.insertRow row)

def everyoneRole (id spaceId : String) : RoleRow :=
  { id := id
    spaceId := spaceId
    name := "普通成员"
    position := 0
    permissions := defaultEveryonePermissions }

def guestRole (id spaceId : String) : RoleRow :=
  { id := id
    spaceId := spaceId
    name := "嘉宾"
    color := 10181046
    hoist := true
    position := 1 }

def moderatorRole (id spaceId : String) : RoleRow :=
  { id := id
    spaceId := spaceId
    name := "管理员"
    color := 3447003
    hoist := true
    position := 2
    permissions := moderatorPermissions }

def adminRole (id spaceId : String) : RoleRow :=
  { id := id
    spaceId := spaceId
    name := "高级管理员"
    color := 15158332
    hoist := true
    position := 3
    permissions := adminPermissions }

def generalChannel : CreateChannel :=
  { name := "general"
    channelType := "text"
    position := some 0 }

def joinOwner (ownerId spaceId : String) : App Unit :=
  App.write
    (fun db => App.unique (!db.hasMember spaceId ownerId) <|>
      App.foreignKey (db.hasUser ownerId && db.hasSpace spaceId))
    (Members.insertMember { userId := ownerId, spaceId := spaceId })

def insertNamed (row : String → RoleRow) : App Unit := do
  let id ← App.generateId
  insertRole (row id)

def furnishSpace (ownerId spaceId : String) : App SpaceRow := do
  insertNamed (fun id => guestRole id spaceId)
  insertNamed (fun id => moderatorRole id spaceId)
  insertNamed (fun id => adminRole id spaceId)
  let _ ← Channels.createChannel spaceId generalChannel
  joinOwner ownerId spaceId
  getSpaceRow spaceId

def createFurnished (ownerId : String) (input : CreateSpace) : App SpaceRow := do
  let id ← App.generateId
  let slug ← freeSlug input
  insertSpace (newSpace ownerId id slug input)
  let roleId ← App.generateId
  insertRole (everyoneRole roleId id)
  furnishSpace ownerId id

end Vokusz.Db.Spaces

namespace Vokusz.Routes.Roles

open Db Permissions
open Db.Roles (CreateRole UpdateRole)
open Db.Spaces (createFurnished everyoneRole insertRole insertNamed furnishSpace)
open Lib (Prog)

structure DefaultRole (spaceId id : String) (db : Tables) : Prop where
  keys : RoleKeys db
  stored : ∃ r ∈ db.roles, r.id = id
  default_iff : ∀ r ∈ db.roles, r.id = id ↔ r.spaceId = spaceId ∧ r.position = 0

section

variable {db db' : Tables} {spaceId id : String}

theorem DefaultRole.congr (h : DefaultRole spaceId id db) (hroles : db'.roles = db.roles) :
    DefaultRole spaceId id db' := by
  obtain ⟨hkeys, hstored, hdefault⟩ := h
  constructor
  · rwa [RoleKeys, hroles]
  · rwa [hroles]
  · rwa [hroles]

theorem DefaultRole.filter_id (h : DefaultRole spaceId id db) :
    (db.roles.filter (fun r => r.spaceId = spaceId ∧ r.position = 0)).map RoleRow.id = [id] := by
  obtain ⟨r, hr, rfl⟩ := h.stored
  have hone : db.roles.filter (fun x => x.id = r.id) = [r] := Lib.Table.Distinct.filter_key h.keys hr
  have hsame : db.roles.filter (fun x => x.spaceId = spaceId ∧ x.position = 0) =
      db.roles.filter (fun x => x.id = r.id) := by
    apply List.filter_congr
    intro x hx
    exact decide_eq_decide.mpr (h.default_iff x hx).symm
  rw [hsame, hone]
  rfl

theorem keys_insert (hkeys : RoleKeys db) {row : RoleRow} (hfresh : db.hasRole row.id = false)
    (hroles : db'.roles = db.roles ++ [row]) : RoleKeys db' := by
  rw [RoleKeys, hroles]
  exact Lib.Table.Distinct.insert hkeys hfresh

theorem DefaultRole.insert (h : DefaultRole spaceId id db) {row : RoleRow}
    (hfresh : db.hasRole row.id = false) (hrow : row.spaceId = spaceId → row.position ≠ 0)
    (hroles : db'.roles = db.roles ++ [row]) : DefaultRole spaceId id db' := by
  obtain ⟨default, hdefault, hid⟩ := h.stored
  refine ⟨keys_insert h.keys hfresh hroles, ⟨default, ?_, hid⟩, fun r hr => ?_⟩
  · rw [hroles]
    exact List.mem_append_left _ hdefault
  · rw [hroles] at hr
    rcases List.mem_append.mp hr with hr | hr
    · exact h.default_iff r hr
    · cases List.mem_singleton.mp hr
      constructor
      · intro hsame
        have hused : db.hasRole row.id = true :=
          Lib.Table.has_iff.mpr ⟨default, hdefault, hid.trans hsame.symm⟩
        rw [hfresh] at hused
        cases hused
      · rintro ⟨hspace, hzero⟩
        exact absurd hzero (hrow hspace)

theorem DefaultRole.edit (h : DefaultRole spaceId id db) {f : RoleRow → RoleRow}
    (hf : ∀ r ∈ db.roles, (f r).id = r.id ∧ (f r).spaceId = r.spaceId ∧
      ((f r).position = 0 ↔ r.position = 0))
    (hroles : db'.roles = db.roles.map f) : DefaultRole spaceId id db' := by
  obtain ⟨default, hdefault, hid⟩ := h.stored
  refine ⟨?_, ⟨f default, ?_, (hf default hdefault).1.trans hid⟩, fun r hr => ?_⟩
  · rw [RoleKeys, hroles, Lib.Table.Distinct, List.pairwise_map]
    refine List.Pairwise.imp_of_mem (fun {a b} ha hb hne heq => hne ?_) h.keys
    rw [← (hf a ha).1, ← (hf b hb).1]
    exact heq
  · rw [hroles]
    exact List.mem_map_of_mem hdefault
  · rw [hroles] at hr
    obtain ⟨old, hold, rfl⟩ := List.mem_map.mp hr
    obtain ⟨hkey, hspace, hzero⟩ := hf old hold
    rw [hkey, hspace, hzero]
    exact h.default_iff old hold

theorem DefaultRole.delete (h : DefaultRole spaceId id db) {roleId : String} (hne : roleId ≠ id)
    (hroles : db'.roles = Lib.Table.delete RoleRow.id roleId db.roles) :
    DefaultRole spaceId id db' := by
  obtain ⟨default, hdefault, hid⟩ := h.stored
  refine ⟨?_, ⟨default, ?_, hid⟩, fun r hr => ?_⟩
  · rw [RoleKeys, hroles]
    exact Lib.Table.Distinct.delete h.keys roleId
  · rw [hroles]
    refine Lib.Table.mem_delete.mpr ⟨hdefault, ?_⟩
    rw [hid]
    exact hne.symm
  · rw [hroles] at hr
    exact h.default_iff r (Lib.Table.mem_delete.mp hr).1

theorem DefaultRole.max_nonneg (h : DefaultRole spaceId id db) :
    ∃ m, Db.Roles.maxPosition spaceId db = .ok (some m) ∧ 0 ≤ m := by
  obtain ⟨default, hdefault, hid⟩ := h.stored
  obtain ⟨hspace, hzero⟩ := (h.default_iff default hdefault).mp hid
  have hmem : default.position ∈
      (db.roles.filter (fun r => r.spaceId = spaceId)).map RoleRow.position :=
    List.mem_map_of_mem (List.mem_filter.mpr ⟨hdefault, decide_eq_true hspace⟩)
  unfold Db.Roles.maxPosition
  cases hmax : ((db.roles.filter (fun r => r.spaceId = spaceId)).map RoleRow.position).max? with
  | none =>
    rw [List.max?_eq_none_iff.mp hmax] at hmem
    cases hmem
  | some m =>
    refine ⟨m, rfl, ?_⟩
    rw [← hzero]
    exact (List.max?_eq_some_iff.mp hmax).2 _ hmem

end

def Ruled (spaceId id : String) (s : AppState) : Prop := DefaultRole spaceId id s.db

section

variable {α : Type} {auth : AuthUser} {s : AppState} {spaceId id : String}

theorem ruled_of_roles {p : App α} (h : p.Preserves (fun s => s.db.roles)) :
    p.Maintains (Ruled spaceId id) :=
  h.keeps (fun _ _ hroles hs => DefaultRole.congr hs hroles)

theorem fresh_of_check {db : Tables} (row : RoleRow)
    (h : (App.unique (!db.hasRole row.id) <|> App.foreignKey (db.hasSpace row.spaceId)) = none) :
    db.hasRole row.id = false ∧ db.hasSpace row.spaceId = true := by
  cases hused : db.hasRole row.id with
  | true =>
    rw [hused] at h
    cases h
  | false =>
    rw [hused] at h
    exact ⟨rfl, App.foreignKey_none.mp h⟩

theorem ruled_broadcast (space : String) :
    (broadcastRolesChanged space).Maintains (Ruled spaceId id) :=
  ruled_of_roles (preserves_broadcastRolesChanged space (fun _ _ => rfl))

theorem stays_dbCreateRole (h : Ruled spaceId id s) (space : String) (input : CreateRole) :
    (Db.Roles.createRole space input).Stays (Ruled spaceId id) s := by
  refine App.stays_generateId h (App.stays_checked h (fun maxPos hmax => ?_))
  refine Prog.Stays.bind (R := fun _ => True) ?_ (fun _ => ruled_of_roles (App.preserves_lift _))
  refine App.stays_write h (fun hcheck => ?_)
  have hfresh := (fresh_of_check (Db.Roles.newRole space _ input maxPos) hcheck).1
  refine DefaultRole.insert h hfresh (fun hspace => ?_) rfl
  cases hspace
  obtain ⟨m, hm, hnonneg⟩ := h.max_nonneg
  cases hmax.symm.trans hm
  change m + 1 ≠ 0
  omega

theorem stays_createRole (h : Ruled spaceId id s) (space : String) (input : CreateRole) :
    (createRole space auth input).Stays (Ruled spaceId id) s := by
  refine App.stays_checked h (fun _ _ => ?_)
  refine (stays_dbCreateRole h space input).bind (R := fun _ => True) (fun row => ?_)
  exact (ruled_broadcast space).bind (fun _ _ => trivial)

theorem ruled_updateRole (space roleId : String) (input : UpdateRole) :
    (updateRole space roleId auth input).Maintains (Ruled spaceId id) := by
  refine Prog.Keeps.bind (ruled_of_roles (App.preserves_lift _)) (fun _ _ => ?_)
  refine Prog.Keeps.bind (Q := fun _ => True) ?_
    (fun _ _ => (ruled_broadcast space).bind (fun _ _ => trivial))
  refine Prog.Keeps.bind (App.keeps_update (fun s h => ?_))
    (fun _ _ => ruled_of_roles (App.preserves_lift _))
  refine DefaultRole.edit h (f := fun r => if r.id = roleId then
    { input with position := none }.apply r else r) (fun r _ => ?_) rfl
  split <;> exact ⟨rfl, rfl, Iff.rfl⟩

theorem checkDelete_position {db : Tables} {space roleId : String} {u : Unit}
    (h : checkDelete space roleId auth db = .ok u) :
    ∃ role ∈ db.roles, role.id = roleId ∧ role.position ≠ 0 := by
  obtain ⟨_, -, h⟩ := (Query.bind_ok db).mp h
  obtain ⟨role, hrole, h⟩ := (Query.bind_ok db).mp h
  obtain ⟨_, hposition, -⟩ := (Query.bind_ok db).mp h
  obtain ⟨hmem, hid, -⟩ := roleInSpace_ok hrole
  refine ⟨role, hmem, hid, ?_⟩
  intro hzero
  rw [Query.require_apply, if_neg (not_not.mpr hzero)] at hposition
  cases hposition

theorem stays_deleteRole (h : Ruled spaceId id s) (space roleId : String) :
    (deleteRole space roleId auth).Stays (Ruled spaceId id) s := by
  refine App.stays_checked h (fun _ hcheck => ?_)
  obtain ⟨role, hrole, rfl, hposition⟩ := checkDelete_position hcheck
  have hne : role.id ≠ id := by
    intro heq
    exact hposition ((h.default_iff role hrole).mp heq).2
  have hdelete : (Db.Roles.deleteRole role.id).Stays (Ruled spaceId id) s :=
    App.stays_update h (DefaultRole.delete h hne rfl)
  exact hdelete.bind (R := fun _ => True)
    (fun _ => (ruled_broadcast space).bind (fun _ _ => trivial))

theorem checkOrder_zero {db : Tables} {space : String} {roles : List RoleRow} {seen : List String}
    {updates : List (String × Int)} {u : Unit}
    (h : checkOrder space auth roles seen updates db = .ok u) :
    ∀ x ∈ updates, ∃ role ∈ roles, role.id = x.1 ∧ (role.position = 0 ↔ x.2 = 0) := by
  induction updates generalizing seen with
  | nil =>
    intro x hx
    cases hx
  | cons y updates ih =>
    rw [checkOrder] at h
    cases hfind : roles.find? (fun r => r.id = y.1) with
    | none =>
      rw [hfind] at h
      cases h
    | some role =>
      rw [hfind] at h
      obtain ⟨_, hvalid, h⟩ := (Query.bind_ok db).mp h
      obtain ⟨_, -, hrest⟩ := (Query.bind_ok db).mp h
      intro x hx
      rcases List.mem_cons.mp hx with rfl | hx
      · refine ⟨role, List.mem_of_find?_eq_some hfind, by simpa using List.find?_some hfind, ?_⟩
        exact (Query.require_holds hvalid).2.2
      · exact ih hrest x hx

theorem checkReorder_zero {db : Tables} {space : String} (hkeys : RoleKeys db)
    {updates : List (String × Int)} {u : Unit} (h : checkReorder space auth updates db = .ok u)
    {r : RoleRow} (hr : r ∈ db.roles) :
    movedPosition space updates r = 0 ↔ r.position = 0 := by
  obtain ⟨_, -, h⟩ := (Query.bind_ok db).mp h
  obtain ⟨roles, hroles, h⟩ := (Query.bind_ok db).mp h
  cases hroles
  rcases @movedPosition_cases space updates r with hsame | ⟨x, hx, hid, -, hposition⟩
  · rw [hsame]
  · obtain ⟨role, hrole, hroleId, hzero⟩ := checkOrder_zero h x hx
    cases hkeys.eq_of_id (mem_inSpace.mp hrole).1 hr (hroleId.trans hid.symm)
    rw [hposition]
    exact hzero.symm

theorem stays_reorderRoles (h : Ruled spaceId id s) (space : String)
    (updates : List (String × Int)) :
    (reorderRoles space auth updates).Stays (Ruled spaceId id) s := by
  refine App.stays_checked h (fun _ hcheck => ?_)
  have hmoved : DefaultRole spaceId id (Db.Roles.moveRows space updates s.db) := by
    refine DefaultRole.edit h (f := fun r => { r with position := movedPosition space updates r })
      (fun r hr => ⟨rfl, rfl, checkReorder_zero h.keys hcheck hr⟩) ?_
    exact foldl_moveRow updates s.db.roles
  have hmove : (Db.Roles.reorderRoles space updates).Stays (Ruled spaceId id) s :=
    App.stays_update h hmoved
  refine hmove.bind (R := fun _ => True) (fun _ => ?_)
  refine (ruled_broadcast space).bind (fun _ _ => ?_)
  exact (ruled_of_roles (App.preserves_lift _)).bind (fun _ _ => trivial)

theorem preserves_updateRoles (space userId : String) (roles : Option (List String)) :
    (Members.updateRoles space userId roles).Preserves (fun s => s.db.roles) := by
  cases roles with
  | none => exact Prog.preserves_pure _
  | some ids =>
    exact Prog.Preserves.bind (App.preserves_update (fun _ => rfl))
      (fun _ => Prog.preserves_forEach (fun _ _ => App.preserves_write (fun _ => rfl)))

theorem preserves_dbUpdateMember (space userId : String) (input : Db.Members.UpdateMember) :
    (Db.Members.updateMember space userId input).Preserves (fun s => s.db.roles) := by
  have hset : ∀ {β : Type} (value : Option β) (f : β → MemberRow → MemberRow),
      (Members.setWhen space userId value f).Preserves (fun s : AppState => s.db.roles) :=
    fun value f => preserves_setWhen space userId value f (fun _ _ => rfl)
  refine (hset _ _).bind (fun _ => (hset _ _).bind (fun _ => (hset _ _).bind (fun _ => ?_)))
  refine (hset _ _).bind (fun _ => (hset _ _).bind (fun _ => ?_))
  exact (preserves_updateRoles space userId _).bind (fun _ => App.preserves_lift _)

theorem preserves_memberChecked (space userId : String) (admission : Except AppError Unit)
    (input : Db.Members.UpdateMember) :
    (Members.updateChecked space userId admission input).Preserves (fun s => s.db.roles) := by
  refine (preserves_storeAvatar space userId admission input.avatar (fun _ _ => rfl)).bind
    (fun avatar => ?_)
  refine (preserves_dbUpdateMember space userId _).bind (fun row => ?_)
  refine (App.preserves_lift _).bind (fun roleIds => ?_)
  exact Prog.Preserves.bind (Prog.preserves_modify (fun _ => rfl)) (fun _ => Prog.preserves_pure _)

theorem preserves_memberRole {p : App Unit} (hp : p.Preserves (fun s => s.db.roles))
    (space userId : String) {q : Query Unit} :
    ((MonadLiftT.monadLift q : App Unit) >>= fun _ => p >>= fun _ =>
      Members.broadcastMember space userId >>= fun _ => (pure Members.done : App Json)).Preserves
      (fun s => s.db.roles) := by
  refine (App.preserves_lift _).bind (fun _ => hp.bind (fun _ => ?_))
  exact (preserves_broadcastMember space userId (fun _ _ => rfl)).bind
    (fun _ => Prog.preserves_pure _)

theorem stays_serve (h : Ruled spaceId id s) (req : RoleRequest) :
    (req.serve auth).Stays (Ruled spaceId id) s := by
  cases req with
  | createRole space input => exact stays_createRole h space input
  | updateRole space roleId input => exact (ruled_updateRole space roleId input).stays h
  | deleteRole space roleId => exact stays_deleteRole h space roleId
  | reorderRoles space updates => exact stays_reorderRoles h space updates
  | addRole space userId roleId =>
    exact (ruled_of_roles (preserves_memberRole (App.preserves_write (fun _ => rfl))
      space userId)).stays h
  | removeRole space userId roleId =>
    exact (ruled_of_roles (preserves_memberRole (App.preserves_update (fun _ => rfl))
      space userId)).stays h
  | updateMember space userId input admission =>
    refine (ruled_of_roles ((Prog.preserves_get _).bind (fun ext => ?_))).stays h
    exact (App.preserves_lift _).bind
      (fun checked => preserves_memberChecked space userId admission checked)

end

section

variable {s s₁ : AppState} {spaceId id : String}

theorem keeps_insertNamed {row : String → RoleRow}
    (hrow : ∀ id, (row id).spaceId = spaceId → (row id).position ≠ 0) :
    (insertNamed row).Maintains (Ruled spaceId id) := by
  refine Prog.Keeps.bind (ruled_of_roles (App.preserves_generateId (fun _ _ => rfl)))
    (fun roleId _ => App.keeps_write_checked (fun s h hcheck => ?_))
  exact DefaultRole.insert h (fresh_of_check _ hcheck).1 (hrow roleId) rfl

theorem keeps_furnishSpace (ownerId : String) :
    (furnishSpace ownerId spaceId).Keeps (Ruled spaceId id) (fun space => space.id = spaceId) := by
  refine (keeps_insertNamed (fun _ _ => Int.one_ne_zero)).bind (fun _ _ => ?_)
  refine (keeps_insertNamed (fun _ _ => (by decide : (2 : Int) ≠ 0))).bind (fun _ _ => ?_)
  refine (keeps_insertNamed (fun _ _ => (by decide : (3 : Int) ≠ 0))).bind (fun _ _ => ?_)
  refine Prog.Keeps.bind (ruled_of_roles ?_) (fun _ _ => ?_)
  · refine (App.preserves_lift _).bind (fun _ => ?_)
    refine (App.preserves_generateId (fun _ _ => rfl)).bind (fun channelId => ?_)
    exact Prog.Preserves.bind (App.preserves_write (fun _ => rfl)) (fun _ => App.preserves_lift _)
  · refine Prog.Keeps.bind (ruled_of_roles (App.preserves_write (fun _ => rfl))) (fun _ _ => ?_)
    refine App.keeps_lift (fun t _ space hspace => ?_)
    exact (Db.Spaces.getSpaceRow_ok hspace).2

theorem furnished_ruled {ownerId : String} {space : SpaceRow}
    (h : (furnishSpace ownerId spaceId).exec s = (.ok space, s₁)) (hs : Ruled spaceId id s) :
    space.id = spaceId ∧ Ruled spaceId id s₁ := by
  obtain ⟨hend, hfound⟩ := (keeps_furnishSpace ownerId).exec hs
  rw [h] at hend hfound
  exact ⟨hfound space rfl, hend⟩

theorem insertRole_establishes {row : RoleRow} {t : AppState}
    (h : (insertRole row).exec s = (.ok (), t)) (hkeys : RoleKeys s.db)
    (hempty : ∀ r ∈ s.db.roles, r.spaceId ≠ row.spaceId) (hzero : row.position = 0) :
    Ruled row.spaceId row.id t ∧ s.db.hasRole row.id = false ∧ row ∈ t.db.roles := by
  rw [insertRole, App.exec_write] at h
  split at h
  · cases h
  · rename_i hcheck
    cases h
    obtain ⟨hfresh, -⟩ := fresh_of_check _ hcheck
    have hmem : row ∈ s.db.roles ++ [row] := List.mem_append_right _ (List.mem_singleton_self row)
    refine ⟨⟨keys_insert hkeys hfresh rfl, ⟨row, hmem, rfl⟩, fun r hr => ?_⟩, hfresh, hmem⟩
    rcases List.mem_append.mp hr with hr | hr
    · constructor
      · intro hid
        rw [Tables.hasRole, Lib.Table.has_iff.mpr ⟨r, hr, hid⟩] at hfresh
        cases hfresh
      · rintro ⟨hspace, -⟩
        exact absurd hspace (hempty r hr)
    · cases List.mem_singleton.mp hr
      exact ⟨fun _ => ⟨rfl, hzero⟩, fun _ => rfl⟩

theorem createFurnished_ok {ownerId : String} {input : Db.Spaces.CreateSpace} {space : SpaceRow}
    (hkeys : RoleKeys s.db) (hplaced : ∀ r ∈ s.db.roles, s.db.hasSpace r.spaceId = true)
    (hcreate : (createFurnished ownerId input).exec s = (.ok space, s₁)) :
    ∃ id, s.db.hasRole id = false ∧ Ruled space.id id s₁ := by
  obtain ⟨spaceId, t, hid, hcreate⟩ := Prog.exec_bind_ok.mp hcreate
  cases hid
  obtain ⟨slug, t, hslug, hcreate⟩ := Prog.exec_bind_ok.mp hcreate
  obtain ⟨-, rfl⟩ := App.exec_lift_ok.mp hslug
  obtain ⟨_, t, hspace, hcreate⟩ := Prog.exec_bind_ok.mp hcreate
  obtain ⟨roleId, t', hrole, hcreate⟩ := Prog.exec_bind_ok.mp hcreate
  cases hrole
  obtain ⟨_, t'', hinsert, hfurnish⟩ := Prog.exec_bind_ok.mp hcreate
  rw [Db.Spaces.insertSpace, App.exec_write] at hspace
  split at hspace
  · cases hspace
  · rename_i hcheck
    cases hspace
    have hnew : s.db.hasSpace (toString s.snowflake) = false := by
      cases hused : s.db.hasSpace (toString s.snowflake) with
      | true =>
        dsimp only [Db.Spaces.newSpace] at hcheck
        rw [hused] at hcheck
        cases hcheck
      | false => rfl
    have hempty : ∀ r ∈ s.db.roles, r.spaceId ≠ toString s.snowflake := by
      intro r hr hsame
      have hplace := hplaced r hr
      rw [hsame, hnew] at hplace
      cases hplace
    obtain ⟨hruled, hfresh, -⟩ := insertRole_establishes hinsert hkeys hempty rfl
    obtain ⟨hfound, hend⟩ := furnished_ruled hfurnish hruled
    rw [hfound]
    exact ⟨_, hfresh, hend⟩

end

def served (req : AuthUser × RoleRequest) : App Json := req.2.serve req.1

theorem default_role_unique {s s₁ t : AppState} {ownerId : String}
    {input : Db.Spaces.CreateSpace} {space : SpaceRow} (hkeys : RoleKeys s.db)
    (hplaced : ∀ r ∈ s.db.roles, s.db.hasSpace r.spaceId = true)
    (hcreate : (createFurnished ownerId input).exec s = (.ok space, s₁))
    (hrun : Prog.Succession served s₁ t) :
    ∃ id, s.db.hasRole id = false ∧
      (s₁.db.roles.filter (fun r => r.spaceId = space.id ∧ r.position = 0)).map RoleRow.id = [id] ∧
      (t.db.roles.filter (fun r => r.spaceId = space.id ∧ r.position = 0)).map RoleRow.id = [id] := by
  obtain ⟨id, hfresh, hruled⟩ := createFurnished_ok hkeys hplaced hcreate
  have hend : Ruled space.id id t := hrun.stays (fun req _ h => stays_serve h req.2) hruled
  exact ⟨id, hfresh, DefaultRole.filter_id hruled, DefaultRole.filter_id hend⟩

def empty : AppState :=
  { db := { users := [{ id := "1", username := "ann" }] }
    ext := .fixed ""
    snowflake := 20 }

def garden : SpaceRow := Db.Spaces.newSpace "1" "20" "garden" { name := "garden" }

def founded : AppState := ((createFurnished "1" { name := "garden" }).exec empty).2

def founder : AuthUser := { userId := "1", isAdmin := true }

def reigns : List (AuthUser × RoleRequest) :=
  [(founder, .createRole "20" { name := "helper" }),
    (founder, .reorderRoles "20" [("22", 9), ("23", 1)]),
    (founder, .updateRole "20" "22" { position := some 0 }),
    (founder, .deleteRole "20" "21"),
    (founder, .reorderRoles "20" [("21", 4), ("22", 0)])]

def reigned : AppState := reigns.foldl (fun s req => ((served req).exec s).2) founded

theorem reigned_default : ∃ id, empty.db.hasRole id = false ∧
    (founded.db.roles.filter (fun r => r.spaceId = garden.id ∧ r.position = 0)).map RoleRow.id =
      [id] ∧
    (reigned.db.roles.filter (fun r => r.spaceId = garden.id ∧ r.position = 0)).map RoleRow.id =
      [id] :=
  default_role_unique (s := empty) List.Pairwise.nil (fun _ hr => absurd hr List.not_mem_nil)
    (Prod.ext (by decide +kernel) rfl) (Prog.succession_exec reigns founded)

example : reigned.db.roles.map (fun r => (r.id, r.position)) =
    [("21", 0), ("22", 9), ("23", 1), ("24", 3), ("26", 4)] := by
  decide +kernel

end Vokusz.Routes.Roles
