import Vokusz.Routes.RoleChange

namespace Vokusz.Routes.Roles

open Db Permissions
open Lib (Prog)

structure RolesKept (h : Int) (spaceId actorId : String) (db db' : Tables) : Prop where
  roles : ∀ r : RoleRow, r.spaceId = spaceId → h ≤ r.position → (r ∈ db'.roles ↔ r ∈ db.roles)
  holders : ∀ r ∈ db.roles, r.spaceId = spaceId → h ≤ r.position → ∀ userId,
    (⟨userId, spaceId, r.id⟩ : MemberRole) ∈ db'.memberRoles ↔
      (⟨userId, spaceId, r.id⟩ : MemberRole) ∈ db.memberRoles
  highest : getHighestRolePosition spaceId actorId db' = .ok h

def FirstRole (db : Tables) (auth : AuthUser) (spaceId : String) (req : RoleRequest) : Prop :=
  ∃ roleId, req = .addRole spaceId auth.userId roleId ∧
    Members.checkRoleChange spaceId auth.userId roleId auth db = .ok () ∧
    ∀ r, ¬ Held db spaceId auth.userId r

theorem below_iff {db : Tables} {actorId spaceId : String} {h position : Int}
    (hhigh : getHighestRolePosition spaceId actorId db = .ok h) :
    Below db actorId spaceId position ↔ position < h := by
  constructor
  · rintro ⟨h', hhigh', hlt⟩
    cases hhigh.symm.trans hhigh'
    exact hlt
  · intro hlt
    exact ⟨h, hhigh, hlt⟩

section

variable {auth : AuthUser} {db : Tables} {req : RoleRequest} {roles : List RoleRow}
  {assigned : List MemberRole} {spaceId : String} {space : SpaceRow} {h : Int}

theorem Change.keys (hchange : Change auth db req roles assigned) (hkeys : RoleKeys db) :
    Lib.Table.Distinct RoleRow.id roles := by
  cases hchange with
  | @create _ _ row _ _ hfresh =>
    refine List.pairwise_append.mpr ⟨hkeys, List.pairwise_singleton _ _, ?_⟩
    intro r hr r' hr' hid
    rw [List.mem_singleton.mp hr'] at hid
    have hused : db.hasRole row.id = true := Lib.Table.has_iff.mpr ⟨r, hr, hid⟩
    rw [hfresh] at hused
    cases hused
  | update => exact hkeys.update (fun _ _ => rfl)
  | delete => exact List.Pairwise.filter _ hkeys
  | reorder => exact List.pairwise_map.mpr hkeys
  | _ => exact hkeys

theorem not_managed (hkeys : RoleKeys db)
    (hhigh : getHighestRolePosition spaceId auth.userId db = .ok h) {role r : RoleRow}
    (hrole : role ∈ db.roles) (hbelow : Below db auth.userId role.spaceId role.position)
    (hr : r ∈ db.roles) (hspace : r.spaceId = spaceId) (hle : h ≤ r.position) :
    r.id ≠ role.id := by
  intro hid
  cases hkeys.eq_of_id hr hrole hid
  rw [hspace, below_iff hhigh] at hbelow
  omega

theorem Change.mem_roles (hchange : Change auth db req roles assigned) (hkeys : RoleKeys db)
    (hfound : Spaces.getSpaceRow spaceId db = .ok space) (howner : space.ownerId ≠ auth.userId)
    (hhigh : getHighestRolePosition spaceId auth.userId db = .ok h) {r : RoleRow}
    (hspace : r.spaceId = spaceId) (hle : h ≤ r.position) : r ∈ roles ↔ r ∈ db.roles := by
  cases hchange with
  | create _ hfound' howner' =>
    rw [List.mem_append, List.mem_singleton]
    refine or_iff_left ?_
    rintro rfl
    rw [hspace] at hfound'
    cases hfound.symm.trans hfound'
    exact howner howner'
  | @update _ role input hrole hbelow hposition hheld =>
    constructor
    · intro hr
      rcases Lib.Table.mem_update hr with ⟨hr, _⟩ | ⟨old, hold, hid, rfl⟩
      · exact hr
      · cases hkeys.eq_of_id hold hrole hid
        change role.spaceId = spaceId at hspace
        change h ≤ input.position.getD role.position at hle
        rw [hposition] at hle
        rw [hspace, below_iff hhigh] at hbelow
        exact absurd hle (not_le.mpr hbelow)
    · intro hr
      exact List.mem_map.mpr
        ⟨r, hr, if_neg (not_managed hkeys hhigh hrole hbelow hr hspace hle)⟩
  | delete _ hrole hbelow hposition =>
    constructor
    · intro hr
      exact (List.mem_filter.mp hr).1
    · intro hr
      exact List.mem_filter.mpr
        ⟨hr, decide_eq_true (not_managed hkeys hhigh hrole hbelow hr hspace hle)⟩
  | reorder _ hmoved hzero =>
    constructor
    · intro hr
      obtain ⟨old, hold, rfl⟩ := List.mem_map.mp hr
      rcases hmoved old hold with hsame | ⟨hin, _, hnew⟩
      · rw [hsame]
        exact hold
      · rw [← hin, show old.spaceId = spaceId from hspace, below_iff hhigh] at hnew
        exact absurd hle (not_le.mpr hnew)
    · intro hr
      refine List.mem_map.mpr ⟨r, hr, ?_⟩
      rcases hmoved r hr with hsame | ⟨hin, hold, _⟩
      · rw [hsame]
      · rw [← hin, hspace, below_iff hhigh] at hold
        exact absurd hle (not_le.mpr hold)
  | _ => exact Iff.rfl

theorem Outranks.not_held {userId : String} {r : RoleRow}
    (hranks : Outranks db auth.userId spaceId userId)
    (hhigh : getHighestRolePosition spaceId auth.userId db = .ok h) (hrange : h ≤ i64Max)
    (hle : h ≤ r.position) : ¬ Held db spaceId userId r := by
  obtain ⟨target, htarget, hbelow⟩ := hranks
  rw [below_iff hhigh] at hbelow
  obtain ⟨row, _, htop⟩ := getHighestRolePosition_ok.mp htarget
  intro hheld
  have hlow := hheld.le_highest
  split at htop
  · omega
  · omega

theorem Change.mem_assigned (hchange : Change auth db req roles assigned) (hkeys : RoleKeys db)
    (hhigh : getHighestRolePosition spaceId auth.userId db = .ok h) (hrange : h ≤ i64Max)
    {r : RoleRow} (hr : r ∈ db.roles) (hspace : r.spaceId = spaceId) (hle : h ≤ r.position)
    (userId : String) :
    (⟨userId, spaceId, r.id⟩ : MemberRole) ∈ assigned ↔
      (⟨userId, spaceId, r.id⟩ : MemberRole) ∈ db.memberRoles := by
  cases hchange with
  | delete _ hrole hbelow hposition =>
    have hne := not_managed hkeys hhigh hrole hbelow hr hspace hle
    simp [List.mem_filter, hne]
  | @assign user role hrole hbelow hcheck =>
    have hne := not_managed hkeys hhigh hrole hbelow hr hspace hle
    constructor
    · intro hmem
      rcases Lib.Table.mem_insertNew hmem with hmem | heq
      · exact hmem
      · exact absurd (congrArg MemberRole.roleId heq) hne
    · intro hmem
      unfold Lib.Table.insertNew
      split
      · exact hmem
      · exact List.mem_append.mpr (.inl hmem)
  | unassign _ hrole hbelow =>
    have hne := not_managed hkeys hhigh hrole hbelow hr hspace hle
    refine Lib.Table.mem_delete_of_ne (fun heq => hne ?_)
    exact congrArg (fun k => k.2.2) heq
  | @replace _ sid user ids hranks hids =>
    rw [List.mem_append]
    by_cases hsame : user = userId ∧ sid = spaceId
    · obtain ⟨rfl, rfl⟩ := hsame
      have hnew : (⟨user, sid, r.id⟩ : MemberRole) ∉
          ids.map (fun id => (⟨user, sid, id⟩ : MemberRole)) := by
        intro hmem
        obtain ⟨id, hid, heq⟩ := List.mem_map.mp hmem
        obtain ⟨role, hrole, hroleId, hin, hbelow⟩ := hids id hid
        have hne := not_managed hkeys hhigh hrole (hin ▸ hbelow) hr hspace hle
        exact hne ((congrArg MemberRole.roleId heq).symm.trans hroleId.symm)
      have hold : (⟨user, sid, r.id⟩ : MemberRole) ∉ db.memberRoles :=
        fun hmem => hranks.not_held hhigh hrange hle ⟨hr, hspace, hmem⟩
      have hkept : (⟨user, sid, r.id⟩ : MemberRole) ∉
          (Members.clearRoles sid user db).memberRoles :=
        fun hmem => hold (List.mem_filter.mp hmem).1
      simp [hnew, hold, hkept]
    · have hnew : (⟨userId, spaceId, r.id⟩ : MemberRole) ∉
          ids.map (fun id => (⟨user, sid, id⟩ : MemberRole)) := by
        intro hmem
        obtain ⟨id, _, heq⟩ := List.mem_map.mp hmem
        exact hsame ⟨congrArg MemberRole.userId heq, congrArg MemberRole.spaceId heq⟩
      rw [or_iff_left hnew, Members.clearRoles, List.mem_filter]
      refine and_iff_left ?_
      by_contra hnot
      simp only [Bool.not_eq_true, Bool.not_eq_false', Bool.and_eq_true,
        decide_eq_true_eq] at hnot
      exact hsame ⟨hnot.1.symm, hnot.2.symm⟩
  | _ => exact Iff.rfl

theorem Change.none_held (hchange : Change auth db req roles assigned)
    (hfound : Spaces.getSpaceRow spaceId db = .ok space) (howner : space.ownerId ≠ auth.userId)
    (hfirst : ¬ FirstRole db auth spaceId req)
    (hnone : ∀ r, ¬ Held db spaceId auth.userId r) {r : RoleRow} (hr : r ∈ roles)
    (hspace : r.spaceId = spaceId) : (⟨auth.userId, spaceId, r.id⟩ : MemberRole) ∉ assigned := by
  intro hmem
  cases hchange with
  | same => exact hnone r ⟨hr, hspace, hmem⟩
  | create _ hfound' howner' =>
    rcases List.mem_append.mp hr with hr | hr
    · exact hnone r ⟨hr, hspace, hmem⟩
    · cases List.mem_singleton.mp hr
      rw [hspace] at hfound'
      cases hfound.symm.trans hfound'
      exact howner howner'
  | update =>
    rcases Lib.Table.mem_update hr with ⟨hr, _⟩ | ⟨old, hold, _, rfl⟩
    · exact hnone r ⟨hr, hspace, hmem⟩
    · exact hnone old ⟨hold, hspace, hmem⟩
  | delete =>
    exact hnone r ⟨(List.mem_filter.mp hr).1, hspace, (List.mem_filter.mp hmem).1⟩
  | reorder =>
    obtain ⟨old, hold, rfl⟩ := List.mem_map.mp hr
    exact hnone old ⟨hold, hspace, hmem⟩
  | assign hrole hbelow hcheck =>
    rcases Lib.Table.mem_insertNew hmem with hmem | heq
    · exact hnone r ⟨hr, hspace, hmem⟩
    · injection heq with huser hsid hid
      subst huser hsid
      exact hfirst ⟨_, rfl, hcheck, hnone⟩
  | unassign => exact hnone r ⟨hr, hspace, (List.mem_filter.mp hmem).1⟩
  | @replace _ sid user ids hranks hids =>
    rcases List.mem_append.mp hmem with hmem | hmem
    · exact hnone r ⟨hr, hspace, (List.mem_filter.mp hmem).1⟩
    · obtain ⟨id, _, heq⟩ := List.mem_map.mp hmem
      injection heq with huser hsid
      subst huser hsid
      obtain ⟨target, htarget, hbelow⟩ := hranks
      rw [below_iff htarget] at hbelow
      omega

end

theorem serveAll_concat (auth : AuthUser) (s : AppState) (pre : List RoleRequest)
    (req : RoleRequest) :
    serveAll auth s (pre ++ [req]) = ((req.serve auth).exec (serveAll auth s pre)).2 := by
  simp [serveAll]

section

variable {auth : AuthUser} {s : AppState} {spaceId : String} {space : SpaceRow} {h : Int}

theorem serveAll_spaces (reqs : List RoleRequest) :
    (serveAll auth s reqs).db.spaces = s.db.spaces := by
  induction reqs using List.reverseRecOn with
  | nil => rfl
  | append_singleton pre req ih => rw [serveAll_concat, serve_spaces, ih]

theorem serveAll_members (reqs : List RoleRequest) :
    (serveAll auth s reqs).db.members.map memberKey = s.db.members.map memberKey := by
  induction reqs using List.reverseRecOn with
  | nil => rfl
  | append_singleton pre req ih => rw [serveAll_concat, serve_members, ih]

theorem getSpaceRow_serveAll (reqs : List RoleRequest) :
    Spaces.getSpaceRow spaceId (serveAll auth s reqs).db =
      Spaces.getSpaceRow spaceId s.db := by
  unfold Spaces.getSpaceRow
  rw [serveAll_spaces]

theorem serveAll_roleKeys (hadmin : auth.isAdmin = false) (hkeys : RoleKeys s.db)
    (reqs : List RoleRequest) : RoleKeys (serveAll auth s reqs).db := by
  induction reqs using List.reverseRecOn with
  | nil => exact hkeys
  | append_singleton pre req ih =>
    rw [serveAll_concat]
    exact (serve_change hadmin ih req).keys ih

structure Ranked (h : Int) (spaceId actorId : String) (db db' : Tables) : Prop where
  roles : ∀ r : RoleRow, r.spaceId = spaceId → h ≤ r.position → (r ∈ db'.roles ↔ r ∈ db.roles)
  holders : ∀ r ∈ db.roles, r.spaceId = spaceId → h ≤ r.position → ∀ userId,
    (⟨userId, spaceId, r.id⟩ : MemberRole) ∈ db'.memberRoles ↔
      (⟨userId, spaceId, r.id⟩ : MemberRole) ∈ db.memberRoles
  held : (∃ r, Held db spaceId actorId r) ∨
    (∀ r, ¬ Held db spaceId actorId r) ∧ ∀ r, ¬ Held db' spaceId actorId r

theorem Ranked.highestOf {actorId : String} {db db' : Tables}
    (hranked : Ranked (highestOf db spaceId actorId) spaceId actorId db db') :
    Permissions.highestOf db' spaceId actorId = Permissions.highestOf db spaceId actorId := by
  rcases hranked.held with ⟨r, hr⟩ | ⟨hnone, hnone'⟩
  · obtain ⟨top, htop, hpos⟩ := exists_top hr
    have hheld : Held db' spaceId actorId top :=
      ⟨(hranked.roles top htop.space hpos.ge).mpr htop.mem, htop.space,
        (hranked.holders top htop.mem htop.space hpos.ge actorId).mpr htop.assigned⟩
    rw [← hpos]
    refine highestOf_of_top hheld (fun r' hr' => ?_)
    by_contra hgt
    have hle : Permissions.highestOf db spaceId actorId ≤ r'.position := by omega
    have hmem := (hranked.roles r' hr'.space hle).mp hr'.mem
    have hbefore : Held db spaceId actorId r' :=
      ⟨hmem, hr'.space, (hranked.holders r' hmem hr'.space hle actorId).mp hr'.assigned⟩
    have := hbefore.le_highest
    omega
  · rw [highestOf_of_none hnone, highestOf_of_none hnone']

theorem getHighest_of_space {actorId : String} {db : Tables}
    (hfound : Spaces.getSpaceRow spaceId db = .ok space) (howner : space.ownerId ≠ actorId) :
    getHighestRolePosition spaceId actorId db = .ok (highestOf db spaceId actorId) :=
  getHighestRolePosition_ok.mpr ⟨space, hfound, by rw [if_neg howner]⟩

theorem Ranked.step {db db' : Tables} {req : RoleRequest}
    (hranked : Ranked h spaceId auth.userId db db') (hkeys : RoleKeys db')
    (hfound : Spaces.getSpaceRow spaceId db' = .ok space) (howner : space.ownerId ≠ auth.userId)
    (hhigh : getHighestRolePosition spaceId auth.userId db' = .ok h) (hrange : h ≤ i64Max)
    (hfirst : ¬ FirstRole db' auth spaceId req) {t : Tables}
    (hchange : Change auth db' req t.roles t.memberRoles) :
    Ranked h spaceId auth.userId db t where
  roles r hspace hle :=
    (hchange.mem_roles hkeys hfound howner hhigh hspace hle).trans (hranked.roles r hspace hle)
  holders r hr hspace hle userId :=
    (hchange.mem_assigned hkeys hhigh hrange ((hranked.roles r hspace hle).mpr hr) hspace hle
      userId).trans (hranked.holders r hr hspace hle userId)
  held := by
    rcases hranked.held with hheld | ⟨hnone, hnone'⟩
    · exact .inl hheld
    · refine .inr ⟨hnone, fun r hr => ?_⟩
      exact hchange.none_held hfound howner hfirst hnone' hr.mem hr.space hr.assigned

theorem serveAll_ranked (hadmin : auth.isAdmin = false)
    (hfound : Spaces.getSpaceRow spaceId s.db = .ok space) (howner : space.ownerId ≠ auth.userId)
    (hrange : highestOf s.db spaceId auth.userId ≤ i64Max) (hkeys : RoleKeys s.db)
    {reqs : List RoleRequest}
    (hfirst : ∀ pre req, pre ++ [req] <+: reqs →
      ¬ FirstRole (serveAll auth s pre).db auth spaceId req) :
    Ranked (highestOf s.db spaceId auth.userId) spaceId auth.userId s.db
      (serveAll auth s reqs).db := by
  induction reqs using List.reverseRecOn with
  | nil =>
    refine ⟨fun _ _ _ => Iff.rfl, fun _ _ _ _ _ => Iff.rfl, ?_⟩
    by_cases hheld : ∃ r, Held s.db spaceId auth.userId r
    · exact .inl hheld
    · have hnone : ∀ r, ¬ Held s.db spaceId auth.userId r := fun r hr => hheld ⟨r, hr⟩
      exact .inr ⟨hnone, hnone⟩
  | append_singleton pre req ih =>
    have hpre : pre <+: pre ++ [req] := List.prefix_append _ _
    have hranked := ih (fun p r hp => hfirst p r (hp.trans hpre))
    have hfound' : Spaces.getSpaceRow spaceId (serveAll auth s pre).db = .ok space :=
      (getSpaceRow_serveAll pre).trans hfound
    have hkeys' := serveAll_roleKeys hadmin hkeys pre
    have hhigh := getHighest_of_space hfound' howner
    rw [hranked.highestOf] at hhigh
    rw [serveAll_concat]
    exact hranked.step hkeys' hfound' howner hhigh hrange (hfirst pre req List.prefix_rfl)
      (serve_change hadmin hkeys' req)

theorem holdsInSpace_of_requirePermission {db : Tables} {p : String}
    (hguest : p ∉ guestPermissions) (hadmin : auth.isAdmin = false)
    (hok : requirePermission spaceId auth p db = .ok ()) :
    HoldsInSpace db spaceId auth.userId p := by
  unfold requirePermission at hok
  split at hok
  · obtain ⟨_, _, hreq⟩ := (Query.bind_ok db).mp hok
    rw [Query.require_apply, if_neg hguest] at hreq
    cases hreq
  · obtain ⟨perms, hperms, hreq⟩ := (Query.bind_ok db).mp hok
    rw [hadmin] at hperms
    exact ⟨perms, hperms, Query.require_holds hreq⟩

theorem hasMember_of_holdsInSpace {db : Tables} {userId p : String}
    (hfound : Spaces.getSpaceRow spaceId db = .ok space) (howner : space.ownerId ≠ userId)
    (hholds : HoldsInSpace db spaceId userId p) : db.hasMember spaceId userId = true := by
  obtain ⟨perms, hperms, _⟩ := hholds
  obtain ⟨row, hrow, ⟨howner', _⟩ | ⟨_, ⟨m, hm⟩, _⟩⟩ := resolveMemberPermissions_ok.mp hperms
  · cases hfound.symm.trans hrow
    exact absurd howner' howner
  · unfold Db.Members.getMemberRow at hm
    cases hfind : db.members.find? (fun m => m.spaceId = spaceId && m.userId = userId) with
    | none =>
      rw [hfind] at hm
      cases hm
    | some m' =>
      have hmatch := List.find?_some hfind
      exact List.any_eq_true.mpr ⟨m', List.mem_of_find?_eq_some hfind, hmatch⟩

theorem exec_addRole_self (hadmin : auth.isAdmin = false)
    (hfound : Spaces.getSpaceRow spaceId s.db = .ok space) (howner : space.ownerId ≠ auth.userId)
    {roleId : String}
    (hcheck : Members.checkRoleChange spaceId auth.userId roleId auth s.db = .ok ()) :
    ((Members.addRole spaceId auth.userId roleId auth).exec s).2.db =
      Members.assign ⟨auth.userId, spaceId, roleId⟩ s.db := by
  obtain ⟨role, hrole, hid, _, _⟩ := checkRoleChange_ok hadmin hcheck
  obtain ⟨_, hperm, _⟩ := (Query.bind_ok s.db).mp hcheck
  have hholds : HoldsInSpace s.db spaceId auth.userId "manage_roles" :=
    holdsInSpace_of_requirePermission (by decide) hadmin hperm
  have hmember := hasMember_of_holdsInSpace hfound howner hholds
  have hexists : s.db.hasRole roleId = true := Lib.Table.has_iff.mpr ⟨role, hrole, hid⟩
  have hquery : (App.query (Members.checkRoleChange spaceId auth.userId roleId auth)).exec s =
      (.ok (), s) := by rw [App.exec_query, hcheck]
  have hwrite : (Db.Members.addRoleToMember spaceId auth.userId roleId).exec s =
      (.ok (), s.withDb (Members.assign ⟨auth.userId, spaceId, roleId⟩ s.db)) := by
    refine App.exec_write_of_none ?_
    simp [App.foreignKey, Members.assignable, hmember, hexists]
  have hexec : (Members.addRole spaceId auth.userId roleId auth).exec s =
      (do
        Members.broadcastMember spaceId auth.userId
        return Members.done : App Json).exec
          (s.withDb (Members.assign ⟨auth.userId, spaceId, roleId⟩ s.db)) :=
    (Prog.exec_bind_of_ok hquery).trans (Prog.exec_bind_of_ok hwrite)
  rw [hexec]
  exact ((preserves_broadcastMember spaceId auth.userId (fun _ _ => rfl)).bind
    (fun _ => Prog.preserves_pure _)).exec _

theorem FirstRole.moves (hadmin : auth.isAdmin = false)
    (hfound : Spaces.getSpaceRow spaceId s.db = .ok space) (howner : space.ownerId ≠ auth.userId)
    (hkeys : RoleKeys s.db) {req : RoleRequest} (hfirst : FirstRole s.db auth spaceId req) :
    highestOf ((req.serve auth).exec s).2.db spaceId auth.userId ≠
      highestOf s.db spaceId auth.userId := by
  obtain ⟨roleId, rfl, hcheck, hnone⟩ := hfirst
  obtain ⟨role, hrole, rfl, hspace, hbelow⟩ := checkRoleChange_ok hadmin hcheck
  rw [below_iff (getHighest_of_space hfound howner)] at hbelow
  have hdb := exec_addRole_self hadmin hfound howner hcheck
  change highestOf ((Members.addRole spaceId auth.userId role.id auth).exec s).2.db _ _ ≠ _
  rw [hdb]
  have hheld : Held (Members.assign ⟨auth.userId, spaceId, role.id⟩ s.db) spaceId auth.userId
      role := by
    exact ⟨hrole, hspace, Members.mem_assign_self _ _⟩
  rw [highestOf_of_top hheld]
  · omega
  · intro r' hr'
    rcases Lib.Table.mem_insertNew hr'.assigned with hmem | heq
    · exact absurd ⟨hr'.mem, hr'.space, hmem⟩ (hnone r')
    · have hid : r'.id = role.id := congrArg MemberRole.roleId heq
      rw [hkeys.eq_of_id hr'.mem hrole hid]

theorem role_hierarchy_kept_iff (hadmin : auth.isAdmin = false)
    (hfound : Spaces.getSpaceRow spaceId s.db = .ok space) (howner : space.ownerId ≠ auth.userId)
    (hhigh : getHighestRolePosition spaceId auth.userId s.db = .ok h) (hrange : h ≤ i64Max)
    (hkeys : RoleKeys s.db) (reqs : List RoleRequest) :
    (∀ pre, pre <+: reqs →
        RolesKept h spaceId auth.userId s.db (serveAll auth s pre).db) ↔
      ∀ pre req, pre ++ [req] <+: reqs →
        ¬ FirstRole (serveAll auth s pre).db auth spaceId req := by
  cases hhigh.symm.trans (getHighest_of_space hfound howner)
  constructor
  · intro hkept pre req hprefix hfirst
    have hfound' : Spaces.getSpaceRow spaceId (serveAll auth s pre).db = .ok space :=
      (getSpaceRow_serveAll pre).trans hfound
    have hmoves := hfirst.moves hadmin hfound' howner (serveAll_roleKeys hadmin hkeys pre)
    have hbefore := (hkept pre ((List.prefix_append _ _).trans hprefix)).highest
    have hafter := (hkept _ hprefix).highest
    rw [getHighest_of_space hfound' howner] at hbefore
    rw [getHighest_of_space ((getSpaceRow_serveAll _).trans hfound) howner,
      serveAll_concat] at hafter
    exact hmoves ((Except.ok.inj hafter).trans (Except.ok.inj hbefore).symm)
  · intro hfirst pre hprefix
    have hranked := serveAll_ranked hadmin hfound howner hrange hkeys
      (fun p r hp => hfirst p r (hp.trans hprefix))
    refine ⟨hranked.roles, hranked.holders, ?_⟩
    rw [getHighest_of_space ((getSpaceRow_serveAll pre).trans hfound) howner, hranked.highestOf]

end

def beth : AuthUser := { userId := "beth" }

def replica : AppState :=
  ((Federation.upsertRemoteRole "low@h.example" "h.example" "s@h.example" "low" (-3) []).exec
    { db :=
        { users := [{ id := "beth", username := "beth" }]
          spaces := [{ id := "s@h.example", name := "s", ownerId := "1@h.example" }]
          roles := [
            { id := "everyone@h.example"
              spaceId := "s@h.example"
              name := "@everyone"
              permissions := ["view_channel", "manage_roles"] },
            { id := "mod@h.example"
              spaceId := "s@h.example"
              name := "mod"
              position := 2 }]
          members := [{ userId := "beth", spaceId := "s@h.example" }] }
      ext := Externals.fixed "now" }).2

theorem own_position_drops :
    ¬ RolesKept 0 "s@h.example" "beth" replica.db
      (serveAll beth replica [.addRole "s@h.example" "beth" "low@h.example"]).db := by
  intro h
  have hbelow : getHighestRolePosition "s@h.example" "beth"
      (serveAll beth replica [.addRole "s@h.example" "beth" "low@h.example"]).db = .ok (-3) := by
    decide +kernel
  cases hbelow.symm.trans h.highest

theorem replica_kept_iff :
    (∀ pre, pre <+: [.removeRole "s@h.example" "beth" "low@h.example"] →
        RolesKept 0 "s@h.example" "beth" replica.db (serveAll beth replica pre).db) ↔
      ∀ pre req, pre ++ [req] <+: [.removeRole "s@h.example" "beth" "low@h.example"] →
        ¬ FirstRole (serveAll beth replica pre).db beth "s@h.example" req :=
  have hfound : Spaces.getSpaceRow "s@h.example" replica.db =
      .ok { id := "s@h.example", name := "s", ownerId := "1@h.example" } := by decide +kernel
  have howner : "1@h.example" ≠ beth.userId := by decide
  have hhigh : getHighestRolePosition "s@h.example" beth.userId replica.db = .ok 0 := by
    decide +kernel
  have hkeys : RoleKeys replica.db := by
    unfold RoleKeys Lib.Table.Distinct
    decide +kernel
  role_hierarchy_kept_iff rfl hfound howner hhigh (by decide) hkeys _

end Vokusz.Routes.Roles
