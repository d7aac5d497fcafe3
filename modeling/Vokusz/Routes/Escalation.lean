import Mathlib.Data.List.Find
import Vokusz.Routes.RoleHierarchy

namespace Vokusz.Routes.Roles

open Db Permissions

def Grants (db : Tables) (spaceId userId p : String) : Prop :=
  (∃ e, everyoneRole db spaceId = some e ∧ p ∈ e.permissions) ∨
    ∃ r, Held db spaceId userId r ∧ p ∈ r.permissions

def Escalates (db : Tables) (auth : AuthUser) (spaceId : String) (held : String → Prop)
    (req : RoleRequest) : Prop :=
  ∃ role ∈ db.roles, req = .addRole spaceId auth.userId role.id ∧
    Members.checkRoleChange spaceId auth.userId role.id auth db = .ok () ∧
    ∃ p ∈ role.permissions, ¬ held p

section

variable {db : Tables} {spaceId userId p : String} {space : SpaceRow}

theorem mem_memberPermissions_iff :
    p ∈ memberPermissions db spaceId userId ↔ Grants db spaceId userId p := by
  rw [mem_memberPermissions]
  refine or_congr Iff.rfl ?_
  constructor
  · rintro ⟨r, hr, hspace, hid, hp⟩
    exact ⟨r, ⟨hr, hspace, mem_roleIds.mp hid⟩, hp⟩
  · rintro ⟨r, hheld, hp⟩
    exact ⟨r, hheld.mem, hheld.space, mem_roleIds.mpr hheld.assigned, hp⟩

theorem getMemberRow_iff :
    (∃ m, Db.Members.getMemberRow spaceId userId db = .ok m) ↔
      (spaceId, userId) ∈ db.members.map memberKey := by
  unfold Db.Members.getMemberRow
  cases hfind : db.members.find? (fun m => m.spaceId = spaceId && m.userId = userId) with
  | none =>
    constructor
    · rintro ⟨m, hm⟩
      cases hm
    · intro hmem
      obtain ⟨m, hm, hkey⟩ := List.mem_map.mp hmem
      have hne := List.find?_eq_none.mp hfind m hm
      obtain ⟨hs, hu⟩ := Prod.mk.inj hkey
      simp [hs, hu] at hne
  | some m =>
    have hkey := List.find?_some hfind
    simp only [Bool.and_eq_true, decide_eq_true_eq] at hkey
    refine iff_of_true ⟨m, rfl⟩ ?_
    exact List.mem_map.mpr ⟨m, List.mem_of_find?_eq_some hfind, Prod.ext hkey.1 hkey.2⟩

theorem holdsInSpace_iff (hfound : Spaces.getSpaceRow spaceId db = .ok space)
    (howner : space.ownerId ≠ userId) :
    HoldsInSpace db spaceId userId p ↔
      (spaceId, userId) ∈ db.members.map memberKey ∧
        (Grants db spaceId userId "administrator" ∨ Grants db spaceId userId p) := by
  rw [← mem_memberPermissions_iff, ← mem_memberPermissions_iff, ← hasPermission_iff,
    ← getMemberRow_iff]
  constructor
  · rintro ⟨perms, hperms, hp⟩
    obtain ⟨row, hrow, ⟨howner', _⟩ | ⟨_, hmember, rfl⟩⟩ := resolveMemberPermissions_ok.mp hperms
    · cases hfound.symm.trans hrow
      exact absurd howner' howner
    · exact ⟨hmember, hp⟩
  · rintro ⟨hmember, hp⟩
    exact ⟨_, resolveMemberPermissions_ok.mpr ⟨space, hfound, .inr ⟨howner, hmember, rfl⟩⟩, hp⟩

end

section

variable {auth : AuthUser} {db t : Tables} {req : RoleRequest} {spaceId p : String}
  {space : SpaceRow} {held : String → Prop}

theorem Change.everyone {roles : List RoleRow} {assigned : List MemberRole}
    (hchange : Change auth db req roles assigned) (hkeys : RoleKeys db)
    (hfound : Spaces.getSpaceRow spaceId db = .ok space) (howner : space.ownerId ≠ auth.userId)
    {e : RoleRow} (he : roles.find? (fun r => r.spaceId = spaceId ∧ r.position = 0) = some e) :
    ∃ old, everyoneRole db spaceId = some old ∧
      (e.permissions = old.permissions ∨
        ∀ q ∈ e.permissions, HoldsInSpace db spaceId auth.userId q) := by
  simp only [everyoneRole_eq]
  cases hchange with
  | @create _ _ row hfound' howner' hfresh =>
    rw [List.find?_append] at he
    have hother : [row].find? (fun r => r.spaceId = spaceId ∧ r.position = 0) = none := by
      simp only [List.find?_singleton, ite_eq_right_iff, decide_eq_true_eq, and_imp]
      intro hspace
      rw [hspace] at hfound'
      cases hfound.symm.trans hfound'
      exact absurd howner' howner
    rw [hother, Option.or_none] at he
    exact ⟨e, he, .inl rfl⟩
  | @update _ role input hrole hbelow hposition hheld =>
    rw [Lib.Table.update, List.find?_map] at he
    have hsame : ((fun r : RoleRow => decide (r.spaceId = spaceId ∧ r.position = 0)) ∘
        fun r => if r.id = role.id then input.apply r else r) =
        fun r => decide (r.spaceId = spaceId ∧ r.position = 0) := by
      funext r
      by_cases hid : r.id = role.id
      · simp [hid, Db.Roles.UpdateRole.apply, hposition]
      · simp [hid]
    rw [hsame] at he
    obtain ⟨old, hold, rfl⟩ := Option.map_eq_some_iff.mp he
    refine ⟨old, hold, ?_⟩
    by_cases hid : old.id = role.id
    · cases hkeys.eq_of_id (List.mem_of_find?_eq_some hold) hrole hid
      have hspace : role.spaceId = spaceId := by
        have hp := List.find?_some hold
        simp only [decide_eq_true_eq] at hp
        exact hp.1
      rw [if_pos rfl]
      cases hperms : input.permissions with
      | none => exact .inl (by simp [Db.Roles.UpdateRole.apply, hperms])
      | some perms =>
        refine .inr (fun q hq => ?_)
        rw [← hspace]
        apply hheld
        simpa [Db.Roles.UpdateRole.apply, hperms] using hq
    · rw [if_neg hid]
      exact .inl rfl
  | @delete _ role hrole hbelow hposition =>
    rw [Lib.Table.delete, List.find?_filter] at he
    refine ⟨e, ?_, .inl rfl⟩
    rw [← he]
    refine List.find?_congr (fun r hr => ?_)
    rw [Bool.eq_iff_iff]
    simp only [decide_eq_true_eq, ne_eq]
    constructor
    · rintro ⟨hspace, hzero⟩
      refine ⟨fun hid => hposition ?_, hspace, hzero⟩
      rw [← hkeys.eq_of_id hr hrole hid]
      exact hzero
    · rintro ⟨_, hspace, hzero⟩
      exact ⟨hspace, hzero⟩
  | reorder _ hmoved hzero =>
    rw [List.find?_map] at he
    obtain ⟨old, hold, rfl⟩ := Option.map_eq_some_iff.mp he
    refine ⟨old, ?_, .inl rfl⟩
    rw [← hold]
    refine List.find?_congr (fun r hr => ?_)
    rw [Bool.eq_iff_iff]
    simp [hzero r hr]
  | _ => exact ⟨e, he, .inl rfl⟩

theorem Change.own {roles : List RoleRow} {assigned : List MemberRole}
    (hchange : Change auth db req roles assigned) (hkeys : RoleKeys db)
    (hfound : Spaces.getSpaceRow spaceId db = .ok space) (howner : space.ownerId ≠ auth.userId)
    (hescalates : ¬ Escalates db auth spaceId held req) {r : RoleRow} (hr : r ∈ roles)
    (hspace : r.spaceId = spaceId)
    (hassigned : (⟨auth.userId, spaceId, r.id⟩ : MemberRole) ∈ assigned) :
    (∃ old, Held db spaceId auth.userId old ∧ r.permissions = old.permissions) ∨
      (∀ q ∈ r.permissions, HoldsInSpace db spaceId auth.userId q) ∨
      ∀ q ∈ r.permissions, held q := by
  cases hchange with
  | same => exact .inl ⟨r, ⟨hr, hspace, hassigned⟩, rfl⟩
  | create _ hfound' howner' =>
    rcases List.mem_append.mp hr with hr | hr
    · exact .inl ⟨r, ⟨hr, hspace, hassigned⟩, rfl⟩
    · cases List.mem_singleton.mp hr
      rw [hspace] at hfound'
      cases hfound.symm.trans hfound'
      exact absurd howner' howner
  | @update _ role input hrole hbelow hposition hheld =>
    rcases Lib.Table.mem_update hr with ⟨hr, _⟩ | ⟨old, hold, hid, rfl⟩
    · exact .inl ⟨r, ⟨hr, hspace, hassigned⟩, rfl⟩
    · cases hkeys.eq_of_id hold hrole hid
      change role.spaceId = spaceId at hspace
      cases hperms : input.permissions with
      | none =>
        exact .inl ⟨role, ⟨hold, hspace, hassigned⟩,
          by simp [Db.Roles.UpdateRole.apply, hperms]⟩
      | some perms =>
        refine .inr (.inl (fun q hq => ?_))
        rw [← hspace]
        apply hheld
        simpa [Db.Roles.UpdateRole.apply, hperms] using hq
  | delete =>
    exact .inl ⟨r, ⟨(List.mem_filter.mp hr).1, hspace, (List.mem_filter.mp hassigned).1⟩, rfl⟩
  | reorder =>
    obtain ⟨old, hold, rfl⟩ := List.mem_map.mp hr
    exact .inl ⟨old, ⟨hold, hspace, hassigned⟩, rfl⟩
  | @assign user role hrole hbelow hcheck =>
    rcases Lib.Table.mem_insertNew hassigned with hassigned | heq
    · exact .inl ⟨r, ⟨hr, hspace, hassigned⟩, rfl⟩
    · injection heq with huser hsid hid
      cases hkeys.eq_of_id hr hrole hid
      subst huser hsid
      refine .inr (.inr (fun q hq => ?_))
      by_contra hnot
      exact hescalates ⟨r, hrole, rfl, hcheck, q, hq, hnot⟩
  | unassign => exact .inl ⟨r, ⟨hr, hspace, (List.mem_filter.mp hassigned).1⟩, rfl⟩
  | @replace _ sid user ids hranks hids =>
    rcases List.mem_append.mp hassigned with hassigned | hassigned
    · exact .inl ⟨r, ⟨hr, hspace, (List.mem_filter.mp hassigned).1⟩, rfl⟩
    · obtain ⟨id, _, heq⟩ := List.mem_map.mp hassigned
      injection heq with huser hsid
      subst huser hsid
      obtain ⟨target, htarget, hbelow⟩ := hranks
      rw [below_iff htarget] at hbelow
      omega

theorem Change.grants (hchange : Change auth db req t.roles t.memberRoles) (hkeys : RoleKeys db)
    (hfound : Spaces.getSpaceRow spaceId db = .ok space) (howner : space.ownerId ≠ auth.userId)
    (hescalates : ¬ Escalates db auth spaceId held req)
    (hkept : ∀ q, Grants db spaceId auth.userId q → held q) (hadmin : ¬ held "administrator")
    (hgrants : Grants t spaceId auth.userId p) : held p := by
  have hholds : HoldsInSpace db spaceId auth.userId p → held p := by
    intro h
    rcases ((holdsInSpace_iff hfound howner).mp h).2 with h | h
    · exact absurd (hkept _ h) hadmin
    · exact hkept p h
  rcases hgrants with ⟨e, he, hp⟩ | ⟨r, hr, hp⟩
  · rw [everyoneRole_eq] at he
    obtain ⟨old, hold, hsame | hnew⟩ := hchange.everyone hkeys hfound howner he
    · exact hkept p (.inl ⟨old, hold, hsame ▸ hp⟩)
    · exact hholds (hnew p hp)
  · rcases hchange.own hkeys hfound howner hescalates hr.mem hr.space hr.assigned with
      ⟨old, hold, hsame⟩ | hnew | hnew
    · exact hkept p (.inr ⟨old, hold, hsame ▸ hp⟩)
    · exact hholds (hnew p hp)
    · exact hnew p hp

end

section

variable {auth : AuthUser} {s : AppState} {spaceId : String} {space : SpaceRow}

theorem serveAll_grants (hadmin : auth.isAdmin = false)
    (hfound : Spaces.getSpaceRow spaceId s.db = .ok space) (howner : space.ownerId ≠ auth.userId)
    (hkeys : RoleKeys s.db) {held : String → Prop}
    (hstart : ∀ q, Grants s.db spaceId auth.userId q → held q) (hnone : ¬ held "administrator")
    {reqs : List RoleRequest}
    (hescalates : ∀ pre req, pre ++ [req] <+: reqs →
      ¬ Escalates (serveAll auth s pre).db auth spaceId held req) :
    ∀ q, Grants (serveAll auth s reqs).db spaceId auth.userId q → held q := by
  induction reqs using List.reverseRecOn with
  | nil => exact hstart
  | append_singleton pre req ih =>
    have hprev := ih (fun p r hp => hescalates p r (hp.trans (List.prefix_append _ _)))
    have hkeys' := serveAll_roleKeys hadmin hkeys pre
    have hfound' : Spaces.getSpaceRow spaceId (serveAll auth s pre).db = .ok space :=
      (getSpaceRow_serveAll pre).trans hfound
    intro q hq
    rw [serveAll_concat] at hq
    exact (serve_change hadmin hkeys' req).grants hkeys' hfound' howner
      (hescalates pre req List.prefix_rfl) hprev hnone hq

theorem Escalates.gains (hadmin : auth.isAdmin = false)
    (hfound : Spaces.getSpaceRow spaceId s.db = .ok space) (howner : space.ownerId ≠ auth.userId)
    (hkeys : RoleKeys s.db) {held : String → Prop} {req : RoleRequest}
    (hescalates : Escalates s.db auth spaceId held req) :
    ∃ p, HoldsInSpace ((req.serve auth).exec s).2.db spaceId auth.userId p ∧ ¬ held p := by
  obtain ⟨role, hrole, rfl, hcheck, p, hp, hnot⟩ := hescalates
  obtain ⟨row, hrow, hid, hspace, _⟩ := checkRoleChange_ok hadmin hcheck
  cases hkeys.eq_of_id hrow hrole hid
  obtain ⟨_, hperm, _⟩ := (Query.bind_ok s.db).mp hcheck
  have hmanages : HoldsInSpace s.db spaceId auth.userId "manage_roles" :=
    holdsInSpace_of_requirePermission (by decide) hadmin hperm
  refine ⟨p, ?_, hnot⟩
  change HoldsInSpace ((Members.addRole spaceId auth.userId role.id auth).exec s).2.db _ _ _
  rw [exec_addRole_self hadmin hfound howner hcheck,
    holdsInSpace_iff (show Spaces.getSpaceRow spaceId (Members.assign _ s.db) = .ok space
      from hfound) howner]
  refine ⟨((holdsInSpace_iff hfound howner).mp hmanages).1, .inr (.inr ⟨role, ?_, hp⟩)⟩
  exact ⟨hrole, hspace, Members.mem_assign_self _ _⟩

theorem no_self_escalation_iff (hadmin : auth.isAdmin = false)
    (hfound : Spaces.getSpaceRow spaceId s.db = .ok space) (howner : space.ownerId ≠ auth.userId)
    (hnone : ¬ HoldsInSpace s.db spaceId auth.userId "administrator") (hkeys : RoleKeys s.db)
    (reqs : List RoleRequest) :
    (∀ pre, pre <+: reqs → ∀ p,
        HoldsInSpace (serveAll auth s pre).db spaceId auth.userId p →
          HoldsInSpace s.db spaceId auth.userId p) ↔
      ∀ pre req, pre ++ [req] <+: reqs →
        ¬ Escalates (serveAll auth s pre).db auth spaceId
          (HoldsInSpace s.db spaceId auth.userId) req := by
  constructor
  · intro hkept pre req hprefix hescalates
    have hfound' : Spaces.getSpaceRow spaceId (serveAll auth s pre).db = .ok space :=
      (getSpaceRow_serveAll pre).trans hfound
    obtain ⟨p, hp, hnot⟩ :=
      hescalates.gains hadmin hfound' howner (serveAll_roleKeys hadmin hkeys pre)
    rw [← serveAll_concat] at hp
    exact hnot (hkept _ hprefix p hp)
  · intro hescalates pre hprefix p hp
    have hfound' : Spaces.getSpaceRow spaceId (serveAll auth s pre).db = .ok space :=
      (getSpaceRow_serveAll pre).trans hfound
    obtain ⟨hmember, hgrants⟩ := (holdsInSpace_iff hfound' howner).mp hp
    rw [serveAll_members] at hmember
    have hstart : ∀ q, Grants s.db spaceId auth.userId q →
        HoldsInSpace s.db spaceId auth.userId q :=
      fun q hq => (holdsInSpace_iff hfound howner).mpr ⟨hmember, .inr hq⟩
    have hall := serveAll_grants hadmin hfound howner hkeys hstart hnone
      (fun p r hp => hescalates p r (hp.trans hprefix))
    rcases hgrants with hgrants | hgrants
    · exact absurd (hall _ hgrants) hnone
    · exact hall p hgrants

end

def steward : AuthUser := { userId := "bob" }

def guild : AppState :=
  { db :=
      { users := [{ id := "ada", username := "ada" }, { id := "bob", username := "bob" }]
        spaces := [{ id := "s", name := "s", ownerId := "ada" }]
        roles := [
          { id := "everyone"
            spaceId := "s"
            name := "@everyone"
            permissions := ["view_channel"] },
          { id := "warden"
            spaceId := "s"
            name := "warden"
            position := 1
            permissions := ["ban_members"] },
          { id := "steward"
            spaceId := "s"
            name := "steward"
            position := 2
            permissions := ["manage_roles"] }]
        members := [{ userId := "ada", spaceId := "s" }, { userId := "bob", spaceId := "s" }]
        memberRoles := [{ userId := "bob", spaceId := "s", roleId := "steward" }] }
    ext := Externals.fixed "now" }

theorem guild_permissions :
    resolveMemberPermissions "s" "bob" guild.db = .ok ["view_channel", "manage_roles"] := by
  decide +kernel

theorem steward_bans :
    ¬ ∀ p, HoldsInSpace (serveAll steward guild [.addRole "s" "bob" "warden"]).db "s" "bob" p →
      HoldsInSpace guild.db "s" "bob" p := by
  intro h
  have hafter : resolveMemberPermissions "s" "bob"
      (serveAll steward guild [.addRole "s" "bob" "warden"]).db =
        .ok ["view_channel", "ban_members", "manage_roles"] := by decide +kernel
  obtain ⟨perms, hperms, hbans⟩ := h "ban_members" ⟨_, hafter, rfl⟩
  cases guild_permissions.symm.trans hperms
  revert hbans
  decide

theorem guild_no_escalation_iff :
    (∀ pre, pre <+: [.removeRole "s" "bob" "warden", .addRole "s" "bob" "warden"] → ∀ p,
        HoldsInSpace (serveAll steward guild pre).db "s" "bob" p →
          HoldsInSpace guild.db "s" "bob" p) ↔
      ∀ pre req,
        pre ++ [req] <+: [.removeRole "s" "bob" "warden", .addRole "s" "bob" "warden"] →
          ¬ Escalates (serveAll steward guild pre).db steward "s"
            (HoldsInSpace guild.db "s" "bob") req :=
  have hfound : Spaces.getSpaceRow "s" guild.db =
      .ok { id := "s", name := "s", ownerId := "ada" } := by decide +kernel
  have howner : "ada" ≠ steward.userId := by decide
  have hnone : ¬ HoldsInSpace guild.db "s" steward.userId "administrator" := by
    rintro ⟨perms, hperms, hadmin⟩
    cases guild_permissions.symm.trans hperms
    revert hadmin
    decide
  have hkeys : RoleKeys guild.db := by
    unfold RoleKeys Lib.Table.Distinct
    decide
  no_self_escalation_iff rfl hfound howner hnone hkeys _

end Vokusz.Routes.Roles
