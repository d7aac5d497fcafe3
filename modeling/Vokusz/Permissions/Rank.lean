import Vokusz.Permissions.ClosedForm

namespace Vokusz.Permissions

open Db

structure Held (db : Tables) (spaceId userId : String) (r : RoleRow) : Prop where
  mem : r ∈ db.roles
  space : r.spaceId = spaceId
  assigned : (⟨userId, spaceId, r.id⟩ : MemberRole) ∈ db.memberRoles

def heldRoles (db : Tables) (spaceId userId : String) : List RoleRow :=
  (Roles.inSpace db spaceId).filter (fun r =>
    (Members.roleIds db spaceId userId).contains r.id)

def highestOf (db : Tables) (spaceId userId : String) : Int :=
  ((heldRoles db spaceId userId).map RoleRow.position).max?.getD 0

def RoleKeys (db : Tables) : Prop := Lib.Table.Distinct RoleRow.id db.roles

section

variable {db : Tables} {spaceId userId : String} {r r' : RoleRow} {h : Int}

theorem mem_roleIds {id : String} :
    id ∈ Members.roleIds db spaceId userId ↔
      (⟨userId, spaceId, id⟩ : MemberRole) ∈ db.memberRoles := by
  simp only [Members.roleIds, List.mem_map, List.mem_filter, Bool.and_eq_true,
    decide_eq_true_eq]
  constructor
  · rintro ⟨m, ⟨hm, rfl, rfl⟩, rfl⟩
    exact hm
  · intro hm
    exact ⟨_, ⟨hm, rfl, rfl⟩, rfl⟩

theorem mem_heldRoles : r ∈ heldRoles db spaceId userId ↔ Held db spaceId userId r := by
  rw [heldRoles, List.mem_filter, mem_inSpace, List.contains_iff_mem, mem_roleIds]
  exact ⟨fun ⟨⟨hm, hs⟩, ha⟩ => ⟨hm, hs, ha⟩, fun ⟨hm, hs, ha⟩ => ⟨⟨hm, hs⟩, ha⟩⟩

theorem RoleKeys.eq_of_id (hkeys : RoleKeys db) (hr : r ∈ db.roles) (hr' : r' ∈ db.roles)
    (hid : r.id = r'.id) : r = r' := by
  have hfound := hkeys.lookup_eq hr
  rw [hid, hkeys.lookup_eq hr'] at hfound
  exact (Option.some.inj hfound).symm

theorem highestOf_of_none (hnone : ∀ r, ¬ Held db spaceId userId r) :
    highestOf db spaceId userId = 0 := by
  have hempty : heldRoles db spaceId userId = [] :=
    List.eq_nil_iff_forall_not_mem.mpr (fun r hr => hnone r (mem_heldRoles.mp hr))
  rw [highestOf, hempty]
  rfl

theorem highestOf_of_top (hheld : Held db spaceId userId r)
    (htop : ∀ r', Held db spaceId userId r' → r'.position ≤ r.position) :
    highestOf db spaceId userId = r.position := by
  have hmax : ((heldRoles db spaceId userId).map RoleRow.position).max? = some r.position := by
    rw [List.max?_eq_some_iff]
    refine ⟨List.mem_map_of_mem (mem_heldRoles.mpr hheld), ?_⟩
    intro b hb
    obtain ⟨r', hr', rfl⟩ := List.mem_map.mp hb
    exact htop r' (mem_heldRoles.mp hr')
  rw [highestOf, hmax]
  rfl

theorem exists_top (hheld : Held db spaceId userId r) :
    ∃ t, Held db spaceId userId t ∧ t.position = highestOf db spaceId userId := by
  have hmem : r.position ∈ (heldRoles db spaceId userId).map RoleRow.position :=
    List.mem_map_of_mem (mem_heldRoles.mpr hheld)
  cases hmax : ((heldRoles db spaceId userId).map RoleRow.position).max? with
  | none =>
    rw [List.max?_eq_none_iff.mp hmax] at hmem
    cases hmem
  | some m =>
    obtain ⟨t, ht, htm⟩ := List.mem_map.mp (List.max?_eq_some_iff.mp hmax).1
    refine ⟨t, mem_heldRoles.mp ht, ?_⟩
    rw [highestOf, hmax, htm]
    rfl

theorem Held.le_highest (hheld : Held db spaceId userId r) :
    r.position ≤ highestOf db spaceId userId := by
  have hmem : r.position ∈ (heldRoles db spaceId userId).map RoleRow.position :=
    List.mem_map_of_mem (mem_heldRoles.mpr hheld)
  cases hmax : ((heldRoles db spaceId userId).map RoleRow.position).max? with
  | none =>
    rw [List.max?_eq_none_iff.mp hmax] at hmem
    cases hmem
  | some m =>
    rw [highestOf, hmax]
    exact (List.max?_eq_some_iff.mp hmax).2 _ hmem

theorem getHighestRolePosition_ok :
    getHighestRolePosition spaceId userId db = .ok h ↔
      ∃ space, Spaces.getSpaceRow spaceId db = .ok space ∧
        h = if space.ownerId = userId then i64Max else highestOf db spaceId userId := by
  rw [getHighestRolePosition, Query.bind_ok]
  refine exists_congr (fun space => and_congr Iff.rfl ?_)
  by_cases howner : space.ownerId = userId
  · rw [if_pos howner, if_pos howner]
    exact ⟨fun hh => (Except.ok.inj hh).symm, fun hh => congrArg Except.ok hh.symm⟩
  · rw [if_neg howner, if_neg howner, Query.bind_apply]
    dsimp only [Members.getMemberRoleIds]
    by_cases hempty : (Members.roleIds db spaceId userId).isEmpty = true
    · rw [if_pos hempty]
      have hnone : ∀ r, ¬ Held db spaceId userId r := by
        intro r hr
        have hmem := mem_roleIds.mpr hr.assigned
        rw [List.isEmpty_iff.mp hempty] at hmem
        cases hmem
      rw [highestOf_of_none hnone]
      exact ⟨fun hh => (Except.ok.inj hh).symm, fun hh => congrArg Except.ok hh.symm⟩
    · rw [if_neg hempty]
      exact ⟨fun hh => (Except.ok.inj hh).symm, fun hh => congrArg Except.ok hh.symm⟩

theorem everyoneRole_eq :
    everyoneRole db spaceId =
      db.roles.find? (fun r => r.spaceId = spaceId ∧ r.position = 0) := by
  rw [everyoneRole, Roles.inSpace, Lib.Table.find?_orderBy, List.find?_filter]
  simp

def HoldsInSpace (db : Tables) (spaceId userId p : String) : Prop :=
  ∃ perms, resolveMemberPermissions spaceId userId db = .ok perms ∧ hasPermission perms p = true

end

end Vokusz.Permissions
