import Vokusz.Lib.Layer
import Vokusz.Permissions

namespace Vokusz.Permissions

open Db
open Lib (Layer)

section

variable {perms new allow deny base : List String} {p q : String}

@[simp] theorem mem_pushMissing : q ∈ pushMissing perms p ↔ q ∈ perms ∨ q = p := by
  unfold pushMissing
  split
  · rename_i hfound
    constructor
    · exact .inl
    · rintro (h | rfl)
      · exact h
      · simpa using hfound
  · simp

@[simp] theorem mem_extendMissing : q ∈ extendMissing perms new ↔ q ∈ perms ∨ q ∈ new := by
  unfold extendMissing
  induction new generalizing perms with
  | nil => simp
  | cons p new ih =>
    rw [List.foldl_cons, ih, mem_pushMissing, List.mem_cons]
    tauto

theorem mem_foldl_extendMissing (lists : List (List String)) :
    q ∈ lists.foldl extendMissing base ↔ q ∈ base ∨ ∃ l ∈ lists, q ∈ l := by
  induction lists generalizing base with
  | nil => simp
  | cons l lists ih =>
    rw [List.foldl_cons, ih, mem_extendMissing]
    simp only [List.mem_cons, exists_eq_or_imp]
    tauto

theorem mem_applyOverwrite :
    q ∈ applyOverwrite allow deny perms ↔ q ∈ allow ∨ (q ∉ deny ∧ q ∈ perms) := by
  simp only [applyOverwrite, mem_extendMissing, List.mem_filter, Bool.not_eq_true',
    List.contains_eq_mem, decide_eq_false_iff_not]
  tauto

end

def isEveryone (everyone : Option String) (o : PermissionOverwrite) : Prop :=
  o.overwriteType = "role" ∧ everyone = some o.id

def isAssigned (everyone : Option String) (roleIds : List String) (o : PermissionOverwrite) :
    Prop :=
  o.overwriteType = "role" ∧ o.id ∈ roleIds ∧ everyone ≠ some o.id

def isMember (userId : String) (o : PermissionOverwrite) : Prop :=
  o.overwriteType = "member" ∧ o.id = userId

def Allows (rows : List PermissionOverwrite) (who : PermissionOverwrite → Prop) (p : String) :
    Prop :=
  ∃ o ∈ rows, who o ∧ p ∈ o.allow

def Denies (rows : List PermissionOverwrite) (who : PermissionOverwrite → Prop) (p : String) :
    Prop :=
  ∃ o ∈ rows, who o ∧ p ∈ o.deny

def layer (rows : List PermissionOverwrite) (who : PermissionOverwrite → Prop) : Layer String :=
  ⟨{ p | Allows rows who p }, { p | Denies rows who p }⟩

def layers (rows : List PermissionOverwrite) (everyone : Option String) (roleIds : List String)
    (userId : String) : List (Layer String) :=
  [layer rows (isEveryone everyone), layer rows (isAssigned everyone roleIds),
    layer rows (isMember userId)]

def Granted (rows : List PermissionOverwrite) (everyone : Option String) (roleIds : List String)
    (userId : String) (base : List String) (p : String) : Prop :=
  Allows rows (isMember userId) p ∨ (¬ Denies rows (isMember userId) p ∧
    (Allows rows (isAssigned everyone roleIds) p ∨
      (¬ Denies rows (isAssigned everyone roleIds) p ∧
        (Allows rows (isEveryone everyone) p ∨
          (¬ Denies rows (isEveryone everyone) p ∧ p ∈ base)))))

section

variable {rows : List PermissionOverwrite} {perms roleIds : List String}
  {everyone : Option String} {userId p : String} {o : PermissionOverwrite}

theorem unique_of_distinct (h : Lib.Table.Distinct PermissionOverwrite.id rows)
    {o o' : PermissionOverwrite} (ho : o ∈ rows) (ho' : o' ∈ rows) (hid : o.id = o'.id) :
    o = o' := by
  have hfound := h.lookup_eq ho
  rw [hid, h.lookup_eq ho'] at hfound
  exact (Option.some.inj hfound).symm

theorem mem_layer_of_unique {who : PermissionOverwrite → Prop} (ho : o ∈ rows) (hwho : who o)
    (hunique : ∀ o' ∈ rows, who o' → o' = o) (s : Set String) :
    p ∈ (layer rows who).apply s ↔ p ∈ o.allow ∨ (p ∉ o.deny ∧ p ∈ s) := by
  have hallow : Allows rows who p ↔ p ∈ o.allow :=
    ⟨fun ⟨o', ho', hw, hp⟩ => hunique o' ho' hw ▸ hp, fun hp => ⟨o, ho, hwho, hp⟩⟩
  have hdeny : Denies rows who p ↔ p ∈ o.deny :=
    ⟨fun ⟨o', ho', hw, hp⟩ => hunique o' ho' hw ▸ hp, fun hp => ⟨o, ho, hwho, hp⟩⟩
  rw [Layer.mem_apply]
  exact or_congr hallow (and_congr (not_congr hdeny) Iff.rfl)

theorem mem_layer_of_none {who : PermissionOverwrite → Prop} (hnone : ∀ o ∈ rows, ¬ who o)
    (s : Set String) : p ∈ (layer rows who).apply s ↔ p ∈ s :=
  Layer.apply_of_empty (fun ⟨o, ho, hw, _⟩ => hnone o ho hw) (fun ⟨o, ho, hw, _⟩ => hnone o ho hw)

theorem mem_applyEveryoneOverwrite (h : Lib.Table.Distinct PermissionOverwrite.id rows) :
    p ∈ applyEveryoneOverwrite rows everyone perms ↔
      p ∈ (layer rows (isEveryone everyone)).apply { q | q ∈ perms } := by
  unfold applyEveryoneOverwrite
  cases everyone with
  | none =>
    rw [mem_layer_of_none (fun o _ hw => by cases hw.2)]
    rfl
  | some eid =>
    dsimp only
    cases hfind : rows.find? (fun o => o.overwriteType = "role" && o.id = eid) with
    | none =>
      rw [mem_layer_of_none]
      · rfl
      · intro o ho hw
        have hne := List.find?_eq_none.mp hfind o ho
        simp [hw.1, Option.some.inj hw.2] at hne
    | some ow =>
      have hmem := List.mem_of_find?_eq_some hfind
      have hwho := List.find?_some hfind
      simp only [Bool.and_eq_true, decide_eq_true_eq] at hwho
      rw [mem_layer_of_unique hmem ⟨hwho.1, congrArg some hwho.2.symm⟩]
      · exact mem_applyOverwrite
      · intro o ho hw
        exact unique_of_distinct h ho hmem ((Option.some.inj hw.2).symm.trans hwho.2.symm)

theorem mem_gathered (field : PermissionOverwrite → List String) :
    p ∈ ((rows.filter (fun o => o.overwriteType = "role" && roleIds.contains o.id &&
        everyone ≠ some o.id)).map field).foldl extendMissing [] ↔
      ∃ o ∈ rows, isAssigned everyone roleIds o ∧ p ∈ field o := by
  rw [mem_foldl_extendMissing]
  constructor
  · rintro (h | ⟨l, hl, hp⟩)
    · cases h
    · obtain ⟨o, ho, rfl⟩ := List.mem_map.mp hl
      simp only [List.mem_filter, Bool.and_eq_true, decide_eq_true_eq,
        List.contains_eq_mem] at ho
      exact ⟨o, ho.1, ⟨ho.2.1.1, ho.2.1.2, ho.2.2⟩, hp⟩
  · rintro ⟨o, ho, ⟨htype, hid, hne⟩, hp⟩
    refine .inr ⟨field o, List.mem_map_of_mem ?_, hp⟩
    simp [ho, htype, hid, hne]

theorem mem_applyRoleOverwrites :
    p ∈ applyRoleOverwrites rows roleIds everyone perms ↔
      p ∈ (layer rows (isAssigned everyone roleIds)).apply { q | q ∈ perms } := by
  rw [applyRoleOverwrites, mem_applyOverwrite, List.mem_filter, mem_gathered, mem_gathered,
    Layer.mem_apply]
  change _ ↔ Allows rows (isAssigned everyone roleIds) p ∨
    (¬ Denies rows (isAssigned everyone roleIds) p ∧ p ∈ perms)
  simp only [Bool.not_eq_true', ← Bool.not_eq_true, List.contains_iff_mem, mem_gathered]
  rw [← Allows, ← Denies]
  tauto

theorem mem_applyMemberOverwrite (h : Lib.Table.Distinct PermissionOverwrite.id rows) :
    p ∈ applyMemberOverwrite rows userId perms ↔
      p ∈ (layer rows (isMember userId)).apply { q | q ∈ perms } := by
  unfold applyMemberOverwrite
  cases hfind : rows.find? (fun o => o.overwriteType = "member" && o.id = userId) with
  | none =>
    rw [mem_layer_of_none]
    · rfl
    · intro o ho hw
      have hne := List.find?_eq_none.mp hfind o ho
      simp [hw.1, hw.2] at hne
  | some ow =>
    have hmem := List.mem_of_find?_eq_some hfind
    have hwho := List.find?_some hfind
    simp only [Bool.and_eq_true, decide_eq_true_eq] at hwho
    rw [mem_layer_of_unique hmem hwho]
    · exact mem_applyOverwrite
    · intro o ho hw
      exact unique_of_distinct h ho hmem (hw.2.trans hwho.2.symm)

theorem mem_applied (h : Lib.Table.Distinct PermissionOverwrite.id rows) :
    p ∈ applyMemberOverwrite rows userId
        (applyRoleOverwrites rows roleIds everyone (applyEveryoneOverwrite rows everyone perms)) ↔
      p ∈ Layer.stack (layers rows everyone roleIds userId) { q | q ∈ perms } := by
  have heveryone : { q | q ∈ applyEveryoneOverwrite rows everyone perms } =
      (layer rows (isEveryone everyone)).apply { q | q ∈ perms } :=
    Set.ext (fun q => mem_applyEveryoneOverwrite h)
  have hroles : { q | q ∈ applyRoleOverwrites rows roleIds everyone
        (applyEveryoneOverwrite rows everyone perms) } =
      (layer rows (isAssigned everyone roleIds)).apply
        ((layer rows (isEveryone everyone)).apply { q | q ∈ perms }) := by
    rw [← heveryone]
    exact Set.ext (fun q => mem_applyRoleOverwrites)
  rw [mem_applyMemberOverwrite h, hroles]
  rfl

theorem stack_layers_nil (s : Set String) :
    p ∈ Layer.stack (layers [] everyone roleIds userId) s ↔ p ∈ s := by
  simp only [layers, Layer.stack_cons, Layer.stack_nil]
  have hnone : ∀ who : PermissionOverwrite → Prop, ∀ o ∈ ([] : List PermissionOverwrite), ¬ who o :=
    fun who o ho => by cases ho
  rw [mem_layer_of_none (hnone _), mem_layer_of_none (hnone _), mem_layer_of_none (hnone _)]

theorem mem_stack_layers {base : List String} :
    p ∈ Layer.stack (layers rows everyone roleIds userId) { q | q ∈ base } ↔
      Granted rows everyone roleIds userId base p := by
  simp only [layers, Layer.stack_cons, Layer.stack_nil, Layer.mem_apply]
  rfl

theorem granted_congr {rows' : List PermissionOverwrite} {roleIds' base base' : List String}
    (hrows : ∀ o, o ∈ rows' ↔ o ∈ rows) (hids : ∀ id, id ∈ roleIds' ↔ id ∈ roleIds)
    (hbase : p ∈ base' ↔ p ∈ base) :
    Granted rows' everyone roleIds' userId base' p ↔
      Granted rows everyone roleIds userId base p := by
  simp only [Granted, Allows, Denies, isAssigned, hrows, hids, hbase]

end

def everyoneRole (db : Tables) (spaceId : String) : Option RoleRow :=
  (Roles.inSpace db spaceId).find? (fun r => r.position = 0)

def memberPermissions (db : Tables) (spaceId userId : String) : List String :=
  (((Roles.inSpace db spaceId).filter
    (fun r => (Members.roleIds db spaceId userId).contains r.id)).map RoleRow.permissions).foldl
      extendMissing (((everyoneRole db spaceId).map RoleRow.permissions).getD [])

def channelLayers (db : Tables) (channelId spaceId userId : String) : List (Layer String) :=
  layers (PermissionOverwrites.ofChannel db channelId) ((everyoneRole db spaceId).map RoleRow.id)
    (Members.roleIds db spaceId userId) userId

def OverwriteKeys (db : Tables) : Prop :=
  Lib.Table.Distinct PermissionOverwrites.overwriteKey db.permissionOverwrites

section

variable {db : Tables} {channelId spaceId userId p : String} {base perms : List String}

theorem OverwriteKeys.ofChannel (h : OverwriteKeys db) (channelId : String) :
    Lib.Table.Distinct PermissionOverwrite.id (PermissionOverwrites.ofChannel db channelId) := by
  rw [PermissionOverwrites.ofChannel, Lib.Table.Distinct, List.pairwise_filter]
  refine List.Pairwise.imp ?_ h
  intro o o' hne hchan hchan' hid
  simp only [decide_eq_true_eq] at hchan hchan'
  exact hne (Prod.ext hid (hchan.trans hchan'.symm))

theorem mem_inSpace {r : RoleRow} :
    r ∈ Roles.inSpace db spaceId ↔ r ∈ db.roles ∧ r.spaceId = spaceId := by
  rw [Roles.inSpace, Lib.Table.mem_orderBy]
  simp

theorem mem_memberPermissions :
    p ∈ memberPermissions db spaceId userId ↔
      (∃ e, everyoneRole db spaceId = some e ∧ p ∈ e.permissions) ∨
        ∃ r ∈ db.roles, r.spaceId = spaceId ∧ r.id ∈ Members.roleIds db spaceId userId ∧
          p ∈ r.permissions := by
  rw [memberPermissions, mem_foldl_extendMissing]
  refine or_congr ?_ ?_
  · cases everyoneRole db spaceId <;> simp
  · simp [mem_inSpace, and_assoc]

theorem resolveMemberPermissions_ok :
    resolveMemberPermissions spaceId userId db = .ok base ↔
      ∃ space, Spaces.getSpaceRow spaceId db = .ok space ∧
        ((space.ownerId = userId ∧ base = ["administrator"]) ∨
          (space.ownerId ≠ userId ∧ (∃ m, Members.getMemberRow spaceId userId db = .ok m) ∧
            base = memberPermissions db spaceId userId)) := by
  rw [resolveMemberPermissions, resolveMemberPermissionsInner]
  simp only [Bool.false_eq_true, if_false, Query.bind_ok]
  refine exists_congr (fun space => and_congr Iff.rfl ?_)
  by_cases howner : space.ownerId = userId
  · simp [howner, eq_comm]
  · simp only [howner, if_false, false_and, false_or, ne_eq, not_false_iff, true_and, Query.bind_ok,
      Query.pure_apply, Except.ok.injEq]
    constructor
    · rintro ⟨m, hm, roles, hroles, ids, hids, rfl⟩
      cases hroles
      cases hids
      refine ⟨⟨m, ?_⟩, rfl⟩
      revert hm
      cases Members.getMemberRow spaceId userId db with
      | ok m' => exact id
      | error e => cases e <;> exact fun h => by cases h
    · rintro ⟨⟨m, hm⟩, rfl⟩
      exact ⟨m, by rw [hm], _, rfl, _, rfl, rfl⟩

theorem resolveMemberPermissions_congr {db' : Tables} (hspaces : db'.spaces = db.spaces)
    (hroles : db'.roles = db.roles) (hmembers : db'.members = db.members)
    (hmemberRoles : db'.memberRoles = db.memberRoles) :
    resolveMemberPermissions spaceId userId db' = resolveMemberPermissions spaceId userId db := by
  have hspace : Spaces.getSpaceRow spaceId db' = Spaces.getSpaceRow spaceId db := by
    unfold Spaces.getSpaceRow
    rw [hspaces]
  have hmember : Members.getMemberRow spaceId userId db' = Members.getMemberRow spaceId userId db := by
    unfold Members.getMemberRow
    rw [hmembers]
  have hrows : Roles.listRoles spaceId db' = Roles.listRoles spaceId db := by
    unfold Roles.listRoles Roles.inSpace
    rw [hroles]
  have hids : Members.getMemberRoleIds spaceId userId db' =
      Members.getMemberRoleIds spaceId userId db := by
    unfold Members.getMemberRoleIds Members.roleIds
    rw [hmemberRoles]
  unfold resolveMemberPermissions resolveMemberPermissionsInner
  simp only [Bool.false_eq_true, if_false]
  rw [Query.bind_apply, Query.bind_apply, hspace]
  cases Spaces.getSpaceRow spaceId db with
  | error e => rfl
  | ok space =>
    dsimp only
    split
    · rfl
    · simp only [Query.bind_apply, hmember, hrows, hids]
      rfl

theorem resolveChannelPermissions_of_administrator
    (hbase : resolveMemberPermissions spaceId userId db = .ok base)
    (hadmin : "administrator" ∈ base) :
    resolveChannelPermissions channelId spaceId userId db = .ok base := by
  rw [resolveChannelPermissions, Query.bind_apply, hbase]
  have hany : base.any (fun p => p = "administrator") = true := by simpa using hadmin
  dsimp only
  rw [if_pos hany]
  rfl

theorem resolveChannelPermissions_ok
    (hbase : resolveMemberPermissions spaceId userId db = .ok base)
    (hadmin : "administrator" ∉ base) (hkeys : OverwriteKeys db) {channel : ChannelRow}
    (hchannel : Channels.getChannelRow channelId db = .ok channel)
    (hspace : channel.spaceId = some spaceId) :
    ∃ perms, resolveChannelPermissions channelId spaceId userId db = .ok perms ∧
      ∀ p, p ∈ perms ↔ p ≠ "administrator" ∧
        p ∈ Layer.stack (channelLayers db channelId spaceId userId) { q | q ∈ base } := by
  have hany : ¬ base.any (fun p => p = "administrator") = true := by simpa using hadmin
  rw [resolveChannelPermissions, Query.bind_apply, hbase]
  dsimp only
  rw [if_neg hany, Query.bind_apply, hchannel]
  dsimp only
  rw [Query.bind_apply, Query.require_apply, if_pos hspace]
  dsimp only
  rw [Query.bind_apply]
  dsimp only [PermissionOverwrites.listOverwrites]
  split
  · rename_i hempty
    have hnil := List.isEmpty_iff.mp hempty
    refine ⟨base, rfl, fun p => ?_⟩
    rw [channelLayers, hnil, stack_layers_nil]
    exact ⟨fun hp => ⟨fun heq => hadmin (heq ▸ hp), hp⟩, fun hp => hp.2⟩
  · refine ⟨_, rfl, fun p => ?_⟩
    rw [List.mem_filter, mem_applied (hkeys.ofChannel channelId), decide_eq_true_eq, and_comm]
    rfl

def Holds (db : Tables) (channelId spaceId userId p : String) : Prop :=
  ∃ perms, resolveChannelPermissions channelId spaceId userId db = .ok perms ∧
    hasPermission perms p = true

theorem hasPermission_iff : hasPermission perms p = true ↔ "administrator" ∈ perms ∨ p ∈ perms := by
  simp [hasPermission, List.any_eq_true, and_or_left, exists_or]

theorem resolveChannelPermissions_inv
    (h : resolveChannelPermissions channelId spaceId userId db = .ok perms) :
    ∃ base, resolveMemberPermissions spaceId userId db = .ok base ∧
      ("administrator" ∈ base ∨ "administrator" ∉ base ∧
        ∃ channel, Channels.getChannelRow channelId db = .ok channel ∧
          channel.spaceId = some spaceId) := by
  obtain ⟨base, hbase, hrest⟩ := (Query.bind_ok db).mp h
  refine ⟨base, hbase, ?_⟩
  by_cases hadmin : "administrator" ∈ base
  · exact .inl hadmin
  · have hany : ¬ base.any (fun p => p = "administrator") = true := by simpa using hadmin
    rw [if_neg hany] at hrest
    obtain ⟨channel, hchannel, hrest⟩ := (Query.bind_ok db).mp hrest
    obtain ⟨_, hreq, _⟩ := (Query.bind_ok db).mp hrest
    refine .inr ⟨hadmin, channel, hchannel, ?_⟩
    by_contra hspace
    rw [Query.require_apply, if_neg hspace] at hreq
    cases hreq

def channelGranted (db : Tables) (channelId spaceId userId : String) (base : List String)
    (p : String) : Prop :=
  Granted (PermissionOverwrites.ofChannel db channelId) ((everyoneRole db spaceId).map RoleRow.id)
    (Members.roleIds db spaceId userId) userId base p

theorem holds_iff (hkeys : OverwriteKeys db) :
    Holds db channelId spaceId userId p ↔
      ∃ base, resolveMemberPermissions spaceId userId db = .ok base ∧
        ("administrator" ∈ base ∨
          (∃ channel, Channels.getChannelRow channelId db = .ok channel ∧
            channel.spaceId = some spaceId) ∧
          p ≠ "administrator" ∧ channelGranted db channelId spaceId userId base p) := by
  constructor
  · rintro ⟨perms, hperms, hp⟩
    obtain ⟨base, hbase, hadmin | ⟨hadmin, channel, hchannel, hspace⟩⟩ :=
      resolveChannelPermissions_inv hperms
    · exact ⟨base, hbase, .inl hadmin⟩
    · obtain ⟨perms', hperms', hmem⟩ :=
        resolveChannelPermissions_ok hbase hadmin hkeys hchannel hspace
      cases hperms.symm.trans hperms'
      refine ⟨base, hbase, .inr ⟨⟨channel, hchannel, hspace⟩, ?_⟩⟩
      rcases hasPermission_iff.mp hp with h | h
      · exact absurd rfl ((hmem _).mp h).1
      · exact ((hmem p).mp h).imp_right mem_stack_layers.mp
  · rintro ⟨base, hbase, hadmin | ⟨⟨channel, hchannel, hspace⟩, hp, hgranted⟩⟩
    · exact ⟨base, resolveChannelPermissions_of_administrator hbase hadmin,
        hasPermission_iff.mpr (.inl hadmin)⟩
    · by_cases hadmin : "administrator" ∈ base
      · exact ⟨base, resolveChannelPermissions_of_administrator hbase hadmin,
          hasPermission_iff.mpr (.inl hadmin)⟩
      · obtain ⟨perms, hperms, hmem⟩ :=
          resolveChannelPermissions_ok hbase hadmin hkeys hchannel hspace
        exact ⟨perms, hperms,
          hasPermission_iff.mpr (.inr ((hmem p).mpr ⟨hp, mem_stack_layers.mpr hgranted⟩))⟩

structure OnlyEveryone (db : Tables) (spaceId : String) (e : RoleRow) : Prop where
  mem : e ∈ db.roles
  space : e.spaceId = spaceId
  position : e.position = 0
  unique : ∀ r ∈ db.roles, r.spaceId = spaceId → r.position = 0 → r = e

theorem OnlyEveryone.everyoneRole {e : RoleRow} (h : OnlyEveryone db spaceId e) :
    everyoneRole db spaceId = some e := by
  unfold Permissions.everyoneRole
  cases hfind : (Roles.inSpace db spaceId).find? (fun r => r.position = 0) with
  | none =>
    have hne := List.find?_eq_none.mp hfind e (mem_inSpace.mpr ⟨h.mem, h.space⟩)
    simp [h.position] at hne
  | some r =>
    obtain ⟨hr, hspace⟩ := mem_inSpace.mp (List.mem_of_find?_eq_some hfind)
    have hpos := List.find?_some hfind
    rw [h.unique r hr hspace (by simpa using hpos)]

structure Reordered (db db' : Tables) : Prop where
  roles : db'.roles.Perm db.roles
  memberRoles : db'.memberRoles.Perm db.memberRoles
  overwrites : db'.permissionOverwrites.Perm db.permissionOverwrites
  rest : db' = { db with
    roles := db'.roles
    memberRoles := db'.memberRoles
    permissionOverwrites := db'.permissionOverwrites }

variable {db' : Tables} {e : RoleRow}

section

variable (h : Reordered db db')

include h

theorem Reordered.spaces : db'.spaces = db.spaces := by rw [h.rest]

theorem Reordered.members : db'.members = db.members := by rw [h.rest]

theorem Reordered.channels : db'.channels = db.channels := by rw [h.rest]

theorem Reordered.keys (hkeys : OverwriteKeys db) : OverwriteKeys db' :=
  (h.overwrites.pairwise_iff (fun hne => hne.symm)).mpr hkeys

theorem Reordered.onlyEveryone (he : OnlyEveryone db spaceId e) :
    OnlyEveryone db' spaceId e :=
  ⟨h.roles.mem_iff.mpr he.mem, he.space, he.position,
    fun r hr => he.unique r (h.roles.mem_iff.mp hr)⟩

theorem Reordered.mem_roleIds (id : String) :
    id ∈ Members.roleIds db' spaceId userId ↔ id ∈ Members.roleIds db spaceId userId :=
  ((h.memberRoles.filter _).map _).mem_iff

theorem Reordered.resolveMember (he : OnlyEveryone db spaceId e)
    (hbase : resolveMemberPermissions spaceId userId db = .ok base) :
    ∃ base', resolveMemberPermissions spaceId userId db' = .ok base' ∧
      ∀ p, p ∈ base' ↔ p ∈ base := by
  obtain ⟨space, hspace, hcases⟩ := resolveMemberPermissions_ok.mp hbase
  have hspace' : Spaces.getSpaceRow spaceId db' = .ok space := by
    unfold Spaces.getSpaceRow
    rw [h.spaces]
    exact hspace
  rcases hcases with ⟨howner, rfl⟩ | ⟨howner, ⟨m, hm⟩, rfl⟩
  · exact ⟨_, resolveMemberPermissions_ok.mpr ⟨space, hspace', .inl ⟨howner, rfl⟩⟩,
      fun p => Iff.rfl⟩
  · have hm' : Members.getMemberRow spaceId userId db' = .ok m := by
      unfold Members.getMemberRow
      rw [h.members]
      exact hm
    refine ⟨_, resolveMemberPermissions_ok.mpr ⟨space, hspace', .inr ⟨howner, ⟨m, hm'⟩, rfl⟩⟩,
      fun p => ?_⟩
    rw [mem_memberPermissions, mem_memberPermissions, he.everyoneRole,
      (h.onlyEveryone he).everyoneRole]
    simp only [h.roles.mem_iff, h.mem_roleIds]

end

theorem exists_granted (he : OnlyEveryone db spaceId e)
    (hbase : resolveMemberPermissions spaceId userId db = .ok base)
    (hadmin : "administrator" ∉ base) (hkeys : OverwriteKeys db) {channel : ChannelRow}
    (hchannel : Channels.getChannelRow channelId db = .ok channel)
    (hspace : channel.spaceId = some spaceId) :
    ∃ perms, resolveChannelPermissions channelId spaceId userId db = .ok perms ∧
      ∀ p, p ∈ perms ↔ p ≠ "administrator" ∧
        Granted (PermissionOverwrites.ofChannel db channelId) (some e.id)
          (Members.roleIds db spaceId userId) userId base p := by
  obtain ⟨perms, hperms, hmem⟩ := resolveChannelPermissions_ok hbase hadmin hkeys hchannel hspace
  refine ⟨perms, hperms, fun p => ?_⟩
  rw [hmem, channelLayers, he.everyoneRole, mem_stack_layers]
  rfl

theorem channel_permissions_closed_form (he : OnlyEveryone db spaceId e)
    (hbase : resolveMemberPermissions spaceId userId db = .ok base)
    (hadmin : "administrator" ∉ base) (hkeys : OverwriteKeys db) {channel : ChannelRow}
    (hchannel : Channels.getChannelRow channelId db = .ok channel)
    (hspace : channel.spaceId = some spaceId) :
    ∃ perms, resolveChannelPermissions channelId spaceId userId db = .ok perms ∧
      "administrator" ∉ perms ∧
      (∀ p, p ≠ "administrator" →
        (p ∈ perms ↔ Granted (PermissionOverwrites.ofChannel db channelId) (some e.id)
          (Members.roleIds db spaceId userId) userId base p)) ∧
      ∀ db', Reordered db db' →
        ∃ perms', resolveChannelPermissions channelId spaceId userId db' = .ok perms' ∧
          ∀ p, p ∈ perms' ↔ p ∈ perms := by
  obtain ⟨perms, hperms, hmem⟩ := exists_granted he hbase hadmin hkeys hchannel hspace
  refine ⟨perms, hperms, fun h => ((hmem _).mp h).1 rfl, ?_, ?_⟩
  · intro p hp
    rw [hmem]
    exact and_iff_right hp
  · intro db' hre
    obtain ⟨base', hbase', hsame⟩ := hre.resolveMember he hbase
    have hchannel' : Channels.getChannelRow channelId db' = .ok channel := by
      unfold Channels.getChannelRow
      rw [hre.channels]
      exact hchannel
    obtain ⟨perms', hperms', hmem'⟩ := exists_granted (hre.onlyEveryone he) hbase'
      (fun h => hadmin ((hsame _).mp h)) (hre.keys hkeys) hchannel' hspace
    refine ⟨perms', hperms', fun p => ?_⟩
    rw [hmem, hmem']
    refine and_congr_right (fun _ => granted_congr ?_ hre.mem_roleIds (hsame p))
    exact fun o => (hre.overwrites.filter _).mem_iff

end

def lounge : Tables :=
  { users := [{ id := "ada", username := "ada" }, { id := "bob", username := "bob" }]
    spaces := [{ id := "s", name := "s", ownerId := "ada" }]
    channels := [{ id := "c", spaceId := some "s" }]
    roles := [
      { id := "everyone"
        spaceId := "s"
        name := "@everyone"
        permissions := ["view_channel", "send_messages"] },
      { id := "mod"
        spaceId := "s"
        name := "mod"
        position := 1
        permissions := ["manage_messages"] }]
    members := [{ userId := "ada", spaceId := "s" }, { userId := "bob", spaceId := "s" }]
    memberRoles := [{ userId := "bob", spaceId := "s", roleId := "mod" }]
    permissionOverwrites := [
      { id := "everyone"
        channelId := "c"
        overwriteType := "role"
        deny := ["view_channel", "send_messages"] },
      { id := "mod"
        channelId := "c"
        overwriteType := "role"
        allow := ["view_channel"] },
      { id := "bob"
        channelId := "c"
        overwriteType := "member"
        allow := ["stream"]
        deny := ["manage_messages"] }] }

theorem lounge_onlyEveryone : OnlyEveryone lounge "s"
    { id := "everyone"
      spaceId := "s"
      name := "@everyone"
      permissions := ["view_channel", "send_messages"] } where
  mem := by decide
  space := rfl
  position := rfl
  unique := by
    intro r hr _ hpos
    rcases List.mem_pair.mp hr with rfl | rfl
    · rfl
    · cases hpos

theorem lounge_keys : OverwriteKeys lounge := by
  unfold OverwriteKeys Lib.Table.Distinct
  decide

theorem lounge_permissions :
    ∃ perms, resolveChannelPermissions "c" "s" "bob" lounge = .ok perms ∧
      "administrator" ∉ perms ∧
      (∀ p, p ≠ "administrator" →
        (p ∈ perms ↔ Granted (PermissionOverwrites.ofChannel lounge "c") (some "everyone")
          (Members.roleIds lounge "s" "bob") "bob"
          ["view_channel", "send_messages", "manage_messages"] p)) ∧
      ∀ db', Reordered lounge db' →
        ∃ perms', resolveChannelPermissions "c" "s" "bob" db' = .ok perms' ∧
          ∀ p, p ∈ perms' ↔ p ∈ perms :=
  channel_permissions_closed_form lounge_onlyEveryone (by decide +kernel) (by decide)
    lounge_keys
    (show Channels.getChannelRow "c" lounge = .ok { id := "c", spaceId := some "s" } from rfl) rfl

end Vokusz.Permissions
