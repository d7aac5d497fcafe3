import Vokusz.Permissions.Rank
import Vokusz.Routes.Members

namespace Vokusz.Client

open Db Permissions

structure AccordRole where
  id : String
  position : Int := 0
  permissions : List String := []
  deriving DecidableEq, Repr

structure AccordSpace where
  ownerId : String
  roles : List AccordRole := []
  deriving DecidableEq, Repr

structure AccordMember where
  roles : List String := []
  deriving DecidableEq, Repr

structure AccordPermissionOverwrite where
  id : String
  type : String := "role"
  allow : List String := []
  deny : List String := []
  deriving DecidableEq, Repr

structure AccordChannel where
  permissionOverwrites : List AccordPermissionOverwrite := []
  deriving DecidableEq, Repr

def bypasses (space : Option AccordSpace) (currentUserId : String) (currentUserIsAdmin : Bool)
    (previewRoleId : Option String) : Bool :=
  previewRoleId.isNone && (currentUserIsAdmin ||
    space.any (fun s => currentUserId ≠ "" && s.ownerId = currentUserId))

def myRoleIds (selfMember : Option AccordMember) (previewRoleId : Option String) : List String :=
  match previewRoleId with
  | some roleId => [roleId]
  | none => (selfMember.map AccordMember.roles).getD []

def accordEffectivePermissions (space : Option AccordSpace) (selfMember : Option AccordMember)
    (roles : List AccordRole) (currentUserId : String) (currentUserIsAdmin : Bool)
    (previewRoleId : Option String) : List String :=
  if bypasses space currentUserId currentUserIsAdmin previewRoleId then ["administrator"]
  else
    roles.foldl (fun perms role =>
      if role.position = 0 || (myRoleIds selfMember previewRoleId).contains role.id then
        extendMissing perms role.permissions
      else perms) []

def accordHasPermission (perms : List String) (perm : String) : Bool :=
  perms.contains "administrator" || perms.contains perm

def apply (effective : List String) (overwrites : List AccordPermissionOverwrite) : List String :=
  let deny := (overwrites.map AccordPermissionOverwrite.deny).foldl extendMissing []
  let allow := (overwrites.map AccordPermissionOverwrite.allow).foldl extendMissing []
  applyOverwrite allow deny effective

def accordEffectiveChannelPermissions (permissions : List String) (channel : Option AccordChannel)
    (everyoneRoleId : String) (memberRoleIds : List String) (currentUserId : String) :
    List String :=
  match channel with
  | none => permissions
  | some channel =>
    if permissions.contains "administrator" then permissions
    else
      let effective := apply permissions (channel.permissionOverwrites.filter (fun o =>
        o.type = "role" && o.id = everyoneRoleId))
      let effective := apply effective (channel.permissionOverwrites.filter (fun o =>
        o.type = "role" && memberRoleIds.contains o.id))
      apply effective (channel.permissionOverwrites.filter (fun o =>
        (o.type = "user" || o.type = "member") && o.id = currentUserId))

def kAccordMaxRolePosition : Int := 999999

def accordMyHighestRolePosition (space : Option AccordSpace) (selfMember : Option AccordMember)
    (roles : List AccordRole) (currentUserId : String) (currentUserIsAdmin : Bool)
    (previewRoleId : Option String) : Int :=
  if bypasses space currentUserId currentUserIsAdmin previewRoleId then kAccordMaxRolePosition
  else
    let mine := roles.filter (fun role =>
      (myRoleIds selfMember previewRoleId).contains role.id)
    if mine.any (fun role => role.permissions.contains "administrator") then kAccordMaxRolePosition
    else mine.foldl (fun highest role => if role.position > highest then role.position else highest) 0

def accordRole (row : RoleRow) : AccordRole :=
  { id := row.id
    position := row.position
    permissions := row.permissions }

def accordSpace (db : Tables) (space : SpaceRow) : AccordSpace :=
  { ownerId := space.ownerId
    roles := (Roles.inSpace db space.id).map accordRole }

def accordMember (db : Tables) (spaceId userId : String) : AccordMember :=
  { roles := Members.roleIds db spaceId userId }

def accordOverwrite (row : PermissionOverwrite) : AccordPermissionOverwrite :=
  { id := row.id
    type := if row.overwriteType = "member" then "user" else row.overwriteType
    allow := row.allow
    deny := row.deny }

def accordChannel (db : Tables) (channelId : String) : AccordChannel :=
  { permissionOverwrites := (PermissionOverwrites.ofChannel db channelId).map accordOverwrite }

def spacePermissions (db : Tables) (space : SpaceRow) (auth : AuthUser) : List String :=
  accordEffectivePermissions (some (accordSpace db space))
    (some (accordMember db space.id auth.userId)) (accordSpace db space).roles auth.userId
    auth.isAdmin none

def channelPermissions (db : Tables) (space : SpaceRow) (channelId : String) (auth : AuthUser) :
    List String :=
  accordEffectiveChannelPermissions (spacePermissions db space auth)
    (some (accordChannel db channelId))
    ((((accordSpace db space).roles.find? (fun r => r.position = 0)).map AccordRole.id).getD "")
    (accordMember db space.id auth.userId).roles auth.userId

def highestRolePosition (db : Tables) (space : SpaceRow) (auth : AuthUser) : Int :=
  accordMyHighestRolePosition (some (accordSpace db space))
    (some (accordMember db space.id auth.userId)) (accordSpace db space).roles auth.userId
    auth.isAdmin none

def serverGrants (db : Tables) (spaceId channelId : String) (auth : AuthUser) (p : String) : Bool :=
  if auth.isAdmin then hasPermission ["administrator"] p
  else
    match resolveChannelPermissions channelId spaceId auth.userId db with
    | .ok perms => hasPermission perms p
    | .error _ => false

def serverLetsManage (db : Tables) (spaceId : String) (auth : AuthUser) (position : Int) : Bool :=
  (Routes.Members.requireBelow spaceId auth position db).toBool

structure Scene (db : Tables) (space : SpaceRow) (e : RoleRow) (channelId : String)
    (auth : AuthUser) : Prop where
  everyone : OnlyEveryone db space.id e
  found : Spaces.getSpaceRow space.id db = .ok space
  member : ∃ m, Members.getMemberRow space.id auth.userId db = .ok m
  channel : ∃ c, Channels.getChannelRow channelId db = .ok c ∧ c.spaceId = some space.id
  keys : OverwriteKeys db
  accepted : ∀ o ∈ PermissionOverwrites.ofChannel db channelId,
    (o.overwriteType = "role" ∨ o.overwriteType = "member") ∧ "administrator" ∉ o.allow
  signedIn : auth.userId ≠ ""

section

variable {db : Tables} {space : SpaceRow} {e : RoleRow} {channelId p : String} {auth : AuthUser}

theorem mem_union {init : List String} {cond : AccordRole → Bool} {roles : List AccordRole} :
    p ∈ roles.foldl (fun perms role =>
      if cond role then extendMissing perms role.permissions else perms) init ↔
        p ∈ init ∨ ∃ role ∈ roles, cond role = true ∧ p ∈ role.permissions := by
  induction roles generalizing init with
  | nil => simp
  | cons role roles ih =>
    rw [List.foldl_cons, ih]
    cases hcond : cond role with
    | true =>
      simp only [if_true, mem_extendMissing, List.mem_cons, exists_eq_or_imp, hcond, true_and]
      tauto
    | false => simp [hcond]

theorem bypasses_eq (h : Scene db space e channelId auth) :
    bypasses (some (accordSpace db space)) auth.userId auth.isAdmin none =
      (auth.isAdmin || decide (space.ownerId = auth.userId)) := by
  have hname : decide (auth.userId ≠ "") = true := decide_eq_true h.signedIn
  simp only [bypasses, Option.isNone_none, Bool.true_and, Option.any_some, hname]
  rfl

theorem mem_base (h : Scene db space e channelId auth) (hadmin : auth.isAdmin = false)
    (howner : space.ownerId ≠ auth.userId) :
    p ∈ spacePermissions db space auth ↔ p ∈ memberPermissions db space.id auth.userId := by
  have hbypass : bypasses (some (accordSpace db space)) auth.userId auth.isAdmin none = false := by
    rw [bypasses_eq h, hadmin, decide_eq_false howner]
    rfl
  rw [spacePermissions, accordEffectivePermissions, hbypass, if_neg Bool.false_ne_true, mem_union,
    mem_memberPermissions, h.everyone.everyoneRole]
  simp only [accordSpace, accordMember, myRoleIds, Option.map_some, Option.getD_some,
    List.not_mem_nil, false_or, List.mem_map, exists_exists_and_eq_and, accordRole, Bool.or_eq_true,
    decide_eq_true_eq, List.contains_iff_mem, Option.some.injEq, exists_eq_left', mem_inSpace]
  constructor
  · rintro ⟨r, ⟨hr, hspace⟩, hzero | hmine, hp⟩
    · rw [h.everyone.unique r hr hspace hzero] at hp
      exact .inl hp
    · exact .inr ⟨r, hr, hspace, hmine, hp⟩
  · rintro (hp | ⟨r, hr, hspace, hmine, hp⟩)
    · exact ⟨e, ⟨h.everyone.mem, h.everyone.space⟩, .inl h.everyone.position, hp⟩
    · exact ⟨r, ⟨hr, hspace⟩, .inr hmine, hp⟩

theorem everyoneRoleId_eq (h : Scene db space e channelId auth) :
    (((accordSpace db space).roles.find? (fun r => r.position = 0)).map AccordRole.id).getD "" =
      e.id := by
  have hfind : (Roles.inSpace db space.id).find? (fun r => r.position = 0) = some e :=
    h.everyone.everyoneRole
  have hmap : (accordSpace db space).roles.find? (fun r => r.position = 0) = some (accordRole e) := by
    rw [accordSpace, List.find?_map]
    exact congrArg (Option.map accordRole) hfind
  rw [hmap]
  rfl

theorem mem_apply {effective : List String} {overwrites : List AccordPermissionOverwrite} :
    p ∈ apply effective overwrites ↔
      (∃ o ∈ overwrites, p ∈ o.allow) ∨ (¬ (∃ o ∈ overwrites, p ∈ o.deny) ∧ p ∈ effective) := by
  rw [apply, mem_applyOverwrite, mem_foldl_extendMissing, mem_foldl_extendMissing]
  simp

theorem mem_tier {effective : List String} {rows : List PermissionOverwrite}
    {who : PermissionOverwrite → Prop} {chosen : AccordPermissionOverwrite → Bool}
    (hwho : ∀ o ∈ rows, chosen (accordOverwrite o) = true ↔ who o) :
    p ∈ apply effective ((rows.map accordOverwrite).filter chosen) ↔
      Allows rows who p ∨ (¬ Denies rows who p ∧ p ∈ effective) := by
  have hfield : ∀ field : AccordPermissionOverwrite → List String,
      (∃ o ∈ (rows.map accordOverwrite).filter chosen, p ∈ field o) ↔
        ∃ o ∈ rows, who o ∧ p ∈ field (accordOverwrite o) := by
    intro field
    constructor
    · rintro ⟨o, ho, hp⟩
      obtain ⟨hmem, hchosen⟩ := List.mem_filter.mp ho
      obtain ⟨row, hrow, rfl⟩ := List.mem_map.mp hmem
      exact ⟨row, hrow, (hwho row hrow).mp hchosen, hp⟩
    · rintro ⟨row, hrow, hchosen, hp⟩
      exact ⟨_, List.mem_filter.mpr ⟨List.mem_map_of_mem hrow, (hwho row hrow).mpr hchosen⟩, hp⟩
  rw [mem_apply, hfield, hfield]
  rfl

def isOwn (roleIds : List String) (o : PermissionOverwrite) : Prop :=
  o.overwriteType = "role" ∧ o.id ∈ roleIds

variable {roleIds : List String} {rows : List PermissionOverwrite} {userId : String}

theorem own_split {P : PermissionOverwrite → Prop} :
    (∃ o ∈ rows, isOwn roleIds o ∧ P o) ↔
      (∃ o ∈ rows, isAssigned (some e.id) roleIds o ∧ P o) ∨
        e.id ∈ roleIds ∧ ∃ o ∈ rows, isEveryone (some e.id) o ∧ P o := by
  constructor
  · rintro ⟨o, ho, ⟨htype, hmine⟩, hp⟩
    by_cases hid : e.id = o.id
    · rw [← hid] at hmine
      exact .inr ⟨hmine, o, ho, ⟨htype, congrArg some hid⟩, hp⟩
    · exact .inl ⟨o, ho, ⟨htype, hmine, fun heq => hid (Option.some.inj heq)⟩, hp⟩
  · rintro (⟨o, ho, ⟨htype, hmine, -⟩, hp⟩ | ⟨hmine, o, ho, ⟨htype, hid⟩, hp⟩)
    · exact ⟨o, ho, ⟨htype, hmine⟩, hp⟩
    · rw [Option.some.inj hid] at hmine
      exact ⟨o, ho, ⟨htype, hmine⟩, hp⟩

theorem allows_own : Allows rows (isOwn roleIds) p ↔
    Allows rows (isAssigned (some e.id) roleIds) p ∨
      e.id ∈ roleIds ∧ Allows rows (isEveryone (some e.id)) p :=
  own_split

theorem denies_own : Denies rows (isOwn roleIds) p ↔
    Denies rows (isAssigned (some e.id) roleIds) p ∨
      e.id ∈ roleIds ∧ Denies rows (isEveryone (some e.id)) p :=
  own_split

theorem type_role {o : PermissionOverwrite}
    (h : o.overwriteType = "role" ∨ o.overwriteType = "member") :
    (accordOverwrite o).type = "role" ↔ o.overwriteType = "role" := by
  rcases h with h | h
  · simp [accordOverwrite, h]
  · simp [accordOverwrite, h]

theorem type_member {o : PermissionOverwrite}
    (h : o.overwriteType = "role" ∨ o.overwriteType = "member") :
    ((accordOverwrite o).type = "user" ∨ (accordOverwrite o).type = "member") ↔
      o.overwriteType = "member" := by
  rcases h with h | h
  · simp [accordOverwrite, h]
  · simp [accordOverwrite, h]

theorem mem_channelPermissions (h : Scene db space e channelId auth)
    (hadmin : "administrator" ∉ spacePermissions db space auth) :
    p ∈ channelPermissions db space channelId auth ↔
      Allows (PermissionOverwrites.ofChannel db channelId) (isMember auth.userId) p ∨
      (¬ Denies (PermissionOverwrites.ofChannel db channelId) (isMember auth.userId) p ∧
        (Allows (PermissionOverwrites.ofChannel db channelId)
            (isOwn (Members.roleIds db space.id auth.userId)) p ∨
          (¬ Denies (PermissionOverwrites.ofChannel db channelId)
              (isOwn (Members.roleIds db space.id auth.userId)) p ∧
            (Allows (PermissionOverwrites.ofChannel db channelId) (isEveryone (some e.id)) p ∨
              (¬ Denies (PermissionOverwrites.ofChannel db channelId) (isEveryone (some e.id)) p ∧
                p ∈ spacePermissions db space auth))))) := by
  have hcontains : (spacePermissions db space auth).contains "administrator" = false := by
    simpa using hadmin
  have heveryone : ∀ o ∈ PermissionOverwrites.ofChannel db channelId,
      ((accordOverwrite o).type = "role" && (accordOverwrite o).id = e.id) = true ↔
        isEveryone (some e.id) o := by
    intro o ho
    rw [Bool.and_eq_true, decide_eq_true_eq, decide_eq_true_eq, type_role (h.accepted o ho).1,
      isEveryone, Option.some.injEq, eq_comm (a := e.id)]
    rfl
  have hown : ∀ o ∈ PermissionOverwrites.ofChannel db channelId,
      ((accordOverwrite o).type = "role" &&
        (Members.roleIds db space.id auth.userId).contains (accordOverwrite o).id) = true ↔
        isOwn (Members.roleIds db space.id auth.userId) o := by
    intro o ho
    rw [Bool.and_eq_true, decide_eq_true_eq, List.contains_iff_mem, type_role (h.accepted o ho).1]
    rfl
  have hmember : ∀ o ∈ PermissionOverwrites.ofChannel db channelId,
      (((accordOverwrite o).type = "user" || (accordOverwrite o).type = "member") &&
        (accordOverwrite o).id = auth.userId) = true ↔ isMember auth.userId o := by
    intro o ho
    rw [Bool.and_eq_true, Bool.or_eq_true, decide_eq_true_eq, decide_eq_true_eq, decide_eq_true_eq,
      type_member (h.accepted o ho).1]
    rfl
  rw [channelPermissions, accordEffectiveChannelPermissions, everyoneRoleId_eq h]
  dsimp only [accordChannel, accordMember]
  rw [hcontains, if_neg Bool.false_ne_true, mem_tier hmember, mem_tier hown, mem_tier heveryone]

end

structure Overruled (db : Tables) (space : SpaceRow) (e : RoleRow) (channelId : String)
    (auth : AuthUser) (p : String) : Prop where
  plain : auth.isAdmin = false ∧ space.ownerId ≠ auth.userId
  unprivileged : ∀ r ∈ db.roles, r.spaceId = space.id →
    r = e ∨ r.id ∈ Members.roleIds db space.id auth.userId → "administrator" ∉ r.permissions
  assigned : e.id ∈ Members.roleIds db space.id auth.userId
  allowed : Allows (PermissionOverwrites.ofChannel db channelId) (isEveryone (some e.id)) p
  denied : Denies (PermissionOverwrites.ofChannel db channelId)
    (isAssigned (some e.id) (Members.roleIds db space.id auth.userId)) p
  unrescued : ¬ Allows (PermissionOverwrites.ofChannel db channelId)
    (isAssigned (some e.id) (Members.roleIds db space.id auth.userId)) p
  undecided : ¬ Allows (PermissionOverwrites.ofChannel db channelId) (isMember auth.userId) p ∧
    ¬ Denies (PermissionOverwrites.ofChannel db channelId) (isMember auth.userId) p

section

variable {db : Tables} {space : SpaceRow} {e : RoleRow} {channelId p : String} {auth : AuthUser}

theorem administrator_mem_iff (h : Scene db space e channelId auth) :
    "administrator" ∈ memberPermissions db space.id auth.userId ↔
      ¬ ∀ r ∈ db.roles, r.spaceId = space.id →
        r = e ∨ r.id ∈ Members.roleIds db space.id auth.userId →
        "administrator" ∉ r.permissions := by
  rw [mem_memberPermissions, h.everyone.everyoneRole]
  constructor
  · rintro (⟨r, hr, hp⟩ | ⟨r, hr, hspace, hmine, hp⟩) hnone
    · cases hr
      exact hnone e h.everyone.mem h.everyone.space (.inl rfl) hp
    · exact hnone r hr hspace (.inr hmine) hp
  · intro hsome
    by_contra hnot
    apply hsome
    intro r hr hspace hheld hp
    rcases hheld with heq | hmine
    · rw [heq] at hp
      exact hnot (.inl ⟨e, rfl, hp⟩)
    · exact hnot (.inr ⟨r, hr, hspace, hmine, hp⟩)

theorem grants_of_administrator {perms : List String} (h : "administrator" ∈ perms) :
    accordHasPermission perms p = true := by
  rw [accordHasPermission, List.contains_iff_mem.mpr h, Bool.true_or]

theorem channelPermissions_of_administrator
    (h : "administrator" ∈ spacePermissions db space auth) :
    channelPermissions db space channelId auth = spacePermissions db space auth := by
  rw [channelPermissions, accordEffectiveChannelPermissions, List.contains_iff_mem.mpr h]
  rfl

theorem spacePermissions_of_bypass (h : Scene db space e channelId auth)
    (hbypass : (auth.isAdmin || decide (space.ownerId = auth.userId)) = true) :
    spacePermissions db space auth = ["administrator"] := by
  rw [spacePermissions, accordEffectivePermissions, bypasses_eq h, hbypass]
  rfl

theorem serverGrants_of_base (hadmin : auth.isAdmin = false) {base : List String}
    (hbase : resolveMemberPermissions space.id auth.userId db = .ok base)
    (hmem : "administrator" ∈ base) : serverGrants db space.id channelId auth p = true := by
  rw [serverGrants, hadmin, if_neg Bool.false_ne_true,
    resolveChannelPermissions_of_administrator hbase hmem]
  exact hasPermission_iff.mpr (.inl hmem)

theorem base_of_plain (h : Scene db space e channelId auth)
    (howner : space.ownerId ≠ auth.userId) :
    resolveMemberPermissions space.id auth.userId db =
      .ok (memberPermissions db space.id auth.userId) :=
  resolveMemberPermissions_ok.mpr ⟨space, h.found, .inr ⟨howner, h.member, rfl⟩⟩

theorem grants_of_privileged (h : Scene db space e channelId auth)
    (hprivileged : auth.isAdmin = true ∨ space.ownerId = auth.userId ∨
      "administrator" ∈ memberPermissions db space.id auth.userId) :
    accordHasPermission (channelPermissions db space channelId auth) p = true ∧
      serverGrants db space.id channelId auth p = true := by
  cases hadmin : auth.isAdmin with
  | true =>
    have hspace := spacePermissions_of_bypass h (by rw [hadmin, Bool.true_or])
    have hmem : "administrator" ∈ spacePermissions db space auth := by simp [hspace]
    rw [channelPermissions_of_administrator hmem]
    refine ⟨grants_of_administrator hmem, ?_⟩
    rw [serverGrants, hadmin]
    exact hasPermission_iff.mpr (.inl (List.mem_singleton_self _))
  | false =>
    by_cases howner : space.ownerId = auth.userId
    · have hspace := spacePermissions_of_bypass h (by rw [decide_eq_true howner, Bool.or_true])
      have hmem : "administrator" ∈ spacePermissions db space auth := by simp [hspace]
      rw [channelPermissions_of_administrator hmem]
      refine ⟨grants_of_administrator hmem, serverGrants_of_base hadmin
        (resolveMemberPermissions_ok.mpr ⟨space, h.found, .inl ⟨howner, rfl⟩⟩)
        (List.mem_singleton_self _)⟩
    · have hmem : "administrator" ∈ memberPermissions db space.id auth.userId := by
        rcases hprivileged with hyes | hyes | hyes
        · rw [hadmin] at hyes
          cases hyes
        · exact absurd hyes howner
        · exact hyes
      have hclient := (mem_base h hadmin howner).mpr hmem
      rw [channelPermissions_of_administrator hclient]
      exact ⟨grants_of_administrator hclient,
        serverGrants_of_base hadmin (base_of_plain h howner) hmem⟩

theorem not_mem_allow (h : Scene db space e channelId auth) {who : PermissionOverwrite → Prop} :
    ¬ Allows (PermissionOverwrites.ofChannel db channelId) who "administrator" := by
  rintro ⟨o, ho, -, hp⟩
  exact (h.accepted o ho).2 hp

theorem tiers_agree_iff {member memberDeny own ownDeny everyone everyoneDeny assigned base : Prop} :
    ((member ∨ (¬ memberDeny ∧ ((own ∨ assigned ∧ everyone) ∨
        (¬ (ownDeny ∨ assigned ∧ everyoneDeny) ∧ (everyone ∨ (¬ everyoneDeny ∧ base)))))) ↔
      (member ∨ (¬ memberDeny ∧ (own ∨ (¬ ownDeny ∧ (everyone ∨ (¬ everyoneDeny ∧ base))))))) ↔
    ¬ (assigned ∧ everyone ∧ ownDeny ∧ ¬ own ∧ ¬ member ∧ ¬ memberDeny) := by
  by_cases hmember : member
  · simp [hmember]
  by_cases hmemberDeny : memberDeny
  · simp [hmemberDeny]
  by_cases hown : own
  · simp [hown]
  by_cases hassigned : assigned
  · by_cases heveryone : everyone
    · simp [hmember, hmemberDeny, hown, hassigned, heveryone]
    · by_cases heveryoneDeny : everyoneDeny
      · simp [hmember, hmemberDeny, hown, heveryone, heveryoneDeny]
      · simp [hmember, hmemberDeny, hown, heveryone, heveryoneDeny]
  · simp [hassigned]

theorem grants_iff_of_plain (h : Scene db space e channelId auth) (hadmin : auth.isAdmin = false)
    (howner : space.ownerId ≠ auth.userId)
    (hnone : "administrator" ∉ memberPermissions db space.id auth.userId) :
    accordHasPermission (channelPermissions db space channelId auth) p =
        serverGrants db space.id channelId auth p ↔
      ¬ Overruled db space e channelId auth p := by
  have hclient : "administrator" ∉ spacePermissions db space auth :=
    fun hmem => hnone ((mem_base h hadmin howner).mp hmem)
  have hmem := fun q => mem_channelPermissions (p := q) h hclient
  have hclean : "administrator" ∉ channelPermissions db space channelId auth := by
    rw [hmem]
    rintro (hyes | ⟨-, hyes | ⟨-, hyes | ⟨-, hyes⟩⟩⟩)
    · exact not_mem_allow h hyes
    · exact not_mem_allow h hyes
    · exact not_mem_allow h hyes
    · exact hclient hyes
  obtain ⟨channel, hchannel, hspace⟩ := h.channel
  obtain ⟨perms, hperms, hgranted⟩ := exists_granted h.everyone (base_of_plain h howner) hnone
    h.keys hchannel hspace
  have hserver : serverGrants db space.id channelId auth p = true ↔ p ∈ perms := by
    rw [serverGrants, hadmin, if_neg Bool.false_ne_true, hperms]
    refine hasPermission_iff.trans (or_iff_right (fun hyes => ?_))
    exact ((hgranted _).mp hyes).1 rfl
  have hunprivileged := not_iff_not.mpr (administrator_mem_iff h)
  rw [not_not] at hunprivileged
  rw [Bool.eq_iff_iff, hserver, hgranted, accordHasPermission, Bool.or_eq_true,
    List.contains_iff_mem, List.contains_iff_mem, or_iff_right hclean]
  by_cases hp : p = "administrator"
  · cases hp
    refine iff_of_true (iff_of_false hclean (fun hyes => hyes.1 rfl)) (fun hover => ?_)
    exact not_mem_allow h hover.allowed
  · rw [hmem, Granted, mem_base h hadmin howner, allows_own (e := e), denies_own (e := e),
      and_iff_right hp, tiers_agree_iff]
    apply not_congr
    constructor
    · rintro ⟨hassigned, hallowed, hdenied, hrest⟩
      exact ⟨⟨hadmin, howner⟩, hunprivileged.mp hnone, hassigned, hallowed, hdenied, hrest.1,
        hrest.2⟩
    · intro hover
      exact ⟨hover.assigned, hover.allowed, hover.denied, hover.unrescued, hover.undecided⟩

theorem grants_iff (h : Scene db space e channelId auth) :
    accordHasPermission (channelPermissions db space channelId auth) p =
        serverGrants db space.id channelId auth p ↔
      ¬ Overruled db space e channelId auth p := by
  have hboth : auth.isAdmin = true ∨ space.ownerId = auth.userId ∨
      "administrator" ∈ memberPermissions db space.id auth.userId →
      ¬ Overruled db space e channelId auth p → accordHasPermission
        (channelPermissions db space channelId auth) p =
          serverGrants db space.id channelId auth p := by
    intro hprivileged _
    obtain ⟨hclient, hserver⟩ := grants_of_privileged (p := p) h hprivileged
    rw [hclient, hserver]
  by_cases hadmin : auth.isAdmin = true
  · refine iff_of_true ?_ (fun hover => ?_)
    · obtain ⟨hclient, hserver⟩ := grants_of_privileged (p := p) h (.inl hadmin)
      rw [hclient, hserver]
    · rw [hover.plain.1] at hadmin
      cases hadmin
  by_cases howner : space.ownerId = auth.userId
  · refine iff_of_true ?_ (fun hover => hover.plain.2 howner)
    obtain ⟨hclient, hserver⟩ := grants_of_privileged (p := p) h (.inr (.inl howner))
    rw [hclient, hserver]
  by_cases hnone : "administrator" ∈ memberPermissions db space.id auth.userId
  · refine iff_of_true ?_ (fun hover => (administrator_mem_iff h).mp hnone hover.unprivileged)
    obtain ⟨hclient, hserver⟩ := grants_of_privileged (p := p) h (.inr (.inr hnone))
    rw [hclient, hserver]
  · exact grants_iff_of_plain h (Bool.eq_false_iff.mpr hadmin) howner hnone

end

section

variable {db : Tables} {space : SpaceRow} {e : RoleRow} {channelId : String} {auth : AuthUser}
  {position : Int}

def holdsAdministrator (db : Tables) (spaceId userId : String) : Prop :=
  ∃ r, Held db spaceId userId r ∧ "administrator" ∈ r.permissions

def mine (db : Tables) (space : SpaceRow) (auth : AuthUser) : List AccordRole :=
  (accordSpace db space).roles.filter (fun role =>
    (myRoleIds (some (accordMember db space.id auth.userId)) none).contains role.id)

theorem mine_eq : mine db space auth = (heldRoles db space.id auth.userId).map accordRole := by
  rw [mine, accordSpace, List.filter_map]
  rfl

theorem any_administrator :
    (mine db space auth).any (fun role => role.permissions.contains "administrator") = true ↔
      holdsAdministrator db space.id auth.userId := by
  rw [mine_eq, List.any_map, List.any_eq_true]
  constructor
  · rintro ⟨r, hr, hp⟩
    exact ⟨r, mem_heldRoles.mp hr, List.contains_iff_mem.mp hp⟩
  · rintro ⟨r, hr, hp⟩
    exact ⟨r, mem_heldRoles.mpr hr, List.contains_iff_mem.mpr hp⟩

theorem lt_foldl_highest {roles : List AccordRole} {init : Int} :
    position < roles.foldl
        (fun highest role => if role.position > highest then role.position else highest) init ↔
      position < init ∨ ∃ r ∈ roles, position < r.position := by
  induction roles generalizing init with
  | nil => simp
  | cons r roles ih =>
    rw [List.foldl_cons, ih]
    simp only [List.mem_cons, exists_eq_or_imp]
    split
    · constructor
      · rintro (h | h)
        · exact .inr (.inl h)
        · exact .inr (.inr h)
      · rintro (h | h | h)
        · exact .inl (by omega)
        · exact .inl h
        · exact .inr h
    · constructor
      · rintro (h | h)
        · exact .inl h
        · exact .inr (.inr h)
      · rintro (h | h | h)
        · exact .inl h
        · exact .inl (by omega)
        · exact .inr h

theorem lt_highest_mine :
    position < (mine db space auth).foldl
        (fun highest role => if role.position > highest then role.position else highest) 0 ↔
      position < 0 ∨ position < highestOf db space.id auth.userId := by
  rw [lt_foldl_highest, mine_eq]
  constructor
  · rintro (hneg | ⟨r, hr, hlt⟩)
    · exact .inl hneg
    · obtain ⟨row, hrow, rfl⟩ := List.mem_map.mp hr
      have hle := (mem_heldRoles.mp hrow).le_highest
      have hlt' : position < row.position := hlt
      exact .inr (by omega)
  · rintro (hneg | hlt)
    · exact .inl hneg
    · by_cases hheld : ∃ r, Held db space.id auth.userId r
      · obtain ⟨r, hr⟩ := hheld
        obtain ⟨top, htop, heq⟩ := exists_top hr
        rw [← heq] at hlt
        exact .inr ⟨accordRole top, List.mem_map_of_mem (mem_heldRoles.mpr htop), hlt⟩
      · rw [highestOf_of_none (fun r hr => hheld ⟨r, hr⟩)] at hlt
        exact .inl hlt

theorem highestRolePosition_eq (h : Scene db space e channelId auth) :
    highestRolePosition db space auth =
      if (auth.isAdmin || decide (space.ownerId = auth.userId)) then kAccordMaxRolePosition
      else if (mine db space auth).any (fun role => role.permissions.contains "administrator") then
        kAccordMaxRolePosition
      else (mine db space auth).foldl
        (fun highest role => if role.position > highest then role.position else highest) 0 := by
  rw [highestRolePosition, accordMyHighestRolePosition, bypasses_eq h]
  rfl

theorem serverLetsManage_admin (hadmin : auth.isAdmin = true) :
    serverLetsManage db space.id auth position = true := by
  rw [serverLetsManage, Routes.Members.requireBelow, if_pos hadmin]
  rfl

theorem serverLetsManage_iff (h : Scene db space e channelId auth) (hadmin : auth.isAdmin = false) :
    serverLetsManage db space.id auth position = true ↔
      position < if space.ownerId = auth.userId then i64Max
        else highestOf db space.id auth.userId := by
  have hhigh : getHighestRolePosition space.id auth.userId db =
      .ok (if space.ownerId = auth.userId then i64Max else highestOf db space.id auth.userId) :=
    getHighestRolePosition_ok.mpr ⟨space, h.found, rfl⟩
  revert hhigh
  generalize (if space.ownerId = auth.userId then i64Max
    else highestOf db space.id auth.userId) = highest
  intro hhigh
  rw [serverLetsManage, Routes.Members.requireBelow, hadmin, if_neg Bool.false_ne_true,
    requireRoleHierarchy, Query.bind_apply, hhigh]
  dsimp only
  rw [Query.require_apply]
  by_cases hlt : position < highest
  · rw [if_pos hlt]
    exact iff_of_true rfl hlt
  · rw [if_neg hlt]
    exact iff_of_false Bool.false_ne_true hlt

theorem outranks_iff (h : Scene db space e channelId auth) (hfloor : 0 ≤ position)
    (hreal : position < kAccordMaxRolePosition) :
    position < highestRolePosition db space auth ↔
      holdsAdministrator db space.id auth.userId ∨
        serverLetsManage db space.id auth position = true := by
  rw [highestRolePosition_eq h]
  cases hadmin : auth.isAdmin with
  | true => exact iff_of_true hreal (.inr (serverLetsManage_admin hadmin))
  | false =>
    rw [serverLetsManage_iff h hadmin, Bool.false_or]
    by_cases howner : space.ownerId = auth.userId
    · rw [decide_eq_true howner, if_pos rfl, if_pos howner]
      have hbound : kAccordMaxRolePosition < i64Max := by decide
      exact iff_of_true hreal (.inr (by omega))
    · rw [decide_eq_false howner, if_neg Bool.false_ne_true, if_neg howner]
      by_cases hholds : holdsAdministrator db space.id auth.userId
      · rw [if_pos (any_administrator.mpr hholds)]
        exact iff_of_true hreal (.inl hholds)
      · rw [if_neg (fun hany => hholds (any_administrator.mp hany)), lt_highest_mine,
          or_iff_right hholds, or_iff_right (by omega)]

end

theorem permission_mirror {db : Tables} {space : SpaceRow} {e : RoleRow} {channelId : String}
    {auth : AuthUser} {position : Int} (h : Scene db space e channelId auth)
    (hfloor : 0 ≤ position) (hreal : position < kAccordMaxRolePosition) :
    (∀ p, ¬ Overruled db space e channelId auth p →
      accordHasPermission (channelPermissions db space channelId auth) p =
        serverGrants db space.id channelId auth p) ∧
    (position < highestRolePosition db space auth ↔
      holdsAdministrator db space.id auth.userId ∨
        serverLetsManage db space.id auth position = true) :=
  ⟨fun _ hnot => (grants_iff h).mpr hnot, outranks_iff h hfloor hreal⟩

def office : SpaceRow := { id := "10", name := "office", ownerId := "1" }

def staff : RoleRow :=
  { id := "20", spaceId := "10", name := "everyone", permissions := ["view_channel"] }

def payroll : Tables :=
  { users := [{ id := "1", username := "ann" }, { id := "2", username := "bob" },
      { id := "3", username := "cid" }]
    spaces := [office]
    roles := [staff,
      { id := "21", spaceId := "10", name := "clerk", position := 2,
        permissions := ["administrator"] },
      { id := "22", spaceId := "10", name := "warden", position := 5 }]
    members := [{ userId := "2", spaceId := "10" }, { userId := "3", spaceId := "10" }]
    memberRoles := [⟨"2", "10", "21"⟩, ⟨"3", "10", "20"⟩, ⟨"3", "10", "22"⟩]
    channels := [{ id := "30", spaceId := some "10" }]
    permissionOverwrites := [
      { id := "20", channelId := "30", overwriteType := "role", allow := ["send_messages"] },
      { id := "22", channelId := "30", overwriteType := "role", deny := ["send_messages"] }] }

def clerk : AuthUser := { userId := "2" }

def warden : AuthUser := { userId := "3" }

theorem payroll_scene {auth : AuthUser} (hauth : auth = clerk ∨ auth = warden) :
    Scene payroll office staff "30" auth := by
  have hunique : ∀ r ∈ payroll.roles, r.spaceId = "10" → r.position = 0 → r = staff := by decide
  have hkeys : OverwriteKeys payroll := by
    unfold OverwriteKeys Lib.Table.Distinct
    decide
  have haccepted : ∀ o ∈ PermissionOverwrites.ofChannel payroll "30",
      (o.overwriteType = "role" ∨ o.overwriteType = "member") ∧ "administrator" ∉ o.allow := by
    decide
  rcases hauth with rfl | rfl
  · exact ⟨⟨by decide, rfl, rfl, hunique⟩, rfl, ⟨_, rfl⟩, ⟨_, rfl, rfl⟩, hkeys, haccepted,
      by decide⟩
  · exact ⟨⟨by decide, rfl, rfl, hunique⟩, rfl, ⟨_, rfl⟩, ⟨_, rfl, rfl⟩, hkeys, haccepted,
      by decide⟩

theorem clerk_mirrored :
    (¬ Overruled payroll office staff "30" clerk "send_messages" →
      accordHasPermission (channelPermissions payroll office "30" clerk) "send_messages" =
        serverGrants payroll "10" "30" clerk "send_messages") ∧
    (5 < highestRolePosition payroll office clerk ↔
      holdsAdministrator payroll "10" "2" ∨ serverLetsManage payroll "10" clerk 5 = true) := by
  have hreal : (5 : Int) < kAccordMaxRolePosition := by decide
  obtain ⟨hgrants, hranks⟩ := permission_mirror (payroll_scene (.inl rfl)) (by decide) hreal
  exact ⟨hgrants _, hranks⟩

theorem mirror_broken :
    Scene payroll office staff "30" clerk ∧ Scene payroll office staff "30" warden ∧
    5 < highestRolePosition payroll office clerk ∧
    serverLetsManage payroll "10" clerk 5 = false ∧
    accordHasPermission (channelPermissions payroll office "30" warden) "send_messages" = true ∧
    serverGrants payroll "10" "30" warden "send_messages" = false := by
  refine ⟨payroll_scene (.inl rfl), payroll_scene (.inr rfl), ?_⟩
  decide +kernel

end Vokusz.Client
