import Vokusz.Permissions.ClosedForm
import Vokusz.Routes.Spaces

namespace Vokusz.Routes.Channels

open Db Permissions Federation
open Lib (Prog)

def allPermissions : List String :=
  ["create_invites", "kick_members", "ban_members", "administrator", "manage_channels",
    "manage_space", "add_reactions", "view_audit_log", "priority_speaker", "stream",
    "view_channel", "send_messages", "send_tts", "manage_messages", "embed_links",
    "attach_files", "read_history", "mention_everyone", "use_external_emojis", "connect",
    "speak", "mute_members", "deafen_members", "move_members", "use_vad", "change_nickname",
    "manage_nicknames", "manage_roles", "manage_webhooks", "manage_emojis",
    "manage_soundboard", "use_soundboard", "use_commands", "manage_events", "manage_threads",
    "create_threads", "use_external_stickers", "send_in_threads", "moderate_members"]

structure UpsertOverwriteRequest where
  overwriteType : String
  allow : List String
  deny : List String
  deriving DecidableEq, Repr

def done : Json := .obj [("data", .null)]

def requireSpaceChannel (channelId : String) : Query String := do
  let channel ← Channels.getChannelRow channelId
  match channel.spaceId with
  | some spaceId => return spaceId
  | none => Query.fail (.badRequest "DMs do not support permission overwrites")

def actorPermissions (channelId spaceId : String) (auth : AuthUser) : Query (List String) :=
  if auth.isAdmin then return ["administrator"]
  else resolveChannelPermissions channelId spaceId auth.userId

def checkPermission (actorPerms : List String) (perm : String) : Query Unit := do
  Query.require (perm ≠ "administrator") (.badRequest "administrator cannot be overwritten")
  Query.require (hasPermission actorPerms perm)
    (.forbidden ("you cannot overwrite a permission you do not have: " ++ perm))

def checkPermissions (actorPerms : List String) : List String → Query Unit
  | [] => return ()
  | perm :: perms => do
    checkPermission actorPerms perm
    checkPermissions actorPerms perms

def checkKnown : List String → Query Unit
  | [] => return ()
  | perm :: perms => do
    Query.require (perm ∈ allPermissions) (.badRequest ("unknown permission: " ++ perm))
    checkKnown perms

def checkRemovable (actorPerms : List String) : List String → Query Unit
  | [] => return ()
  | perm :: perms => do
    Query.require (hasPermission actorPerms perm)
      (.forbidden ("you cannot remove an overwrite for a permission you do not have: " ++ perm))
    checkRemovable actorPerms perms

def validateExistingOverwrite (channelId overwriteId : String) (actorPerms : List String) :
    Query Unit := do
  let overwrites ← PermissionOverwrites.listOverwrites channelId
  match overwrites.find? (fun o => o.id = overwriteId) with
  | some old => checkRemovable actorPerms (old.allow ++ old.deny)
  | none => return ()

def checkTarget (spaceId overwriteId overwriteType : String) : Query Unit := do
  if overwriteType = "member" then
    let _ ← Members.getMemberRow spaceId overwriteId
  if overwriteType = "role" then
    let role ← (fun db =>
      match Roles.getRoleRow overwriteId db with
      | .ok role => .ok role
      | .error _ => .error (.notFound "role not found") : Query RoleRow)
    Query.require (role.spaceId = spaceId) (.notFound "role not found in this space")

def broadcastPermissionsChanged (channelId : String) : App Json := do
  let channel ← Channels.getChannelRow channelId
  let json ← Spaces.channelRowToJsonPub channel
  broadcastSpace channel.spaceId "channel.update" json "channels"
  return .obj [("data", json)]

def checkUpsert (channelId overwriteId : String) (auth : AuthUser)
    (input : UpsertOverwriteRequest) : Query Unit := do
  let _ ← requireChannelPermission channelId auth "manage_roles"
  Query.require (input.overwriteType = "role" ∨ input.overwriteType = "member")
    (.badRequest "type must be 'role' or 'member'")
  checkKnown (input.allow ++ input.deny)
  let spaceId ← requireSpaceChannel channelId
  let actorPerms ← actorPermissions channelId spaceId auth
  checkPermissions actorPerms (input.allow ++ input.deny)
  validateExistingOverwrite channelId overwriteId actorPerms
  checkTarget spaceId overwriteId input.overwriteType

def upsertOverwrite (channelId overwriteId : String) (auth : AuthUser)
    (input : UpsertOverwriteRequest) : App Json := do
  checkUpsert channelId overwriteId auth input
  let overwrite : PermissionOverwrite :=
    { id := overwriteId
      channelId := channelId
      overwriteType := input.overwriteType
      allow := input.allow
      deny := input.deny }
  PermissionOverwrites.upsertOverwrite overwrite
  let _ ← broadcastPermissionsChanged channelId
  return .obj [("data", Spaces.overwriteJson overwrite)]

def checkDelete (channelId overwriteId : String) (auth : AuthUser) : Query Unit := do
  let _ ← requireChannelPermission channelId auth "manage_roles"
  let spaceId ← requireSpaceChannel channelId
  let actorPerms ← actorPermissions channelId spaceId auth
  validateExistingOverwrite channelId overwriteId actorPerms

def deleteOverwrite (channelId overwriteId : String) (auth : AuthUser) : App Json := do
  checkDelete channelId overwriteId auth
  PermissionOverwrites.deleteOverwrite channelId overwriteId
  let _ ← broadcastPermissionsChanged channelId
  return done

section

variable {actorPerms perms : List String} {db : Tables} {channelId overwriteId spaceId : String}
  {auth : AuthUser} {input : UpsertOverwriteRequest}

theorem checkRemovable_ok (h : checkRemovable actorPerms perms db = .ok ()) :
    ∀ q ∈ perms, hasPermission actorPerms q = true := by
  induction perms with
  | nil =>
    intro q hq
    cases hq
  | cons p perms ih =>
    obtain ⟨_, hp, hrest⟩ := (Query.bind_ok db).mp h
    by_cases hhas : hasPermission actorPerms p = true
    · intro q hq
      rcases List.mem_cons.mp hq with rfl | hq
      · exact hhas
      · exact ih hrest q hq
    · rw [Query.require_apply, if_neg hhas] at hp
      cases hp

theorem checkPermissions_ok (h : checkPermissions actorPerms perms db = .ok ()) :
    ∀ q ∈ perms, hasPermission actorPerms q = true := by
  induction perms with
  | nil =>
    intro q hq
    cases hq
  | cons p perms ih =>
    obtain ⟨_, hcheck, hrest⟩ := (Query.bind_ok db).mp h
    obtain ⟨_, _, hp⟩ := (Query.bind_ok db).mp hcheck
    by_cases hhas : hasPermission actorPerms p = true
    · intro q hq
      rcases List.mem_cons.mp hq with rfl | hq
      · exact hhas
      · exact ih hrest q hq
    · rw [Query.require_apply, if_neg hhas] at hp
      cases hp

theorem validateExistingOverwrite_ok (hkeys : OverwriteKeys db)
    (h : validateExistingOverwrite channelId overwriteId actorPerms db = .ok ()) :
    ∀ o ∈ db.permissionOverwrites, PermissionOverwrites.overwriteKey o = (overwriteId, channelId) →
      ∀ q ∈ o.allow ++ o.deny, hasPermission actorPerms q = true := by
  intro o ho hkey
  obtain ⟨hid, hchannel⟩ := Prod.mk.inj hkey
  have hrow : o ∈ PermissionOverwrites.ofChannel db channelId :=
    List.mem_filter.mpr ⟨ho, decide_eq_true hchannel⟩
  obtain ⟨rows, hrows, hrest⟩ := (Query.bind_ok db).mp h
  cases hrows
  have hfind : (PermissionOverwrites.ofChannel db channelId).find? (fun o => o.id = overwriteId) =
      some o := hid ▸ (hkeys.ofChannel channelId).lookup_eq hrow
  rw [hfind] at hrest
  exact checkRemovable_ok hrest

def Writable (db : Tables) (auth : AuthUser) (channelId p : String) : Prop :=
  ∃ spaceId actorPerms, requireSpaceChannel channelId db = .ok spaceId ∧
    actorPermissions channelId spaceId auth db = .ok actorPerms ∧
    hasPermission actorPerms p = true

theorem checkUpsert_ok (hkeys : OverwriteKeys db)
    (h : checkUpsert channelId overwriteId auth input db = .ok ()) :
    (∀ q ∈ input.allow ++ input.deny, Writable db auth channelId q) ∧
      ∀ o ∈ db.permissionOverwrites,
        PermissionOverwrites.overwriteKey o = (overwriteId, channelId) →
          ∀ q ∈ o.allow ++ o.deny, Writable db auth channelId q := by
  obtain ⟨_, _, h⟩ := (Query.bind_ok db).mp h
  obtain ⟨_, _, h⟩ := (Query.bind_ok db).mp h
  obtain ⟨_, _, h⟩ := (Query.bind_ok db).mp h
  obtain ⟨spaceId, hspace, h⟩ := (Query.bind_ok db).mp h
  obtain ⟨actorPerms, hactor, h⟩ := (Query.bind_ok db).mp h
  obtain ⟨_, hnew, h⟩ := (Query.bind_ok db).mp h
  obtain ⟨_, hold, _⟩ := (Query.bind_ok db).mp h
  constructor
  · intro q hq
    exact ⟨spaceId, actorPerms, hspace, hactor, checkPermissions_ok hnew q hq⟩
  · intro o ho hkey q hq
    exact ⟨spaceId, actorPerms, hspace, hactor,
      validateExistingOverwrite_ok hkeys hold o ho hkey q hq⟩

theorem checkDelete_ok (hkeys : OverwriteKeys db)
    (h : checkDelete channelId overwriteId auth db = .ok ()) :
    ∀ o ∈ db.permissionOverwrites,
      PermissionOverwrites.overwriteKey o = (overwriteId, channelId) →
        ∀ q ∈ o.allow ++ o.deny, Writable db auth channelId q := by
  obtain ⟨_, _, h⟩ := (Query.bind_ok db).mp h
  obtain ⟨spaceId, hspace, h⟩ := (Query.bind_ok db).mp h
  obtain ⟨actorPerms, hactor, hold⟩ := (Query.bind_ok db).mp h
  intro o ho hkey q hq
  exact ⟨spaceId, actorPerms, hspace, hactor,
    validateExistingOverwrite_ok hkeys hold o ho hkey q hq⟩

theorem Writable.holds {p : String} (hadmin : auth.isAdmin = false)
    (h : Writable db auth channelId p) :
    ∃ channel spaceId, Channels.getChannelRow channelId db = .ok channel ∧
      channel.spaceId = some spaceId ∧ Holds db channelId spaceId auth.userId p := by
  obtain ⟨spaceId, actorPerms, hspace, hactor, hp⟩ := h
  obtain ⟨channel, hchannel, hspace⟩ := (Query.bind_ok db).mp hspace
  refine ⟨channel, spaceId, hchannel, ?_, ?_⟩
  · cases hs : channel.spaceId with
    | none =>
      rw [hs] at hspace
      cases hspace
    | some sid =>
      rw [hs] at hspace
      cases hspace
      rfl
  · rw [actorPermissions, hadmin] at hactor
    exact ⟨actorPerms, hactor, hp⟩

end

inductive OverwriteRequest where
  | upsert (channelId overwriteId : String) (input : UpsertOverwriteRequest)
  | delete (channelId overwriteId : String)
  deriving DecidableEq, Repr

namespace OverwriteRequest

def serve (auth : AuthUser) : OverwriteRequest → App Json
  | .upsert channelId overwriteId input => upsertOverwrite channelId overwriteId auth input
  | .delete channelId overwriteId => deleteOverwrite channelId overwriteId auth

def key : OverwriteRequest → String × String
  | .upsert channelId overwriteId _ => (overwriteId, channelId)
  | .delete channelId overwriteId => (overwriteId, channelId)

end OverwriteRequest

def serveAll (auth : AuthUser) (s : AppState) (reqs : List OverwriteRequest) : AppState :=
  reqs.foldl (fun s req => ((req.serve auth).exec s).2) s

structure Edit (auth : AuthUser) (key : String × String) (db db' : Tables) : Prop where
  rest : db' = { db with permissionOverwrites := db'.permissionOverwrites }
  keys : OverwriteKeys db'
  others : ∀ o, PermissionOverwrites.overwriteKey o ≠ key →
    (o ∈ db'.permissionOverwrites ↔ o ∈ db.permissionOverwrites)
  old : ∀ o ∈ db.permissionOverwrites, PermissionOverwrites.overwriteKey o = key →
    ∀ q ∈ o.allow ++ o.deny, Writable db auth key.2 q
  new : ∀ o ∈ db'.permissionOverwrites, PermissionOverwrites.overwriteKey o = key →
    ∀ q ∈ o.allow ++ o.deny, Writable db auth key.2 q

section

variable {auth : AuthUser} {db db' : Tables} {key : String × String}

theorem preserves_broadcastPermissionsChanged (channelId : String) :
    (broadcastPermissionsChanged channelId).Preserves AppState.db := by
  refine (App.preserves_lift _).bind (fun channel => ?_)
  refine (Spaces.preserves_channelRowToJsonPub channel).bind (fun json => ?_)
  exact Prog.Preserves.bind (Prog.preserves_modify (fun _ => rfl)) (fun _ => Prog.preserves_pure _)

theorem edit_upsertRow (hkeys : OverwriteKeys db) (row : PermissionOverwrite)
    (hold : ∀ o ∈ db.permissionOverwrites,
      PermissionOverwrites.overwriteKey o = PermissionOverwrites.overwriteKey row →
        ∀ q ∈ o.allow ++ o.deny, Writable db auth row.channelId q)
    (hnew : ∀ q ∈ row.allow ++ row.deny, Writable db auth row.channelId q) :
    Edit auth (PermissionOverwrites.overwriteKey row) db
      (PermissionOverwrites.upsertRow row db) where
  rest := rfl
  keys := hkeys.upsert (fun _ => rfl)
  others o hne := Lib.Table.mem_upsert_of_ne (fun _ => rfl) hne
  old := hold
  new o ho hkey := by
    unfold PermissionOverwrites.upsertRow Lib.Table.upsert at ho
    dsimp only at ho
    split at ho
    · rcases Lib.Table.mem_update ho with ⟨_, hne⟩ | ⟨old, _, _, rfl⟩
      · exact absurd hkey hne
      · exact hnew
    · rename_i habsent
      rcases List.mem_append.mp ho with ho | ho
      · exact absurd (Lib.Table.has_iff.mpr ⟨o, ho, hkey⟩) habsent
      · cases List.mem_singleton.mp ho
        exact hnew

theorem edit_deleteRow (hkeys : OverwriteKeys db) (channelId overwriteId : String)
    (hold : ∀ o ∈ db.permissionOverwrites,
      PermissionOverwrites.overwriteKey o = (overwriteId, channelId) →
        ∀ q ∈ o.allow ++ o.deny, Writable db auth channelId q) :
    Edit auth (overwriteId, channelId) db
      (PermissionOverwrites.deleteRow channelId overwriteId db) where
  rest := rfl
  keys := List.Pairwise.filter _ hkeys
  others o hne := Lib.Table.mem_delete_of_ne hne
  old := hold
  new o ho hkey := by
    have hne := (List.mem_filter.mp ho).2
    exact absurd hkey (of_decide_eq_true hne)

theorem serve_edit (req : OverwriteRequest) (s : AppState) (hkeys : OverwriteKeys s.db) :
    ((req.serve auth).exec s).2.db = s.db ∨
      Edit auth req.key s.db ((req.serve auth).exec s).2.db := by
  cases req with
  | upsert channelId overwriteId input =>
    let row : PermissionOverwrite :=
      ⟨overwriteId, channelId, input.overwriteType, input.allow, input.deny⟩
    rcases App.exec_guarded_write (checkUpsert channelId overwriteId auth input)
      (fun _ db => App.foreignKey (db.hasChannel channelId))
      (fun _ => PermissionOverwrites.upsertRow row)
      (fun _ => do
        let _ ← broadcastPermissionsChanged channelId
        return (.obj [("data", Spaces.overwriteJson row)] : Json))
      (fun _ => (preserves_broadcastPermissionsChanged channelId).bind
        (fun _ => Prog.preserves_pure _)) s with h | ⟨_, hcheck, h⟩
    · exact .inl h
    · obtain ⟨hnew, hold⟩ := checkUpsert_ok hkeys hcheck
      exact .inr (h ▸ edit_upsertRow hkeys row hold hnew)
  | delete channelId overwriteId =>
    rcases App.exec_guarded_write (checkDelete channelId overwriteId auth)
      (fun _ _ => none)
      (fun _ => PermissionOverwrites.deleteRow channelId overwriteId)
      (fun _ => do
        let _ ← broadcastPermissionsChanged channelId
        return done)
      (fun _ => (preserves_broadcastPermissionsChanged channelId).bind
        (fun _ => Prog.preserves_pure _)) s with h | ⟨_, hcheck, h⟩
    · exact .inl h
    · exact .inr (h ▸ edit_deleteRow hkeys channelId overwriteId (checkDelete_ok hkeys hcheck))

end

section

variable {auth : AuthUser} {db db' : Tables} {key : String × String}
  {channelId spaceId userId p : String}

theorem Edit.mentions (h : Edit auth key db db')
    (hlacks : key.2 = channelId → ¬ Writable db auth channelId p)
    (field : PermissionOverwrite → List String) (who : PermissionOverwrite → Prop)
    (hfield : ∀ o, p ∈ field o → p ∈ o.allow ++ o.deny) :
    (∃ o ∈ PermissionOverwrites.ofChannel db' channelId, who o ∧ p ∈ field o) ↔
      ∃ o ∈ PermissionOverwrites.ofChannel db channelId, who o ∧ p ∈ field o := by
  have hkey : ∀ o : PermissionOverwrite, o.channelId = channelId →
      PermissionOverwrites.overwriteKey o = key → key.2 = channelId := by
    rintro o hchannel rfl
    exact hchannel
  constructor
  · rintro ⟨o, ho, hwho, hp⟩
    obtain ⟨ho, hchannel⟩ := List.mem_filter.mp ho
    have hne : PermissionOverwrites.overwriteKey o ≠ key := by
      intro heq
      have hc := hkey o (of_decide_eq_true hchannel) heq
      exact hlacks hc (hc ▸ h.new o ho heq p (hfield o hp))
    exact ⟨o, List.mem_filter.mpr ⟨(h.others o hne).mp ho, hchannel⟩, hwho, hp⟩
  · rintro ⟨o, ho, hwho, hp⟩
    obtain ⟨ho, hchannel⟩ := List.mem_filter.mp ho
    have hne : PermissionOverwrites.overwriteKey o ≠ key := by
      intro heq
      have hc := hkey o (of_decide_eq_true hchannel) heq
      exact hlacks hc (hc ▸ h.old o ho heq p (hfield o hp))
    exact ⟨o, List.mem_filter.mpr ⟨(h.others o hne).mpr ho, hchannel⟩, hwho, hp⟩

theorem Edit.granted (h : Edit auth key db db')
    (hlacks : key.2 = channelId → ¬ Writable db auth channelId p) {base : List String} :
    channelGranted db' channelId spaceId userId base p ↔
      channelGranted db channelId spaceId userId base p := by
  have heveryone : everyoneRole db' spaceId = everyoneRole db spaceId := by
    rw [h.rest]
    rfl
  have hids : Members.roleIds db' spaceId userId = Members.roleIds db spaceId userId := by
    rw [h.rest]
    rfl
  have hallows : ∀ who, Allows (PermissionOverwrites.ofChannel db' channelId) who p ↔
      Allows (PermissionOverwrites.ofChannel db channelId) who p :=
    fun who => h.mentions hlacks PermissionOverwrite.allow who
      (fun o hp => List.mem_append.mpr (.inl hp))
  have hdenies : ∀ who, Denies (PermissionOverwrites.ofChannel db' channelId) who p ↔
      Denies (PermissionOverwrites.ofChannel db channelId) who p :=
    fun who => h.mentions hlacks PermissionOverwrite.deny who
      (fun o hp => List.mem_append.mpr (.inr hp))
  simp only [channelGranted, Granted, heveryone, hids, hallows, hdenies]

theorem Edit.holds (h : Edit auth key db db') (hkeys : OverwriteKeys db)
    (hadmin : auth.isAdmin = false) (hlacks : ¬ Holds db channelId spaceId auth.userId p) :
    Holds db' channelId spaceId userId p ↔ Holds db channelId spaceId userId p := by
  have hbase : resolveMemberPermissions spaceId userId db' =
      resolveMemberPermissions spaceId userId db := by
    apply resolveMemberPermissions_congr <;> rw [h.rest]
  have hchannel : Channels.getChannelRow channelId db' = Channels.getChannelRow channelId db := by
    rw [h.rest]
    rfl
  rw [holds_iff h.keys, holds_iff hkeys, hbase, hchannel]
  refine exists_congr (fun base => and_congr_right (fun _ => or_congr_right ?_))
  refine and_congr_right (fun ⟨channel, hfound, hspace⟩ => and_congr_right (fun _ => ?_))
  refine h.granted (fun _ hwritable => ?_)
  obtain ⟨channel', spaceId', hfound', hspace', hholds⟩ := hwritable.holds hadmin
  cases hfound.symm.trans hfound'
  cases hspace.symm.trans hspace'
  exact hlacks hholds

end

section

variable {auth : AuthUser} {s : AppState}

theorem overwrite_edits_grant_nothing (hadmin : auth.isAdmin = false)
    (hkeys : OverwriteKeys s.db) {channelId spaceId p : String}
    (hlacks : ¬ Holds s.db channelId spaceId auth.userId p) (reqs : List OverwriteRequest)
    (userId : String) :
    Holds (serveAll auth s reqs).db channelId spaceId userId p ↔
      Holds s.db channelId spaceId userId p := by
  induction reqs generalizing s with
  | nil => exact Iff.rfl
  | cons req reqs ih =>
    rcases serve_edit req s hkeys with hsame | hedit
    · have hstep := ih (by rw [hsame]; exact hkeys) (by rw [hsame]; exact hlacks)
      rw [hsame] at hstep
      exact hstep
    · have hstep : ∀ u, Holds ((req.serve auth).exec s).2.db channelId spaceId u p ↔
          Holds s.db channelId spaceId u p :=
        fun u => hedit.holds hkeys hadmin hlacks
      exact (ih hedit.keys (fun h => hlacks ((hstep auth.userId).mp h))).trans (hstep userId)

end

def bob : AuthUser := { userId := "bob" }

def workshop : AppState :=
  { db :=
      { users := [{ id := "ada", username := "ada" }, { id := "bob", username := "bob" },
          { id := "cal", username := "cal" }]
        spaces := [{ id := "s", name := "s", ownerId := "ada" }]
        channels := [{ id := "c", spaceId := some "s" }]
        roles := [
          { id := "everyone"
            spaceId := "s"
            name := "@everyone"
            permissions := ["view_channel", "send_messages"] },
          { id := "mod"
            spaceId := "s"
            name := "mod"
            position := 1
            permissions := ["manage_roles"] },
          { id := "crier"
            spaceId := "s"
            name := "crier"
            position := 1
            permissions := ["mention_everyone"] }]
        members := [{ userId := "ada", spaceId := "s" }, { userId := "bob", spaceId := "s" },
          { userId := "cal", spaceId := "s" }]
        memberRoles := [{ userId := "bob", spaceId := "s", roleId := "mod" },
          { userId := "cal", spaceId := "s", roleId := "crier" }]
        permissionOverwrites := [
          { id := "crier"
            channelId := "c"
            overwriteType := "role"
            deny := ["mention_everyone"] }] }
    ext := Externals.fixed "now" }

def silenceThenReopen : List OverwriteRequest :=
  [.upsert "c" "everyone" { overwriteType := "role", allow := [], deny := ["send_messages"] },
    .delete "c" "crier", .delete "c" "everyone"]

theorem bob_cannot_mention : ¬ Holds workshop.db "c" "s" bob.userId "mention_everyone" := by
  rintro ⟨perms, hperms, hp⟩
  have hbob : resolveChannelPermissions "c" "s" "bob" workshop.db =
      .ok ["view_channel", "send_messages", "manage_roles"] := by decide +kernel
  cases hbob.symm.trans hperms
  revert hp
  decide

theorem cal_still_cannot_mention :
    Holds (serveAll bob workshop silenceThenReopen).db "c" "s" "cal" "mention_everyone" ↔
      Holds workshop.db "c" "s" "cal" "mention_everyone" :=
  overwrite_edits_grant_nothing rfl (by unfold OverwriteKeys Lib.Table.Distinct; decide)
    bob_cannot_mention silenceThenReopen "cal"

end Vokusz.Routes.Channels
