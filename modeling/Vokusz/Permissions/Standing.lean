import Vokusz.Db.Messages
import Vokusz.Permissions

namespace Vokusz.Permissions

open Db
open Lib (Prog Table.lookup)

structure Standing where
  owner : Bool
  participant : Bool
  roles : Option (List String)
  timedOutUntil : Option String
  overwrite : Option (List String × List String)
  lastSentMs : Option Int
  deriving DecidableEq, Repr

def memberOf (db : Tables) (spaceId userId : String) : Option MemberRow :=
  db.members.find? (fun m => m.spaceId = spaceId && m.userId = userId)

def overwriteOf (rows : List PermissionOverwrite) (userId : String) : Option PermissionOverwrite :=
  rows.find? (fun o => o.overwriteType = "member" && o.id = userId)

def lastSent (db : Tables) (channelId userId : String) : Option Int :=
  (Table.lookup Messages.cooldownKey (channelId, userId) db.messageCooldowns).map
    MessageCooldown.lastSentMs

def standing (db : Tables) (spaceId channelId userId : String) : Standing where
  owner := (Table.lookup SpaceRow.id spaceId db.spaces).any (fun sp => sp.ownerId = userId)
  participant := db.isParticipant channelId userId
  roles := (memberOf db spaceId userId).map (fun _ => Members.roleIds db spaceId userId)
  timedOutUntil := (memberOf db spaceId userId).bind MemberRow.timedOutUntil
  overwrite := (overwriteOf (PermissionOverwrites.ofChannel db channelId) userId).map
    (fun o => (o.allow, o.deny))
  lastSentMs := lastSent db channelId userId

theorem getMemberRow_eq (spaceId userId : String) (db : Tables) :
    Members.getMemberRow spaceId userId db =
      match memberOf db spaceId userId with
      | some m => .ok m
      | none => .error (.notFound "member not found") := rfl

theorem member_of_resolved {db : Tables} {spaceId userId : String} {perms : List String}
    (h : resolveMemberPermissions spaceId userId db = .ok perms)
    (hadmin : ¬ perms.any (fun p => p = "administrator") = true) :
    (memberOf db spaceId userId).isSome = true := by
  by_contra hnone
  simp only [resolveMemberPermissions, resolveMemberPermissionsInner, Bool.false_eq_true, if_false,
    Query.bind_apply] at h
  cases hspace : Spaces.getSpaceRow spaceId db with
  | error e => simp [hspace] at h
  | ok space =>
    simp only [hspace] at h
    by_cases howner : space.ownerId = userId
    · rw [if_pos howner] at h
      cases h
      exact hadmin rfl
    · rw [if_neg howner] at h
      have hmember : memberOf db spaceId userId = none := by simpa using hnone
      simp [Query.bind_apply, getMemberRow_eq, hmember] at h

theorem cooldownRefusal_eq (db : Tables) (channelId userId : String) (cooldownMs now : Int) :
    Messages.cooldownRefusal db channelId userId cooldownMs now =
      (lastSent db channelId userId).filter
        (fun last => ¬ (cooldownMs = 0 ∨ last ≤ now - cooldownMs)) := by
  unfold Messages.cooldownRefusal lastSent
  cases Table.lookup Messages.cooldownKey (channelId, userId) db.messageCooldowns with
  | none => rfl
  | some c =>
    simp only [Option.map_some, Option.filter_some]
    by_cases hcooled : cooldownMs = 0 ∨ c.lastSentMs ≤ now - cooldownMs
    · simp [hcooled]
    · simp [hcooled]

section

variable {db : Tables} {spaceId channelId u v : String}
  (h : standing db spaceId channelId u = standing db spaceId channelId v)

include h

theorem owner_alike {space : SpaceRow} (hspace : Spaces.getSpaceRow spaceId db = .ok space) :
    space.ownerId = u ↔ space.ownerId = v := by
  have howner := congrArg Standing.owner h
  have hfound : Table.lookup SpaceRow.id spaceId db.spaces = some space := by
    unfold Spaces.getSpaceRow at hspace
    split at hspace
    · rename_i found hlookup
      cases hspace
      exact hlookup
    · cases hspace
  simpa [standing, hfound] using howner

theorem member_alike : (memberOf db spaceId u).isSome = (memberOf db spaceId v).isSome := by
  have hroles := congrArg (fun st => st.roles.isSome) h
  simpa [standing] using hroles

theorem roleIds_alike (hmember : (memberOf db spaceId u).isSome = true) :
    Members.roleIds db spaceId u = Members.roleIds db spaceId v := by
  have hroles := congrArg Standing.roles h
  have hmember' := member_alike h ▸ hmember
  obtain ⟨m, hm⟩ := Option.isSome_iff_exists.mp hmember
  obtain ⟨m', hm'⟩ := Option.isSome_iff_exists.mp hmember'
  simpa [standing, hm, hm'] using hroles

theorem overwrite_alike (perms : List String) :
    applyMemberOverwrite (PermissionOverwrites.ofChannel db channelId) u perms =
      applyMemberOverwrite (PermissionOverwrites.ofChannel db channelId) v perms := by
  have hrow := congrArg Standing.overwrite h
  simp only [standing] at hrow
  unfold applyMemberOverwrite
  rw [← overwriteOf, ← overwriteOf]
  cases hu : overwriteOf (PermissionOverwrites.ofChannel db channelId) u with
  | none =>
    cases hv : overwriteOf (PermissionOverwrites.ofChannel db channelId) v with
    | none => rfl
    | some ow => simp [hu, hv] at hrow
  | some ow =>
    cases hv : overwriteOf (PermissionOverwrites.ofChannel db channelId) v with
    | none => simp [hu, hv] at hrow
    | some ow' =>
      simp only [hu, hv, Option.map_some, Option.some.injEq, Prod.mk.injEq] at hrow
      simp only [hrow]

theorem resolveMemberPermissions_alike :
    resolveMemberPermissions spaceId u db = resolveMemberPermissions spaceId v db := by
  simp only [resolveMemberPermissions, resolveMemberPermissionsInner, Bool.false_eq_true, if_false,
    Query.bind_apply]
  cases hspace : Spaces.getSpaceRow spaceId db with
  | error e => rfl
  | ok space =>
    dsimp only
    by_cases howner : space.ownerId = u
    · rw [if_pos howner, if_pos ((owner_alike h hspace).mp howner)]
    · rw [if_neg howner, if_neg (fun hv => howner ((owner_alike h hspace).mpr hv))]
      have hmember := member_alike h
      simp only [Query.bind_apply, getMemberRow_eq]
      cases hu : memberOf db spaceId u with
      | none =>
        cases hv : memberOf db spaceId v with
        | none => rfl
        | some m => simp [hu, hv] at hmember
      | some m =>
        cases hv : memberOf db spaceId v with
        | none => simp [hu, hv] at hmember
        | some m' =>
          have hroles := roleIds_alike h (by simp [hu])
          simp only [Members.getMemberRoleIds, hroles]

theorem resolveChannelPermissions_alike :
    resolveChannelPermissions channelId spaceId u db =
      resolveChannelPermissions channelId spaceId v db := by
  have hmembers := resolveMemberPermissions_alike h
  unfold resolveChannelPermissions
  simp only [Query.bind_apply, hmembers]
  cases hperms : resolveMemberPermissions spaceId v db with
  | error e => rfl
  | ok perms =>
    dsimp only
    by_cases hadmin : perms.any (fun p => p = "administrator") = true
    · rw [if_pos hadmin, if_pos hadmin]
    · rw [if_neg hadmin, if_neg hadmin]
      have hroles := roleIds_alike h (member_of_resolved (hmembers.trans hperms) hadmin)
      simp only [Query.bind_apply, PermissionOverwrites.listOverwrites]
      cases Channels.getChannelRow channelId db with
      | error e => rfl
      | ok channel =>
        dsimp only
        cases Query.require (channel.spaceId = some spaceId)
            (AppError.forbidden "channel belongs to another space") db with
        | error e => rfl
        | ok _ =>
          dsimp only
          split
          · rfl
          · simp only [Query.bind_apply, Roles.listRoles, Members.getMemberRoleIds, hroles,
              Query.pure_apply, overwrite_alike h]

theorem requireChannelPermission_alike {channel : ChannelRow}
    (hchannel : Channels.getChannelRow channelId db = .ok channel)
    (hspace : channel.spaceId = some spaceId) (perm : String) :
    requireChannelPermission channelId (member u) perm db =
      requireChannelPermission channelId (member v) perm db := by
  have hparticipant : db.isParticipant channelId u = db.isParticipant channelId v :=
    congrArg Standing.participant h
  simp only [requireChannelPermission, Query.bind_apply, member, hchannel, Bool.false_eq_true,
    if_false]
  split
  · simp only [Query.bind_apply, requireDmAccess, DmParticipants.isParticipant, hparticipant]
  · simp only [hspace, Query.bind_apply, resolveChannelPermissions_alike h]

theorem slowmodeCooldownMs_alike {channel : ChannelRow} (hid : channel.id = channelId)
    (hspace : channel.spaceId = some spaceId) :
    slowmodeCooldownMs channel (member u) db = slowmodeCooldownMs channel (member v) db := by
  have hperms := resolveChannelPermissions_alike h
  simp only [slowmodeCooldownMs, member, hspace, hid]
  split
  · rfl
  · simp only [Query.bind_apply, hperms]

theorem cooldownRefusal_alike (cooldownMs now : Int) :
    Messages.cooldownRefusal db channelId u cooldownMs now =
      Messages.cooldownRefusal db channelId v cooldownMs now := by
  have hsent : lastSent db channelId u = lastSent db channelId v := congrArg Standing.lastSentMs h
  rw [cooldownRefusal_eq, cooldownRefusal_eq, hsent]

end

end Vokusz.Permissions
