import Vokusz.Routes.GroupDms

namespace Vokusz.Routes.RemovalNotices

open Db Permissions Federation
open Db.DmParticipants (participantIds listParticipantIds countParticipants setOwner)
open ChannelEdits (broadcastChannel done)
open GroupDms (unseat checkRemoveRecipient removeRecipient closeGroup passOnFrom announceMembers
  exec_removeParticipant checkRemoveRecipient_ok)
open Lib (Prog)

def announces (b : GatewayBroadcast) (eventType channelId userId : String) : Bool :=
  b.event.reqStr "type" = some eventType &&
    (b.event.field? "data").bind (fun data => data.reqStr "id") = some channelId &&
    b.targetUserIds.any (fun ids => userId ∈ ids)

def sent (s t : AppState) : List GatewayBroadcast := t.gatewayTx.drop s.gatewayTx.length

def told (s t : AppState) (channelId userId : String) : Bool :=
  (sent s t).any (fun b => announces b
    (if t.db.hasChannel channelId then "channel.update" else "channel.delete") channelId userId)

def others (db : Tables) (channelId userId : String) : List String :=
  (participantIds db channelId).filter (fun u => u ≠ userId)

def Announced (channelId userId : String) (auth : AuthUser) (s : AppState) : Prop :=
  (∃ e, (removeRecipient channelId userId auth).exec s = (.error e, s)) ∨
    ∀ u ∈ participantIds s.db channelId, u ≠ userId →
      told s ((removeRecipient channelId userId auth).exec s).2 channelId u = true

section

variable {s t : AppState} {db : Tables} {channelId userId : String} {auth : AuthUser}

theorem participantIds_unseat :
    participantIds (unseat channelId userId db) channelId = others db channelId userId := by
  rw [others, participantIds, participantIds, unseat, List.filter_map, List.filter_filter,
    List.filter_filter]
  refine congrArg (List.map DmParticipant.userId) (List.filter_congr (fun p _ => ?_))
  by_cases hchannel : p.channelId = channelId
  · simp [hchannel]
  · simp [hchannel]

theorem channelRowToJsonPub_id (row : ChannelRow) (s : AppState) :
    ∃ json, (Spaces.channelRowToJsonPub row).exec s = (.ok json, s) ∧
      json.reqStr "id" = some row.id := by
  rw [Spaces.channelRowToJsonPub, Prog.exec_bind_of_ok (App.exec_found? _)]
  split
  · rw [Prog.exec_bind_of_ok (App.exec_found? _)]
    exact ⟨_, rfl, rfl⟩
  · exact ⟨_, rfl, rfl⟩

theorem exec_closeGroup (s : AppState) :
    (closeGroup channelId).exec s =
      (.ok done, ((Channels.deleteChannel channelId).exec s).2) := by
  have hdelete : (Channels.deleteChannel channelId).exec s =
      (.ok (), ((Channels.deleteChannel channelId).exec s).2) := rfl
  have hempty : participantIds ((Channels.deleteChannel channelId).exec s).2.db channelId = [] := by
    have hseats : ((Channels.deleteChannel channelId).exec s).2.db.dmParticipants =
        s.db.dmParticipants.filter (fun p => p.channelId ≠ channelId) := rfl
    rw [participantIds, hseats, List.filter_filter, List.map_eq_nil_iff, List.filter_eq_nil_iff]
    intro p _
    simp
  have hids : (MonadLiftT.monadLift (listParticipantIds channelId) : App (List String)).exec
      ((Channels.deleteChannel channelId).exec s).2 =
      (.ok [], ((Channels.deleteChannel channelId).exec s).2) := by
    rw [← hempty]
    rfl
  rw [closeGroup, Prog.exec_bind_of_ok hdelete, Prog.exec_bind_of_ok hids, if_neg (by simp)]
  rfl

theorem exec_announceMembers (hchannel : s.db.hasChannel channelId = true) :
    ∃ json, (announceMembers channelId).exec s = (.ok (.obj [("data", json)]),
      { s with
        gatewayTx := s.gatewayTx ++
          [{ spaceId := none
             targetUserIds := some (participantIds s.db channelId)
             event := gatewayEvent "channel.update" json
             intent := "channels" }] }) ∧ json.reqStr "id" = some channelId := by
  obtain ⟨row, hrow⟩ : ∃ row, Channels.getChannelRow channelId s.db = .ok row := by
    rw [Channels.getChannelRow]
    obtain ⟨row, hrow⟩ := Option.isSome_iff_exists.mp (Lib.Table.lookup_isSome.trans hchannel)
    rw [hrow]
    exact ⟨row, rfl⟩
  obtain ⟨_, hid⟩ := Channels.getChannelRow_ok hrow
  have hread : (MonadLiftT.monadLift (Channels.getChannelRow channelId) : App ChannelRow).exec s =
      (.ok row, s) := by
    rw [App.exec_lift, hrow]
  obtain ⟨json, hjson, hsame⟩ := channelRowToJsonPub_id row s
  have hids : (MonadLiftT.monadLift (listParticipantIds channelId) : App (List String)).exec s =
      (.ok (participantIds s.db channelId), s) := rfl
  refine ⟨json, ?_, hsame.trans (congrArg some hid)⟩
  rw [announceMembers, Prog.exec_bind_of_ok hread, Prog.exec_bind_of_ok hjson,
    Prog.exec_bind_of_ok hids]
  rfl

theorem hasChannel_owned {newOwner id : String} :
    (GroupDms.owned channelId newOwner db).hasChannel id = db.hasChannel id := by
  rw [Tables.hasChannel, Tables.hasChannel, Lib.Table.has_eq_contains, Lib.Table.has_eq_contains]
  exact congrArg (fun ids : List String => ids.contains id)
    (Lib.Table.map_key_update (fun _ _ => rfl))

theorem exec_passOnFrom {row : ChannelRow} (hkeyed : GroupDms.Keyed s.db)
    (hid : row.id = channelId) :
    ∃ t, (passOnFrom row userId).exec (s.withDb (unseat channelId userId s.db)) = (.ok (), t) ∧
      t.gatewayTx = s.gatewayTx ∧ t.db.hasChannel channelId = s.db.hasChannel channelId ∧
      participantIds t.db channelId = others s.db channelId userId := by
  subst hid
  have hids : (MonadLiftT.monadLift (listParticipantIds row.id) : App (List String)).exec
      (s.withDb (unseat row.id userId s.db)) =
      (.ok (others s.db row.id userId), s.withDb (unseat row.id userId s.db)) := by
    rw [← participantIds_unseat]
    rfl
  rw [passOnFrom]
  split
  · rw [Prog.exec_bind_of_ok hids]
    cases hleft : others s.db row.id userId with
    | nil =>
      refine ⟨_, rfl, rfl, rfl, ?_⟩
      exact participantIds_unseat.trans hleft
    | cons newOwner rest =>
      have hmem : newOwner ∈ others s.db row.id userId := by
        rw [hleft]
        exact List.mem_cons_self
      have huser : s.db.hasUser newOwner = true :=
        hkeyed.users _ (DirectMessages.isParticipant_iff.mp
          (GroupDms.mem_participantIds.mp (List.mem_of_mem_filter hmem)))
      have hset : (setOwner row.id newOwner).exec (s.withDb (unseat row.id userId s.db)) =
          (.ok (), s.withDb (GroupDms.owned row.id newOwner (unseat row.id userId s.db))) := by
        refine App.exec_write_of_none ?_
        exact App.foreignKey_none.mpr huser
      refine ⟨_, hset, rfl, hasChannel_owned, ?_⟩
      exact (@participantIds_unseat s.db row.id userId).trans hleft
  · exact ⟨_, rfl, rfl, rfl, participantIds_unseat⟩

theorem exec_removeRecipient {row : ChannelRow}
    (hcheck : checkRemoveRecipient channelId userId auth s.db = .ok row) :
    (removeRecipient channelId userId auth).exec s =
      if (others s.db channelId userId).length ≤ 1 then
        (closeGroup channelId).exec (s.withDb (unseat channelId userId s.db))
      else
        (passOnFrom row userId >>= fun _ => announceMembers channelId).exec
          (s.withDb (unseat channelId userId s.db)) := by
  have hread : (MonadLiftT.monadLift (checkRemoveRecipient channelId userId auth) :
      App ChannelRow).exec s = (.ok row, s) := by
    rw [App.exec_lift, hcheck]
  have hcount : (MonadLiftT.monadLift (countParticipants channelId) : App Nat).exec
      (s.withDb (unseat channelId userId s.db)) =
      (.ok (others s.db channelId userId).length,
        s.withDb (unseat channelId userId s.db)) := by
    rw [← participantIds_unseat]
    rfl
  rw [removeRecipient, Prog.exec_bind_of_ok hread,
    Prog.exec_bind_of_ok (exec_removeParticipant channelId userId), Prog.exec_bind_of_ok hcount]
  split
  · rfl
  · rfl

theorem deleted_unannounced {u : String} {x : Except AppError Json}
    (h : (removeRecipient channelId userId auth).exec s =
      (x, ((Channels.deleteChannel channelId).exec
        (s.withDb (unseat channelId userId s.db))).2)) :
    told s ((removeRecipient channelId userId auth).exec s).2 channelId u = false := by
  have hquiet : ((Channels.deleteChannel channelId).exec
      (s.withDb (unseat channelId userId s.db))).2.gatewayTx = s.gatewayTx := rfl
  rw [h, told, sent, hquiet, List.drop_length]
  rfl

theorem surviving_announced {row : ChannelRow} (hkeyed : GroupDms.Keyed s.db)
    (hcheck : checkRemoveRecipient channelId userId auth s.db = .ok row)
    (hmany : ¬ (others s.db channelId userId).length ≤ 1) {u : String}
    (hu : u ∈ others s.db channelId userId) :
    told s ((removeRecipient channelId userId auth).exec s).2 channelId u = true := by
  obtain ⟨hrow, hid⟩ := checkRemoveRecipient_ok hcheck
  obtain ⟨t, hpass, hquiet, hkept, hleft⟩ := @exec_passOnFrom s channelId userId row hkeyed hid
  have hchannel : t.db.hasChannel channelId = true := by
    rw [hkept]
    exact Lib.Table.has_iff.mpr ⟨row, hrow, hid⟩
  obtain ⟨json, hsend, hjson⟩ := exec_announceMembers hchannel
  rw [exec_removeRecipient hcheck, if_neg hmany, Prog.exec_bind_of_ok hpass, hsend, told, sent]
  dsimp only
  rw [hchannel, if_pos rfl, hquiet, List.drop_left, hleft, List.any_cons, announces,
    Bool.or_eq_true_iff]
  left
  have htype : (gatewayEvent "channel.update" json).reqStr "type" = some "channel.update" := rfl
  have hdata : ((gatewayEvent "channel.update" json).field? "data").bind
      (fun data => data.reqStr "id") = some channelId := hjson
  rw [htype, hdata]
  simpa using hu

end

theorem removal_announced_iff {s : AppState} {channelId userId : String} {auth : AuthUser}
    (hkeyed : GroupDms.Keyed s.db) :
    Announced channelId userId auth s ↔
      (∃ e, checkRemoveRecipient channelId userId auth s.db = .error e) ∨
        (others s.db channelId userId).length ≠ 1 := by
  cases hcheck : checkRemoveRecipient channelId userId auth s.db with
  | error e =>
    have hread : (MonadLiftT.monadLift (checkRemoveRecipient channelId userId auth) :
        App ChannelRow).exec s = (.error e, s) := by
      rw [App.exec_lift, hcheck]
    refine iff_of_true (.inl ⟨e, ?_⟩) (.inl ⟨e, rfl⟩)
    rw [removeRecipient, Prog.exec_bind_of_error hread]
  | ok row =>
    have hnot : ¬ ∃ e, (Except.ok row : Except AppError ChannelRow) = .error e := by
      rintro ⟨e, he⟩
      cases he
    have hmem : ∀ u, u ∈ participantIds s.db channelId ∧ u ≠ userId ↔
        u ∈ others s.db channelId userId := by
      intro u
      rw [others, List.mem_filter, decide_eq_true_eq]
    rw [or_iff_right hnot]
    by_cases hmany : (others s.db channelId userId).length ≤ 1
    · have hexec := exec_removeRecipient hcheck
      rw [if_pos hmany, exec_closeGroup] at hexec
      constructor
      · rintro (⟨e, herror⟩ | htold) hone
        · rw [hexec] at herror
          cases herror
        · obtain ⟨u, hu⟩ := List.exists_mem_of_length_pos (hone.symm ▸ Nat.one_pos :
            0 < (others s.db channelId userId).length)
          obtain ⟨hseat, hother⟩ := (hmem u).mpr hu
          have hheard := htold u hseat hother
          rw [deleted_unannounced hexec] at hheard
          cases hheard
      · intro hone
        right
        intro u hseat hother
        have hempty : others s.db channelId userId = [] :=
          List.length_eq_zero_iff.mp (by omega)
        have hu := (hmem u).mp ⟨hseat, hother⟩
        rw [hempty] at hu
        cases hu
    · refine iff_of_true (.inr (fun u hseat hother => ?_)) (by omega)
      exact surviving_announced hkeyed hcheck hmany ((hmem u).mp ⟨hseat, hother⟩)

def groupOf (ids : List String) : AppState :=
  { db :=
      { users := ids.map (fun id => { id, username := id })
        channels := [{ id := "9", channelType := "group_dm", ownerId := some "a" }]
        dmParticipants := ids.map (fun id => ⟨"9", id⟩) }
    ext := .fixed "" }

theorem keyed_groupOf (ids : List String) : GroupDms.Keyed (groupOf ids).db := by
  refine ⟨List.pairwise_singleton _ _, fun p hp => ?_, fun p hp => ?_⟩
  · obtain ⟨id, hid, rfl⟩ := List.mem_map.mp hp
    exact Lib.Table.has_iff.mpr ⟨_, List.mem_map_of_mem hid, rfl⟩
  · obtain ⟨id, _, rfl⟩ := List.mem_map.mp hp
    exact Lib.Table.has_iff.mpr ⟨_, List.mem_singleton_self _, rfl⟩

theorem removal_announced_of_three :
    Announced "9" "c" { userId := "a" } (groupOf ["a", "b", "c"]) :=
  (removal_announced_iff (keyed_groupOf _)).mpr (.inr (by decide +kernel))

theorem last_participant_unannounced :
    ¬ Announced "9" "a" { userId := "a" } (groupOf ["a", "b"]) := by
  rintro (⟨e, herror⟩ | htold)
  · have hdone : ((removeRecipient "9" "a" { userId := "a" }).exec
        (groupOf ["a", "b"])).1.isOk = true := by
      decide +kernel
    rw [herror] at hdone
    cases hdone
  · have hsilent : told (groupOf ["a", "b"]) ((removeRecipient "9" "a" { userId := "a" }).exec
        (groupOf ["a", "b"])).2 "9" "b" = false := by
      decide +kernel
    have hheard := htold "b" (by decide +kernel) (by decide)
    rw [hsilent] at hheard
    cases hheard

end Vokusz.Routes.RemovalNotices
