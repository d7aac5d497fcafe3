import Vokusz.Db.ReadStates
import Vokusz.Federation.Footprint
import Vokusz.Lib.Transition

namespace Vokusz.Federation.Unread

open Db Handshake Mapping
open Db.Messages (CreateMessage RemoteMessageInsert)
open Lib (Prog)

-- A snapshot is seeded one message at a time, each of them a step here.
inductive Operation where
  | create (channelId authorId : String) (spaceId : Option String) (input : CreateMessage)
      (cooldownMs : Int)
  | announce (channelId authorId spaceId content messageType : String)
  | delete (messageId : String)
  | bulkDelete (channelId : String) (messageIds : List String)
  | eraseMember (spaceId userId : String)
  | receive (msg : RemoteMessageInsert)
  | seed (homeDomain : String) (message : SnapshotMessage)
  | acknowledge (userId channelId messageId : String)

def served (s : AppState) : Operation → AppState
  | .create channelId authorId spaceId input cooldownMs =>
    ((Db.Messages.createMessage channelId authorId spaceId input cooldownMs).exec s).2
  | .announce channelId authorId spaceId content messageType =>
    ((Db.Messages.createSystemMessage channelId authorId spaceId content messageType).exec s).2
  | .delete messageId => ((Db.Messages.deleteMessage messageId).exec s).2
  | .bulkDelete channelId messageIds =>
    ((Db.Messages.bulkDeleteMessages channelId messageIds).exec s).2
  | .eraseMember spaceId userId => ((Members.removeMemberAndData spaceId userId).exec s).2
  | .receive msg => ((Db.Messages.insertRemoteMessage msg).exec s).2
  | .seed homeDomain message => ((applySnapshotMessage homeDomain message).exec s).2
  | .acknowledge userId channelId messageId =>
    ((ReadStates.ackChannel userId channelId messageId).exec s).2

def seeds (homeDomain : String) (m : SnapshotMessage) (s : AppState) : Bool :=
  Authority.homedOn m.id homeDomain && containsAt m.author.id &&
    decide ((mirrorRef homeDomain m.author).Succeeds s) &&
    Db.Messages.fits s.db (snapshotInsert homeDomain m)

def appended (s : AppState) : Operation → Option MessageRow
  | .create channelId authorId spaceId input cooldownMs =>
    let row := Db.Messages.draft s channelId authorId spaceId input
    if Db.Messages.Insertable s.db row (max cooldownMs 0) s.clock then some row else none
  | .announce channelId authorId spaceId content messageType =>
    let row := Db.Messages.systemRow (toString s.snowflake) channelId authorId spaceId content
      messageType s.now
    if Db.Messages.systemStorable s row then some row else none
  | .receive msg => if Db.Messages.storable s.db msg then some msg.row else none
  | .seed homeDomain m =>
    if seeds homeDomain m s then some (snapshotInsert homeDomain m).row else none
  | _ => none

def removes (s : AppState) (channelId : String) (messageId : String) : Operation → Bool
  | .delete id => messageId = id
  | .bulkDelete other ids => other = channelId && ids.contains messageId
  | .eraseMember spaceId userId => (Members.authoredIn s.db spaceId userId).contains messageId
  | _ => false

def keepsPointer (channelId : String) (s : AppState) (op : Operation) : Bool :=
  (appended s op).all (s.db.inOrder channelId) &&
    (s.db.lastMessageId channelId).all (fun last => !removes s channelId last op)

structure UnreadCorrect (channelId : String) (db : Tables) : Prop where
  pointer : ∀ c ∈ db.channels, c.id = channelId →
    Lib.Newest (db.topLevelIds channelId) c.lastMessageId
  unread : ∀ c ∈ db.channels, c.id = channelId → ∀ userId,
    ReadStates.belongs db userId c = true →
      (ReadStates.Reported db userId channelId ↔ ReadStates.HasNewer db userId channelId)

section

variable {channelId : String} {s : AppState}

theorem unreadCorrect_iff {db : Tables} : UnreadCorrect channelId db ↔ db.Pointed channelId := by
  constructor
  · intro h
    exact h.pointer
  · intro h
    exact ⟨h, fun c hc hid userId hmember => ReadStates.reported_iff h hc hid hmember⟩

inductive Effect (s : AppState) (op : Operation) (db : Tables) : Prop where
  | appends (row : MessageRow) (hrow : ∃ draft, appended s op = some draft ∧ row.id = draft.id ∧
      row.channelId = draft.channelId ∧ row.threadId = draft.threadId)
      (hfree : s.db.hasMessage row.id = false) (happ : s.db.Appends row db)
  | filters (hnone : appended s op = none)
      (hids : ∀ channelId, db.topLevelIds channelId =
        (s.db.topLevelIds channelId).filter (fun i => !removes s channelId i op))
      (hdistinct : Lib.Table.Distinct MessageRow.id db.messages)
      (hchannels : db.channels = s.db.channels)

section

variable (hids : Lib.Table.Distinct MessageRow.id s.db.messages)

include hids

theorem filters_of_same {op : Operation} {db : Tables} (hnone : appended s op = none)
    (hkept : ∀ channelId i, removes s channelId i op = false)
    (hmessages : db.messages = s.db.messages) (hchannels : db.channels = s.db.channels) :
    Effect s op db := by
  refine .filters hnone (fun channelId => ?_) (hmessages ▸ hids) hchannels
  simp [Tables.topLevelIds, hmessages, hkept]

theorem effect_create (channelId authorId : String) (spaceId : Option String)
    (input : CreateMessage) (cooldownMs : Int) :
    Effect s (.create channelId authorId spaceId input cooldownMs)
      (served s (.create channelId authorId spaceId input cooldownMs)).db := by
  by_cases hfits : Db.Messages.Insertable s.db
      (Db.Messages.draft s channelId authorId spaceId input) (max cooldownMs 0) s.clock
  · obtain ⟨row, hid, hchannel, hauthor, hspace, hthread, hexec⟩ :=
      Db.Messages.createMessage_of_insertable hfits
    have hdb : (served s (.create channelId authorId spaceId input cooldownMs)).db =
        Db.Messages.storeMessage row s.clock s.db := congrArg (fun r => r.2.db) hexec
    obtain ⟨_, _, _, _, hrefs, _⟩ := Db.Messages.createMessage_ok hexec
    have hfree : s.db.hasMessage row.id = false := hid ▸ hfits.2.2
    rw [hdb]
    exact .appends row ⟨_, if_pos hfits, hid, hchannel, hthread⟩ hfree
      (Db.Messages.appends_storeMessage s.clock hrefs)
  · refine filters_of_same hids (by simp [appended, hfits]) (fun _ _ => rfl) ?_ ?_
    · exact congrArg Tables.messages (Db.Messages.createMessage_refused hfits)
    · exact congrArg Tables.channels (Db.Messages.createMessage_refused hfits)

theorem effect_announce (channelId authorId spaceId content messageType : String) :
    Effect s (.announce channelId authorId spaceId content messageType)
      (served s (.announce channelId authorId spaceId content messageType)).db := by
  cases hfits : Db.Messages.systemStorable s (Db.Messages.systemRow (toString s.snowflake) channelId
      authorId spaceId content messageType s.now) with
  | true =>
    refine .appends _ ⟨_, by simp only [appended, hfits, if_true], rfl, rfl, rfl⟩ ?_
      (Db.Messages.createSystemMessage_appends hfits)
    simp only [Db.Messages.systemStorable, Bool.and_eq_true, Bool.not_eq_true'] at hfits
    exact hfits.1
  | false =>
    have hsame := Db.Messages.createSystemMessage_refused hfits
    exact filters_of_same hids (by simp only [appended, hfits, Bool.false_eq_true, if_false])
      (fun _ _ => rfl) (congrArg Tables.messages hsame) (congrArg Tables.channels hsame)

theorem effect_receive (msg : RemoteMessageInsert) :
    Effect s (.receive msg) (served s (.receive msg)).db := by
  cases hfits : Db.Messages.storable s.db msg with
  | true =>
    refine .appends msg.row ⟨_, by simp only [appended, hfits, if_true], rfl, rfl, rfl⟩ ?_
      (Db.Messages.insertRemoteMessage_appends hfits)
    simp only [Db.Messages.storable, Bool.and_eq_true, Bool.not_eq_true'] at hfits
    exact hfits.1
  | false =>
    have hsame := Db.Messages.insertRemoteMessage_refused (s := s) hfits
    exact filters_of_same hids (by simp only [appended, hfits, Bool.false_eq_true, if_false])
      (fun _ _ => rfl) (congrArg Tables.messages hsame) (congrArg Tables.channels hsame)

theorem effect_delete (messageId : String) :
    Effect s (.delete messageId) (served s (.delete messageId)).db := by
  have hdb : (served s (.delete messageId)).db = s.db.deleteMessages [messageId] := rfl
  rw [hdb]
  refine .filters rfl (fun channelId => ?_) (Tables.distinct_deleteMessages hids) rfl
  rw [Tables.topLevelIds_deleteMessages hids]
  refine List.filter_congr (fun i _ => ?_)
  simp [removes]

theorem effect_bulkDelete (channelId : String) (messageIds : List String) :
    Effect s (.bulkDelete channelId messageIds) (served s (.bulkDelete channelId messageIds)).db := by
  have hdb : (served s (.bulkDelete channelId messageIds)).db =
      Db.Messages.bulkDeleted channelId messageIds s.db :=
    congrArg (fun r => r.2.db) (Db.Messages.exec_bulkDeleteMessages messageIds)
  rw [hdb]
  exact .filters rfl (fun _ => Db.Messages.topLevelIds_bulkDeleted messageIds hids)
    (Db.Messages.distinct_bulkDeleted messageIds hids) (Db.Messages.channels_bulkDeleted messageIds)

theorem effect_eraseMember (spaceId userId : String) :
    Effect s (.eraseMember spaceId userId) (served s (.eraseMember spaceId userId)).db := by
  obtain ⟨hmessages, hchannels⟩ : (served s (.eraseMember spaceId userId)).db.messages =
        (s.db.deleteMessages (Members.authoredIn s.db spaceId userId)).messages ∧
      (served s (.eraseMember spaceId userId)).db.channels = s.db.channels :=
    Members.removeMemberAndData_rows spaceId userId s
  refine .filters rfl (fun channelId => ?_) ?_ hchannels
  · have hids' : (s.db.deleteMessages (Members.authoredIn s.db spaceId userId)).topLevelIds
        channelId = _ := Tables.topLevelIds_deleteMessages hids
    rw [Tables.topLevelIds] at hids' ⊢
    rw [hmessages, hids']
    rfl
  · rw [hmessages]
    exact Tables.distinct_deleteMessages hids

theorem effect_acknowledge (userId channelId messageId : String) :
    Effect s (.acknowledge userId channelId messageId)
      (served s (.acknowledge userId channelId messageId)).db := by
  have hframe : ∀ {γ : Type} (view : Tables → γ),
      (∀ db rows, view { db with readStates := rows } = view db) →
      view (served s (.acknowledge userId channelId messageId)).db = view s.db := fun view hview =>
    (App.preserves_write (fun t => hview t.db _) :
      (ReadStates.ackChannel userId channelId messageId).Preserves (fun t => view t.db)).exec s
  exact filters_of_same hids rfl (fun _ _ => rfl) (hframe _ (fun _ _ => rfl))
    (hframe _ (fun _ _ => rfl))

theorem effect_seed (homeDomain : String) (m : SnapshotMessage) :
    Effect s (.seed homeDomain m) (served s (.seed homeDomain m)).db := by
  have hunchanged : seeds homeDomain m s = false →
      (served s (.seed homeDomain m)).db.messages = s.db.messages →
      (served s (.seed homeDomain m)).db.channels = s.db.channels →
      Effect s (.seed homeDomain m) (served s (.seed homeDomain m)).db := fun hout =>
    filters_of_same hids (by simp only [appended, hout, Bool.false_eq_true, if_false])
      (fun _ _ => rfl)
  cases hguard : Authority.homedOn m.id homeDomain && containsAt m.author.id with
  | false =>
    have hsame : served s (.seed homeDomain m) = s := by
      simp [served, applySnapshotMessage, hguard]
    exact hunchanged (by simp [seeds, hguard]) (by rw [hsame]) (by rw [hsame])
  | true =>
    have hserved : served s (.seed homeDomain m) = ((do
        mirrorRef homeDomain m.author
        let _ ← Db.Messages.insertRemoteMessage (snapshotInsert homeDomain m)
        return () : App Unit).exec s).2 := by
      simp only [served, applySnapshotMessage, hguard, if_true]
    have hmirror := touches_mirrorRef homeDomain m.author
    rcases Prog.exec_bind_cases (mirrorRef homeDomain m.author) (fun _ => (do
        let _ ← Db.Messages.insertRemoteMessage (snapshotInsert homeDomain m)
        return () : App Unit)) s with ⟨e, t, hfailed, hexec⟩ | ⟨u, t, hmirrored, hexec⟩
    · have hstate : served s (.seed homeDomain m) = t := hserved.trans (congrArg Prod.snd hexec)
      have hrefused : ¬ (mirrorRef homeDomain m.author).Succeeds s := by
        rintro ⟨a, t', hok⟩
        rw [hfailed] at hok
        cases hok
      refine hunchanged (by simp [seeds, hrefused]) ?_ ?_
      · rw [hstate]
        exact (hmirror .messages (by decide)).of_exec hfailed
      · rw [hstate]
        exact (hmirror .channels (by decide)).of_exec hfailed
    · have hmessages : t.db.messages = s.db.messages :=
        (hmirror .messages (by decide)).of_exec hmirrored
      have hchannels : t.db.channels = s.db.channels :=
        (hmirror .channels (by decide)).of_exec hmirrored
      have hspaces : t.db.spaces = s.db.spaces := (hmirror .spaces (by decide)).of_exec hmirrored
      have hfits : Db.Messages.storable t.db (snapshotInsert homeDomain m) =
          Db.Messages.fits s.db (snapshotInsert homeDomain m) :=
        Db.Messages.storable_of_author (mirrorRef_hasUser hmirrored) hmessages hchannels hspaces
      have hseeds : seeds homeDomain m s =
          Db.Messages.fits s.db (snapshotInsert homeDomain m) := by
        have hok : (mirrorRef homeDomain m.author).Succeeds s := ⟨u, t, hmirrored⟩
        simp [seeds, hguard, hok]
      have hstate : (served s (.seed homeDomain m)).db =
          ((Db.Messages.insertRemoteMessage (snapshotInsert homeDomain m)).exec t).2.db := by
        rw [hserved]
        refine (congrArg (fun r => r.2.db) hexec).trans ?_
        exact App.exec_bind_db (fun _ => Prog.preserves_pure _) _ t
      cases hstored : Db.Messages.storable t.db (snapshotInsert homeDomain m) with
      | true =>
        obtain ⟨happchannel, happmessages, happchannels⟩ :=
          Db.Messages.insertRemoteMessage_appends hstored
        refine .appends (snapshotInsert homeDomain m).row
          ⟨_, by simp only [appended, hseeds, ← hfits, hstored, if_true], rfl, rfl, rfl⟩ ?_ ?_
        · simp only [Db.Messages.storable, Bool.and_eq_true, Bool.not_eq_true',
            Tables.hasMessage, hmessages] at hstored
          exact hstored.1
        · rw [hstate]
          refine ⟨?_, ?_, ?_⟩
          · rw [Tables.hasChannel, ← hchannels]
            exact happchannel
          · rw [happmessages, hmessages]
          · rw [happchannels, Tables.setLastMessage, Tables.setLastMessage, hchannels]
      | false =>
        have hrefused := Db.Messages.insertRemoteMessage_refused hstored
        refine hunchanged (by rw [hseeds, ← hfits, hstored]) ?_ ?_
        · rw [hstate, hrefused, hmessages]
        · rw [hstate, hrefused, hchannels]

theorem served_effect (op : Operation) :
    Effect s op (served s op).db := by
  cases op with
  | create channelId authorId spaceId input cooldownMs => exact effect_create hids _ _ _ _ _
  | announce channelId authorId spaceId content messageType => exact effect_announce hids _ _ _ _ _
  | delete messageId => exact effect_delete hids messageId
  | bulkDelete channelId messageIds => exact effect_bulkDelete hids channelId messageIds
  | eraseMember spaceId userId => exact effect_eraseMember hids spaceId userId
  | receive msg => exact effect_receive hids msg
  | seed homeDomain message => exact effect_seed hids homeDomain message
  | acknowledge userId channelId messageId => exact effect_acknowledge hids _ _ _

theorem served_distinct {op : Operation} :
    Lib.Table.Distinct MessageRow.id (served s op).db.messages := by
  cases served_effect hids op with
  | appends row hrow hfree happ => exact happ.distinct hfree hids
  | filters hnone hkept hdistinct hchannels => exact hdistinct

end

theorem inOrder_congr {db : Tables} {row row' : MessageRow} (hid : row.id = row'.id)
    (hchannel : row.channelId = row'.channelId) (hthread : row.threadId = row'.threadId) :
    db.inOrder channelId row = db.inOrder channelId row' := by
  simp only [Tables.inOrder, hid, hchannel, hthread]

theorem removes_of_appended {op : Operation} {row : MessageRow} (h : appended s op = some row)
    (messageId : String) : removes s channelId messageId op = false := by
  cases op with
  | delete messageId => cases h
  | bulkDelete channelId messageIds => cases h
  | eraseMember spaceId userId => cases h
  | _ => rfl

theorem served_pointed {op : Operation} (hids : Lib.Table.Distinct MessageRow.id s.db.messages)
    (hs : s.db.Pointed channelId) :
    (served s op).db.Pointed channelId ↔ keepsPointer channelId s op = true := by
  cases served_effect hids op with
  | appends row hrow hfree happ =>
    obtain ⟨draft, hdraft, hid, hchannel, hthread⟩ := hrow
    have hkept : (s.db.lastMessageId channelId).all (fun last => !removes s channelId last op) =
        true := by
      simp [removes_of_appended hdraft]
    rw [hs.appends_iff happ, inOrder_congr hid hchannel hthread, keepsPointer, hdraft, hkept]
    simp
  | filters hnone hkept hdistinct hchannels =>
    rw [hs.filtered_iff (hkept channelId) hchannels, keepsPointer, hnone]
    simp

end

def step (s : AppState) (op : Operation) : Option AppState := some (served s op)

theorem unread_correct_iff {channelId : String} {s : AppState} (operations : List Operation)
    (hids : Lib.Table.Distinct MessageRow.id s.db.messages) (hs : UnreadCorrect channelId s.db) :
    Lib.Always step (fun t => UnreadCorrect channelId t.db) s operations ↔
      Lib.meets step (keepsPointer channelId) s operations = true := by
  have hkeep : ∀ (t : AppState) op t', Lib.Table.Distinct MessageRow.id t.db.messages →
      step t op = some t' → Lib.Table.Distinct MessageRow.id t'.db.messages := by
    rintro t op t' ht hstep
    cases hstep
    exact served_distinct ht
  have hstep : ∀ (t : AppState) op t', Lib.Table.Distinct MessageRow.id t.db.messages →
      UnreadCorrect channelId t.db → step t op = some t' →
        (UnreadCorrect channelId t'.db ↔ keepsPointer channelId t op = true) := by
    rintro t op t' ht hcorrect hstep
    cases hstep
    rw [unreadCorrect_iff]
    exact served_pointed ht (unreadCorrect_iff.mp hcorrect)
  exact Lib.always_iff_meets hkeep hstep hids hs (Lib.runFrom_total served s operations)

def chatting : AppState :=
  { db :=
      { users := [{ id := "1", username := "ann" }, { id := "2", username := "bob" }]
        spaces := [{ id := "10", name := "den", ownerId := "1" }]
        members := [{ spaceId := "10", userId := "1" }, { spaceId := "10", userId := "2" }]
        channels := [{ id := "20", spaceId := some "10", lastMessageId := some "31" }]
        messages :=
          [{ id := "30", channelId := "20", authorId := "1", content := "first" },
            { id := "31", channelId := "20", authorId := "1", content := "second" }]
        readStates := [{ userId := "2", channelId := "20", lastReadMessageId := some "30" }] }
    ext := Externals.fixed "2025-01-01 00:00:00"
    snowflake := 32 }

def seeded (id content : String) : SnapshotMessage :=
  { id := id
    channelId := "20@r.example"
    spaceId := some "10@r.example"
    author := { id := "7@r.example", username := some "eve" }
    content := content
    mentionEveryone := false
    mentions := []
    embeds := .arr []
    replyTo := none
    createdAt := "2025-01-01 00:00:00" }

def mirrored : AppState :=
  { db :=
      { spaces := [{ id := "10@r.example", name := "den", ownerId := "7@r.example" }]
        channels := [{ id := "20@r.example", spaceId := some "10@r.example" }] }
    ext := Externals.fixed "2025-01-01 00:00:00" }

theorem older_messages_deleted_unread_correct :
    Lib.Always step (fun t => UnreadCorrect "20" t.db) chatting
      [.delete "30", .create "20" "1" (some "10") { content := "third" } 0] :=
  (unread_correct_iff [.delete "30", .create "20" "1" (some "10") { content := "third" } 0]
    (by simp [Lib.Table.Distinct, chatting]) (unreadCorrect_iff.mpr (by decide +kernel))).mpr (by decide +kernel)

theorem pointer_left_behind :
    UnreadCorrect "20" chatting.db ∧ ¬ UnreadCorrect "20" (served chatting (.delete "31")).db ∧
      ReadStates.Reported (served chatting (.delete "31")).db "2" "20" ∧
      ¬ ReadStates.HasNewer (served chatting (.delete "31")).db "2" "20" ∧
      UnreadCorrect "20@r.example" mirrored.db ∧
      ¬ UnreadCorrect "20@r.example"
        ([.seed "r.example" (seeded "9@r.example" "newer"),
          .seed "r.example" (seeded "8@r.example" "older")].foldl served mirrored).db := by
  refine ⟨unreadCorrect_iff.mpr (by decide +kernel), ?_, ⟨_, rfl, ?_⟩, ?_,
    unreadCorrect_iff.mpr (by decide +kernel), ?_⟩
  · rw [unreadCorrect_iff]
    decide +kernel
  · decide +kernel
  · rintro ⟨m, hm, -, -, hnewer⟩
    have hread : ∀ r ∈ (served chatting (.delete "31")).db.messages, ¬ "30" < r.id := by
      decide +kernel
    exact hread m hm (hnewer "30" (by decide +kernel))
  · rw [unreadCorrect_iff]
    decide +kernel

end Vokusz.Federation.Unread
