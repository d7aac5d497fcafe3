import Mathlib.Data.String.Basic
import Vokusz.Db.Messages
import Vokusz.Lib.Newest

namespace Vokusz.Db

open Lib

namespace ReadStates

structure UnreadChannel where
  channelId : String
  spaceId : Option String
  lastReadMessageId : Option String
  lastMessageId : Option String
  mentionCount : Int
  deriving DecidableEq, Repr

def belongs (db : Tables) (userId : String) (c : ChannelRow) : Bool :=
  match c.spaceId with
  | some sid => db.members.any (fun m => m.spaceId = sid && m.userId = userId)
  | none => db.dmParticipants.any (fun p => p.channelId = c.id && p.userId = userId)

def readState (db : Tables) (userId channelId : String) : Option ReadState :=
  Table.lookup readStateKey (userId, channelId) db.readStates

def lastRead (db : Tables) (userId channelId : String) : Option String :=
  (readState db userId channelId).bind ReadState.lastReadMessageId

def unreadChannel (db : Tables) (userId : String) (c : ChannelRow) : Option UnreadChannel :=
  match c.lastMessageId with
  | none => none
  | some last =>
    if belongs db userId c && (lastRead db userId c.id).all (fun r => r < last) then
      some
        { channelId := c.id
          spaceId := c.spaceId
          lastReadMessageId := lastRead db userId c.id
          lastMessageId := c.lastMessageId
          mentionCount := ((readState db userId c.id).map ReadState.mentionCount).getD 0 }
    else none

def getUnreadChannels (userId : String) : Query (List UnreadChannel) :=
  fun db => .ok (db.channels.filterMap (unreadChannel db userId))

def advance (messageId : String) (r : ReadState) : ReadState :=
  { r with
    lastReadMessageId :=
      if r.lastReadMessageId.getD "" < messageId then some messageId else r.lastReadMessageId
    mentionCount := 0 }

def ackChannel (userId channelId messageId : String) : App Unit :=
  App.write
    (fun db => App.foreignKey (db.hasUser userId && db.hasChannel channelId))
    (fun db =>
      { db with
        readStates := Table.upsert readStateKey
          { userId := userId, channelId := channelId, lastReadMessageId := some messageId }
          (advance messageId) db.readStates })

end ReadStates

namespace Messages

def systemRow (id channelId authorId spaceId content messageType createdAt : String) :
    MessageRow :=
  { id := id
    channelId := channelId
    spaceId := some spaceId
    authorId := authorId
    content := content
    messageType := messageType
    createdAt := createdAt }

def createSystemMessage (channelId authorId spaceId content messageType : String) :
    App MessageRow := do
  let id ← App.generateId
  let createdAt ← App.now
  let row := systemRow id channelId authorId spaceId content messageType createdAt
  App.write
    (fun db =>
      if db.hasMessage id then some AppError.uniqueViolation
      else App.foreignKey (referencesExist db row))
    (fun db => { db with messages := db.messages ++ [row] })
  App.update (Tables.setLastMessage channelId id)
  getMessageRow id

end Messages

namespace Tables

def topLevelIds (db : Tables) (channelId : String) : List String :=
  (db.messages.filter (fun m => m.channelId = channelId && m.threadId = none)).map MessageRow.id

def lastMessageId (db : Tables) (channelId : String) : Option String :=
  (Table.lookup ChannelRow.id channelId db.channels).bind ChannelRow.lastMessageId

def Pointed (db : Tables) (channelId : String) : Prop :=
  ∀ c ∈ db.channels, c.id = channelId → Newest (db.topLevelIds channelId) c.lastMessageId

instance (db : Tables) (channelId : String) : Decidable (db.Pointed channelId) :=
  inferInstanceAs (Decidable (∀ c ∈ db.channels,
    c.id = channelId → Newest (db.topLevelIds channelId) c.lastMessageId))

section

variable {db db' : Tables} {channelId : String} {ids : List String} {row : MessageRow}

theorem mem_topLevelIds {id : String} : id ∈ db.topLevelIds channelId ↔
    ∃ m ∈ db.messages, m.channelId = channelId ∧ m.threadId = none ∧ m.id = id := by
  simp [topLevelIds, and_assoc]

theorem Pointed.lastMessageId {c : ChannelRow} (h : db.Pointed channelId) (hc : c ∈ db.channels)
    (hid : c.id = channelId) : c.lastMessageId = db.lastMessageId channelId := by
  cases hfound : Table.lookup ChannelRow.id channelId db.channels with
  | none => exact absurd hid (Table.lookup_eq_none.mp hfound c hc)
  | some d =>
    have hd := h d (Table.lookup_mem hfound) (Table.lookup_key hfound)
    rw [Tables.lastMessageId, hfound, Option.bind_some]
    exact (h c hc hid).unique hd

theorem Pointed.filtered_iff {kept : String → Bool} (h : db.Pointed channelId)
    (hids : db'.topLevelIds channelId = (db.topLevelIds channelId).filter kept)
    (hchannels : db'.channels = db.channels) :
    db'.Pointed channelId ↔ (db.lastMessageId channelId).all kept = true := by
  cases hfound : Table.lookup ChannelRow.id channelId db.channels with
  | none =>
    have hnone := Table.lookup_eq_none.mp hfound
    rw [Tables.lastMessageId, hfound]
    refine iff_of_true (fun c hc hid => ?_) rfl
    rw [hchannels] at hc
    exact absurd hid (hnone c hc)
  | some d =>
    have hmem := Table.lookup_mem hfound
    have hkey := Table.lookup_key hfound
    rw [← h.lastMessageId hmem hkey]
    constructor
    · intro hafter
      have hd := hafter d (hchannels ▸ hmem) hkey
      rw [hids] at hd
      exact (h d hmem hkey).filter_iff.mp hd
    · intro hkept c hc hid
      rw [hchannels] at hc
      rw [hids]
      refine (h c hc hid).filter_iff.mpr ?_
      rw [h.lastMessageId hc hid, ← h.lastMessageId hmem hkey]
      exact hkept

structure Appends (db : Tables) (row : MessageRow) (db' : Tables) : Prop where
  channel : db.hasChannel row.channelId = true
  messages : db'.messages = db.messages ++ [row]
  channels : db'.channels =
    if row.threadId.isNone then (setLastMessage row.channelId row.id db).channels else db.channels

def inOrder (db : Tables) (channelId : String) (row : MessageRow) : Bool :=
  row.channelId ≠ channelId || row.threadId.isSome ||
    (db.lastMessageId channelId).all (fun last => last ≤ row.id)

theorem Appends.topLevelIds (h : Appends db row db') : db'.topLevelIds channelId =
    if row.channelId = channelId ∧ row.threadId = none then db.topLevelIds channelId ++ [row.id]
    else db.topLevelIds channelId := by
  simp only [Tables.topLevelIds, h.messages, List.filter_append, List.map_append]
  by_cases hrow : row.channelId = channelId ∧ row.threadId = none
  · simp [hrow]
  · rw [if_neg hrow]
    have hout : (decide (row.channelId = channelId) && decide (row.threadId = none)) = false := by
      simpa using hrow
    simp [hout]

theorem mem_setLastMessage {c : ChannelRow} {id : String} :
    c ∈ (setLastMessage channelId id db).channels ↔
      ∃ d ∈ db.channels, c = if d.id = channelId then { d with lastMessageId := some id } else d := by
  simp only [setLastMessage, Table.update, List.mem_map]
  exact exists_congr (fun d => and_congr_right (fun _ => eq_comm))

theorem Pointed.appends_iff (h : db.Pointed channelId) (happ : Appends db row db') :
    db'.Pointed channelId ↔ inOrder db channelId row = true := by
  by_cases hrow : row.channelId = channelId ∧ row.threadId = none
  · obtain ⟨hchannel, hroot⟩ := hrow
    obtain ⟨d, hd, hdid⟩ := Table.has_iff.mp happ.channel
    have hkeyd : d.id = channelId := hdid.trans hchannel
    have horder : inOrder db channelId row = true ↔
        d.lastMessageId.all (fun last => last ≤ row.id) = true := by
      rw [h.lastMessageId hd hkeyd]
      simp [inOrder, hchannel, hroot]
    have hchannels : db'.channels = (setLastMessage channelId row.id db).channels := by
      rw [happ.channels, hroot, ← hchannel]
      rfl
    rw [horder, ← (h d hd hkeyd).append_iff (i := row.id)]
    have hids : db'.topLevelIds channelId = _ := happ.topLevelIds
    rw [if_pos ⟨hchannel, hroot⟩] at hids
    constructor
    · intro hafter
      have hc := hafter { d with lastMessageId := some row.id }
        (by rw [hchannels, mem_setLastMessage]; exact ⟨d, hd, by rw [if_pos hkeyd]⟩) hkeyd
      rw [hids] at hc
      exact hc
    · intro hnew c hc hid
      rw [hchannels, mem_setLastMessage] at hc
      obtain ⟨e, he, rfl⟩ := hc
      rw [hids]
      by_cases heid : e.id = channelId
      · rw [if_pos heid]
        exact hnew
      · rw [if_neg heid] at hid
        exact absurd hid heid
  · have hids : db'.topLevelIds channelId = _ := happ.topLevelIds
    rw [if_neg hrow] at hids
    have horder : inOrder db channelId row = true := by
      by_cases hchannel : row.channelId = channelId
      · have hreply : row.threadId ≠ none := fun hroot => hrow ⟨hchannel, hroot⟩
        simp [inOrder, Option.isSome_iff_ne_none.mpr hreply]
      · simp [inOrder, hchannel]
    refine iff_of_true (fun c hc hid => ?_) horder
    rw [hids]
    by_cases hroot : row.threadId = none
    · have hchannel : row.channelId ≠ channelId := fun hchannel => hrow ⟨hchannel, hroot⟩
      rw [happ.channels, hroot] at hc
      obtain ⟨e, he, rfl⟩ := mem_setLastMessage.mp hc
      by_cases heid : e.id = row.channelId
      · rw [if_pos heid] at hid
        exact absurd (heid.symm.trans hid) hchannel
      · rw [if_neg heid] at hid ⊢
        exact h e he hid
    · rw [happ.channels] at hc
      simp only [Option.isNone_iff_eq_none, hroot, if_false] at hc
      exact h c hc hid

theorem Appends.distinct (h : Appends db row db') (hfree : db.hasMessage row.id = false)
    (hids : Table.Distinct MessageRow.id db.messages) :
    Table.Distinct MessageRow.id db'.messages := by
  have hnone := Table.lookup_eq_none.mp (Table.lookup_none_of_not_has hfree)
  rw [h.messages]
  exact List.pairwise_append.mpr ⟨hids, List.pairwise_singleton _ _,
    fun m hm r hr => by rw [List.mem_singleton.mp hr]; exact hnone m hm⟩

theorem mem_deletedWith_root {m : MessageRow} (hids : Table.Distinct MessageRow.id db.messages)
    (hm : m ∈ db.messages) (hroot : m.threadId = none) :
    m.id ∈ db.deletedWith ids ↔ m.id ∈ ids := by
  constructor
  · intro hgone
    rcases mem_deletedWith hgone with hnamed | ⟨r, hr, hid, t, hthread, _⟩
    · exact hnamed
    · have hrow : r = m := Option.some.inj (by rw [← hids.lookup_eq hr, ← hids.lookup_eq hm, hid])
      rw [hrow, hroot] at hthread
      cases hthread
  · intro hnamed
    refine subset_threadClosure _ _ (List.mem_filter.mpr ⟨hnamed, ?_⟩)
    exact Table.has_iff.mpr ⟨m, hm, rfl⟩

theorem topLevelIds_deleteMessages (hids : Table.Distinct MessageRow.id db.messages) :
    (db.deleteMessages ids).topLevelIds channelId =
      (db.topLevelIds channelId).filter (fun i => !ids.contains i) := by
  have hkind : ∀ m, (unlinkReply (db.deletedWith ids) m).channelId = m.channelId ∧
      (unlinkReply (db.deletedWith ids) m).threadId = m.threadId := by
    intro m
    unfold unlinkReply
    split <;> exact ⟨rfl, rfl⟩
  have hsame : ∀ m ∈ db.messages,
      (m.channelId = channelId ∧ m.threadId = none ∧ m.id ∉ db.deletedWith ids) ↔
        (m.id ∉ ids ∧ m.channelId = channelId ∧ m.threadId = none) := by
    intro m hm
    constructor
    · rintro ⟨hchannel, hroot, hkept⟩
      exact ⟨mt (mem_deletedWith_root hids hm hroot).mpr hkept, hchannel, hroot⟩
    · rintro ⟨hkept, hchannel, hroot⟩
      exact ⟨hchannel, hroot, mt (mem_deletedWith_root hids hm hroot).mp hkept⟩
  simp only [Tables.topLevelIds, deleteMessages_messages, List.filter_map, List.map_map,
    List.filter_filter]
  have hfilter : db.messages.filter (fun m =>
        ((fun m : MessageRow => decide (m.channelId = channelId) && decide (m.threadId = none)) ∘
          unlinkReply (db.deletedWith ids)) m && !(db.deletedWith ids).contains m.id) =
      db.messages.filter (fun m => ((fun i => !ids.contains i) ∘ MessageRow.id) m &&
        (decide (m.channelId = channelId) && decide (m.threadId = none))) := by
    refine List.filter_congr (fun m hm => ?_)
    rw [Bool.eq_iff_iff]
    simpa [hkind, and_assoc] using hsame m hm
  rw [hfilter]
  exact List.map_congr_left (fun m _ => unlinkReply_id _ m)

end

end Tables

namespace Messages

open Tables

variable {s : AppState} {channelId : String}

theorem appends_storeMessage {db : Tables} {row : MessageRow} (now : Int)
    (hrefs : referencesExist db row = true) : Appends db row (storeMessage row now db) := by
  have hchannel : db.hasChannel row.channelId = true := by
    simp only [referencesExist, Bool.and_eq_true] at hrefs
    exact hrefs.1.1.1.1
  refine ⟨hchannel, storeMessage_messages row now db, ?_⟩
  unfold storeMessage
  dsimp only
  split <;> rfl

def withRemote (msg : RemoteMessageInsert) (db : Tables) : Tables :=
  setLastMessage msg.channelId msg.id { db with messages := db.messages ++ [msg.row] }

theorem insertRemoteMessage_stored {msg : RemoteMessageInsert} (h : storable s.db msg = true) :
    ((insertRemoteMessage msg).exec s).2.db = withRemote msg s.db := by
  simp only [storable, Bool.and_eq_true, Bool.not_eq_true'] at h
  obtain ⟨hfresh, hrefs⟩ := h
  have hnew : Table.insertNew MessageRow.id msg.row s.db.messages = s.db.messages ++ [msg.row] := by
    have hkey : Table.has MessageRow.id msg.row.id s.db.messages = false := hfresh
    simp [Table.insertNew, hkey]
  unfold insertRemoteMessage
  simp only [Prog.exec_bind, App.exec_writeCounted, hfresh, hrefs, hnew, Bool.or_true,
    App.foreignKey, if_true, Bool.not_false, App.exec_update, AppState.withDb_db, App.exec_lift]
  split <;> rename_i hread <;> exact congrArg (fun r => r.2.db) hread.symm

theorem insertRemoteMessage_appends {msg : RemoteMessageInsert} (h : storable s.db msg = true) :
    Appends s.db msg.row ((insertRemoteMessage msg).exec s).2.db := by
  have hchannel : s.db.hasChannel msg.channelId = true := by
    simp only [storable, referencesExist, Bool.and_eq_true] at h
    exact h.2.1.1.1.1
  rw [insertRemoteMessage_stored h]
  exact ⟨hchannel, rfl, rfl⟩

theorem insertRemoteMessage_refused {msg : RemoteMessageInsert} (h : storable s.db msg = false) :
    ((insertRemoteMessage msg).exec s).2.db = s.db := by
  unfold insertRemoteMessage
  cases hheld : s.db.hasMessage msg.id with
  | true =>
    simp only [Prog.exec_bind, App.exec_writeCounted, hheld, Bool.true_or, App.foreignKey, if_true,
      Bool.not_true, Bool.false_eq_true, if_false]
    have hsame : Table.insertNew MessageRow.id msg.row s.db.messages = s.db.messages :=
      Table.insertNew_of_has hheld
    simp [hsame]
  | false =>
    have hrefs : referencesExist s.db msg.row = false := by simpa [storable, hheld] using h
    simp [Prog.exec_bind, App.exec_writeCounted, hheld, hrefs, App.foreignKey]

def systemStorable (s : AppState) (row : MessageRow) : Bool :=
  !s.db.hasMessage row.id && referencesExist s.db row

theorem createSystemMessage_appends {authorId spaceId content messageType : String}
    (h : systemStorable s (systemRow (toString s.snowflake) channelId authorId spaceId content
      messageType s.now) = true) :
    Appends s.db (systemRow (toString s.snowflake) channelId authorId spaceId content
      messageType s.now)
      ((createSystemMessage channelId authorId spaceId content messageType).exec s).2.db := by
  simp only [systemStorable, Bool.and_eq_true, Bool.not_eq_true'] at h
  obtain ⟨hfresh, hrefs⟩ := h
  have hchannel : s.db.hasChannel channelId = true := by
    simp only [referencesExist, Bool.and_eq_true] at hrefs
    exact hrefs.1.1.1.1
  have hid : s.db.hasMessage (toString s.snowflake) = false := hfresh
  have hdb : ((createSystemMessage channelId authorId spaceId content messageType).exec s).2.db =
      setLastMessage channelId (toString s.snowflake)
        { s.db with messages := s.db.messages ++ [systemRow (toString s.snowflake) channelId authorId
          spaceId content messageType s.now] } := by
    unfold createSystemMessage
    rw [Prog.exec_bind_of_ok App.exec_generateId, Prog.exec_bind_of_ok App.exec_now]
    dsimp only
    have hnow : ({ s with snowflake := s.snowflake + 1 } : AppState).now = s.now := rfl
    rw [Prog.exec_bind_of_ok (App.exec_write_of_none (by
      simp only [hid, Bool.false_eq_true, if_false, App.foreignKey]
      rw [hnow, if_pos hrefs]))]
    rw [Prog.exec_bind_of_ok (App.exec_update _), App.exec_lift]
    rfl
  rw [hdb]
  exact ⟨hchannel, rfl, rfl⟩

theorem createSystemMessage_refused {authorId spaceId content messageType : String}
    (h : systemStorable s (systemRow (toString s.snowflake) channelId authorId spaceId content
      messageType s.now) = false) :
    ((createSystemMessage channelId authorId spaceId content messageType).exec s).2.db = s.db := by
  have hwrite : ∃ e, (if s.db.hasMessage (toString s.snowflake) then some AppError.uniqueViolation
      else App.foreignKey (referencesExist s.db (systemRow (toString s.snowflake) channelId authorId
        spaceId content messageType s.now))) = some e := by
    cases hheld : s.db.hasMessage (toString s.snowflake) with
    | true => exact ⟨_, rfl⟩
    | false =>
      have hfree : s.db.hasMessage (systemRow (toString s.snowflake) channelId authorId spaceId
          content messageType s.now).id = false := hheld
      have hrefs : referencesExist s.db (systemRow (toString s.snowflake) channelId authorId spaceId
          content messageType s.now) = false := by
        rw [systemStorable, hfree] at h
        exact h
      exact ⟨_, by rw [hrefs]; rfl⟩
  obtain ⟨e, he⟩ := hwrite
  unfold createSystemMessage
  rw [Prog.exec_bind_of_ok App.exec_generateId, Prog.exec_bind_of_ok App.exec_now]
  dsimp only
  have hnow : ({ s with snowflake := s.snowflake + 1 } : AppState).now = s.now := rfl
  simp only [Prog.exec_bind, App.exec_write, hnow, he]

def bulkDeleted (channelId : String) (messageIds : List String) (db : Tables) : Tables :=
  messageIds.foldl
    (fun db id =>
      if db.messages.any (fun m => m.id = id && m.channelId = channelId) then
        db.deleteMessages [id]
      else db) db

theorem exec_bulkDeleteMessages (messageIds : List String) :
    (bulkDeleteMessages channelId messageIds).exec s =
      (.ok (), s.withDb (bulkDeleted channelId messageIds s.db)) := by
  induction messageIds generalizing s with
  | nil => rfl
  | cons id ids ih =>
    rw [bulkDeleteMessages, Prog.forEach_cons, Prog.exec_bind_of_ok (App.exec_update _)]
    exact ih

theorem distinct_bulkDeleted {db : Tables} (messageIds : List String)
    (hids : Table.Distinct MessageRow.id db.messages) :
    Table.Distinct MessageRow.id (bulkDeleted channelId messageIds db).messages := by
  induction messageIds generalizing db with
  | nil => exact hids
  | cons id ids ih =>
    refine ih ?_
    dsimp only
    split
    · exact distinct_deleteMessages hids
    · exact hids

theorem channels_bulkDeleted {db : Tables} (messageIds : List String) :
    (bulkDeleted channelId messageIds db).channels = db.channels := by
  induction messageIds generalizing db with
  | nil => rfl
  | cons id ids ih =>
    refine ih.trans ?_
    dsimp only
    split <;> rfl

theorem topLevelIds_bulkDeleted {db : Tables} {other : String} (messageIds : List String)
    (hids : Table.Distinct MessageRow.id db.messages) :
    (bulkDeleted other messageIds db).topLevelIds channelId =
      (db.topLevelIds channelId).filter (fun i => !(other = channelId && messageIds.contains i)) := by
  induction messageIds generalizing db with
  | nil => simp [bulkDeleted]
  | cons id ids ih =>
    rw [bulkDeleted, List.foldl_cons]
    split
    · rename_i hany
      refine (ih (distinct_deleteMessages hids)).trans ?_
      rw [topLevelIds_deleteMessages hids, List.filter_filter]
      refine List.filter_congr (fun i hi => ?_)
      obtain ⟨m, hm, hchannel, hroot, rfl⟩ := mem_topLevelIds.mp hi
      rw [Bool.eq_iff_iff]
      by_cases hother : other = channelId
      · simp [hother, and_comm]
      · -- the row the statement deletes is in another channel
        have hne : m.id ≠ id := by
          rintro rfl
          obtain ⟨r, hr, hrow⟩ := List.any_eq_true.mp hany
          simp only [Bool.and_eq_true, decide_eq_true_eq] at hrow
          have hsame : r = m := Option.some.inj (by
            rw [← hids.lookup_eq hr, ← hids.lookup_eq hm, hrow.1])
          exact hother (by rw [← hrow.2, hsame, hchannel])
        simp [hother, hne]
    · rename_i hany
      refine (ih hids).trans (List.filter_congr (fun i hi => ?_))
      obtain ⟨m, hm, hchannel, hroot, rfl⟩ := mem_topLevelIds.mp hi
      by_cases hother : other = channelId
      · have hne : m.id ≠ id := by
          rintro rfl
          exact hany (List.any_eq_true.mpr ⟨m, hm, by simp [hother, hchannel]⟩)
        simp [hother, hne]
      · simp [hother]

end Messages

namespace Members

theorem removeMemberAndData_rows (spaceId userId : String) (s : AppState) :
    ((removeMemberAndData spaceId userId).exec s).2.db.messages =
        (s.db.deleteMessages (authoredIn s.db spaceId userId)).messages ∧
      ((removeMemberAndData spaceId userId).exec s).2.db.channels = s.db.channels := by
  let rows : AppState → List MessageRow × List ChannelRow :=
    fun s => (s.db.messages, s.db.channels)
  have hframe : ∀ f : Tables → Tables, (∀ db, (f db).messages = db.messages) →
      (∀ db, (f db).channels = db.channels) → (App.update f).Preserves rows := fun f hm hc =>
    App.preserves_update (fun t => Prod.ext (hm t.db) (hc t.db))
  have hmember : rows ((removeMemberAndData spaceId userId).exec s).2 =
      rows ((removeContent spaceId userId).exec s).2 := by
    have hleave : (removeMember spaceId userId).Preserves rows :=
      hframe _ (fun _ => rfl) (fun _ => rfl)
    exact Prog.Preserves.exec_bind (fun _ => hleave) (removeContent spaceId userId) s
  have hcontent : rows ((removeContent spaceId userId).exec s).2 =
      ((s.db.deleteMessages (authoredIn s.db spaceId userId)).messages, s.db.channels) := by
    rw [removeContent, Prog.exec_bind_of_ok (App.exec_update _),
      Prog.exec_bind_of_ok (App.exec_update _)]
    refine (Prog.Preserves.exec ?_ _).trans rfl
    refine (hframe _ (fun _ => rfl) (fun _ => rfl)).bind (fun _ => ?_)
    refine (hframe _ (fun _ => rfl) (fun _ => rfl)).bind (fun _ => ?_)
    refine (hframe _ (fun _ => rfl) (fun _ => rfl)).bind (fun _ => ?_)
    exact hframe _ (fun _ => rfl) (fun _ => rfl)
  exact Prod.ext_iff.mp (hmember.trans hcontent)

end Members

namespace ReadStates

open Tables

variable {db : Tables} {channelId userId : String} {c : ChannelRow}

def HasNewer (db : Tables) (userId channelId : String) : Prop :=
  ∃ m ∈ db.messages, m.channelId = channelId ∧ m.threadId = none ∧
    ∀ read, lastRead db userId channelId = some read → read < m.id

def Reported (db : Tables) (userId channelId : String) : Prop :=
  ∃ unread, getUnreadChannels userId db = .ok unread ∧
    ∃ u ∈ unread, u.channelId = channelId

theorem unreadChannel_some {u : UnreadChannel} (h : unreadChannel db userId c = some u) :
    u.channelId = c.id ∧ ∃ last, c.lastMessageId = some last ∧
      ∀ read, lastRead db userId c.id = some read → read < last := by
  unfold unreadChannel at h
  cases hlast : c.lastMessageId with
  | none => simp [hlast] at h
  | some last =>
    simp only [hlast] at h
    split at h
    · cases h
      rename_i hunread
      have hall := (Bool.and_eq_true_iff.mp hunread).2
      exact ⟨rfl, last, rfl, fun read hread => by simpa [hread] using hall⟩
    · cases h

theorem reported_iff (hpointed : db.Pointed channelId) (hc : c ∈ db.channels)
    (hid : c.id = channelId) (hmember : belongs db userId c = true) :
    Reported db userId channelId ↔ HasNewer db userId channelId := by
  have hnewer : (∃ last, c.lastMessageId = some last ∧
      ∀ read, lastRead db userId channelId = some read → read < last) ↔
        HasNewer db userId channelId := by
    rw [(hpointed c hc hid).exists_lt_iff]
    simp only [mem_topLevelIds, HasNewer]
    constructor
    · rintro ⟨i, ⟨m, hm, hchannel, hroot, rfl⟩, hlt⟩
      exact ⟨m, hm, hchannel, hroot, hlt⟩
    · rintro ⟨m, hm, hchannel, hroot, hlt⟩
      exact ⟨m.id, ⟨m, hm, hchannel, hroot, rfl⟩, hlt⟩
  rw [← hnewer]
  constructor
  · rintro ⟨unread, hread, u, hu, huid⟩
    cases hread
    obtain ⟨d, hd, hsome⟩ := List.mem_filterMap.mp hu
    obtain ⟨hdid, last, hlast, hlt⟩ := unreadChannel_some hsome
    have hkey : d.id = channelId := hdid.symm.trans huid
    refine ⟨last, ?_, fun read hread => hlt read (hkey ▸ hread)⟩
    rw [hpointed.lastMessageId hc hid, ← hpointed.lastMessageId hd hkey, hlast]
  · rintro ⟨last, hlast, hlt⟩
    have hall : (lastRead db userId c.id).all (fun r => r < last) = true := by
      rw [hid]
      cases hread : lastRead db userId channelId with
      | none => rfl
      | some read => simpa using hlt read hread
    refine ⟨_, rfl, ?_⟩
    have hsome : ∃ u, unreadChannel db userId c = some u ∧ u.channelId = c.id := by
      unfold unreadChannel
      simp only [hlast]
      rw [if_pos (Bool.and_eq_true_iff.mpr ⟨hmember, hall⟩)]
      exact ⟨_, rfl, rfl⟩
    obtain ⟨u, hu, huid⟩ := hsome
    exact ⟨u, List.mem_filterMap.mpr ⟨c, hc, hu⟩, huid.trans hid⟩

end ReadStates

end Vokusz.Db
