import Vokusz.Routes.Replica

namespace Vokusz.Db.Messages

open Lib

def readColumns : List String :=
  ["id", "channel_id", "space_id", "author_id", "content", "type", "created_at", "edited_at", "tts",
    "pinned", "mention_everyone", "mentions", "mention_roles", "embeds", "reply_to", "flags",
    "webhook_id", "thread_id", "title"]

def pinnedColumns : List String :=
  ["id", "channel_id", "space_id", "author_id", "content", "type", "created_at", "edited_at", "tts",
    "pinned", "mention_everyone", "mentions", "mention_roles", "embeds", "reply_to", "flags",
    "webhook_id", "thread_id"]

def columnPanic (column : String) : AppError := .internal ("no column found for name: " ++ column)

def rowToMessage (columns : List String) (row : MessageRow) : Except AppError MessageRow :=
  match readColumns.find? (fun c => !columns.contains c) with
  | some column => .error (columnPanic column)
  | none => .ok { row with origin := if columns.contains "origin" then row.origin else none }

def pinnedRows (db : Tables) (channelId : String) : List MessageRow :=
  (db.pinnedMessages.filter (fun p => p.channelId = channelId)).reverse.filterMap
    (fun p => Table.lookup MessageRow.id p.messageId db.messages)

def listPinnedMessages (channelId : String) : Query (List MessageRow) := fun db =>
  (pinnedRows db channelId).mapM (rowToMessage pinnedColumns)

theorem listPinnedMessages_eq (db : Tables) (channelId : String) :
    listPinnedMessages channelId db =
      if pinnedRows db channelId = [] then .ok [] else .error (columnPanic "title") := by
  unfold listPinnedMessages
  cases pinnedRows db channelId with
  | nil => rfl
  | cons row rows =>
    rw [List.mapM_cons]
    rfl

end Vokusz.Db.Messages

namespace Vokusz.Routes.Messages

open Db Permissions
open Db.Messages (pinKey)
open Db.Tables (MessageKeys)
open Lib (Prog)
open Replica (Quiet stored keeps_quiet keeps_read keeps_then keeps_deleteFiles)

inductive PinRequest where
  | pin (channelId messageId : String) (auth : AuthUser)
  | unpin (channelId messageId : String) (auth : AuthUser)
  | delete (channelId messageId : String) (auth : AuthUser) (reply : Except AppError Response)
  | bulkDelete (channelId : String) (auth : AuthUser) (messages : List String)

def PinRequest.serve : PinRequest → App Json
  | .pin channelId messageId auth => pinMessage channelId messageId auth
  | .unpin channelId messageId auth => unpinMessage channelId messageId auth
  | .delete channelId messageId auth reply => deleteMessage channelId messageId auth reply
  | .bulkDelete channelId auth messages => bulkDeleteMessages channelId auth messages

structure Pinned (db : Tables) : Prop where
  placed : ∀ p ∈ db.pinnedMessages, ∃ m ∈ db.messages, m.id = p.messageId ∧ m.channelId = p.channelId
  flagged : ∀ m ∈ db.messages, m.pinned = true ↔ ∃ p ∈ db.pinnedMessages, p.messageId = m.id

def Listed (db : Tables) : Prop :=
  ∀ channelId, ∃ rows, Db.Messages.listPinnedMessages channelId db = .ok rows ∧
    ∀ id, id ∈ rows.map MessageRow.id ↔ ⟨channelId, id⟩ ∈ db.pinnedMessages

section

variable {db : Tables} {channelId messageId : String}

theorem listed_iff (hkeys : MessageKeys db) : Listed db ↔ db.pinnedMessages = [] := by
  constructor
  · intro h
    rw [List.eq_nil_iff_forall_not_mem]
    intro p hp
    obtain ⟨rows, hrows, hlist⟩ := h p.channelId
    have hmem : p.messageId ∈ rows.map MessageRow.id := (hlist p.messageId).mpr hp
    have hlookup : (Lib.Table.lookup MessageRow.id p.messageId db.messages).isSome = true := by
      rw [Lib.Table.lookup_isSome]
      exact hkeys.pins p hp
    obtain ⟨m, hm⟩ := Option.isSome_iff_exists.mp hlookup
    have hrow : m ∈ Db.Messages.pinnedRows db p.channelId := by
      refine List.mem_filterMap.mpr ⟨p, ?_, hm⟩
      rw [List.mem_reverse, List.mem_filter]
      exact ⟨hp, decide_eq_true rfl⟩
    rw [Db.Messages.listPinnedMessages_eq, if_neg (List.ne_nil_of_mem hrow)] at hrows
    cases hrows
  · intro h channelId
    refine ⟨[], ?_, fun id => by simp [h]⟩
    rw [Db.Messages.listPinnedMessages_eq]
    simp [Db.Messages.pinnedRows, h]

def pinRow (channelId messageId : String) (db : Tables) : Tables :=
  Tables.updateMessage messageId (fun m => { m with pinned := true })
    { db with
      pinnedMessages := Lib.Table.insertNew Db.Messages.pinKey
        { channelId := channelId, messageId := messageId } db.pinnedMessages }

def unpinRow (channelId messageId : String) (db : Tables) : Tables :=
  Tables.updateMessage messageId (fun m => { m with pinned := false })
    { db with
      pinnedMessages := Lib.Table.delete Db.Messages.pinKey (channelId, messageId)
        db.pinnedMessages }

def inChannel (db : Tables) (channelId messageId : String) : Bool :=
  db.messages.any (fun m => m.id = messageId && m.channelId = channelId)

def pinnedElsewhere (db : Tables) (channelId messageId : String) : Bool :=
  db.pinnedMessages.any (fun p => p.messageId = messageId && p.channelId ≠ channelId)

theorem inChannel_iff :
    inChannel db channelId messageId = true ↔
      ∃ m ∈ db.messages, m.id = messageId ∧ m.channelId = channelId := by
  simp [inChannel]

theorem pinnedElsewhere_iff :
    pinnedElsewhere db channelId messageId = true ↔
      ∃ p ∈ db.pinnedMessages, p.messageId = messageId ∧ p.channelId ≠ channelId := by
  simp [pinnedElsewhere]

theorem mem_insertPin {p row : PinnedMessage} {rows : List PinnedMessage} :
    p ∈ Lib.Table.insertNew pinKey row rows ↔ p ∈ rows ∨ p = row := by
  refine Lib.Table.mem_insertNew_iff (fun other hkey => ?_)
  obtain ⟨hchannel, hmessage⟩ := Prod.mk.inj hkey
  cases other
  cases row
  cases hchannel
  cases hmessage
  rfl

theorem pinned_map_iff (db : Tables) {db' : Tables} {f : MessageRow → MessageRow}
    (hf : ∀ m, (f m).id = m.id ∧ (f m).channelId = m.channelId)
    (hmessages : db'.messages = db.messages.map f) :
    Pinned db' ↔
      (∀ p ∈ db'.pinnedMessages,
        ∃ m ∈ db.messages, m.id = p.messageId ∧ m.channelId = p.channelId) ∧
      ∀ m ∈ db.messages, (f m).pinned = true ↔ ∃ p ∈ db'.pinnedMessages, p.messageId = m.id := by
  constructor
  · rintro ⟨hplaced, hflagged⟩
    constructor
    · intro p hp
      obtain ⟨m', hm', hid, hchannel⟩ := hplaced p hp
      rw [hmessages] at hm'
      obtain ⟨m, hm, rfl⟩ := List.mem_map.mp hm'
      exact ⟨m, hm, (hf m).1.symm.trans hid, (hf m).2.symm.trans hchannel⟩
    · intro m hm
      have hm' : f m ∈ db'.messages := by
        rw [hmessages]
        exact List.mem_map_of_mem hm
      rw [hflagged (f m) hm', (hf m).1]
  · rintro ⟨hplaced, hflagged⟩
    constructor
    · intro p hp
      obtain ⟨m, hm, hid, hchannel⟩ := hplaced p hp
      refine ⟨f m, ?_, (hf m).1.trans hid, (hf m).2.trans hchannel⟩
      rw [hmessages]
      exact List.mem_map_of_mem hm
    · intro m' hm'
      rw [hmessages] at hm'
      obtain ⟨m, hm, rfl⟩ := List.mem_map.mp hm'
      rw [(hf m).1]
      exact hflagged m hm

theorem pinned_pinRow_iff (h : Pinned db) :
    Pinned (pinRow channelId messageId db) ↔ inChannel db channelId messageId = true := by
  have hf : ∀ m : MessageRow,
      (if m.id = messageId then { m with pinned := true } else m).id = m.id ∧
      (if m.id = messageId then { m with pinned := true } else m).channelId = m.channelId := by
    intro m
    split <;> exact ⟨rfl, rfl⟩
  rw [pinned_map_iff db hf rfl, inChannel_iff]
  constructor
  · rintro ⟨hplaced, -⟩
    exact hplaced ⟨channelId, messageId⟩ (mem_insertPin.mpr (.inr rfl))
  · intro hin
    constructor
    · intro p hp
      rcases mem_insertPin.mp hp with hp | rfl
      · exact h.placed p hp
      · exact hin
    · intro m hm
      by_cases hid : m.id = messageId
      · simp only [if_pos hid, true_iff]
        exact ⟨_, mem_insertPin.mpr (.inr rfl), hid.symm⟩
      · simp only [if_neg hid]
        rw [h.flagged m hm]
        constructor
        · rintro ⟨p, hp, hpid⟩
          exact ⟨p, mem_insertPin.mpr (.inl hp), hpid⟩
        · rintro ⟨p, hp, hpid⟩
          rcases mem_insertPin.mp hp with hp | rfl
          · exact ⟨p, hp, hpid⟩
          · exact absurd hpid.symm hid

theorem mem_deletePin {p : PinnedMessage} {rows : List PinnedMessage} :
    p ∈ Lib.Table.delete pinKey (channelId, messageId) rows ↔
      p ∈ rows ∧ (p.messageId = messageId → p.channelId ≠ channelId) := by
  rw [Lib.Table.mem_delete]
  refine and_congr_right (fun _ => ?_)
  constructor
  · intro hkey hmessage hchannel
    exact hkey (Prod.ext hchannel hmessage)
  · intro hne hkey
    obtain ⟨hchannel, hmessage⟩ := Prod.mk.inj hkey
    exact hne hmessage hchannel

theorem pinned_unpinRow_iff (hkeys : MessageKeys db) (h : Pinned db) :
    Pinned (unpinRow channelId messageId db) ↔
      ¬ pinnedElsewhere db channelId messageId = true := by
  have hf : ∀ m : MessageRow,
      (if m.id = messageId then { m with pinned := false } else m).id = m.id ∧
      (if m.id = messageId then { m with pinned := false } else m).channelId = m.channelId := by
    intro m
    split <;> exact ⟨rfl, rfl⟩
  rw [pinned_map_iff db hf rfl, pinnedElsewhere_iff]
  constructor
  · rintro ⟨-, hflagged⟩ ⟨p, hp, rfl, hchannel⟩
    obtain ⟨m, hm, hid⟩ := Lib.Table.has_iff.mp (hkeys.pins p hp)
    have hflag := (hflagged m hm).mpr ⟨p, mem_deletePin.mpr ⟨hp, fun _ => hchannel⟩, hid.symm⟩
    rw [if_pos hid] at hflag
    cases hflag
  · intro hnone
    constructor
    · intro p hp
      exact h.placed p (mem_deletePin.mp hp).1
    · intro m hm
      by_cases hid : m.id = messageId
      · simp only [if_pos hid, Bool.false_eq_true, false_iff]
        rintro ⟨p, hp, hpid⟩
        obtain ⟨hold, hkept⟩ := mem_deletePin.mp hp
        have hmessage : p.messageId = messageId := hpid.trans hid
        exact hnone ⟨p, hold, hmessage, hkept hmessage⟩
      · simp only [if_neg hid]
        rw [h.flagged m hm]
        constructor
        · rintro ⟨p, hp, hpid⟩
          exact ⟨p, mem_deletePin.mpr ⟨hp, fun hsame => absurd (hpid.symm.trans hsame) hid⟩, hpid⟩
        · rintro ⟨p, hp, hpid⟩
          exact ⟨p, (mem_deletePin.mp hp).1, hpid⟩

theorem Pinned.delete (h : Pinned db) (ids : List String) : Pinned (db.deleteMessages ids) := by
  have hkept : ∀ m ∈ db.messages, m.id ∉ db.deletedWith ids →
      Tables.unlinkReply (db.deletedWith ids) m ∈ (db.deleteMessages ids).messages := by
    intro m hm hgone
    rw [Tables.deleteMessages_messages]
    exact List.mem_map_of_mem (List.mem_filter.mpr ⟨hm, by simpa using hgone⟩)
  have hflag : ∀ m, (Tables.unlinkReply (db.deletedWith ids) m).pinned = m.pinned := by
    intro m
    unfold Tables.unlinkReply
    split <;> rfl
  constructor
  · intro p hp
    obtain ⟨hold, hgone⟩ := List.mem_filter.mp hp
    obtain ⟨m, hm, hid, hchannel⟩ := h.placed p hold
    refine ⟨_, hkept m hm ?_, by rw [Tables.unlinkReply_id, hid],
      by rw [Replica.unlinkReply_channelId, hchannel]⟩
    rw [hid]
    simpa using hgone
  · intro m' hm'
    rw [Tables.deleteMessages_messages] at hm'
    obtain ⟨m, hm, rfl⟩ := List.mem_map.mp hm'
    obtain ⟨hold, hgone⟩ := List.mem_filter.mp hm
    rw [hflag, Tables.unlinkReply_id, h.flagged m hold]
    constructor
    · rintro ⟨p, hp, hpid⟩
      refine ⟨p, List.mem_filter.mpr ⟨hp, ?_⟩, hpid⟩
      rw [hpid]
      exact hgone
    · rintro ⟨p, hp, hpid⟩
      exact ⟨p, (List.mem_filter.mp hp).1, hpid⟩

theorem deleteMessages_pins (h : db.pinnedMessages = []) (ids : List String) :
    (db.deleteMessages ids).pinnedMessages = [] := by
  change db.pinnedMessages.filter _ = []
  rw [h]
  rfl

end

def admitted (db : Tables) (channelId : String) (auth : AuthUser) : Bool :=
  (requireChannelPermission channelId auth "manage_messages" db).toBool

def storesPin (db : Tables) (channelId messageId : String) (auth : AuthUser) : Bool :=
  admitted db channelId auth && db.hasChannel channelId && db.hasMessage messageId

def PinRequest.unpinned (s : AppState) : PinRequest → Bool
  | .pin channelId messageId auth => !storesPin s.db channelId messageId auth
  | .unpin _ _ _ => true
  | .delete _ _ _ _ => true
  | .bulkDelete _ _ _ => true

def PinRequest.ownChannel (s : AppState) : PinRequest → Bool
  | .pin channelId messageId auth =>
    !storesPin s.db channelId messageId auth || inChannel s.db channelId messageId
  | .unpin channelId messageId auth =>
    !(admitted s.db channelId auth && pinnedElsewhere s.db channelId messageId)
  | .delete _ _ _ _ => true
  | .bulkDelete _ _ _ => true

def afterRequest (s : AppState) (req : PinRequest) : AppState := (req.serve.exec s).2

def serveOne (s : AppState) (req : PinRequest) : Option AppState := some (afterRequest s req)

section

variable {s : AppState} {channelId messageId : String} {auth : AuthUser}

theorem pinMessage_db (channelId messageId : String) (auth : AuthUser) :
    ((pinMessage channelId messageId auth).exec s).2.db =
      if storesPin s.db channelId messageId auth then pinRow channelId messageId s.db
      else s.db := by
  unfold pinMessage storesPin admitted
  rw [Prog.exec_bind, App.exec_lift]
  cases requireChannelPermission channelId auth "manage_messages" s.db with
  | error e => rfl
  | ok spaceId =>
    dsimp only [Except.toBool]
    rw [App.exec_bind_db (fun _ => Prog.preserves_pure _), Db.Messages.pinMessage, Prog.exec_bind,
      App.exec_write]
    cases hstored : s.db.hasChannel channelId && s.db.hasMessage messageId with
    | false => simp [App.foreignKey, hstored]
    | true =>
      simp only [App.foreignKey, if_true, App.exec_update]
      simp [hstored]
      rfl

theorem unpinMessage_db (channelId messageId : String) (auth : AuthUser) :
    ((unpinMessage channelId messageId auth).exec s).2.db =
      if admitted s.db channelId auth then unpinRow channelId messageId s.db else s.db := by
  unfold unpinMessage admitted
  rw [Prog.exec_bind, App.exec_lift]
  cases requireChannelPermission channelId auth "manage_messages" s.db with
  | error e => rfl
  | ok spaceId =>
    dsimp only [Except.toBool]
    rw [App.exec_bind_db (fun _ => Prog.preserves_pure _), Db.Messages.unpinMessage,
      Prog.exec_bind_of_ok (App.exec_update _), App.exec_update]
    rfl

variable {I : Tables → Prop}

theorem deleteMessage_keeps (hI : Quiet I) (hdelete : ∀ db ids, I db → I (db.deleteMessages ids))
    (reply : Except AppError Response) :
    (deleteMessage channelId messageId auth reply).Maintains (fun s => I s.db) := by
  refine keeps_read hI (App.touches_lift _) (fun existing => ?_)
  refine keeps_read hI (App.touches_lift _) (fun home => ?_)
  cases home with
  | some home => exact keeps_quiet hI (touches_forwardDeletion _ _ _ _) (by decide)
  | none =>
    refine keeps_read hI (App.touches_lift _) (fun _ => ?_)
    refine keeps_read hI (App.touches_lift _) (fun attachments => ?_)
    refine (keeps_deleteFiles hI attachments).bind (fun _ _ => ?_)
    refine (App.keeps_update (fun s hs => ?_)).bind (fun _ _ => ?_)
    · exact hdelete s.db [messageId] hs
    refine keeps_read hI (App.touches_lift _) (fun channel => ?_)
    refine keeps_then hI (Federation.touches_broadcastSpace _ _ _ _) (by decide) (fun _ => ?_)
    exact keeps_then hI (touches_fanoutChange _ _ _) (by decide) (fun _ => trivial)

theorem bulkDeleteMessages_keeps (hI : Quiet I)
    (hdelete : ∀ db ids, I db → I (db.deleteMessages ids)) (messages : List String) :
    (bulkDeleteMessages channelId auth messages).Maintains (fun s => I s.db) := by
  refine keeps_read hI (App.touches_lift _) (fun _ => ?_)
  refine keeps_read hI (Prog.touches_require _ _) (fun _ => ?_)
  refine Prog.Keeps.bind (Prog.keeps_forEach (fun id _ => App.keeps_update (fun s hs => ?_)))
    (fun _ _ => trivial)
  dsimp only [AppState.withDb_db]
  split
  · exact hdelete s.db [id] hs
  · exact hs

theorem quiet_keys : Quiet MessageKeys := by
  intro db db' heq h
  simp only [stored, Prod.mk.injEq] at heq
  obtain ⟨hmessages, -, hpins, -, -⟩ := heq
  refine h.of_messages hmessages (fun p hp => ?_)
  rw [hpins] at hp
  exact h.pins p hp

theorem quiet_pinned : Quiet Pinned := by
  intro db db' heq h
  simp only [stored, Prod.mk.injEq] at heq
  obtain ⟨hmessages, -, hpins, -, -⟩ := heq
  constructor
  · rw [hmessages, hpins]
    exact h.placed
  · rw [hmessages, hpins]
    exact h.flagged

theorem quiet_unpinned : Quiet (fun db => db.pinnedMessages = []) := by
  intro db db' heq h
  simp only [stored, Prod.mk.injEq] at heq
  exact heq.2.2.1.trans h

theorem keys_pinRow (h : MessageKeys s.db) (hmessage : s.db.hasMessage messageId = true) :
    MessageKeys (pinRow channelId messageId s.db) := by
  refine MessageKeys.update (h.of_messages rfl (fun p hp => ?_)) (fun _ => rfl) (fun _ => rfl)
    (fun _ => rfl)
  rcases mem_insertPin.mp hp with hp | rfl
  · exact h.pins p hp
  · exact hmessage

theorem keys_unpinRow (h : MessageKeys s.db) : MessageKeys (unpinRow channelId messageId s.db) := by
  refine MessageKeys.update (h.of_messages rfl (fun p hp => ?_)) (fun _ => rfl) (fun _ => rfl)
    (fun _ => rfl)
  exact h.pins p (mem_deletePin.mp hp).1

theorem hasMessage_of_storesPin (h : storesPin s.db channelId messageId auth = true) :
    s.db.hasMessage messageId = true := by
  rw [storesPin, Bool.and_eq_true] at h
  exact h.2

theorem keys_serveOne {t : AppState} {req : PinRequest} (h : MessageKeys s.db)
    (hstep : serveOne s req = some t) : MessageKeys t.db := by
  cases hstep
  cases req with
  | pin channelId messageId auth =>
    change MessageKeys ((pinMessage channelId messageId auth).exec s).2.db
    rw [pinMessage_db]
    split
    · rename_i hstores
      exact keys_pinRow h (hasMessage_of_storesPin hstores)
    · exact h
  | unpin channelId messageId auth =>
    change MessageKeys ((unpinMessage channelId messageId auth).exec s).2.db
    rw [unpinMessage_db]
    split
    · exact keys_unpinRow h
    · exact h
  | delete channelId messageId auth reply =>
    exact ((deleteMessage_keeps quiet_keys (fun _ ids h => h.delete ids) reply).exec h).1
  | bulkDelete channelId auth messages =>
    exact ((bulkDeleteMessages_keeps quiet_keys (fun _ ids h => h.delete ids) messages).exec h).1

theorem pinned_serveOne_iff {t : AppState} {req : PinRequest} (hkeys : MessageKeys s.db)
    (h : Pinned s.db) (hstep : serveOne s req = some t) :
    Pinned t.db ↔ req.ownChannel s = true := by
  cases hstep
  cases req with
  | pin channelId messageId auth =>
    change Pinned ((pinMessage channelId messageId auth).exec s).2.db ↔ _
    rw [pinMessage_db, PinRequest.ownChannel]
    cases storesPin s.db channelId messageId auth with
    | false => simpa using h
    | true => simpa using pinned_pinRow_iff h
  | unpin channelId messageId auth =>
    change Pinned ((unpinMessage channelId messageId auth).exec s).2.db ↔ _
    rw [unpinMessage_db, PinRequest.ownChannel]
    cases admitted s.db channelId auth with
    | false => simpa using h
    | true => simpa using pinned_unpinRow_iff hkeys h
  | delete channelId messageId auth reply =>
    have hkept : Pinned ((deleteMessage channelId messageId auth reply).exec s).2.db :=
      ((deleteMessage_keeps quiet_pinned (fun _ ids h => h.delete ids) reply).exec h).1
    exact iff_of_true hkept rfl
  | bulkDelete channelId auth messages =>
    have hkept : Pinned ((bulkDeleteMessages channelId auth messages).exec s).2.db :=
      ((bulkDeleteMessages_keeps quiet_pinned (fun _ ids h => h.delete ids) messages).exec h).1
    exact iff_of_true hkept rfl

theorem unpinned_delete {messages : List String} (h : s.db.pinnedMessages = []) :
    ((bulkDeleteMessages channelId auth messages).exec s).2.db.pinnedMessages = [] :=
  ((bulkDeleteMessages_keeps quiet_unpinned (fun _ ids h => deleteMessages_pins h ids)
    messages).exec h).1

theorem ownChannel_of_unpinned {req : PinRequest} (hempty : s.db.pinnedMessages = [])
    (h : req.unpinned s = true) : req.ownChannel s = true := by
  cases req with
  | pin channelId messageId auth =>
    rw [PinRequest.unpinned] at h
    rw [PinRequest.ownChannel, h]
    rfl
  | unpin channelId messageId auth =>
    rw [PinRequest.ownChannel, pinnedElsewhere, hempty]
    simp
  | delete channelId messageId auth reply => rfl
  | bulkDelete channelId auth messages => rfl

theorem emptied_iff {t : AppState} {req : PinRequest} (hempty : s.db.pinnedMessages = [])
    (hstep : serveOne s req = some t) : t.db.pinnedMessages = [] ↔ req.unpinned s = true := by
  cases hstep
  cases req with
  | pin channelId messageId auth =>
    change ((pinMessage channelId messageId auth).exec s).2.db.pinnedMessages = [] ↔ _
    rw [pinMessage_db, PinRequest.unpinned]
    cases storesPin s.db channelId messageId auth with
    | false => simpa using hempty
    | true =>
      have hstored : ⟨channelId, messageId⟩ ∈ (pinRow channelId messageId s.db).pinnedMessages :=
        mem_insertPin.mpr (.inr rfl)
      simpa using List.ne_nil_of_mem hstored
  | unpin channelId messageId auth =>
    change ((unpinMessage channelId messageId auth).exec s).2.db.pinnedMessages = [] ↔ _
    rw [unpinMessage_db]
    refine iff_of_true ?_ rfl
    split
    · change Lib.Table.delete pinKey (channelId, messageId) s.db.pinnedMessages = []
      rw [hempty]
      rfl
    · exact hempty
  | delete channelId messageId auth reply =>
    have hkept : ((deleteMessage channelId messageId auth reply).exec s).2.db.pinnedMessages = [] :=
      ((deleteMessage_keeps quiet_unpinned (fun _ ids h => deleteMessages_pins h ids)
        reply).exec hempty).1
    exact iff_of_true hkept rfl
  | bulkDelete channelId auth messages => exact iff_of_true (unpinned_delete hempty) rfl

end

theorem pins_hold_iff {s : AppState} (hkeys : MessageKeys s.db) (hstart : Pinned s.db)
    (hempty : s.db.pinnedMessages = []) (reqs : List PinRequest) :
    (Lib.Always serveOne (fun s => Pinned s.db ∧ Listed s.db) s reqs ↔
      Lib.meets serveOne (fun s req => req.unpinned s) s reqs = true) ∧
    (Lib.Always serveOne (fun s => Pinned s.db) s reqs ↔
      Lib.meets serveOne (fun s req => req.ownChannel s) s reqs = true) := by
  have hkeep : ∀ s req t, MessageKeys s.db → serveOne s req = some t → MessageKeys t.db :=
    fun s req t h hstep => keys_serveOne h hstep
  have hrun : Lib.runFrom serveOne s reqs = some (reqs.foldl afterRequest s) :=
    Lib.runFrom_total afterRequest s reqs
  constructor
  · refine Lib.always_iff_meets hkeep ?_ hkeys ⟨hstart, (listed_iff hkeys).mpr hempty⟩ hrun
    rintro s req t hkeys ⟨hpinned, hlisted⟩ hstep
    have hnone := (listed_iff hkeys).mp hlisted
    rw [listed_iff (keys_serveOne hkeys hstep), emptied_iff hnone hstep,
      pinned_serveOne_iff hkeys hpinned hstep]
    exact and_iff_right_of_imp (ownChannel_of_unpinned hnone)
  · exact Lib.always_iff_meets hkeep
      (fun s req t hkeys hpinned hstep => pinned_serveOne_iff hkeys hpinned hstep) hkeys hstart hrun

def corkboard : AppState :=
  { db := { users := [{ id := "1", username := "ann" }]
            spaces := [{ id := "10", name := "garden", ownerId := "1" }]
            channels := [{ id := "30", spaceId := some "10" }, { id := "31", spaceId := some "10" }]
            messages := [{ id := "40", channelId := "30", spaceId := some "10", authorId := "1",
                           content := "rules" }] }
    ext := .fixed ""
    snowflake := 50 }

def keeper : AuthUser := { userId := "1", isAdmin := true }

def after (reqs : List PinRequest) : AppState := reqs.foldl afterRequest corkboard

theorem corkboard_keys : MessageKeys corkboard.db := by
  refine ⟨List.pairwise_singleton _ _, ?_, ?_, fun p hp => absurd hp List.not_mem_nil⟩
  · intro m hm r hr
    cases List.mem_singleton.mp hm
    cases hr
  · intro m hm t ht
    cases List.mem_singleton.mp hm
    cases ht

theorem corkboard_pinned : Pinned corkboard.db := by
  refine ⟨fun p hp => absurd hp List.not_mem_nil, fun m hm => ?_⟩
  cases List.mem_singleton.mp hm
  constructor
  · intro h
    cases h
  · rintro ⟨p, hp, -⟩
    cases hp

def tidied : List PinRequest :=
  [.pin "30" "40" keeper, .unpin "30" "40" keeper, .pin "30" "40" keeper,
    .delete "30" "40" keeper (.error .rowNotFound)]

theorem tidied_pinned : ¬ Lib.Always serveOne (fun s => Pinned s.db ∧ Listed s.db) corkboard tidied ∧
    Lib.Always serveOne (fun s => Pinned s.db) corkboard tidied := by
  obtain ⟨hwhole, hrows⟩ := pins_hold_iff corkboard_keys corkboard_pinned rfl tidied
  have hfails : Lib.meets serveOne (fun s req => req.unpinned s) corkboard tidied = false := by
    decide +kernel
  have hmeets : Lib.meets serveOne (fun s req => req.ownChannel s) corkboard tidied = true := by
    decide +kernel
  refine ⟨fun h => ?_, hrows.mpr hmeets⟩
  rw [hwhole, hfails] at h
  cases h

theorem foreign_pin_kept :
    ¬ Pinned (after [.pin "31" "40" keeper]).db ∧
      ¬ Pinned (after [.pin "30" "40" keeper, .unpin "31" "40" keeper]).db ∧
      ¬ Listed (after [.pin "30" "40" keeper]).db := by
  refine ⟨fun h => ?_, fun h => ?_, fun h => ?_⟩
  · obtain ⟨m, hm, -, hchannel⟩ := h.placed ⟨"31", "40"⟩ (by decide +kernel)
    have hnone : ∀ m ∈ (after [.pin "31" "40" keeper]).db.messages, m.channelId ≠ "31" := by
      decide +kernel
    exact hnone m hm hchannel
  · have hmem : ∃ m ∈ (after [.pin "30" "40" keeper, .unpin "31" "40" keeper]).db.messages,
        m.id = "40" ∧ m.pinned = false := by
      decide +kernel
    obtain ⟨m, hm, hid, hflag⟩ := hmem
    have hset := (h.flagged m hm).mpr ⟨⟨"30", "40"⟩, by decide +kernel, hid.symm⟩
    rw [hflag] at hset
    cases hset
  · obtain ⟨rows, hrows, -⟩ := h "30"
    have hpanic : Db.Messages.listPinnedMessages "30" (after [.pin "30" "40" keeper]).db =
        .error (Db.Messages.columnPanic "title") := by
      decide +kernel
    rw [hpanic] at hrows
    cases hrows

end Vokusz.Routes.Messages
