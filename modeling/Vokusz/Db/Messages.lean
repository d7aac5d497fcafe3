import Vokusz.Db.Channels
import Vokusz.Mentions

namespace Vokusz.Db

open Lib

namespace Tables

def hasMessage (db : Tables) (id : String) : Bool := Table.has MessageRow.id id db.messages

def repliesTo (rows : List MessageRow) (ids : List String) : List String :=
  (rows.filter (fun m => m.threadId.any (fun t => ids.contains t) && !ids.contains m.id)).map
    MessageRow.id

def threadClosure (rows : List MessageRow) : Nat → List String → List String
  | 0, ids => ids
  | n + 1, ids => threadClosure rows n (ids ++ repliesTo rows ids)

-- `thread_id` is declared ON DELETE CASCADE, so whole reply trees go with their root.
def deletedWith (db : Tables) (ids : List String) : List String :=
  threadClosure db.messages db.messages.length (ids.filter db.hasMessage)

def unlinkReply (gone : List String) (m : MessageRow) : MessageRow :=
  if m.replyTo.any (fun r => gone.contains r) then { m with replyTo := none } else m

-- The trigger `queue_attachment_deletion`, which cascading deletes fire too.
def queueDeletions (rows : List AttachmentRow) (queue : List String) : List String :=
  (rows.map AttachmentRow.url).foldl (fun queue url => Table.insertNew id url queue) queue

def removeMessages (gone : List String) (db : Tables) : Tables :=
  { db with
    messages := (db.messages.filter (fun m => !gone.contains m.id)).map (unlinkReply gone)
    reactions := db.reactions.filter (fun r => !gone.contains r.messageId)
    attachments := db.attachments.filter (fun a => !gone.contains a.messageId)
    attachmentDeletions := queueDeletions
      (db.attachments.filter (fun a => gone.contains a.messageId)) db.attachmentDeletions
    pinnedMessages := db.pinnedMessages.filter (fun p => !gone.contains p.messageId) }

def deleteMessages (db : Tables) (ids : List String) : Tables :=
  removeMessages (db.deletedWith ids) db

def updateMessage (id : String) (f : MessageRow → MessageRow) (db : Tables) : Tables :=
  { db with messages := Table.update MessageRow.id id f db.messages }

def setLastMessage (channelId messageId : String) (db : Tables) : Tables :=
  { db with
    channels := Table.update ChannelRow.id channelId
      (fun c => { c with lastMessageId := some messageId }) db.channels }

end Tables

namespace Tables

section

variable {rows : List MessageRow} {ids : List String}

theorem subset_threadClosure (n : Nat) : ∀ id ∈ ids, id ∈ threadClosure rows n ids := by
  induction n generalizing ids with
  | zero => exact fun _ h => h
  | succ n ih => exact fun id h => ih id (List.mem_append_left _ h)

theorem mem_repliesTo {id : String} (h : id ∈ repliesTo rows ids) :
    ∃ r ∈ rows, r.id = id ∧ ∃ t, r.threadId = some t ∧ t ∈ ids := by
  simp only [repliesTo, List.mem_map, List.mem_filter, Bool.and_eq_true] at h
  obtain ⟨r, ⟨hr, hthread, _⟩, hid⟩ := h
  cases ht : r.threadId with
  | none => simp [ht] at hthread
  | some t => exact ⟨r, hr, hid, t, ht, by simpa [ht] using hthread⟩

theorem mem_threadClosure {n : Nat} {id : String} (h : id ∈ threadClosure rows n ids) :
    id ∈ ids ∨
      ∃ r ∈ rows, r.id = id ∧ ∃ t, r.threadId = some t ∧ t ∈ threadClosure rows n ids := by
  induction n generalizing ids with
  | zero => exact .inl h
  | succ n ih =>
    rcases ih h with hmem | hreply
    · rcases List.mem_append.mp hmem with hroot | hnew
      · exact .inl hroot
      · obtain ⟨r, hr, hid, t, ht, hroot⟩ := mem_repliesTo hnew
        exact .inr ⟨r, hr, hid, t, ht, subset_threadClosure n t (List.mem_append_left _ hroot)⟩
    · exact .inr hreply

theorem mem_deletedWith {db : Tables} {id : String} (h : id ∈ db.deletedWith ids) :
    id ∈ ids ∨
      ∃ r ∈ db.messages, r.id = id ∧ ∃ t, r.threadId = some t ∧ t ∈ db.deletedWith ids := by
  rcases mem_threadClosure h with hroot | hreply
  · exact .inl (List.mem_filter.mp hroot).1
  · exact .inr hreply

@[simp] theorem unlinkReply_id (gone : List String) (m : MessageRow) :
    (unlinkReply gone m).id = m.id := by
  unfold unlinkReply
  split <;> rfl

theorem deleteMessages_messages (db : Tables) :
    (db.deleteMessages ids).messages =
      (db.messages.filter (fun m => !(db.deletedWith ids).contains m.id)).map
        (unlinkReply (db.deletedWith ids)) := rfl

theorem hasMessage_deleteMessages {db : Tables} {id : String} :
    (db.deleteMessages ids).hasMessage id =
      (db.hasMessage id && !(db.deletedWith ids).contains id) := by
  rw [Bool.eq_iff_iff]
  simp only [hasMessage, deleteMessages_messages, Table.has_iff, List.mem_map, List.mem_filter,
    Bool.and_eq_true]
  constructor
  · rintro ⟨r, ⟨m, ⟨hm, hkept⟩, rfl⟩, rfl⟩
    exact ⟨⟨m, hm, by simp⟩, by simpa using hkept⟩
  · rintro ⟨⟨m, hm, rfl⟩, hkept⟩
    exact ⟨unlinkReply _ m, ⟨m, ⟨hm, hkept⟩, rfl⟩, by simp⟩

theorem lookup_map_unlinkReply (gone : List String) (id : String) (rows : List MessageRow) :
    Table.lookup MessageRow.id id (rows.map (unlinkReply gone)) =
      (Table.lookup MessageRow.id id rows).map (unlinkReply gone) := by
  induction rows with
  | nil => rfl
  | cons m rows ih =>
    simp only [List.map_cons, Table.lookup_cons, unlinkReply_id, ih]
    split <;> rfl

theorem lookup_deleteMessages {db : Tables} {id : String} {m : MessageRow}
    (hm : Table.lookup MessageRow.id id db.messages = some m) (hkept : id ∉ db.deletedWith ids) :
    Table.lookup MessageRow.id id (db.deleteMessages ids).messages =
      some (unlinkReply (db.deletedWith ids) m) := by
  rw [deleteMessages_messages, lookup_map_unlinkReply, Table.lookup_filter, hm]
  · rfl
  · rintro r _ rfl
    simpa using hkept

theorem distinct_deleteMessages {db : Tables} (h : Table.Distinct MessageRow.id db.messages) :
    Table.Distinct MessageRow.id (db.deleteMessages ids).messages := by
  rw [deleteMessages_messages, Table.Distinct, List.pairwise_map]
  simpa using h.filter _

end

end Tables

namespace Channels

def deleteChannel (channelId : String) : App Unit :=
  App.update (fun db =>
    let db := db.deleteMessages
      ((db.messages.filter (fun m => m.channelId = channelId)).map MessageRow.id)
    { db with
      channels := (Table.delete ChannelRow.id channelId db.channels).map (fun c =>
        if c.parentId = some channelId then { c with parentId := none } else c)
      dmParticipants := db.dmParticipants.filter (fun p => p.channelId ≠ channelId)
      permissionOverwrites := db.permissionOverwrites.filter (fun o => o.channelId ≠ channelId)
      pinnedMessages := db.pinnedMessages.filter (fun p => p.channelId ≠ channelId)
      messageCooldowns := db.messageCooldowns.filter (fun c => c.channelId ≠ channelId) })

end Channels

namespace Attachments

def ofMessage (db : Tables) (messageId : String) : List AttachmentRow :=
  db.attachments.filter (fun a => a.messageId = messageId &&
    !db.automodUploads.any (fun u => u.id = a.id && u.status ≠ "published"))

def getAttachmentsForMessage (messageId : String) : Query (List AttachmentRow) :=
  fun db => .ok (ofMessage db messageId)

def insertAttachment (a : AttachmentRow) : App Unit :=
  App.write
    (fun db =>
      if Table.has AttachmentRow.id a.id db.attachments then some AppError.uniqueViolation
      else App.foreignKey (db.hasMessage a.messageId))
    (fun db => { db with attachments := db.attachments ++ [a] })

end Attachments

namespace ReadStates

def readStateKey (r : ReadState) : String × String := (r.userId, r.channelId)

def incrementMentionCount (userId channelId : String) : App Unit :=
  App.write
    (fun db => App.foreignKey (db.hasUser userId && db.hasChannel channelId))
    (fun db =>
      { db with
        readStates := Table.upsert readStateKey
          { userId := userId, channelId := channelId, mentionCount := 1 }
          (fun r => { r with mentionCount := r.mentionCount + 1 }) db.readStates })

end ReadStates

namespace Messages

def getMessageRow (messageId : String) : Query MessageRow :=
  fun db =>
    match Table.lookup MessageRow.id messageId db.messages with
    | some m => .ok m
    | none => .error (.notFound "unknown_message")

theorem getMessageRow_ok {db : Tables} {id : String} {row : MessageRow} :
    getMessageRow id db = .ok row ↔ Table.lookup MessageRow.id id db.messages = some row := by
  unfold getMessageRow
  cases Table.lookup MessageRow.id id db.messages <;> simp

def feed (db : Tables) (channelId : String) (threadId : Option String) : List MessageRow :=
  Table.orderBy MessageRow.id
    (db.messages.filter (fun m => m.channelId = channelId && m.threadId = threadId))

def topLevelNewestFirst (db : Tables) (channelId : String) : List MessageRow :=
  (feed db channelId none).reverse

def newerThan (afterId : String) (rows : List MessageRow) : List MessageRow :=
  rows.filter (fun m => afterId < m.id)

def listMessages (channelId : String) (after : Option String) (limit : Nat)
    (threadId : Option String) : Query (List MessageRow) :=
  fun db =>
    .ok (match after, threadId with
      | some afterId, some tid =>
        (newerThan afterId (feed db channelId (some tid))).take (limit + 1)
      | none, some tid => (feed db channelId (some tid)).take (limit + 1)
      | some afterId, none => (newerThan afterId (feed db channelId none)).take (limit + 1)
      | none, none => (topLevelNewestFirst db channelId).take (limit + 1))

def referencesExist (db : Tables) (m : MessageRow) : Bool :=
  db.hasChannel m.channelId && db.hasUser m.authorId &&
    m.spaceId.all db.hasSpace &&
    m.replyTo.all (fun r => r = m.id || db.hasMessage r) &&
    m.threadId.all (fun t => t = m.id || db.hasMessage t)

structure CreateMessage where
  content : String
  tts : Option Bool := none
  embeds : Option Json := none
  replyTo : Option String := none
  threadId : Option String := none
  title : Option String := none
  deriving DecidableEq, Repr

def resolveMentionUserIds (db : Tables) (spaceId : String) (usernames : List String) :
    List String :=
  let names := usernames.map Federation.Mapping.toAsciiLowercase
  (db.members.filter (fun m => m.spaceId = spaceId)).flatMap (fun m =>
    (db.users.filter (fun u => u.id = m.userId &&
      names.contains (Federation.Mapping.toAsciiLowercase u.username))).map User.id)

def mentionedUsers (spaceId : Option String) (usernames : List String) : App (List String) := do
  match spaceId with
  | none => return []
  | some sid =>
    if usernames.isEmpty then return []
    else
      let ids ← App.found? (fun db => .ok (resolveMentionUserIds db sid usernames))
      return ids.getD []

def localRow (id channelId authorId : String) (spaceId : Option String) (input : CreateMessage)
    (mentions : List String) (createdAt : String) : MessageRow :=
  { id := id
    channelId := channelId
    spaceId := spaceId
    authorId := authorId
    content := input.content
    createdAt := createdAt
    tts := input.tts.getD false
    mentionEveryone := (Mentions.parseMentions input.content).everyone
    mentions := mentions
    embeds := input.embeds.getD (.arr [])
    replyTo := input.replyTo
    threadId := input.threadId
    title := input.title }

def cooldownKey (c : MessageCooldown) : String × String := (c.channelId, c.userId)

def cooldownRefusal (db : Tables) (channelId authorId : String) (cooldownMs now : Int) :
    Option Int :=
  match Table.lookup cooldownKey (channelId, authorId) db.messageCooldowns with
  | some c => if cooldownMs = 0 ∨ c.lastSentMs ≤ now - cooldownMs then none else some c.lastSentMs
  | none => none

def divCeil (n d : Nat) : Nat := (n + d - 1) / d

def storeMessage (row : MessageRow) (now : Int) (db : Tables) : Tables :=
  let db :=
    { db with
      messageCooldowns := Table.upsert cooldownKey
        { channelId := row.channelId, userId := row.authorId, lastSentMs := now }
        (fun c => { c with lastSentMs := now }) db.messageCooldowns
      messages := db.messages ++ [row] }
  if row.threadId.isNone then db.setLastMessage row.channelId row.id else db

def insertMessage (row : MessageRow) (cooldownMs now : Int) (db : Tables) :
    Except AppError Unit × Tables :=
  match cooldownRefusal db row.channelId row.authorId cooldownMs now with
  | some last =>
    (.error (.rateLimited (divCeil (max (last + cooldownMs - now) 1).toNat 1000)), db)
  | none =>
    if !referencesExist db row then (.error AppError.foreignKeyViolation, db)
    else if db.hasMessage row.id then (.error AppError.uniqueViolation, db)
    else (.ok (), storeMessage row now db)

theorem storeMessage_messages (row : MessageRow) (now : Int) (db : Tables) :
    (storeMessage row now db).messages = db.messages ++ [row] := by
  unfold storeMessage
  dsimp only
  split <;> rfl

theorem storeMessage_frame {γ : Type} {view : Tables → γ} (row : MessageRow) (now : Int)
    (db : Tables) (hview : ∀ cooldowns messages channels,
      view { db with
        messageCooldowns := cooldowns
        messages := messages
        channels := channels } = view db) : view (storeMessage row now db) = view db := by
  unfold storeMessage
  dsimp only
  split
  · exact hview _ _ _
  · exact hview _ _ db.channels

theorem storeMessage_channelIds (row : MessageRow) (now : Int) (db : Tables) :
    (storeMessage row now db).channels.map ChannelRow.id = db.channels.map ChannelRow.id := by
  unfold storeMessage
  dsimp only
  split
  · exact Table.map_key_update (fun _ _ => rfl)
  · rfl

theorem insertMessage_cases (row : MessageRow) (cooldownMs now : Int) (db : Tables) :
    (∃ e, insertMessage row cooldownMs now db = (.error e, db)) ∨
      (insertMessage row cooldownMs now db = (.ok (), storeMessage row now db) ∧
        referencesExist db row = true ∧ db.hasMessage row.id = false) := by
  unfold insertMessage
  cases cooldownRefusal db row.channelId row.authorId cooldownMs now with
  | some last => exact .inl ⟨_, rfl⟩
  | none =>
    cases hrefs : referencesExist db row with
    | false => exact .inl ⟨_, rfl⟩
    | true =>
      cases hid : db.hasMessage row.id with
      | true => exact .inl ⟨_, rfl⟩
      | false => exact .inr ⟨rfl, rfl, rfl⟩

theorem insertMessage_channelIds (row : MessageRow) (cooldownMs now : Int) (db : Tables) :
    (insertMessage row cooldownMs now db).2.channels.map ChannelRow.id =
      db.channels.map ChannelRow.id := by
  rcases insertMessage_cases row cooldownMs now db with ⟨e, he⟩ | ⟨hok, _⟩
  · rw [he]
  · rw [hok]
    exact storeMessage_channelIds row now db

def createMessage (channelId authorId : String) (spaceId : Option String) (input : CreateMessage)
    (cooldownMs : Int) : App MessageRow := do
  let id ← App.generateId
  let mentions ← mentionedUsers spaceId (Mentions.parseMentions input.content).usernames
  let now ← App.nowMillis
  let createdAt ← App.now
  App.execute (insertMessage (localRow id channelId authorId spaceId input mentions createdAt)
    (max cooldownMs 0) now)
  getMessageRow id

theorem preserves_mentionedUsers {γ : Type} {view : AppState → γ} (spaceId : Option String)
    (usernames : List String) : (mentionedUsers spaceId usernames).Preserves view := by
  cases spaceId with
  | none => exact Prog.preserves_pure _
  | some sid =>
    refine Prog.preserves_ite (Prog.preserves_pure _) ?_
    exact (App.preserves_found? _).bind (fun _ => Prog.preserves_pure _)

theorem preserves_createMessage {γ : Type} {view : AppState → γ} (channelId authorId : String)
    (spaceId : Option String) (input : CreateMessage) (cooldownMs : Int)
    (hrow : ∀ (s : AppState) row cooldownMs now,
      view (s.withDb (insertMessage row cooldownMs now s.db).2) = view s)
    (hid : ∀ (s : AppState) (n : Nat), view { s with snowflake := n } = view s) :
    (createMessage channelId authorId spaceId input cooldownMs).Preserves view := by
  refine (App.preserves_generateId hid).bind ?_
  intro id
  refine (preserves_mentionedUsers _ _).bind ?_
  intro mentions
  refine (Prog.preserves_get _).bind ?_
  intro now
  refine (Prog.preserves_get _).bind ?_
  intro createdAt
  refine (App.preserves_execute (fun s => hrow s _ _ _)).bind ?_
  intro _
  exact App.preserves_lift _

theorem createMessage_ok {channelId authorId : String} {spaceId : Option String}
    {input : CreateMessage} {cooldownMs : Int} {s s' : AppState} {msg : MessageRow}
    (h : (createMessage channelId authorId spaceId input cooldownMs).exec s = (.ok msg, s')) :
    ∃ id mentions createdAt,
      msg = localRow id channelId authorId spaceId input mentions createdAt ∧
        referencesExist s.db msg = true ∧ s'.db.messages = s.db.messages ++ [msg] := by
  obtain ⟨id, s₁, hid, h⟩ := Prog.exec_bind_ok.mp h
  obtain ⟨mentions, s₂, hmentions, h⟩ := Prog.exec_bind_ok.mp h
  obtain ⟨now, s₃, hnow, h⟩ := Prog.exec_bind_ok.mp h
  obtain ⟨createdAt, s₄, hcreated, h⟩ := Prog.exec_bind_ok.mp h
  obtain ⟨u, s₅, hinsert, h⟩ := Prog.exec_bind_ok.mp h
  have hdb : s₄.db = s.db := by
    have h₂ : s₂.db = s₁.db := (preserves_mentionedUsers spaceId _).of_exec hmentions
    cases hid
    cases hnow
    cases hcreated
    exact h₂
  refine ⟨id, mentions, createdAt, ?_⟩
  rw [App.exec_execute_ok] at hinsert
  obtain ⟨hok, rfl⟩ := hinsert
  rw [hdb] at hok h
  rcases insertMessage_cases (localRow id channelId authorId spaceId input mentions createdAt)
    (max cooldownMs 0) now s.db with ⟨e, he⟩ | ⟨hstored, hrefs, hfresh⟩
  · rw [he] at hok
    cases hok
  · rw [hstored] at h
    rw [App.exec_lift_ok] at h
    obtain ⟨hrow, rfl⟩ := h
    have hmessages := storeMessage_messages
      (localRow id channelId authorId spaceId input mentions createdAt) now s.db
    have hnew : msg = localRow id channelId authorId spaceId input mentions createdAt := by
      have hnone : Table.lookup MessageRow.id id s.db.messages = none :=
        Table.lookup_none_of_not_has hfresh
      simp only [getMessageRow, AppState.withDb_db, hmessages, Table.lookup_append, hnone] at hrow
      simpa [localRow] using hrow.symm
    rw [hnew]
    exact ⟨rfl, hrefs, hmessages⟩

section

variable {channelId authorId : String} {spaceId : Option String} {input : CreateMessage}
  {cooldownMs : Int} {s : AppState}

def mentionedIds (db : Tables) (spaceId : Option String) (usernames : List String) :
    List String :=
  match spaceId with
  | some sid => if usernames.isEmpty then [] else resolveMentionUserIds db sid usernames
  | none => []

theorem exec_mentionedIds (usernames : List String) :
    (mentionedUsers spaceId usernames).exec s =
      (.ok (mentionedIds s.db spaceId usernames), s) := by
  cases spaceId with
  | none => rfl
  | some sid =>
    unfold mentionedUsers mentionedIds
    dsimp only
    split
    · rfl
    · exact (Prog.exec_bind_of_ok (App.exec_found? _)).trans rfl

theorem exec_mentionedUsers (usernames : List String) :
    ∃ ids, (mentionedUsers spaceId usernames).exec s = (.ok ids, s) :=
  ⟨_, exec_mentionedIds usernames⟩

def Insertable (db : Tables) (row : MessageRow) (cooldownMs now : Int) : Prop :=
  cooldownRefusal db row.channelId row.authorId cooldownMs now = none ∧
    referencesExist db row = true ∧ db.hasMessage row.id = false

instance (db : Tables) (row : MessageRow) (cooldownMs now : Int) :
    Decidable (Insertable db row cooldownMs now) :=
  inferInstanceAs (Decidable (_ ∧ _))

theorem insertMessage_of_insertable {row : MessageRow} {now : Int} {db : Tables}
    (h : Insertable db row cooldownMs now) :
    insertMessage row cooldownMs now db = (.ok (), storeMessage row now db) := by
  obtain ⟨hcooled, hrefs, hfree⟩ := h
  simp [insertMessage, hcooled, hrefs, hfree]

theorem insertable_of_insertMessage {row : MessageRow} {now : Int} {db db' : Tables}
    (h : insertMessage row cooldownMs now db = (.ok (), db')) :
    Insertable db row cooldownMs now ∧ db' = storeMessage row now db := by
  unfold insertMessage at h
  cases hcooled : cooldownRefusal db row.channelId row.authorId cooldownMs now with
  | some last => simp [hcooled] at h
  | none =>
    cases hrefs : referencesExist db row with
    | false => simp [hcooled, hrefs] at h
    | true =>
      cases hfree : db.hasMessage row.id with
      | true => simp [hcooled, hrefs, hfree] at h
      | false =>
        simp only [hcooled, hrefs, hfree, Bool.not_true, Bool.false_eq_true, if_false,
          Prod.mk.injEq, true_and] at h
        exact ⟨⟨hcooled, hrefs, hfree⟩, h.symm⟩

def draft (s : AppState) (channelId authorId : String) (spaceId : Option String)
    (input : CreateMessage) : MessageRow :=
  localRow (toString s.snowflake) channelId authorId spaceId input [] ""

def posted (s : AppState) (channelId authorId : String) (spaceId : Option String)
    (input : CreateMessage) : MessageRow :=
  localRow (toString s.snowflake) channelId authorId spaceId input
    (mentionedIds s.db spaceId (Mentions.parseMentions input.content).usernames) s.now

theorem exec_createMessage
    (h : Insertable s.db (posted s channelId authorId spaceId input) (max cooldownMs 0) s.clock) :
    (createMessage channelId authorId spaceId input cooldownMs).exec s =
      (.ok (posted s channelId authorId spaceId input),
        { s with
          snowflake := s.snowflake + 1
          db := storeMessage (posted s channelId authorId spaceId input) s.clock s.db }) := by
  have hmentions := @exec_mentionedIds spaceId { s with snowflake := s.snowflake + 1 }
    (Mentions.parseMentions input.content).usernames
  let row := posted s channelId authorId spaceId input
  let stored := { s with snowflake := s.snowflake + 1, db := storeMessage row s.clock s.db }
  have hstored : insertMessage row (max cooldownMs 0) s.clock s.db = (.ok (), stored.db) :=
    insertMessage_of_insertable h
  have hwrite : (App.execute (insertMessage row (max cooldownMs 0) s.clock)).exec
      { s with snowflake := s.snowflake + 1 } = (.ok (), stored) :=
    App.exec_execute_ok.mpr ⟨congrArg Prod.fst hstored, by rw [hstored]; rfl⟩
  have hread : getMessageRow (toString s.snowflake) stored.db = .ok row := by
    rw [getMessageRow_ok]
    have hfree : Table.lookup MessageRow.id row.id s.db.messages = none :=
      Table.lookup_none_of_not_has h.2.2
    change Table.lookup MessageRow.id row.id (storeMessage row s.clock s.db).messages = some row
    rw [storeMessage_messages, Table.lookup_append, hfree]
    simp
  rw [createMessage, Prog.exec_bind_of_ok App.exec_generateId, Prog.exec_bind_of_ok hmentions,
    Prog.exec_bind_of_ok App.exec_nowMillis, Prog.exec_bind_of_ok App.exec_now]
  refine (Prog.exec_bind_of_ok hwrite).trans ?_
  rw [App.exec_lift, hread]

theorem createMessage_of_insertable
    (h : Insertable s.db (draft s channelId authorId spaceId input) (max cooldownMs 0) s.clock) :
    ∃ row : MessageRow, row.id = toString s.snowflake ∧ row.channelId = channelId ∧
      row.authorId = authorId ∧ row.spaceId = spaceId ∧ row.threadId = input.threadId ∧
      (createMessage channelId authorId spaceId input cooldownMs).exec s =
        (.ok row, { s with snowflake := s.snowflake + 1, db := storeMessage row s.clock s.db }) :=
  ⟨posted s channelId authorId spaceId input, rfl, rfl, rfl, rfl, rfl, exec_createMessage h⟩

theorem createMessage_succeeds :
    (createMessage channelId authorId spaceId input cooldownMs).Succeeds s ↔
      Insertable s.db (draft s channelId authorId spaceId input) (max cooldownMs 0) s.clock := by
  constructor
  · rintro ⟨msg, t, h⟩
    obtain ⟨ids, hmentions⟩ := @exec_mentionedUsers spaceId
      { s with snowflake := s.snowflake + 1 } (Mentions.parseMentions input.content).usernames
    rw [createMessage, Prog.exec_bind_of_ok App.exec_generateId, Prog.exec_bind_of_ok hmentions,
      Prog.exec_bind_of_ok App.exec_nowMillis, Prog.exec_bind_of_ok App.exec_now] at h
    obtain ⟨_, u, hwrite, _⟩ := Prog.exec_bind_ok.mp h
    obtain ⟨hok, _⟩ := App.exec_execute_ok.mp hwrite
    exact (insertable_of_insertMessage (Prod.ext hok rfl)).1
  · intro h
    obtain ⟨row, _, _, _, _, _, hexec⟩ := createMessage_of_insertable h
    exact ⟨row, _, hexec⟩

theorem createMessage_refused
    (h : ¬ Insertable s.db (draft s channelId authorId spaceId input) (max cooldownMs 0) s.clock) :
    ((createMessage channelId authorId spaceId input cooldownMs).exec s).2.db = s.db := by
  obtain ⟨ids, hmentions⟩ := @exec_mentionedUsers spaceId { s with snowflake := s.snowflake + 1 }
    (Mentions.parseMentions input.content).usernames
  rw [createMessage, Prog.exec_bind_of_ok App.exec_generateId, Prog.exec_bind_of_ok hmentions,
    Prog.exec_bind_of_ok App.exec_nowMillis, Prog.exec_bind_of_ok App.exec_now]
  rcases Prog.exec_bind_cases (App.execute (insertMessage
      (localRow (toString s.snowflake) channelId authorId spaceId input ids s.now)
      (max cooldownMs 0) s.clock)) (fun _ => (getMessageRow (toString s.snowflake) : App MessageRow))
    { s with snowflake := s.snowflake + 1 } with ⟨e, t, hwrite, hexec⟩ | ⟨u, t, hwrite, _⟩
  · refine (congrArg (fun r => r.2.db) hexec).trans ?_
    rw [App.exec_execute] at hwrite
    rcases insertMessage_cases (localRow (toString s.snowflake) channelId authorId spaceId input ids
      s.now) (max cooldownMs 0) s.clock s.db with ⟨e', he⟩ | ⟨hok, _⟩
    · rw [he] at hwrite
      cases hwrite
      rfl
    · rw [hok] at hwrite
      cases hwrite
  · obtain ⟨hok, _⟩ := App.exec_execute_ok.mp hwrite
    exact absurd (insertable_of_insertMessage (Prod.ext hok rfl)).1 h

end

structure RemoteMessageInsert where
  id : String
  channelId : String
  spaceId : Option String
  authorId : String
  content : String
  createdAt : String
  mentionEveryone : Bool
  mentions : List String
  embeds : Json
  replyTo : Option String
  origin : String
  deriving DecidableEq, Repr

def RemoteMessageInsert.row (msg : RemoteMessageInsert) : MessageRow :=
  { id := msg.id
    channelId := msg.channelId
    spaceId := msg.spaceId
    authorId := msg.authorId
    content := msg.content
    createdAt := msg.createdAt
    mentionEveryone := msg.mentionEveryone
    mentions := msg.mentions
    embeds := msg.embeds
    replyTo := msg.replyTo
    origin := some msg.origin }

def insertRemoteMessage (msg : RemoteMessageInsert) : App (Option MessageRow) := do
  let stored ← App.writeCounted
    (fun db => App.foreignKey (db.hasMessage msg.id || referencesExist db msg.row))
    (fun db => !db.hasMessage msg.id)
    (fun db => { db with messages := Table.insertNew MessageRow.id msg.row db.messages })
  if stored then
    App.update (Tables.setLastMessage msg.channelId msg.id)
    let row ← getMessageRow msg.id
    return some row
  else return none

def storable (db : Tables) (msg : RemoteMessageInsert) : Bool :=
  !db.hasMessage msg.id && referencesExist db msg.row

theorem insertRemoteMessage_of_storable {msg : RemoteMessageInsert} {s : AppState}
    (h : storable s.db msg = true) :
    ∃ t, (insertRemoteMessage msg).exec s = (.ok (some msg.row), t) := by
  simp only [storable, Bool.and_eq_true, Bool.not_eq_true'] at h
  obtain ⟨hfresh, hrefs⟩ := h
  have hnone : Table.lookup MessageRow.id msg.id s.db.messages = none :=
    Table.lookup_none_of_not_has hfresh
  have hnew : Table.insertNew MessageRow.id msg.row s.db.messages = s.db.messages ++ [msg.row] := by
    have hkey : Table.has MessageRow.id msg.row.id s.db.messages = false := hfresh
    simp [Table.insertNew, hkey]
  have hread : getMessageRow msg.id
      (Tables.setLastMessage msg.channelId msg.id
        { s.db with messages := s.db.messages ++ [msg.row] }) = .ok msg.row := by
    have hid : msg.row.id = msg.id := rfl
    simp [getMessageRow, Tables.setLastMessage, Table.lookup_append, hnone, hid]
  unfold insertRemoteMessage
  simp only [Prog.exec_bind, App.exec_writeCounted, hfresh, hrefs, hnew, Bool.or_true,
    App.foreignKey, if_true, Bool.not_false, App.exec_update, AppState.withDb_db, App.exec_lift,
    hread]
  exact ⟨_, rfl⟩

theorem insertRemoteMessage_some {msg : RemoteMessageInsert} {s t : AppState} {row : MessageRow}
    (h : (insertRemoteMessage msg).exec s = (.ok (some row), t)) :
    storable s.db msg = true ∧ row = msg.row := by
  have hstorable : storable s.db msg = true := by
    obtain ⟨stored, s₁, hwrite, hrest⟩ := Prog.exec_bind_ok.mp h
    rw [App.exec_writeCounted] at hwrite
    cases hfresh : s.db.hasMessage msg.id with
    | true =>
      simp only [hfresh, Bool.true_or, App.foreignKey, if_true, Bool.not_true, Prod.mk.injEq,
        Except.ok.injEq] at hwrite
      rw [← hwrite.1] at hrest
      cases hrest
    | false =>
      cases hrefs : referencesExist s.db msg.row with
      | false => simp [hfresh, hrefs, App.foreignKey] at hwrite
      | true => simp [storable, hfresh, hrefs]
  obtain ⟨t', hexec⟩ := insertRemoteMessage_of_storable hstorable
  rw [hexec] at h
  cases h
  exact ⟨hstorable, rfl⟩

def fits (db : Tables) (msg : RemoteMessageInsert) : Bool :=
  !db.hasMessage msg.id && db.hasChannel msg.channelId && msg.spaceId.all db.hasSpace &&
    msg.replyTo.all (fun r => r = msg.id || db.hasMessage r)

theorem storable_of_author {db db' : Tables} {msg : RemoteMessageInsert}
    (hauthor : db'.hasUser msg.authorId = true) (hmessages : db'.messages = db.messages)
    (hchannels : db'.channels = db.channels) (hspaces : db'.spaces = db.spaces) :
    storable db' msg = fits db msg := by
  have hmessage : ∀ id, db'.hasMessage id = db.hasMessage id := by
    intro id
    rw [Tables.hasMessage, hmessages, Tables.hasMessage]
  have hchannel : ∀ id, db'.hasChannel id = db.hasChannel id := by
    intro id
    rw [Tables.hasChannel, hchannels, Tables.hasChannel]
  have hspace : db'.hasSpace = db.hasSpace := by
    funext id
    rw [Tables.hasSpace, hspaces, Tables.hasSpace]
  simp only [storable, fits, referencesExist, RemoteMessageInsert.row, hmessage, hchannel, hspace,
    hauthor, Option.all_none, Bool.and_true, Bool.and_assoc]
  rfl

structure UpdateMessage where
  content : Option String := none
  embeds : Option Json := none
  title : Option String := none
  deriving DecidableEq, Repr

def setContent (content now : String) (m : MessageRow) : MessageRow :=
  { m with content := content, editedAt := some now }

def setEmbeds (embeds : Json) (now : String) (m : MessageRow) : MessageRow :=
  { m with embeds := embeds, editedAt := some now }

def setTitle (title now : String) (m : MessageRow) : MessageRow :=
  { m with title := some title, editedAt := some now }

def assignColumn {α : Type} (value : Option α) (messageId : String)
    (set : α → MessageRow → MessageRow) : App Unit :=
  match value with
  | some v => App.update (Tables.updateMessage messageId (set v))
  | none => return ()

def updateMessage (messageId : String) (input : UpdateMessage) : App MessageRow := do
  let now ← App.now
  assignColumn input.content messageId (fun content => setContent content now)
  assignColumn input.embeds messageId (fun embeds => setEmbeds embeds now)
  assignColumn input.title messageId (fun title => setTitle title now)
  getMessageRow messageId

def deleteMessage (messageId : String) : App Unit :=
  App.update (fun db => db.deleteMessages [messageId])

def editRemoteMessage (messageId : String) (content editedAt : Option String) : App Unit := do
  assignColumn content messageId (fun content m => { m with content := content })
  assignColumn editedAt messageId (fun editedAt m => { m with editedAt := some editedAt })

section

variable {s : AppState} {messageId : String} {row : MessageRow}

def placed (row : MessageRow) :
    String × String × Option String × Option String × Option String :=
  (row.id, row.channelId, row.spaceId, row.replyTo, row.threadId)

theorem exec_assignColumn {α : Type} {value : Option α} {set : α → MessageRow → MessageRow}
    (hset : ∀ v m, placed (set v m) = placed m)
    (hrow : getMessageRow messageId s.db = .ok row) :
    ∃ t row', (assignColumn value messageId set).exec s = (.ok (), t) ∧
      getMessageRow messageId t.db = .ok row' ∧ placed row' = placed row := by
  cases value with
  | none => exact ⟨s, row, rfl, hrow, rfl⟩
  | some v =>
    refine ⟨_, set v row, App.exec_update _, ?_, hset v row⟩
    have hkey : ∀ m, MessageRow.id m = messageId → (set v m).id = messageId :=
      fun m hm => (congrArg Prod.fst (hset v m)).trans hm
    rw [getMessageRow_ok] at hrow ⊢
    rw [AppState.withDb_db, Tables.updateMessage, Table.lookup_update hkey, hrow]
    rfl

theorem exec_editRemoteMessage {content editedAt : Option String}
    (hrow : getMessageRow messageId s.db = .ok row) :
    ∃ t row', (editRemoteMessage messageId content editedAt).exec s = (.ok (), t) ∧
      getMessageRow messageId t.db = .ok row' ∧ placed row' = placed row := by
  obtain ⟨s₁, row₁, hcontent, hrow₁, hplaced₁⟩ :=
    @exec_assignColumn s messageId row String content
      (fun content m => { m with content := content }) (fun _ _ => rfl) hrow
  obtain ⟨s₂, row₂, hedited, hrow₂, hplaced₂⟩ :=
    @exec_assignColumn s₁ messageId row₁ String editedAt
      (fun editedAt m => { m with editedAt := some editedAt }) (fun _ _ => rfl) hrow₁
  exact ⟨s₂, row₂, (Prog.exec_bind_of_ok hcontent).trans hedited, hrow₂, hplaced₂.trans hplaced₁⟩

end

def reactionKey (r : ReactionRow) : String × String × String :=
  (r.messageId, r.userId, r.emojiName)

def addReaction (messageId userId emoji : String) : App Unit :=
  App.write
    (fun db => App.foreignKey (db.hasMessage messageId && db.hasUser userId))
    (fun db =>
      { db with
        reactions := Table.insertNew reactionKey
          { messageId := messageId, userId := userId, emojiName := emoji } db.reactions })

def removeReaction (messageId userId emoji : String) : App Unit :=
  App.update (fun db =>
    { db with
      reactions := db.reactions.filter (fun r =>
        !(r.messageId = messageId && r.userId = userId && r.emojiName = emoji)) })

def changeReaction (add : Bool) (messageId userId emoji : String) : App Unit :=
  if add then addReaction messageId userId emoji else removeReaction messageId userId emoji

theorem exec_changeReaction {s : AppState} {messageId userId : String} (add : Bool)
    (emoji : String) (hmessage : s.db.hasMessage messageId = true)
    (huser : s.db.hasUser userId = true) :
    ∃ t, (changeReaction add messageId userId emoji).exec s = (.ok (), t) := by
  cases add with
  | true =>
    simp only [changeReaction, if_true, addReaction]
    exact ⟨_, App.exec_write_of_none (by simp [App.foreignKey, hmessage, huser])⟩
  | false =>
    simp only [changeReaction, Bool.false_eq_true, if_false, removeReaction]
    exact ⟨_, App.exec_update _⟩

def pinKey (p : PinnedMessage) : String × String := (p.channelId, p.messageId)

def pinMessage (channelId messageId : String) : App Unit := do
  App.write
    (fun db => App.foreignKey (db.hasChannel channelId && db.hasMessage messageId))
    (fun db =>
      { db with
        pinnedMessages := Table.insertNew pinKey
          { channelId := channelId, messageId := messageId } db.pinnedMessages })
  App.update (Tables.updateMessage messageId (fun m => { m with pinned := true }))

def unpinMessage (channelId messageId : String) : App Unit := do
  App.update (fun db =>
    { db with
      pinnedMessages := Table.delete pinKey (channelId, messageId) db.pinnedMessages })
  App.update (Tables.updateMessage messageId (fun m => { m with pinned := false }))

def getThreadReplyCount (parentMessageId : String) : Query Nat :=
  fun db => .ok (db.messages.filter (fun m => m.threadId = some parentMessageId)).length

def bulkDeleteMessages (channelId : String) (messageIds : List String) : App Unit :=
  Prog.forEach messageIds (fun id =>
    App.update (fun db =>
      if db.messages.any (fun m => m.id = id && m.channelId = channelId) then
        db.deleteMessages [id]
      else db))

def listAuthorMessagesInSpaceSince (spaceId authorId cutoff : String) :
    Query (List (String × String)) :=
  fun db =>
    .ok ((Table.orderBy MessageRow.id
      (db.messages.filter (fun m =>
        m.spaceId = some spaceId && m.authorId = authorId && cutoff ≤ m.createdAt))).reverse.map
      (fun m => (m.id, m.channelId)))

end Messages

namespace Members

def channelsOf (db : Tables) (spaceId : String) : List String :=
  (db.channels.filter (fun c => c.spaceId = some spaceId)).map ChannelRow.id

def inChannels (db : Tables) (channelIds : List String) (messageId : String) : Bool :=
  db.messages.any (fun m => m.id = messageId && channelIds.contains m.channelId)

def authoredIn (db : Tables) (spaceId userId : String) : List String :=
  (db.messages.filter (fun m =>
    m.authorId = userId && (channelsOf db spaceId).contains m.channelId)).map MessageRow.id

def removeContent (spaceId userId : String) : App Unit := do
  App.update (fun db =>
    { db with
      reactions := db.reactions.filter (fun r =>
        !(r.userId = userId && inChannels db (channelsOf db spaceId) r.messageId)) })
  App.update (fun db => db.deleteMessages (authoredIn db spaceId userId))
  App.update (fun db =>
    { db with
      readStates := db.readStates.filter (fun r =>
        !(r.userId = userId && (channelsOf db spaceId).contains r.channelId)) })
  App.update (fun db =>
    { db with
      channelMutes := db.channelMutes.filter (fun r =>
        !(r.userId = userId && (channelsOf db spaceId).contains r.channelId)) })
  App.update (fun db =>
    { db with
      invites := db.invites.map (fun i =>
        if i.inviterId = some userId ∧ i.spaceId = spaceId then { i with inviterId := none }
        else i) })
  App.update (fun db =>
    { db with
      emojis := db.emojis.map (fun e =>
        if e.creatorId = some userId ∧ e.spaceId = spaceId then { e with creatorId := none }
        else e) })

def removeMemberAndData (spaceId userId : String) : App Unit := do
  removeContent spaceId userId
  removeMember spaceId userId

theorem total_removeContent (spaceId userId : String) : (removeContent spaceId userId).Total := by
  refine (App.total_update _).bind (fun _ => ?_)
  refine (App.total_update _).bind (fun _ => ?_)
  refine (App.total_update _).bind (fun _ => ?_)
  refine (App.total_update _).bind (fun _ => ?_)
  refine (App.total_update _).bind (fun _ => ?_)
  exact App.total_update _

section

variable {γ : Type} {view : AppState → γ} {spaceId userId : String}

theorem preserves_removeContent
    (hview : ∀ (s : AppState) db, db.members = s.db.members → db.spaces = s.db.spaces →
      db.federationOutbox = s.db.federationOutbox → view (s.withDb db) = view s) :
    (removeContent spaceId userId).Preserves view := by
  have hupdate : ∀ f : Tables → Tables, (∀ db, (f db).members = db.members) →
      (∀ db, (f db).spaces = db.spaces) →
      (∀ db, (f db).federationOutbox = db.federationOutbox) → (App.update f).Preserves view :=
    fun f hm hs ho => App.preserves_update (fun s => hview s _ (hm s.db) (hs s.db) (ho s.db))
  refine (hupdate _ ?_ ?_ ?_).bind (fun _ => ?_)
  any_goals exact fun _ => rfl
  refine (hupdate _ ?_ ?_ ?_).bind (fun _ => ?_)
  any_goals exact fun _ => rfl
  refine (hupdate _ ?_ ?_ ?_).bind (fun _ => ?_)
  any_goals exact fun _ => rfl
  refine (hupdate _ ?_ ?_ ?_).bind (fun _ => ?_)
  any_goals exact fun _ => rfl
  refine (hupdate _ ?_ ?_ ?_).bind (fun _ => ?_)
  any_goals exact fun _ => rfl
  exact hupdate _ (fun _ => rfl) (fun _ => rfl) (fun _ => rfl)

end

end Members

end Vokusz.Db
