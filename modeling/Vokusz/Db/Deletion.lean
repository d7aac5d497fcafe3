import Vokusz.Lib.Relational
import Vokusz.Lib.Transaction
import Vokusz.State

namespace Vokusz.Db.Deletion

open Lib

inductive TableName where
  | users
  | spaces
  | channels
  | messages
  | roles
  | members
  | memberRoles
  | permissionOverwrites
  | attachments
  | reactions
  | bans
  | invites
  | emojis
  | emojiRoles
  | applications
  | botTokens
  | userTokens
  | dmParticipants
  | pinnedMessages
  | soundboardSounds
  | backupCodes
  | channelMutes
  | reports
  | relationships
  | readStates
  | plugins
  | pluginSessions
  | pluginSessionParticipants
  | guestTokens
  | auditLog
  | spaceIntroductions
  | messageCooldowns
  | channelRoles
  | channelMemberRoles
  deriving DecidableEq, Repr

inductive Column where
  | id
  | userId
  | spaceId
  | channelId
  | messageId
  | authorId
  | replyTo
  | threadId
  | ownerId
  | parentId
  | roleId
  | bannedBy
  | inviterId
  | creatorId
  | emojiId
  | applicationId
  | botUserId
  | reporterId
  | actionedBy
  | targetUserId
  | pluginId
  | hostUserId
  | sessionId
  deriving DecidableEq, Repr

abbrev Rows := Database TableName Column String

def tables : List TableName :=
  [.users, .spaces, .channels, .messages, .roles, .members, .memberRoles, .permissionOverwrites,
    .attachments, .reactions, .bans, .invites, .emojis, .emojiRoles, .applications, .botTokens,
    .userTokens, .dmParticipants, .pinnedMessages, .soundboardSounds, .backupCodes, .channelMutes,
    .reports, .relationships, .readStates, .plugins, .pluginSessions, .pluginSessionParticipants,
    .guestTokens, .auditLog, .spaceIntroductions, .messageCooldowns, .channelRoles,
    .channelMemberRoles]

def references (child : TableName) (column : Column) (parent : TableName)
    (onDelete : OnDelete := .restrict) : ForeignKey TableName Column :=
  { child := child, columns := [column], parent := parent, keys := [.id], onDelete := onDelete }

def foreignKeys : List (ForeignKey TableName Column) :=
  [references .spaces .ownerId .users,
    references .channels .spaceId .spaces .cascade,
    references .channels .parentId .channels .setNull,
    references .channels .ownerId .users,
    references .messages .channelId .channels,
    references .messages .authorId .users,
    references .messages .spaceId .spaces .cascade,
    references .messages .replyTo .messages .setNull,
    references .messages .threadId .messages .cascade,
    references .roles .spaceId .spaces .cascade,
    references .members .userId .users,
    references .members .spaceId .spaces .cascade,
    references .memberRoles .roleId .roles .cascade,
    { child := .memberRoles, columns := [.userId, .spaceId]
      parent := .members, keys := [.userId, .spaceId], onDelete := .cascade },
    references .permissionOverwrites .channelId .channels .cascade,
    references .attachments .messageId .messages .cascade,
    references .reactions .messageId .messages .cascade,
    references .reactions .userId .users,
    references .bans .userId .users,
    references .bans .spaceId .spaces .cascade,
    references .bans .bannedBy .users,
    references .invites .spaceId .spaces .cascade,
    references .invites .channelId .channels .cascade,
    references .invites .inviterId .users,
    references .emojis .spaceId .spaces .cascade,
    references .emojis .creatorId .users,
    references .emojiRoles .emojiId .emojis .cascade,
    references .emojiRoles .roleId .roles .cascade,
    references .applications .ownerId .users,
    references .applications .botUserId .users,
    references .botTokens .applicationId .applications .cascade,
    references .botTokens .userId .users,
    references .userTokens .userId .users .cascade,
    references .dmParticipants .channelId .channels .cascade,
    references .dmParticipants .userId .users,
    references .pinnedMessages .channelId .channels .cascade,
    references .pinnedMessages .messageId .messages .cascade,
    references .soundboardSounds .spaceId .spaces .cascade,
    references .soundboardSounds .creatorId .users,
    references .backupCodes .userId .users .cascade,
    references .channelMutes .userId .users .cascade,
    references .channelMutes .channelId .channels .cascade,
    references .reports .spaceId .spaces .cascade,
    references .reports .reporterId .users,
    references .reports .actionedBy .users,
    references .relationships .userId .users .cascade,
    references .relationships .targetUserId .users .cascade,
    references .readStates .userId .users .cascade,
    references .readStates .channelId .channels .cascade,
    references .plugins .spaceId .spaces .cascade,
    references .plugins .creatorId .users,
    references .pluginSessions .pluginId .plugins .cascade,
    references .pluginSessions .channelId .channels .cascade,
    references .pluginSessions .hostUserId .users,
    references .pluginSessionParticipants .sessionId .pluginSessions .cascade,
    references .pluginSessionParticipants .userId .users,
    references .guestTokens .spaceId .spaces .cascade,
    references .auditLog .spaceId .spaces .cascade,
    references .auditLog .userId .users,
    references .spaceIntroductions .spaceId .spaces .cascade,
    references .spaceIntroductions .userId .users,
    references .messageCooldowns .channelId .channels .cascade,
    references .messageCooldowns .userId .users .cascade,
    references .channelRoles .channelId .channels .cascade,
    { child := .channelMemberRoles, columns := [.channelId, .roleId]
      parent := .channelRoles, keys := [.channelId, .id], onDelete := .cascade },
    { child := .channelMemberRoles, columns := [.userId, .spaceId]
      parent := .members, keys := [.userId, .spaceId], onDelete := .cascade }]

def nullable : List (TableName × Column) :=
  [(.channels, .spaceId), (.channels, .parentId), (.channels, .ownerId), (.messages, .spaceId),
    (.messages, .replyTo), (.messages, .threadId), (.bans, .bannedBy), (.invites, .channelId),
    (.invites, .inviterId), (.emojis, .creatorId), (.applications, .botUserId),
    (.soundboardSounds, .creatorId), (.reports, .spaceId), (.reports, .actionedBy)]

def required : List (TableName × Column) :=
  (foreignKeys.flatMap (fun fk => fk.columns.map (fun c => (fk.child, c)))).filter
    (fun place => !nullable.contains place)

inductive Statement where
  | deleteFrom (table : TableName) (column : Column)
  | setNull (table : TableName) (column : Column)
  deriving DecidableEq, Repr

def Statement.target : Statement → TableName × Column
  | .deleteFrom t c => (t, c)
  | .setNull t c => (t, c)

def Statement.run (userId : String) : Statement → Rows → Option Rows
  | .deleteFrom t c => Database.deleteWhere foreignKeys tables t (fun r => r c = some userId)
  | .setNull t c => Database.clearWhere required t c (fun r => r c = some userId)

def clearing : List Statement :=
  [.deleteFrom .pluginSessionParticipants .userId,
    .deleteFrom .pluginSessions .hostUserId,
    .deleteFrom .plugins .creatorId,
    .deleteFrom .reports .reporterId,
    .setNull .reports .actionedBy,
    .deleteFrom .auditLog .userId,
    .deleteFrom .userTokens .userId,
    .deleteFrom .botTokens .userId,
    .setNull .applications .botUserId,
    .deleteFrom .applications .ownerId,
    .deleteFrom .reactions .userId,
    .deleteFrom .dmParticipants .userId,
    .deleteFrom .memberRoles .userId,
    .deleteFrom .members .userId,
    .deleteFrom .bans .userId,
    .setNull .bans .bannedBy,
    .setNull .invites .inviterId,
    .setNull .emojis .creatorId,
    .setNull .soundboardSounds .creatorId,
    .setNull .channels .ownerId,
    .deleteFrom .messages .authorId]

def deleteRows (userId : String) (db : Rows) : Option Rows := do
  let cleared ← clearing.foldlM (fun db stmt => stmt.run userId db) db
  Statement.run userId (.deleteFrom .users .id) cleared

def ownedSpaces (userId : String) (db : Rows) : Nat :=
  ((db .spaces).filter (fun r => r .ownerId = some userId)).length

def deleteUser (userId : String) : Prog Rows AppError Unit := do
  let owned ← Prog.query App.databaseFault (fun db => .ok (ownedSpaces userId db))
  if 0 < owned then
    .fail (.badRequest "user owns spaces — transfer ownership before deleting")
  else
    Prog.statement App.databaseFault (fun db =>
      match deleteRows userId db with
      | some rest => (.ok (), rest)
      | none => (.error AppError.foreignKeyViolation, db))

def affected (t : TableName) : List TableName := Database.reach foreignKeys 4 [t]

def Statement.Harmless : Statement → Prop
  | .deleteFrom t _ => t ∈ affected t ∧ Database.Closed foreignKeys (affected t) ∧
      (∀ fk ∈ foreignKeys, fk.onDelete = .restrict → fk.parent ∉ affected t) ∧
      .spaceIntroductions ∉ affected t
  | .setNull t c => (t, c) ∉ required ∧ (∀ fk ∈ foreignKeys, fk.parent = t → c ∉ fk.keys) ∧
      .spaceIntroductions ≠ t

instance : (stmt : Statement) → Decidable stmt.Harmless
  | .deleteFrom t _ => inferInstanceAs (Decidable (t ∈ affected t ∧ _ ∧ _ ∧ _))
  | .setNull t c => inferInstanceAs (Decidable ((t, c) ∉ required ∧ _ ∧ _))

def Unreferenced (userId : String) (db : Rows) : Prop :=
  ∀ fk ∈ foreignKeys, fk.parent = .users → ∀ r ∈ db fk.child, valueAt fk.columns r ≠ some [userId]

theorem mem_tables (t : TableName) : t ∈ tables := by
  cases t <;> decide

theorem detachable : Database.Detachable foreignKeys := by
  decide +kernel

theorem clearing_harmless : ∀ stmt ∈ clearing, stmt.Harmless := by
  decide +kernel

theorem users_closed : Database.Closed foreignKeys (affected .users) := by
  decide +kernel

theorem users_affected : TableName.users ∈ affected .users ∧
    .spaceIntroductions ∉ affected .users := by
  decide +kernel

theorem users_uncascaded :
    ∀ fk ∈ foreignKeys, fk.onDelete = .cascade → fk.child ≠ .users := by
  decide +kernel

theorem introductions_attached :
    ∀ fk ∈ foreignKeys, fk.onDelete = .setNull → fk.child ≠ .spaceIntroductions := by
  decide +kernel

theorem users_references : ∀ fk ∈ foreignKeys, fk.onDelete = .restrict →
    fk.parent ∈ affected .users → fk.parent = .users ∧ fk.keys = [.id] ∧
      ∃ place ∈ (.spaces, .ownerId) :: (.spaceIntroductions, .userId) ::
        clearing.map Statement.target, fk.child = place.1 ∧ fk.columns = [place.2] := by
  decide +kernel

theorem users_keys : ∀ fk ∈ foreignKeys, fk.parent = .users → fk.keys = [.id] := by
  decide +kernel

variable {userId : String} {db db' : Rows} {stmt : Statement} {stmts : List Statement}

structure Cleared (userId : String) (db db' : Rows) : Prop where
  holds : Database.Holds foreignKeys db'
  shrinks : Database.Shrinks db db'
  introductions : db' .spaceIntroductions = db .spaceIntroductions

theorem Cleared.trans {db'' : Rows} (h : Cleared userId db db') (h' : Cleared userId db' db'') :
    Cleared userId db db'' :=
  ⟨h'.holds, h.shrinks.trans h'.shrinks, h'.introductions.trans h.introductions⟩

section

variable (hdb : Database.Holds foreignKeys db)

include hdb

theorem deleteFrom_clears {t : TableName} {c : Column} (h : (Statement.deleteFrom t c).Harmless) :
    ∃ db', (Statement.deleteFrom t c).run userId db = some db' ∧ Cleared userId db db' ∧
      Database.Free db' t c userId := by
  obtain ⟨hself, hclosed, hfree, houtside⟩ := h
  have hsucceeds : ∃ out, Database.deleteWhere foreignKeys tables t
      (fun r => r c = some userId) db = some out :=
    Database.deleteWhere_succeeds detachable hclosed hdb hself
      (fun fk hfk hrestrict hparent => absurd hparent (hfree fk hfk hrestrict))
  obtain ⟨db', hrun⟩ := hsucceeds
  refine ⟨db', hrun, ⟨?_, ?_, ?_⟩, Database.free_of_deleteWhere hrun⟩
  · exact Database.deleteWhere_holds detachable mem_tables hrun
  · exact Database.shrinks_remove.trans (Database.deleteWhere_shrinks hrun)
  · exact Database.deleteWhere_outside hclosed hdb hself houtside introductions_attached hrun

theorem setNull_clears {t : TableName} {c : Column} (h : (Statement.setNull t c).Harmless) :
    ∃ db', (Statement.setNull t c).run userId db = some db' ∧ Cleared userId db db' ∧
      Database.Free db' t c userId := by
  obtain ⟨hnullable, hkeys, hne⟩ := h
  have hsucceeds : ∃ out, Database.clearWhere required t c
      (fun r => r c = some userId) db = some out := Database.clearWhere_succeeds hnullable
  obtain ⟨db', hrun⟩ := hsucceeds
  refine ⟨db', hrun, ⟨?_, ?_, ?_⟩, Database.free_of_clearWhere hrun⟩
  · exact Database.clearWhere_holds hkeys hdb hrun
  · exact Database.clearWhere_shrinks hrun
  · exact Database.clearWhere_outside hne hrun

theorem run_clears (h : stmt.Harmless) :
    ∃ db', stmt.run userId db = some db' ∧ Cleared userId db db' ∧
      Database.Free db' stmt.target.1 stmt.target.2 userId := by
  cases stmt with
  | deleteFrom t c => exact deleteFrom_clears hdb h
  | setNull t c => exact setNull_clears hdb h

theorem foldlM_clears (h : ∀ stmt ∈ stmts, stmt.Harmless) :
    ∃ db', stmts.foldlM (fun db stmt => stmt.run userId db) db = some db' ∧
      Cleared userId db db' ∧
      ∀ stmt ∈ stmts, Database.Free db' stmt.target.1 stmt.target.2 userId := by
  induction stmts generalizing db with
  | nil => exact ⟨db, rfl, ⟨hdb, .refl db, rfl⟩, fun _ hmem => absurd hmem List.not_mem_nil⟩
  | cons stmt stmts ih =>
    obtain ⟨mid, hrun, hmid, hfirst⟩ := run_clears hdb (h stmt List.mem_cons_self)
    obtain ⟨db', hrest, hcleared, hfree⟩ :=
      ih hmid.holds (fun stmt hmem => h stmt (List.mem_cons_of_mem _ hmem))
    refine ⟨db', ?_, hmid.trans hcleared, ?_⟩
    · rw [List.foldlM_cons, hrun]
      exact hrest
    · intro other hmem
      rcases List.mem_cons.mp hmem with rfl | hmem
      · exact hfirst.shrinks hcleared.shrinks
      · exact hfree other hmem

end

theorem clearing_clears (userId : String) (hdb : Database.Holds foreignKeys db) :
    ∃ cleared, clearing.foldlM (fun db stmt => stmt.run userId db) db = some cleared ∧
      Cleared userId db cleared ∧
      ∀ stmt ∈ clearing, Database.Free cleared stmt.target.1 stmt.target.2 userId :=
  foldlM_clears hdb clearing_harmless

theorem deleteRows_eq {cleared : Rows}
    (h : clearing.foldlM (fun db stmt => stmt.run userId db) db = some cleared) :
    deleteRows userId db = Database.deleteWhere foreignKeys tables .users
      (fun r => r .id = some userId) cleared := by
  rw [deleteRows, h]
  simp only [Option.bind_eq_bind, Option.bind_some, Statement.run]

theorem refers_free {fk : ForeignKey TableName Column} {r q : Record Column String} {c : Column}
    (hcolumns : fk.columns = [c]) (hkeys : fk.keys = [.id]) (hfree : r c ≠ some userId)
    (hq : q .id = some userId) : fk.refers r q = false := by
  unfold ForeignKey.refers
  rw [hcolumns, hkeys, Database.valueAt_singleton, Database.valueAt_singleton, hq]
  cases hvalue : r c with
  | none => rfl
  | some b =>
    have hne : userId ≠ b := by
      rintro rfl
      exact hfree hvalue
    simp [hne]

theorem deleteRows_succeeds (hdb : Database.Holds foreignKeys db)
    (howned : Database.Free db .spaces .ownerId userId)
    (hintroductions : Database.Free db .spaceIntroductions .userId userId) :
    ∃ db', deleteRows userId db = some db' ∧ Database.Holds foreignKeys db' ∧
      Database.Free db' .users .id userId := by
  obtain ⟨cleared, hclear, hcleared, hfree⟩ := clearing_clears userId hdb
  have hunreferred : ∀ fk ∈ foreignKeys, fk.onDelete = .restrict →
      fk.parent ∈ affected .users → fk.parent = .users ∧
        (∀ fk' ∈ foreignKeys, fk'.onDelete = .cascade → fk'.child ≠ .users) ∧
        ∀ q ∈ cleared .users, decide (q .id = some userId) = true →
          ∀ r ∈ cleared fk.child, fk.refers r q = false := by
    intro fk hfk hrestrict hparent
    obtain ⟨husers, hkeys, place, hplace, hchild, hcolumns⟩ :=
      users_references fk hfk hrestrict hparent
    refine ⟨husers, users_uncascaded, fun q _ hgone r hr => ?_⟩
    have hplaceFree : Database.Free cleared place.1 place.2 userId := by
      rcases List.mem_cons.mp hplace with rfl | hplace
      · exact howned.shrinks hcleared.shrinks
      rcases List.mem_cons.mp hplace with rfl | hplace
      · exact hintroductions.shrinks hcleared.shrinks
      obtain ⟨stmt, hstmt, rfl⟩ := List.mem_map.mp hplace
      exact hfree stmt hstmt
    rw [hchild] at hr
    exact refers_free hcolumns hkeys (hplaceFree r hr) (of_decide_eq_true hgone)
  have hsucceeds : ∃ out, Database.deleteWhere foreignKeys tables .users
      (fun r => r .id = some userId) cleared = some out :=
    Database.deleteWhere_succeeds detachable users_closed hcleared.holds users_affected.1
      hunreferred
  obtain ⟨db', hdelete⟩ := hsucceeds
  refine ⟨db', ?_, ?_, Database.free_of_deleteWhere hdelete⟩
  · exact (deleteRows_eq hclear).trans hdelete
  · exact Database.deleteWhere_holds detachable mem_tables hdelete

theorem deleteRows_refused (hdb : Database.Holds foreignKeys db) {r : Record Column String}
    (hr : r ∈ db .spaceIntroductions) (huser : r .userId = some userId) :
    deleteRows userId db = none := by
  obtain ⟨cleared, hclear, hcleared, -⟩ := clearing_clears userId hdb
  have hthere : r ∈ cleared .spaceIntroductions := by
    rw [hcleared.introductions]
    exact hr
  have hvalue : valueAt [Column.userId] r = some [userId] := by
    rw [Database.valueAt_singleton, huser]
    rfl
  have hkey : references .spaceIntroductions .userId .users ∈ foreignKeys := by
    decide
  have hgone : ∀ q ∈ cleared .users, valueAt [Column.id] q = valueAt [Column.userId] r →
      decide (q .id = some userId) = true := by
    intro q _ hq
    rw [hvalue, Database.valueAt_singleton] at hq
    cases hid : q .id with
    | none =>
      rw [hid] at hq
      cases hq
    | some b =>
      rw [hid] at hq
      cases hq
      simp
  have hsome : (valueAt [Column.userId] r).isSome = true := by
    rw [hvalue]
    rfl
  have hrefused : Database.deleteWhere foreignKeys tables .users
      (fun r => r .id = some userId) cleared = none :=
    Database.deleteWhere_refused detachable users_closed hcleared.holds users_affected.1 hkey rfl
      rfl users_affected.2 introductions_attached hthere hsome hgone
  exact (deleteRows_eq hclear).trans hrefused

theorem unreferenced (hdb : Database.Holds foreignKeys db)
    (hgone : Database.Free db .users .id userId) : Unreferenced userId db := by
  intro fk hfk hparent r hr hvalue
  have hsome : (valueAt fk.columns r).isSome = true := by
    rw [hvalue]
    rfl
  obtain ⟨q, hq, hkey⟩ := Database.dangling_eq_false.mp (hdb fk hfk r hr) hsome
  rw [hparent] at hq
  rw [users_keys fk hfk hparent, Database.valueAt_singleton, hvalue] at hkey
  cases hid : q .id with
  | none =>
    rw [hid] at hkey
    cases hkey
  | some b =>
    rw [hid] at hkey
    cases hkey
    exact hgone q hq hid

theorem ownedSpaces_eq_zero :
    ownedSpaces userId db = 0 ↔ Database.Free db .spaces .ownerId userId := by
  simp [ownedSpaces, Database.Free]

theorem deleteUser_exec (howned : Database.Free db .spaces .ownerId userId) :
    (deleteUser userId).exec db = match deleteRows userId db with
      | some rest => (.ok (), rest)
      | none => (.error AppError.foreignKeyViolation, db) := by
  have hzero := ownedSpaces_eq_zero.mpr howned
  simp only [deleteUser, Prog.exec_bind, Prog.exec_query, hzero]
  cases hrows : deleteRows userId db with
  | none => simp [hrows]
  | some rest => simp [hrows]

theorem deletion_complete_iff (hdb : Database.Holds foreignKeys db)
    (howned : Database.Free db .spaces .ownerId userId) :
    ((∃ db', (deleteUser userId).exec db = (.ok (), db') ∧ Unreferenced userId db') ∧
      ∀ e db', (deleteUser userId).Ends db (.error e) db' → db' = db) ↔
      Database.Free db .spaceIntroductions .userId userId := by
  constructor
  · rintro ⟨⟨db', hexec, -⟩, -⟩ r hr huser
    rw [deleteUser_exec howned, deleteRows_refused hdb hr huser] at hexec
    cases hexec
  · intro hintroductions
    obtain ⟨db', hrows, hholds, hgone⟩ := deleteRows_succeeds hdb howned hintroductions
    refine ⟨⟨db', ?_, unreferenced hholds hgone⟩, fun e db' => Prog.Ends.error⟩
    rw [deleteUser_exec howned, hrows]

def record (values : List (Column × String)) : Record Column String := fun c => values.lookup c

def visited : Rows
  | .users => [record [(.id, "1")], record [(.id, "2")]]
  | .spaces => [record [(.id, "10"), (.ownerId, "1")]]
  | .channels => [record [(.id, "20"), (.spaceId, "10")]]
  | .members => [record [(.userId, "2"), (.spaceId, "10")]]
  | .messages => [record [(.id, "30"), (.channelId, "20"), (.spaceId, "10"), (.authorId, "2")]]
  | .reactions => [record [(.messageId, "30"), (.userId, "1")]]
  | .bans => [record [(.userId, "1"), (.spaceId, "10"), (.bannedBy, "2")]]
  | _ => []

theorem visitor_deleted :
    (∃ db', (deleteUser "2").exec visited = (.ok (), db') ∧ Unreferenced "2" db') ∧
      ∀ e db', (deleteUser "2").Ends visited (.error e) db' → db' = visited :=
  (deletion_complete_iff (by unfold Database.Holds; decide +kernel)
    (by unfold Database.Free; decide +kernel)).mpr (by unfold Database.Free; decide +kernel)

def introduced : Rows
  | .users => [record [(.id, "1")], record [(.id, "2")]]
  | .spaces => [record [(.id, "10"), (.ownerId, "1")]]
  | .spaceIntroductions => [record [(.spaceId, "10"), (.userId, "2")]]
  | _ => []

theorem introduced_not_deleted :
    Database.Holds foreignKeys introduced ∧ Database.Free introduced .spaces .ownerId "2" ∧
      (deleteUser "2").exec introduced = (.error AppError.foreignKeyViolation, introduced) := by
  have hdb : Database.Holds foreignKeys introduced := by
    unfold Database.Holds
    decide +kernel
  have howned : Database.Free introduced .spaces .ownerId "2" := by
    unfold Database.Free
    decide +kernel
  refine ⟨hdb, howned, ?_⟩
  have hmem : record [(.spaceId, "10"), (.userId, "2")] ∈ introduced .spaceIntroductions :=
    List.mem_cons_self
  rw [deleteUser_exec howned, deleteRows_refused hdb hmem rfl]

end Vokusz.Db.Deletion
