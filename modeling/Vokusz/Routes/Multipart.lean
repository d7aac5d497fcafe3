import Vokusz.Db.References
import Vokusz.Faults
import Vokusz.Routes.Footprint

namespace Vokusz.Routes.Messages

open Db Permissions Federation
open Lib
open Db.Messages (CreateMessage cooldownKey localRow storeMessage insertMessage mentionedUsers)
open Routes.Reactions (requireNotTimedOutIn)

def traces (s : AppState) :=
  (s.db.messages, s.db.messageCooldowns, s.db.readStates, s.db.attachments, s.db.automodUploads,
    s.files)

def LeavesNothing (s : AppState) (out : Except AppError Json × AppState) : Prop :=
  ∀ e, out.1 = .error e → traces out.2 = traces s

structure Verified where
  channel : ChannelRow
  input : CreateMessage
  files : List UploadFile
  cooldownMs : Int
  held : Bool

def verify (up : Uploads) (channelId : String) (auth : AuthUser) (fields : List Field) :
    App Verified := do
  let spaceId ← requireChannelPermission channelId auth "send_messages"
  requireNotTimedOutIn spaceId auth
  let (input, files) ← up.receive fields
  requireThreadPermission channelId auth input
  let channel ← Channels.getChannelRow channelId
  let cooldownMs ← slowmodeCooldownMs channel auth
  let held ← if files.isEmpty then pure false else up.preflight
  return { channel, input, files, cooldownMs, held }

def insertVerified (auth : AuthUser) (v : Verified) : App MessageRow := do
  let id ← App.generateId
  let mentions ← mentionedUsers v.channel.spaceId (Mentions.parseMentions v.input.content).usernames
  let now ← App.nowMillis
  let createdAt ← App.now
  let row := localRow id v.channel.id auth.userId v.channel.spaceId v.input mentions createdAt
  App.execute (insertMessage row (max v.cooldownMs 0) now)
  return row

def queueHeld (up : Uploads) (auth : AuthUser) (v : Verified) (messageId : String) :
    App (List String) := do
  let queued ← (up.enqueue v.channel messageId auth.userId v.files).attempt
  match queued with
  | .ok ids => return ids
  | .error e =>
    Db.Messages.deleteMessage messageId
    Prog.fail e

def publish (channel : ChannelRow) (msg : MessageRow) (pendingIds : List String)
    (attachments : List AttachmentRow) : App Json := do
  let json := messageRowToJson msg (attachments.map attachmentJson)
  broadcastTo channel none "message.create" json
  return .obj [("data", json), ("pending_attachments", .strings pendingIds)]

def finishHeld (up : Uploads) (auth : AuthUser) (v : Verified) (msg : MessageRow) : App Json := do
  let pendingIds ← queueHeld up auth v msg.id
  applyMentionCounts msg
  publish v.channel msg pendingIds []

def finishSaved (up : Uploads) (channelId : String) (v : Verified) (msg : MessageRow) :
    App Json := do
  applyMentionCounts msg
  let attachments ← up.saveFiles channelId msg.id v.files
  publish v.channel msg [] attachments

def finish (up : Uploads) (channelId : String) (auth : AuthUser) (v : Verified)
    (row : MessageRow) : App Json := do
  let msg ← Db.Messages.getMessageRow row.id
  if v.held then finishHeld up auth v msg else finishSaved up channelId v msg

def proceed (up : Uploads) (channelId : String) (auth : AuthUser) (v : Verified) : App Json := do
  let msg ← Db.Messages.createMessage v.channel.id auth.userId v.channel.spaceId v.input
    v.cooldownMs
  if v.held then finishHeld up auth v msg else finishSaved up channelId v msg

theorem proceed_eq (up : Uploads) (channelId : String) (auth : AuthUser) (v : Verified) :
    proceed up channelId auth v =
      insertVerified auth v >>= fun row => finish up channelId auth v row := by
  unfold proceed insertVerified finish Db.Messages.createMessage
  simp only [bind_assoc, pure_bind]
  rfl

theorem createMessageMultipart_eq (up : Uploads) (channelId : String) (auth : AuthUser)
    (fields : List Field) : createMessageMultipart up channelId auth fields =
      verify up channelId auth fields >>= fun v => insertVerified auth v >>= fun row =>
        finish up channelId auth v row := by
  simp only [← proceed_eq]
  unfold createMessageMultipart verify Uploads.store
  simp only [bind_assoc, pure_bind]
  refine bind_congr fun spaceId => bind_congr fun _ => bind_congr fun form => ?_
  obtain ⟨input, files⟩ := form
  dsimp only
  refine bind_congr fun _ => bind_congr fun channel => bind_congr fun cooldownMs => ?_
  cases files.isEmpty with
  | true =>
    simp only [if_true, pure_bind, bind_assoc, proceed, Bool.false_eq_true, if_false, finishSaved,
      publish]
  | false =>
    simp only [Bool.false_eq_true, if_false, bind_assoc, pure_bind, proceed]
    refine bind_congr fun held => bind_congr fun msg => ?_
    cases held with
    | false => simp only [pure_bind, Bool.false_eq_true, if_false, finishSaved, publish]
    | true =>
      simp only [if_true, finishHeld, queueHeld, bind_assoc, publish]
      refine bind_congr fun queued => ?_
      cases queued with
      | error e => rfl
      | ok ids => rfl

section

variable {up : Uploads} {channelId : String} {auth : AuthUser} {fields : List Field} {v : Verified}
  {s t : AppState} {fault : Option Nat}

theorem then_ok {α β : Type} {x : Except AppError α} {f : α → Except AppError β} {b : β}
    (h : (x >>= f) = .ok b) : ∃ a, x = .ok a ∧ f a = .ok b := by
  cases x with
  | error e => cases h
  | ok a => exact ⟨a, rfl, h⟩

theorem readFile_size {chunks : List (List UInt8)} {bytes : List UInt8}
    {charged : List (Nat × Nat)} {read : List UInt8 × List (Nat × Nat)}
    (hsize : bytes.length ≤ up.maxAttachmentSize)
    (h : up.readFile chunks bytes charged = .ok read) : read.1.length ≤ up.maxAttachmentSize := by
  induction chunks generalizing bytes charged with
  | nil =>
    cases h
    exact hsize
  | cons chunk chunks ih =>
    rw [Uploads.readFile] at h
    by_cases hmore : bytes.length + chunk.length > up.maxAttachmentSize
    · rw [if_pos hmore] at h
      cases h
    · rw [if_neg hmore] at h
      obtain ⟨_, _, hrest⟩ := then_ok h
      refine ih ?_ hrest
      rw [List.length_append]
      omega

theorem readForm_sizes {input : Option CreateMessage} {files : List UploadFile}
    {charged : List (Nat × Nat)} {form : CreateMessage × List UploadFile}
    (hsizes : ∀ file ∈ files, file.bytes.length ≤ up.maxAttachmentSize)
    (h : up.readForm fields input files charged = .ok form) :
    ∀ file ∈ form.2, file.bytes.length ≤ up.maxAttachmentSize := by
  induction fields generalizing input files charged with
  | nil =>
    cases input with
    | none => cases h
    | some input =>
      cases h
      exact hsizes
  | cons field fields ih =>
    cases field with
    | other => exact ih hsizes h
    | payloadJson chunks =>
      obtain ⟨metadata, _, hparse⟩ := then_ok h
      cases hinput : up.parse metadata with
      | ok input =>
        rw [hinput] at hparse
        exact ih hsizes hparse
      | error e =>
        rw [hinput] at hparse
        cases hparse
    | file filename contentType chunks =>
      rw [Uploads.readForm] at h
      by_cases hmany : files.length ≥ up.maxAttachments
      · rw [if_pos hmany] at h
        cases h
      · rw [if_neg hmany] at h
        obtain ⟨read, hread, hrest⟩ := then_ok h
        refine ih ?_ hrest
        intro file hfile
        rcases List.mem_append.mp hfile with hold | hnew
        · exact hsizes file hold
        · rw [List.mem_singleton.mp hnew]
          exact readFile_size (Nat.zero_le _) hread

theorem receive_sizes {form : CreateMessage × List UploadFile} (h : up.receive fields = .ok form) :
    ∀ file ∈ form.2, file.bytes.length ≤ up.maxAttachmentSize := by
  obtain ⟨_, _, hform⟩ := then_ok h
  exact readForm_sizes (fun file hfile => absurd hfile List.not_mem_nil) hform

theorem keeps_verify (s : AppState) : (verify up channelId auth fields).Keeps (fun t => t = s)
    (fun v => ∀ file ∈ v.files, file.bytes.length ≤ up.maxAttachmentSize) := by
  have hread : ∀ {α : Type} (q : Query α), (MonadLiftT.monadLift q : App α).Maintains (fun t => t = s) := fun q => App.keeps_lift (fun _ _ _ _ => trivial)
  refine (hread _).bind (fun spaceId _ => ?_)
  have htimeout : (requireNotTimedOutIn spaceId auth).Preserves (fun t => t) := by
    refine Prog.preserves_ite (Prog.preserves_pure _) ?_
    refine Prog.preserves_ite (Prog.preserves_pure _) ?_
    refine (App.preserves_query _).bind (fun member => ?_)
    refine (Prog.preserves_get _).bind (fun ext => (Prog.preserves_get _).bind (fun now => ?_))
    exact Prog.preserves_require _ _
  refine htimeout.keeps_of_still.bind (fun _ _ => ?_)
  refine Prog.Keeps.bind (Prog.keeps_ofExcept (fun _ h => receive_sizes h)) (fun form hform => ?_)
  obtain ⟨input, files⟩ := form
  refine (hread _).bind (fun _ _ => (hread _).bind (fun channel _ => ?_))
  refine (hread _).bind (fun cooldownMs _ => ?_)
  refine Prog.keeps_ite hform ?_
  refine Prog.Keeps.bind (Q := fun _ => True) (Prog.keeps_ofExcept (fun _ _ => trivial)) ?_
  exact fun held _ => hform

def inserted (row : MessageRow) (s : AppState) : AppState :=
  { s with
    snowflake := s.snowflake + 1
    db := storeMessage row s.clock s.db }

theorem unfailing_mentionedUsers (spaceId : Option String) (usernames : List String) :
    (mentionedUsers spaceId usernames).Unfailing := by
  cases spaceId with
  | none => exact Prog.unfailing_pure _
  | some sid =>
    refine Prog.unfailing_ite (Prog.unfailing_pure _) ?_
    refine Prog.Unfailing.bind ?_ (fun _ => Prog.unfailing_pure _)
    exact (Prog.unfailing_attempt _).bind (fun _ => Prog.unfailing_pure _)

theorem insertVerified_cases (auth : AuthUser) (v : Verified) (fault : Option Nat) (s : AppState) :
    (∃ e, (insertVerified auth v).failing fault s =
      (.error e, { s with snowflake := s.snowflake + 1 })) ∨
    ∃ row, row.id = toString s.snowflake ∧ row.channelId = v.channel.id ∧
      row.authorId = auth.userId ∧ s.db.hasMessage row.id = false ∧
      (insertVerified auth v).failing fault s = (.ok row, inserted row s) := by
  let s₁ : AppState := { s with snowflake := s.snowflake + 1 }
  have hstart : (insertVerified auth v).failing fault s = (mentionedUsers v.channel.spaceId
      (Mentions.parseMentions v.input.content).usernames >>= fun mentions =>
        App.nowMillis >>= fun now => App.now >>= fun createdAt =>
          App.execute (insertMessage (localRow (toString s.snowflake) v.channel.id auth.userId
            v.channel.spaceId v.input mentions createdAt) (max v.cooldownMs 0) now) >>= fun _ =>
          (pure (localRow (toString s.snowflake) v.channel.id auth.userId v.channel.spaceId v.input
            mentions createdAt) : App MessageRow)).failing fault s₁ := by
    cases fault <;> rfl
  obtain ⟨mentions, t, hmentions⟩ := unfailing_mentionedUsers v.channel.spaceId
    (Mentions.parseMentions v.input.content).usernames fault s₁
  have hsame : t = s₁ := by
    have hquiet : (mentionedUsers v.channel.spaceId
        (Mentions.parseMentions v.input.content).usernames).Preserves (fun s => s) :=
      Db.Messages.preserves_mentionedUsers _ _
    have hstill := hquiet.failing fault s₁
    rwa [hmentions] at hstill
  subst hsame
  rw [hstart, Prog.failing_bind_ok hmentions, App.nowMillis, Prog.failing_get, App.now,
    Prog.failing_get]
  generalize (mentionedUsers v.channel.spaceId
    (Mentions.parseMentions v.input.content).usernames).later fault s₁ = fault'
  generalize hrow : localRow (toString s.snowflake) v.channel.id auth.userId v.channel.spaceId
    v.input mentions s₁.now = row
  by_cases hfault : fault' = some 0
  · rw [hfault]
    exact .inl ⟨_, Prog.failing_statement_fault _ _ _⟩
  · rcases Db.Messages.insertMessage_cases row (max v.cooldownMs 0) s₁.clock s₁.db with
      ⟨e, he⟩ | ⟨hok, -, hfresh⟩
    · refine .inl ⟨e, Prog.failing_statement_error hfault ?_⟩
      rw [he]
      rfl
    · refine .inr ⟨row, ?_, ?_, ?_, hfresh, ?_⟩
      · rw [← hrow, localRow]
      · rw [← hrow, localRow]
      · rw [← hrow, localRow]
      · refine (Prog.failing_statement_ok hfault (t := inserted row s) (a := ()) ?_).trans
          (Prog.failing_pure _ _ _)
        rw [hok]
        rfl

end

structure NextUnused (s : AppState) : Prop where
  references : ∀ m ∈ s.db.messages, m.threadId ≠ some (toString s.snowflake) ∧
    m.replyTo ≠ some (toString s.snowflake)
  attached : ∀ a ∈ s.db.attachments, a.messageId ≠ toString s.snowflake
  attachments : ∀ n, s.snowflake < n →
    Table.has AttachmentRow.id (toString n) s.db.attachments = false

def Reserved (s : AppState) (row : MessageRow) : Prop :=
  (∃ c ∈ s.db.messageCooldowns, cooldownKey c = (row.channelId, row.authorId)) ∧
    ∀ c ∈ s.db.messageCooldowns, cooldownKey c = (row.channelId, row.authorId) →
      c.lastSentMs = s.clock

def mentionWrites (row : MessageRow) : Nat :=
  (row.mentions.filter (fun uid => uid ≠ row.authorId)).length

-- What must not go wrong once the message is inserted: reading it back, queueing it when it is
-- held, and otherwise the two statements of each file. `fault` counts the statements from there.
structure Clean (up : Uploads) (s : AppState) (v : Verified) (row : MessageRow)
    (fault : Option Nat) : Prop where
  read : fault ≠ some 0
  held : v.held = true → (up.enqueued = .ok () ∧ fault ≠ some 1) ∨
    Reserved s row ∧ ¬ ((∃ e, up.enqueued = .error e) ∧ fault = some 1)
  saved : v.held = false → ∀ k, fault = some k →
    k ≤ mentionWrites row ∨ mentionWrites row + 2 * v.files.length < k

section

variable {up : Uploads} {channelId : String} {auth : AuthUser} {v : Verified} {s t u : AppState}
  {row : MessageRow} {fault : Option Nat}

theorem getMessageRow_inserted (hfresh : s.db.hasMessage row.id = false) :
    Db.Messages.getMessageRow row.id (inserted row s).db = .ok row := by
  rw [Db.Messages.getMessageRow_ok]
  have hmessages : (inserted row s).db.messages = s.db.messages ++ [row] :=
    Db.Messages.storeMessage_messages row s.clock s.db
  rw [hmessages, Table.lookup_append, Table.lookup_none_of_not_has hfresh, if_pos rfl]
  rfl

theorem messages_differ (hmessages : u.db.messages = s.db.messages ++ [row]) :
    traces u ≠ traces s := by
  intro hsame
  have hrows : u.db.messages = s.db.messages := congrArg Prod.fst hsame
  rw [hmessages] at hrows
  have hlength := congrArg List.length hrows
  rw [List.length_append, List.length_singleton] at hlength
  omega

theorem unfailing_applyMentionCounts (msg : MessageRow) : (applyMentionCounts msg).Unfailing := by
  refine Prog.unfailing_forEach (fun uid => Prog.unfailing_ite (Prog.unfailing_pure _) ?_)
  exact (Prog.unfailing_attempt _).bind (fun _ => Prog.unfailing_pure _)

theorem statements_applyMentionCounts (msg : MessageRow) (s : AppState) :
    (applyMentionCounts msg).statements s = mentionWrites msg := by
  refine Prog.statements_forEach (fun uid => ?_) (fun uid s => ?_) msg.mentions s
  · exact Prog.total_ite (Prog.total_pure _)
      ((Prog.total_attempt _).bind (fun _ => Prog.total_pure _))
  · by_cases hauthor : uid = msg.authorId
    · rw [if_pos hauthor, if_neg (by simp [hauthor])]
      rfl
    · rw [if_neg hauthor, if_pos (by simp [hauthor]),
        Prog.statements_bind (Prog.exec_attempt _ _), Prog.statements_attempt]
      exact congrArg (· + 0) (Prog.statements_statement _ _ s)

theorem unfailing_publish (channel : ChannelRow) (msg : MessageRow) (pendingIds : List String)
    (attachments : List AttachmentRow) : (publish channel msg pendingIds attachments).Unfailing :=
  (Prog.unfailing_modify _).bind (fun _ => Prog.unfailing_pure _)

theorem strict_saveFiles (messageId : String) (files : List UploadFile) :
    (up.saveFiles channelId messageId files).Strict := by
  induction files with
  | nil => trivial
  | cons file files ih =>
    refine Prog.Strict.bind ?_ (fun _ => ih.bind (fun _ => trivial))
    refine App.strict_generateId.bind (fun id => ?_)
    refine Prog.Strict.bind ?_ (fun url => (App.strict_write _ _).bind (fun _ => trivial))
    refine (Prog.strict_require _ _).bind (fun _ => (Prog.strict_get _).bind (fun path => ?_))
    exact (Prog.strict_statement _ _).bind (fun _ => trivial)

theorem runs_saveFile {messageId : String} {file : UploadFile}
    (hsize : file.bytes.length ≤ up.maxAttachmentSize) (hmessage : s.db.hasMessage messageId = true)
    (hfresh : ∀ n, s.snowflake ≤ n →
      Table.has AttachmentRow.id (toString n) s.db.attachments = false) :
    ∃ a t, (up.saveFile channelId messageId file).Runs s a t 2 ∧
      t.db.hasMessage messageId = true ∧
      ∀ n, t.snowflake ≤ n → Table.has AttachmentRow.id (toString n) t.db.attachments = false := by
  let a : AttachmentRow :=
    { id := toString s.snowflake
      messageId := messageId
      filename := file.filename
      contentType := some file.contentType
      size := file.bytes.length
      url := "/cdn/attachments/" ++ channelId ++ "/" ++ toString s.snowflake ++ "/" ++
        Storage.sanitizeFilename up.isAlphanumeric file.filename
      width := (if Outbound.startsWith "image/" file.contentType then up.dimensions file.bytes
        else (none, none)).1
      height := (if Outbound.startsWith "image/" file.contentType then up.dimensions file.bytes
        else (none, none)).2
      contentHash := some file.hash }
  let s₁ : AppState := { s with snowflake := s.snowflake + 1 }
  let path := Storage.resolved (Storage.attachmentPath s.storagePath channelId
    (toString s.snowflake) (Storage.sanitizeFilename up.isAlphanumeric file.filename))
  let s₂ : AppState :=
    { s₁ with files := if s.files.contains path then s.files else s.files ++ [path] }
  let t := s₂.withDb { s.db with attachments := s.db.attachments ++ [a] }
  have hsaved : (Storage.saveAttachment up.isAlphanumeric channelId (toString s.snowflake)
      file.filename file.bytes.length up.maxAttachmentSize).Runs s₁ a.url s₂ 1 := by
    constructor
    · rw [Storage.saveAttachment, Prog.require, if_pos hsize]
      rfl
    · rw [Storage.saveAttachment, Prog.require, if_pos hsize]
      rfl
  have hunused : Table.has AttachmentRow.id a.id s₂.db.attachments = false :=
    hfresh s.snowflake (Nat.le_refl _)
  have hstored : (Attachments.insertAttachment a).Runs s₂ () t 1 := by
    refine App.runs_write ?_
    rw [hunused, if_neg Bool.false_ne_true]
    exact congrArg App.foreignKey hmessage
  have hrow : (pure a : App AttachmentRow).Runs t a t 0 := Prog.runs_pure a t
  refine ⟨a, t, ?_, hmessage, ?_⟩
  · let rest (url : String) : App AttachmentRow := do
      Attachments.insertAttachment { a with url := url }
      return { a with url := url }
    have hrest := @Prog.Runs.bind _ _ _ _ _ (fun _ => pure a) _ _ _ _ _ _ _ hstored hrow
    have hrun := @Prog.Runs.bind _ _ _ _ _ rest _ _ _ _ _ _ _ hsaved hrest
    exact App.runs_generated hrun
  · intro n hn
    have hlater : s.snowflake + 1 ≤ n := hn
    have hother : toString s.snowflake ≠ toString n := by
      intro heq
      have hsame := App.snowflake_injective heq
      omega
    have hlast : t.db.attachments = s.db.attachments ++ [a] := rfl
    rw [hlast, Table.has_append, hfresh n (by omega), Bool.false_or]
    exact decide_eq_false hother

theorem runs_saveFiles {messageId : String} {files : List UploadFile}
    (hsize : ∀ file ∈ files, file.bytes.length ≤ up.maxAttachmentSize)
    (hmessage : s.db.hasMessage messageId = true)
    (hfresh : ∀ n, s.snowflake ≤ n →
      Table.has AttachmentRow.id (toString n) s.db.attachments = false) :
    ∃ rows t, (up.saveFiles channelId messageId files).Runs s rows t (2 * files.length) := by
  induction files generalizing s with
  | nil => exact ⟨[], s, Prog.runs_pure _ _⟩
  | cons file files ih =>
    obtain ⟨a, t, hfile, hstands, hnext⟩ :=
      @runs_saveFile up channelId s messageId file (hsize file List.mem_cons_self) hmessage hfresh
    obtain ⟨rows, u, hfiles⟩ :=
      ih (fun f hf => hsize f (List.mem_cons_of_mem file hf)) hstands hnext
    refine ⟨a :: rows, u, ?_⟩
    have hrun : (up.saveFiles channelId messageId (file :: files)).Runs s (a :: rows) u
        (2 + (2 * files.length + 0)) := hfile.bind (hfiles.bind (Prog.runs_pure _ _))
    rwa [show 2 + (2 * files.length + 0) = 2 * (file :: files).length by
      rw [List.length_cons]; omega] at hrun

theorem finishSaved_fails {msg : MessageRow}
    (hsizes : ∀ file ∈ v.files, file.bytes.length ≤ up.maxAttachmentSize)
    (hmessage : s.db.hasMessage msg.id = true)
    (hfresh : ∀ n, s.snowflake ≤ n →
      Table.has AttachmentRow.id (toString n) s.db.attachments = false) (fault : Option Nat) :
    (∃ e, ((finishSaved up channelId v msg).failing fault s).1 = .error e) ↔
      ∃ k, fault = some k ∧ mentionWrites msg ≤ k ∧ k < mentionWrites msg + 2 * v.files.length := by
  obtain ⟨_, t, hcounted⟩ := unfailing_applyMentionCounts msg fault s
  have htouched := touches_applyMentionCounts msg
  have hstill : ∀ slot, slot ≠ Slot.readStates → AppState.slot slot t = AppState.slot slot s := by
    intro slot hslot
    have hkept := (htouched slot (by simpa using hslot)).failing fault s
    rwa [hcounted] at hkept
  have hmessages : t.db.messages = s.db.messages := hstill .messages (by decide)
  have hattachments : t.db.attachments = s.db.attachments := hstill .attachments (by decide)
  have hsnowflake : t.snowflake = s.snowflake := hstill .snowflake (by decide)
  have hstands : t.db.hasMessage msg.id = true := by rwa [Tables.hasMessage, hmessages]
  have hnext : ∀ n, t.snowflake ≤ n →
      Table.has AttachmentRow.id (toString n) t.db.attachments = false := by
    rw [hsnowflake, hattachments]
    exact hfresh
  obtain ⟨rows, u, hfiles⟩ := @runs_saveFiles up channelId t msg.id v.files hsizes hstands hnext
  have hlater : (applyMentionCounts msg).later fault s = fault.bind (fun k =>
      if k < mentionWrites msg then none else some (k - mentionWrites msg)) := by
    rw [Prog.later, statements_applyMentionCounts]
  rw [finishSaved, Prog.failing_bind_ok hcounted,
    Prog.failing_bind_error_iff (fun attachments => unfailing_publish v.channel msg [] attachments),
    hfiles.failing_iff (strict_saveFiles msg.id v.files), hlater]
  cases fault with
  | none => simp
  | some k =>
    simp only [Option.bind_some, Option.some.injEq]
    by_cases hmention : k < mentionWrites msg
    · rw [if_pos hmention]
      constructor
      · rintro ⟨j, hj, _⟩
        cases hj
      · rintro ⟨j, rfl, hj, _⟩
        omega
    · rw [if_neg hmention]
      constructor
      · rintro ⟨j, hj, hlt⟩
        cases hj
        exact ⟨k, rfl, by omega, by omega⟩
      · rintro ⟨j, rfl, hj, hlt⟩
        exact ⟨k - mentionWrites msg, rfl, by omega⟩

theorem finishSaved_messages (msg : MessageRow) (fault : Option Nat) (s : AppState) :
    ((finishSaved up channelId v msg).failing fault s).2.db.messages = s.db.messages := by
  have htouches : App.Touches [.readStates, .attachments, .snowflake, .files, .gatewayTx]
      (finishSaved up channelId v msg) := by
    refine ((touches_applyMentionCounts msg).mono (by decide)).bind (fun _ => ?_)
    refine ((touches_saveFiles up channelId msg.id v.files).mono (by decide)).bind (fun rows => ?_)
    refine ((touches_broadcastTo v.channel none "message.create" _).mono (by decide)).bind
      (fun _ => ?_)
    exact Prog.touches_pure _
  exact (htouches .messages (by decide)).failing fault s

theorem runs_generateIds (files : List UploadFile) (s : AppState) : ∃ ids n,
    (Uploads.enqueue.generateIds files).Runs s ids { s with snowflake := n } 0 := by
  induction files generalizing s with
  | nil => exact ⟨[], s.snowflake, Prog.runs_pure _ _⟩
  | cons file files ih =>
    obtain ⟨ids, n, hids⟩ := ih { s with snowflake := s.snowflake + 1 }
    let t : AppState := { s with snowflake := n }
    have hrest : (pure (toString s.snowflake :: ids) : App (List String)).Runs t _ t 0 :=
      Prog.runs_pure _ t
    have hall : (Uploads.enqueue.generateIds files >>= fun ids =>
        (pure (toString s.snowflake :: ids) : App (List String))).Runs
        { s with snowflake := s.snowflake + 1 } (toString s.snowflake :: ids) t (0 + 0) :=
      Prog.Runs.bind hids hrest
    exact ⟨toString s.snowflake :: ids, n, App.runs_generated hall⟩

theorem queueHeld_cases (up : Uploads) (auth : AuthUser) (v : Verified) (messageId : String)
    (fault : Option Nat) (s : AppState) : ∃ n, ∀ s₁ : AppState, s₁ = { s with snowflake := n } →
      (up.enqueued = .ok () ∧ fault ≠ some 0 ∧
        ∃ ids t, (queueHeld up auth v messageId).failing fault s = (.ok ids, t)) ∨
      ((∃ e, up.enqueued = .error e) ∧ fault = some 0 ∧
        ∃ e, (queueHeld up auth v messageId).failing fault s = (.error e, s₁)) ∨
      (¬ (up.enqueued = .ok () ∧ fault ≠ some 0) ∧
        ¬ ((∃ e, up.enqueued = .error e) ∧ fault = some 0) ∧
        ∃ e, (queueHeld up auth v messageId).failing fault s =
          (.error e, s₁.withDb (s₁.db.deleteMessages [messageId]))) := by
  obtain ⟨ids, n, hids⟩ := runs_generateIds v.files s
  refine ⟨n, ?_⟩
  intro s₁ hs₁
  rw [← hs₁] at hids
  let batch := up.enqueue v.channel messageId auth.userId v.files
  let queued (now : Nat) (db : Tables) : Tables :=
    { db with
      automodUploads := db.automodUploads ++
        List.zipWith (up.pendingUpload v.channel messageId auth.userId (now / 1000)) ids v.files }
  let store (ids : List String) : App (List String) := do
    up.enqueued
    let now ← App.nowMillis
    App.update (fun db =>
      { db with
        automodUploads := db.automodUploads ++
          List.zipWith (up.pendingUpload v.channel messageId auth.userId (now / 1000)) ids
            v.files })
    return ids
  have hbatch : batch.failing fault s = (store ids).failing fault s₁ := hids.failing_bind
  have hcount : batch.statements s = (store ids).statements s₁ := by
    have hsum := Prog.statements_bind (f := store) hids.1
    rwa [hids.2, Nat.zero_add] at hsum
  have hdelete : ∀ (e : AppError) (later : Option Nat), later ≠ some 0 →
      (Db.Messages.deleteMessage messageId >>= fun _ =>
        (Prog.fail e : App (List String))).failing later s₁ =
        (.error e, s₁.withDb (s₁.db.deleteMessages [messageId])) := by
    intro e later hlater
    rw [Db.Messages.deleteMessage, App.failing_update hlater, Prog.failing_fail]
  have hqueue := Prog.failing_bind_ok (Prog.failing_attempt batch fault s)
    (f := fun queued : Except AppError (List String) => match queued with
      | .ok ids => pure ids
      | .error e => Db.Messages.deleteMessage messageId >>= fun _ =>
        (Prog.fail e : App (List String)))
  have hlater : batch.attempt.later fault s = fault.bind (fun k =>
      if k < (store ids).statements s₁ then none else some (k - (store ids).statements s₁)) := by
    rw [Prog.later, Prog.statements_attempt, hcount]
  rw [hlater, hbatch] at hqueue
  cases henqueued : up.enqueued with
  | error e =>
    have hstore : store ids = Prog.fail e := by
      dsimp only [store]
      rw [henqueued]
      rfl
    rw [hstore, Prog.failing_fail] at hqueue
    have hstands : (fault.bind (fun k => if k < (Prog.fail e : App (List String)).statements s₁
        then none else some (k - (Prog.fail e : App (List String)).statements s₁))) = fault := by
      cases fault <;> rfl
    rw [hstands] at hqueue
    have hnotok : ¬ ((Except.error e : Except AppError Unit) = .ok () ∧ fault ≠ some 0) := by
      rintro ⟨he, -⟩
      cases he
    by_cases hfault : fault = some 0
    · refine .inr (.inl ⟨⟨e, rfl⟩, hfault, App.databaseFault, hqueue.trans ?_⟩)
      rw [hfault]
      rfl
    · refine .inr (.inr ⟨hnotok, fun h => hfault h.2, e, ?_⟩)
      exact hqueue.trans (hdelete e fault hfault)
  | ok _ =>
    have hstore : store ids =
        (App.nowMillis >>= fun now => App.update (queued now) >>= fun _ => pure ids) := by
      dsimp only [store]
      rw [henqueued]
      rfl
    have hnoerror :
        ¬ ((∃ e, (Except.ok () : Except AppError Unit) = .error e) ∧ fault = some 0) := by
      rintro ⟨⟨e, he⟩, -⟩
      cases he
    by_cases hfault : fault = some 0
    · refine .inr (.inr ⟨fun h => h.2 hfault, hnoerror, App.databaseFault, hqueue.trans ?_⟩)
      rw [hstore, hfault]
      exact hdelete App.databaseFault none (by simp)
    · have hstored : (store ids).failing fault s₁ =
          (.ok ids, s₁.withDb (queued s₁.clock s₁.db)) := by
        rw [hstore, App.nowMillis, Prog.failing_get, App.failing_update hfault, Prog.failing_pure]
      rw [hstored] at hqueue
      exact .inl ⟨rfl, hfault, ids, _, hqueue.trans (Prog.failing_pure _ _ _)⟩

theorem storeMessage_others (row : MessageRow) (now : Int) (db : Tables) :
    ((storeMessage row now db).messageCooldowns, (storeMessage row now db).readStates,
      (storeMessage row now db).attachments, (storeMessage row now db).automodUploads) =
    (Table.upsert cooldownKey
        { channelId := row.channelId, userId := row.authorId, lastSentMs := now }
        (fun c => { c with lastSentMs := now }) db.messageCooldowns,
      db.readStates, db.attachments, db.automodUploads) := by
  unfold storeMessage
  dsimp only
  split <;> rfl

theorem deletedWith_inserted (h : NextUnused s) (hid : row.id = toString s.snowflake) :
    (inserted row s).db.deletedWith [row.id] = [row.id] := by
  have hrows : (inserted row s).db.messages = s.db.messages ++ [row] :=
    Db.Messages.storeMessage_messages row s.clock s.db
  have hstored : (inserted row s).db.hasMessage row.id = true := by
    rw [Tables.hasMessage, hrows, Table.has_append, decide_eq_true rfl, Bool.or_true]
  have hroot : [row.id].filter (inserted row s).db.hasMessage = [row.id] := by
    rw [List.filter_cons_of_pos hstored, List.filter_nil]
  rw [Tables.deletedWith, hroot]
  refine Tables.threadClosure_stable ?_ _
  refine List.eq_nil_iff_forall_not_mem.mpr (fun id hid' => ?_)
  obtain ⟨m, hm, rfl, t, ht, hroot⟩ := Tables.mem_repliesTo hid'
  obtain ⟨_, _, hsame, hunreached⟩ := Tables.repliesTo_unreached hid'
  rw [hrows] at hm
  rcases List.mem_append.mp hm with hold | hnew
  · rw [List.mem_singleton.mp hroot, hid] at ht
    exact (h.references m hold).1 ht
  · rw [hsame, List.mem_singleton.mp hnew] at hunreached
    exact hunreached (List.mem_singleton_self _)

theorem traces_undone (h : NextUnused s) (hid : row.id = toString s.snowflake)
    (hfresh : s.db.hasMessage row.id = false) {db : Tables} (hdb : db = (inserted row s).db)
    (u : AppState) (hu : u.files = s.files) :
    traces (u.withDb (db.deleteMessages [row.id])) = traces s ↔ Reserved s row := by
  have hstore : db = storeMessage row s.clock s.db := hdb
  have hgone := deletedWith_inserted h hid
  rw [← hdb] at hgone
  have hmessages : (db.deleteMessages [row.id]).messages = s.db.messages := by
    have hkept : ∀ m ∈ s.db.messages, (!([row.id].contains m.id)) = true := by
      intro m hm
      have hother : m.id ≠ row.id := by
        intro heq
        rw [Tables.hasMessage, Table.has_iff.mpr ⟨m, hm, heq⟩] at hfresh
        cases hfresh
      simp [hother]
    have hlink : ∀ m ∈ s.db.messages, Tables.unlinkReply [row.id] m = m := by
      intro m hm
      have hreply : m.replyTo.any (fun r => [row.id].contains r) = false := by
        have hnone := (h.references m hm).2
        rw [← hid] at hnone
        cases hreply : m.replyTo with
        | none => rfl
        | some r =>
          rw [hreply] at hnone
          simpa using hnone
      rw [Tables.unlinkReply, hreply, if_neg Bool.false_ne_true]
    rw [Tables.deleteMessages_messages, hgone, hstore, Db.Messages.storeMessage_messages,
      List.filter_append, List.filter_eq_self.mpr hkept, List.filter_cons_of_neg (by simp),
      List.filter_nil, List.append_nil]
    exact (List.map_congr_left hlink).trans (List.map_id' _)
  obtain ⟨hcooldowns, hstates, hrows, huploads⟩ :
      db.messageCooldowns = Table.upsert cooldownKey
        { channelId := row.channelId, userId := row.authorId, lastSentMs := s.clock }
        (fun c => { c with lastSentMs := s.clock }) s.db.messageCooldowns ∧
      db.readStates = s.db.readStates ∧ db.attachments = s.db.attachments ∧
      db.automodUploads = s.db.automodUploads := by
    have hothers := storeMessage_others row s.clock s.db
    rw [← hstore] at hothers
    simpa only [Prod.mk.injEq] using hothers
  have hattachments : (db.deleteMessages [row.id]).attachments = s.db.attachments := by
    have hkept : ∀ a ∈ s.db.attachments, (!([row.id].contains a.messageId)) = true := by
      intro a ha
      have hother := h.attached a ha
      rw [← hid] at hother
      simp [hother]
    have hfilter : (db.deleteMessages [row.id]).attachments =
        db.attachments.filter (fun a => !(db.deletedWith [row.id]).contains a.messageId) := rfl
    rw [hfilter, hgone, hrows, List.filter_eq_self.mpr hkept]
  have hleft : traces (u.withDb (db.deleteMessages [row.id])) = (s.db.messages,
      Table.upsert cooldownKey
        { channelId := row.channelId, userId := row.authorId, lastSentMs := s.clock }
        (fun c => { c with lastSentMs := s.clock }) s.db.messageCooldowns,
      s.db.readStates, s.db.attachments, s.db.automodUploads, s.files) := by
    rw [← hmessages, ← hattachments, ← hstates, ← huploads, ← hcooldowns, ← hu]
    rfl
  have hreserved : Table.upsert cooldownKey
      { channelId := row.channelId, userId := row.authorId, lastSentMs := s.clock }
      (fun c => { c with lastSentMs := s.clock }) s.db.messageCooldowns = s.db.messageCooldowns ↔
        Reserved s row := by
    rw [Table.upsert_eq_self, Table.has_iff]
    refine and_congr Iff.rfl (forall₃_congr fun c hc hkey => ?_)
    constructor
    · intro heq
      exact (congrArg MessageCooldown.lastSentMs heq).symm
    · intro hlast
      rw [← hlast]
  rw [hleft, traces, ← hreserved]
  simp only [Prod.mk.injEq, true_and, and_true]

theorem leavesNothing_ok {out : Except AppError Json × AppState} {j : Json} (h : out.1 = .ok j) :
    LeavesNothing s out := by
  intro e he
  rw [h] at he
  cases he

theorem leavesNothing_error {e : AppError} :
    LeavesNothing s ((.error e : Except AppError Json), u) ↔ traces u = traces s :=
  ⟨fun h => h e rfl, fun h _ _ => h⟩

def KeptClean (up : Uploads) (channelId : String) (auth : AuthUser) (fields : List Field)
    (fault : Option Nat) (s : AppState) : Prop :=
  ∀ v row, ((verify up channelId auth fields).failing fault s).1 = .ok v →
    ((insertVerified auth v).failing ((verify up channelId auth fields).later fault s) s).1 =
      .ok row →
    Clean up s v row ((insertVerified auth v).later
      ((verify up channelId auth fields).later fault s) s)

theorem passed_some {fault : Option Nat} {k : Nat} (hread : fault ≠ some 0) :
    Prog.passed fault = some k ↔ fault = some (k + 1) := by
  rcases fault with _ | _ | j
  · simp [Prog.passed]
  · exact absurd rfl hread
  · simp [Prog.passed]

theorem finish_clean_iff (h : NextUnused s) (hid : row.id = toString s.snowflake)
    (hfresh : s.db.hasMessage row.id = false)
    (hsizes : ∀ file ∈ v.files, file.bytes.length ≤ up.maxAttachmentSize) (fault : Option Nat) :
    LeavesNothing s ((finish up channelId auth v row).failing fault (inserted row s)) ↔
      Clean up s v row fault := by
  have hrows : (inserted row s).db.messages = s.db.messages ++ [row] :=
    Db.Messages.storeMessage_messages row s.clock s.db
  by_cases hread : fault = some 0
  · have hstop : (finish up channelId auth v row).failing fault (inserted row s) =
        (.error App.databaseFault, inserted row s) := by
      rw [hread]
      exact Prog.failing_query_fault _ _ _
    rw [hstop, leavesNothing_error]
    exact iff_of_false (messages_differ hrows) (fun hclean => hclean.read hread)
  · have hget : (finish up channelId auth v row).failing fault (inserted row s) =
        (if v.held then finishHeld up auth v row else finishSaved up channelId v row).failing
          (Prog.passed fault) (inserted row s) :=
      Prog.failing_query_ok hread (getMessageRow_inserted hfresh)
    rw [hget]
    cases hheld : v.held with
    | true =>
      rw [if_pos rfl]
      obtain ⟨n, hcases⟩ := queueHeld_cases up auth v row.id (Prog.passed fault) (inserted row s)
      have hrest : ∀ ids,
          (applyMentionCounts row >>= fun _ => publish v.channel row ids []).Unfailing := by
        intro ids
        exact (unfailing_applyMentionCounts row).bind (fun _ => unfailing_publish v.channel row ids [])
      have hfirst := @passed_some fault 0 hread
      rcases hcases { inserted row s with snowflake := n } rfl with
        ⟨hok, hfault, ids, t, hqueue⟩ | ⟨herror, hfault, e, hqueue⟩ | ⟨hnot, hneither, e, hqueue⟩
      · obtain ⟨j, u, hj⟩ := hrest ids ((queueHeld up auth v row.id).later (Prog.passed fault)
          (inserted row s)) t
        rw [finishHeld, Prog.failing_bind_ok hqueue, hj]
        refine iff_of_true (leavesNothing_ok rfl) ⟨hread, fun _ => .inl ⟨hok, ?_⟩, ?_⟩
        · exact fun hlast => hfault (hfirst.mpr hlast)
        · intro hsaved
          rw [hheld] at hsaved
          cases hsaved
      · rw [finishHeld, Prog.failing_bind_error hqueue, leavesNothing_error]
        refine iff_of_false (messages_differ hrows) (fun hclean => ?_)
        obtain ⟨e, he⟩ := herror
        rcases hclean.held hheld with ⟨hok, -⟩ | ⟨-, hdeleted⟩
        · rw [he] at hok
          cases hok
        · exact hdeleted ⟨⟨e, he⟩, hfirst.mp hfault⟩
      · rw [finishHeld, Prog.failing_bind_error hqueue, leavesNothing_error]
        refine (traces_undone h hid hfresh rfl _ rfl).trans ⟨fun hreserved => ?_, fun hclean => ?_⟩
        · refine ⟨hread, fun _ => .inr ⟨hreserved, ?_⟩, ?_⟩
          · rintro ⟨herror, hlast⟩
            exact hneither ⟨herror, hfirst.mpr hlast⟩
          · intro hsaved
            rw [hheld] at hsaved
            cases hsaved
        · rcases hclean.held hheld with ⟨hok, hlast⟩ | ⟨hreserved, -⟩
          · exact absurd ⟨hok, fun hfault => hlast (hfirst.mp hfault)⟩ hnot
          · exact hreserved
    | false =>
      rw [if_neg Bool.false_ne_true]
      have hstands : (inserted row s).db.hasMessage row.id = true := by
        rw [Tables.hasMessage, hrows, Table.has_append, decide_eq_true rfl, Bool.or_true]
      have hothers := storeMessage_others row s.clock s.db
      have hattachments : (inserted row s).db.attachments = s.db.attachments := by
        simp only [Prod.mk.injEq] at hothers
        exact hothers.2.2.1
      have hnext : ∀ n, (inserted row s).snowflake ≤ n →
          Table.has AttachmentRow.id (toString n) (inserted row s).db.attachments = false := by
        intro n hn
        rw [hattachments]
        exact h.attachments n hn
      have hfails := @finishSaved_fails up channelId v (inserted row s) row hsizes hstands hnext
        (Prog.passed fault)
      have hkept := @finishSaved_messages up channelId v row (Prog.passed fault) (inserted row s)
      cases hout : (finishSaved up channelId v row).failing (Prog.passed fault)
        (inserted row s) with
      | mk r u =>
        rw [hout] at hfails hkept
        cases r with
        | ok j =>
          refine iff_of_true (leavesNothing_ok rfl) ⟨hread, ?_, fun _ k hk => ?_⟩
          · intro hqueued
            rw [hheld] at hqueued
            cases hqueued
          · rcases k with _ | k
            · exact .inl (Nat.zero_le _)
            · by_contra hbetween
              obtain ⟨e, he⟩ := hfails.mpr ⟨k, (passed_some hread).mpr hk, by omega, by omega⟩
              cases he
        | error e =>
          obtain ⟨k, hk, hlow, hhigh⟩ := hfails.mp ⟨e, rfl⟩
          rw [leavesNothing_error]
          refine iff_of_false (messages_differ (hkept.trans hrows)) (fun hclean => ?_)
          rcases hclean.saved hheld (k + 1) ((passed_some hread).mp hk) with hearly | hlate
          · omega
          · omega

end

theorem upload_undone_iff {s : AppState} (h : NextUnused s) (up : Uploads) (channelId : String)
    (auth : AuthUser) (fields : List Field) (fault : Option Nat) :
    LeavesNothing s ((createMessageMultipart up channelId auth fields).failing fault s) ↔
      KeptClean up channelId auth fields fault s := by
  have hverify := (@keeps_verify up channelId auth fields s).failing rfl fault
  rw [createMessageMultipart_eq]
  cases hv : (verify up channelId auth fields).failing fault s with
  | mk r t =>
    rw [hv] at hverify
    obtain ⟨hstate, hsizes⟩ := hverify
    dsimp only at hstate
    subst hstate
    cases r with
    | error e =>
      rw [Prog.failing_bind_error hv, leavesNothing_error]
      refine iff_of_true rfl (fun v row hok => ?_)
      rw [hv] at hok
      cases hok
    | ok v =>
      rw [Prog.failing_bind_ok hv]
      have hkept : KeptClean up channelId auth fields fault t ↔ ∀ row,
          ((insertVerified auth v).failing ((verify up channelId auth fields).later fault t) t).1 =
            .ok row → Clean up t v row ((insertVerified auth v).later
              ((verify up channelId auth fields).later fault t) t) := by
        constructor
        · intro hall row hrow
          exact hall v row (congrArg Prod.fst hv) hrow
        · intro hall v' row hv' hrow
          rw [hv] at hv'
          cases hv'
          exact hall row hrow
      rw [hkept]
      generalize (verify up channelId auth fields).later fault t = fault'
      rcases insertVerified_cases auth v fault' t with ⟨e, he⟩ | ⟨row, hid, _, _, hfresh, hrow⟩
      · rw [Prog.failing_bind_error he, leavesNothing_error]
        refine iff_of_true rfl (fun row hok => ?_)
        rw [he] at hok
        cases hok
      · rw [Prog.failing_bind_ok hrow, finish_clean_iff h hid hfresh (hsizes v rfl)]
        constructor
        · intro hclean row' hrow'
          rw [hrow] at hrow'
          cases hrow'
          exact hclean
        · intro hall
          exact hall row (congrArg Prod.fst hrow)

def den : AppState :=
  { db :=
      { users := [{ id := "1", username := "ann" }]
        spaces := [{ id := "10", name := "den", ownerId := "1" }]
        members := [{ spaceId := "10", userId := "1" }]
        channels := [{ id := "20", spaceId := some "10" }] }
    ext := Externals.fixed "2025-01-01 00:00:00"
    snowflake := 40 }

def uploader : AuthUser := { userId := "1" }

def posting : Uploads :=
  { maxAttachments := 10
    maxAttachmentSize := 1024
    charge := fun _ => .ok ()
    parse := fun _ => .ok { content := "notes" }
    contentHash := fun _ => ""
    isAlphanumeric := fun _ => true
    dimensions := fun _ => (none, none)
    preflight := .ok false
    retentionDays := 1
    enqueued := .ok () }

def notes : List Field :=
  [.payloadJson [], .file (some "notes") (some "text/plain") [[104, 105]]]

theorem den_unused : NextUnused den :=
  ⟨fun _ hm => absurd hm List.not_mem_nil, fun _ ha => absurd ha List.not_mem_nil,
    fun _ _ => rfl⟩

theorem first_read_leaves_nothing :
    KeptClean posting "20" uploader notes (some 0) den ∧
      LeavesNothing den ((createMessageMultipart posting "20" uploader notes).failing (some 0) den) := by
  have hkept : KeptClean posting "20" uploader notes (some 0) den := by
    intro v row hv
    cases hv
  exact ⟨hkept, (upload_undone_iff den_unused posting "20" uploader notes (some 0)).mpr hkept⟩

theorem refused_file_leaves_message :
    NextUnused den ∧
      ¬ LeavesNothing den
        ((createMessageMultipart posting "20" uploader notes).failing (some 7) den) := by
  refine ⟨den_unused, fun hnothing => ?_⟩
  have hrefused : ((createMessageMultipart posting "20" uploader notes).failing (some 7) den).1 =
      .error (.internal "failed to write attachment file") := rfl
  have hrows := congrArg Prod.fst (hnothing _ hrefused)
  have hstored : ((createMessageMultipart posting "20" uploader notes).failing (some 7)
      den).2.db.messages.map MessageRow.id = ["40"] := rfl
  have hnone : (den.db.messages).map MessageRow.id = [] := rfl
  have heq := hstored.symm.trans ((congrArg (List.map MessageRow.id) hrows).trans hnone)
  cases heq

end Vokusz.Routes.Messages
