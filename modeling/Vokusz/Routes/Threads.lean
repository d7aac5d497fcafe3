import Vokusz.Db.ReadStates
import Vokusz.Routes.Replica

namespace Vokusz.Routes.Threads

open App Db Permissions Federation Routes.Messages
open Db.Messages (CreateMessage UpdateMessage RemoteMessageInsert)
open Lib (Prog)
open Replica (Quiet keeps_quiet keeps_then)

-- `relay` is a send handed over by a peer, a mirrored DM or a tool: none of them carries a thread.
-- `remove` stands for every `DELETE FROM messages`.
inductive Operation where
  | post (channelId : String) (auth : AuthUser) (input : CreateMessage)
      (reply : Except AppError Response) (unfurled : Option Json)
  | upload (up : Uploads) (channelId : String) (auth : AuthUser) (fields : List Field)
  | relay (channelId authorId : String) (spaceId : Option String) (content : String)
      (replyTo : Option String)
  | announce (channelId authorId spaceId content messageType : String)
  | mirror (msg : RemoteMessageInsert)
  | edit (messageId : String) (input : UpdateMessage)
  | editMirrored (messageId : String) (content editedAt : Option String)
  | remove (messageIds : List String)

def served (s : AppState) : Operation → AppState
  | .post channelId auth input reply unfurled =>
    ((createMessage channelId auth input reply unfurled).exec s).2
  | .upload up channelId auth fields =>
    ((createMessageMultipart up channelId auth fields).exec s).2
  | .relay channelId authorId spaceId content replyTo =>
    ((Db.Messages.createMessage channelId authorId spaceId { content, replyTo } 0).exec s).2
  | .announce channelId authorId spaceId content messageType =>
    ((Db.Messages.createSystemMessage channelId authorId spaceId content messageType).exec s).2
  | .mirror msg => ((Db.Messages.insertRemoteMessage msg).exec s).2
  | .edit messageId input => ((Db.Messages.updateMessage messageId input).exec s).2
  | .editMirrored messageId content editedAt =>
    ((Db.Messages.editRemoteMessage messageId content editedAt).exec s).2
  | .remove messageIds => s.withDb (s.db.deleteMessages messageIds)

def step (s : AppState) (op : Operation) : Option AppState := some (served s op)

def repliesIn (db : Tables) (m : MessageRow) : List MessageRow :=
  db.messages.filter (fun r => r.threadId = some m.id && r.channelId = m.channelId)

structure ThreadIntegrity (db : Tables) : Prop where
  parents : ∀ r ∈ db.messages, r.origin = none → ∀ t, r.threadId = some t →
    ∃ p ∈ db.messages, p.id = t ∧ p.channelId = r.channelId ∧ p.threadId = none
  confined : ∀ m ∈ db.messages, ∀ r ∈ db.messages, r.id ∈ db.deletedWith [m.id] →
    r.channelId = m.channelId
  counted : ∀ m ∈ db.messages,
    Db.Messages.getThreadReplyCount m.id db = .ok (repliesIn db m).length

def admits (s : AppState) (channelId : String) (auth : AuthUser) (input : CreateMessage) : Bool :=
  match requireChannelPermission channelId auth "send_messages" s.db with
  | .ok spaceId =>
    (Reactions.requireNotTimedOutIn spaceId auth).Succeeds s &&
      (requireThreadPermission channelId auth input s.db).isOk
  | .error _ => false

def homedHere (channelId : String) : Query Bool := do
  let channel ← Channels.getChannelRow channelId
  let home ← homeOfChannel channel
  let direct ← homeOfDm channel
  return home.isNone && direct.isNone

def storesHere (s : AppState) (channelId : String) (auth : AuthUser) (input : CreateMessage) :
    Bool :=
  admits s channelId auth input && (checkContent input).Succeeds s &&
    (homedHere channelId s.db).toOption.getD false

def namesParent (s : AppState) (channelId : String) (input : CreateMessage) : Bool :=
  input.threadId.all (fun t =>
    match Lib.Table.lookup MessageRow.id t s.db.messages with
    | some p => p.channelId = channelId && p.threadId = none
    | none => t ≠ toString s.snowflake)

def answersHere (s : AppState) : Operation → Bool
  | .post channelId auth input _ _ =>
    !storesHere s channelId auth input || namesParent s channelId input
  | .upload up channelId auth fields =>
    match up.receive fields with
    | .ok (input, _) => !admits s channelId auth input || namesParent s channelId input
    | .error _ => true
  | _ => true

structure Threaded (db : Tables) : Prop where
  keys : Lib.Table.Distinct MessageRow.id db.messages
  parents : ∀ r ∈ db.messages, ∀ t, r.threadId = some t →
    ∃ p ∈ db.messages, p.id = t ∧ p.channelId = r.channelId ∧ p.threadId = none

namespace Threaded

variable {db db' : Tables}

section

variable (h : Threaded db)

include h

theorem of_messages (heq : db'.messages = db.messages) : Threaded db' := by
  constructor
  · rw [heq]
    exact h.keys
  · rw [heq]
    exact h.parents

theorem parent_of {r p : MessageRow} (hr : r ∈ db.messages) (hp : p ∈ db.messages)
    (ht : r.threadId = some p.id) :
    p.channelId = r.channelId ∧ p.threadId = none := by
  obtain ⟨q, hq, hid, hparent⟩ := h.parents r hr p.id ht
  have hsame : some q = some p := by
    rw [← h.keys.lookup_eq hq, ← h.keys.lookup_eq hp, hid]
  cases hsame
  exact hparent

theorem append {row : MessageRow} (heq : db'.messages = db.messages ++ [row])
    (hfresh : db.hasMessage row.id = false)
    (hthread : ∀ t, row.threadId = some t → ∃ p ∈ db.messages, p.id = t ∧ p.channelId = row.channelId ∧ p.threadId = none) :
    Threaded db' := by
  constructor
  · rw [heq]
    exact h.keys.insert hfresh
  · intro r hr t ht
    rw [heq] at hr ⊢
    rcases List.mem_append.mp hr with hold | hnew
    · obtain ⟨p, hp, hparent⟩ := h.parents r hold t ht
      exact ⟨p, List.mem_append_left _ hp, hparent⟩
    · rw [List.mem_singleton.mp hnew] at ht ⊢
      obtain ⟨p, hp, hparent⟩ := hthread t ht
      exact ⟨p, List.mem_append_left _ hp, hparent⟩

theorem delete (ids : List String) : Threaded (db.deleteMessages ids) := by
  refine ⟨Tables.distinct_deleteMessages h.keys, ?_⟩
  intro r' hr' t ht
  rw [Tables.deleteMessages_messages] at hr' ⊢
  obtain ⟨r, hr, rfl⟩ := List.mem_map.mp hr'
  obtain ⟨hstored, hkept⟩ := List.mem_filter.mp hr
  rw [Tables.unlinkReply_threadId] at ht
  obtain ⟨p, hp, rfl, hchannel, htop⟩ := h.parents r hstored t ht
  have hparent : p.id ∉ db.deletedWith ids := by
    intro hgone
    have hwith := Tables.deletedWith_closed hstored ht hgone
    simp [hwith] at hkept
  refine ⟨Tables.unlinkReply (db.deletedWith ids) p, List.mem_map_of_mem (List.mem_filter.mpr
    ⟨hp, by simpa using hparent⟩), Tables.unlinkReply_id _ _, ?_, ?_⟩
  · rw [Replica.unlinkReply_channelId, Replica.unlinkReply_channelId, hchannel]
  · rw [Tables.unlinkReply_threadId, htop]

theorem update {id : String} {f : MessageRow → MessageRow}
    (hplaced : ∀ m, Db.Messages.placed (f m) = Db.Messages.placed m) :
    Threaded (db.updateMessage id f) := by
  have hrow : ∀ m : MessageRow, Db.Messages.placed (if m.id = id then f m else m) =
      Db.Messages.placed m := by
    intro m
    split
    · exact hplaced m
    · rfl
  simp only [Db.Messages.placed, Prod.mk.injEq] at hplaced hrow
  refine ⟨h.keys.update (fun m _ => (hplaced m).1), ?_⟩
  intro r' hr' t ht
  obtain ⟨r, hr, rfl⟩ := List.mem_map.mp hr'
  rw [(hrow r).2.2.2.2] at ht
  obtain ⟨p, hp, hid, hchannel, htop⟩ := h.parents r hr t ht
  refine ⟨_, List.mem_map_of_mem hp, (hrow p).1.trans hid, ?_, (hrow p).2.2.2.2.trans htop⟩
  rw [(hrow p).2.1, (hrow r).2.1, hchannel]

theorem channel_of_deletedWith {channelId : String} {ids : List String}
    (hroots : ∀ m ∈ db.messages, m.id ∈ ids → m.channelId = channelId) :
    ∀ n, ∀ r ∈ db.messages, r.id ∈ Tables.threadClosure db.messages n ids →
      r.channelId = channelId := by
  intro n
  induction n generalizing ids with
  | zero => exact hroots
  | succ n ih =>
    refine ih (fun m hm hid => ?_)
    rcases List.mem_append.mp hid with hroot | hreply
    · exact hroots m hm hroot
    · obtain ⟨r, hr, hsame, t, ht, hmem⟩ := Tables.mem_repliesTo hreply
      have hrow : some r = some m := by
        rw [← h.keys.lookup_eq hr, ← h.keys.lookup_eq hm, hsame]
      cases hrow
      obtain ⟨p, hp, rfl, hchannel, -⟩ := h.parents m hm t ht
      rw [← hchannel]
      exact hroots p hp hmem

theorem integrity : ThreadIntegrity db := by
  constructor
  · exact fun r hr _ t ht => h.parents r hr t ht
  · intro m hm r hr hgone
    refine h.channel_of_deletedWith (fun p hp hid => ?_) _ r hr hgone
    have hid : p.id = m.id := List.mem_singleton.mp (List.mem_filter.mp hid).1
    have hrow : some p = some m := by
      rw [← h.keys.lookup_eq hp, ← h.keys.lookup_eq hm, hid]
    cases hrow
    rfl
  · intro m hm
    have hsame : db.messages.filter (fun r => r.threadId = some m.id) = repliesIn db m := by
      refine List.filter_congr (fun r hr => ?_)
      rw [Bool.eq_iff_iff, Bool.and_eq_true, decide_eq_true_eq, decide_eq_true_eq]
      constructor
      · intro ht
        exact ⟨ht, (h.parent_of hr hm ht).1.symm⟩
      · exact fun hboth => hboth.1
    rw [Db.Messages.getThreadReplyCount, hsame]

end

end Threaded

section

variable {α : Type} {s : AppState} {channelId : String} {auth : AuthUser} {input : CreateMessage}

abbrev Kept (s : AppState) : Prop := Threaded s.db

theorem quiet_threaded : Quiet Threaded := by
  intro db db' heq h
  simp only [Replica.stored, Prod.mk.injEq] at heq
  exact h.of_messages heq.1

theorem keeps_assignColumn {value : Option α} {messageId : String}
    {set : α → MessageRow → MessageRow}
    (hset : ∀ v m, Db.Messages.placed (set v m) = Db.Messages.placed m) :
    (Db.Messages.assignColumn value messageId set).Maintains Kept := by
  cases value with
  | none => trivial
  | some v => exact keeps_update (fun s hs => hs.update (hset v))

theorem keeps_updateMessage (messageId : String) (input : UpdateMessage) :
    (Db.Messages.updateMessage messageId input).Maintains Kept := by
  refine Replica.keeps_read quiet_threaded (Prog.touches_get _) (fun now => ?_)
  have hcontent : ∀ content m, Db.Messages.placed (Db.Messages.setContent content now m) =
      Db.Messages.placed m := fun _ _ => rfl
  have hembeds : ∀ embeds m, Db.Messages.placed (Db.Messages.setEmbeds embeds now m) =
      Db.Messages.placed m := fun _ _ => rfl
  have htitle : ∀ title m, Db.Messages.placed (Db.Messages.setTitle title now m) =
      Db.Messages.placed m := fun _ _ => rfl
  refine (keeps_assignColumn hcontent).bind (fun _ _ => ?_)
  refine (keeps_assignColumn hembeds).bind (fun _ _ => ?_)
  refine (keeps_assignColumn htitle).bind (fun _ _ => ?_)
  exact keeps_lift (fun _ _ _ _ => trivial)

theorem keeps_editRemoteMessage (messageId : String) (content editedAt : Option String) :
    (Db.Messages.editRemoteMessage messageId content editedAt).Maintains Kept := by
  have hcontent : ∀ (content : String) m, Db.Messages.placed { m with content } =
      Db.Messages.placed m := fun _ _ => rfl
  have hedited : ∀ (editedAt : String) m, Db.Messages.placed { m with editedAt := some editedAt } =
      Db.Messages.placed m := fun _ _ => rfl
  exact (keeps_assignColumn hcontent).bind (fun _ _ => keeps_assignColumn hedited)

theorem parent_named {row : MessageRow} (hnames : namesParent s channelId input = true)
    (hchannel : row.channelId = channelId) (hthread : row.threadId = input.threadId)
    (hid : row.id = toString s.snowflake)
    (hrefs : Db.Messages.referencesExist s.db row = true) :
    ∀ t, row.threadId = some t →
      ∃ p ∈ s.db.messages, p.id = t ∧ p.channelId = row.channelId ∧ p.threadId = none := by
  intro t ht
  rw [hthread] at ht
  rw [namesParent, ht, Option.all_some] at hnames
  cases hparent : Lib.Table.lookup MessageRow.id t s.db.messages with
  | some p =>
    rw [hparent] at hnames
    simp only [Bool.and_eq_true, decide_eq_true_eq] at hnames
    exact ⟨p, Lib.Table.lookup_mem hparent, Lib.Table.lookup_key hparent,
      hnames.1.trans hchannel.symm, hnames.2⟩
  | none =>
    rw [hparent] at hnames
    simp only [Db.Messages.referencesExist, Bool.and_eq_true, hthread, ht, Option.all_some,
      Bool.or_eq_true, decide_eq_true_eq] at hrefs
    rcases hrefs.2 with hself | hstored
    · exact absurd (hself.trans hid) (of_decide_eq_true hnames)
    · obtain ⟨p, hp, hkey⟩ := Lib.Table.has_iff.mp hstored
      exact absurd hkey (Lib.Table.lookup_eq_none.mp hparent p hp)

theorem stays_created {β : Type} {authorId : String} {spaceId : Option String} {cooldownMs : Int}
    {f : MessageRow → App β} (hs : Kept s) (hnames : namesParent s channelId input = true)
    (hf : ∀ msg, (f msg).Maintains Kept) :
    (Db.Messages.createMessage channelId authorId spaceId input cooldownMs >>= f).Stays Kept s := by
  refine Db.Messages.stays_createMessage hs hs
    (fun mentions now createdAt row t hrow ht hrefs hfresh => ?_)
  have hkept : Kept t := by
    rw [ht]
    refine hs.append (Db.Messages.storeMessage_messages row now s.db) hfresh ?_
    refine parent_named hnames ?_ ?_ ?_ hrefs
    · rw [hrow, Db.Messages.localRow]
    · rw [hrow, Db.Messages.localRow]
    · rw [hrow, Db.Messages.localRow]
  exact ⟨hkept, (hf row).stays hkept⟩

theorem keeps_unfurl (channel : ChannelRow) (messageId : String) (embeds : Json) :
    (unfurl channel messageId embeds).Maintains Kept := by
  refine (keeps_ok? (keeps_updateMessage _ _)).bind (fun updated _ => ?_)
  cases updated with
  | none => trivial
  | some updated =>
    refine Replica.keeps_read quiet_threaded (touches_found? _) (fun attachments => ?_)
    exact keeps_quiet quiet_threaded (touches_broadcastTo _ _ _ _) (by decide)

theorem stays_createLocal {channel : ChannelRow} {unfurled : Option Json} (hs : Kept s)
    (hnames : namesParent s channel.id input = true) :
    (createLocal channel auth input unfurled).Stays Kept s := by
  refine stays_checked hs (fun cooldownMs _ => ?_)
  refine stays_created hs hnames (fun msg => ?_)
  refine keeps_then quiet_threaded (touches_applyMentionCounts _) (by decide) (fun _ => ?_)
  dsimp only
  refine Replica.keeps_read quiet_threaded (touches_directTargets _) (fun targets => ?_)
  refine keeps_then quiet_threaded (touches_broadcastTo _ _ _ _) (by decide) (fun _ => ?_)
  refine keeps_then quiet_threaded
    (touches_whenSome (fun _ => touches_broadcastThreadParent _ _)) (by decide) (fun _ => ?_)
  refine keeps_then quiet_threaded (touches_fanoutCreated _ _ _) (by decide) (fun _ => ?_)
  refine Prog.Keeps.bind (Q := fun _ => True) ?_ (fun _ _ => trivial)
  cases unfurled with
  | none => trivial
  | some embeds => exact keeps_unfurl _ _ _

theorem checkContent_guard :
    (checkContent input).Keeps (fun t => t = s) (fun _ => (checkContent input).Succeeds s) := by
  refine Prog.keeps_require.bind (fun _ hcontent => ?_)
  refine Prog.keeps_require.bind (fun _ hnamed => ?_)
  refine Prog.keeps_require.bind (fun _ htitle => ?_)
  refine Prog.keeps_require.mono (fun _ hembeds => ?_)
  exact ⟨(), s, checkContent_ok.mpr ⟨⟨hcontent, hnamed, htitle, hembeds⟩, rfl⟩⟩

theorem admits_of {spaceId : String} {u : Unit}
    (hsend : requireChannelPermission channelId auth "send_messages" s.db = .ok spaceId)
    (htimely : (Reactions.requireNotTimedOutIn spaceId auth).Succeeds s)
    (hthread : requireThreadPermission channelId auth input s.db = .ok u) :
    admits s channelId auth input = true := by
  simp only [admits, hsend, hthread, htimely, decide_true, Bool.true_and]
  rfl

theorem stays_post {reply : Except AppError Response} {unfurled : Option Json} (hs : Kept s)
    (hnames : storesHere s channelId auth input = true → namesParent s channelId input = true) :
    (createMessage channelId auth input reply unfurled).Stays Kept s := by
  refine stays_checked hs (fun spaceId hsend => ?_)
  refine Prog.stays_guard hs Replica.notTimedOut_guard (fun _ htimely => ?_)
  refine stays_checked hs (fun _ hthread => ?_)
  have hadmits := admits_of hsend htimely hthread
  refine Prog.stays_guard hs checkContent_guard (fun _ hcontent => ?_)
  refine stays_checked hs (fun channel hchannel => stays_checked hs (fun home hhome => ?_))
  cases home with
  | some home =>
    refine stays_checked hs (fun author _ => ?_)
    exact (keeps_quiet quiet_threaded (touches_forwardMessage _ _ _ _ _ _) (by decide)).stays hs
  | none =>
    refine stays_checked hs (fun direct hdirect => ?_)
    cases direct with
    | some home =>
      refine stays_checked hs (fun author _ => ?_)
      exact (keeps_quiet quiet_threaded (touches_forwardDmMessage _ _ _ _ _ _)
        (by decide)).stays hs
    | none =>
      have hhomed : homedHere channelId s.db = .ok true := by
        refine (Query.bind_ok s.db).mpr ⟨channel, hchannel, ?_⟩
        refine (Query.bind_ok s.db).mpr ⟨none, hhome, ?_⟩
        exact (Query.bind_ok s.db).mpr ⟨none, hdirect, rfl⟩
      apply stays_createLocal hs
      rw [(Channels.getChannelRow_ok hchannel).2]
      apply hnames
      simp [storesHere, hadmits, hcontent, hhomed, Except.toOption]

theorem stays_store {up : Uploads} {channel : ChannelRow} {files : List UploadFile}
    {cooldownMs : Int} (hs : Kept s) (hnames : namesParent s channel.id input = true) :
    (up.store channel auth input files cooldownMs).Stays Kept s := by
  unfold Uploads.store
  extract_lets rest
  have hrest : ∀ held : Bool, (rest held).Stays Kept s := by
    intro held
    refine stays_created hs hnames (fun msg => ?_)
    refine Prog.keeps_ite ?_ trivial
    refine keeps_then quiet_threaded (touches_enqueue up _ _ _ _).attempt (by decide)
      (fun queued => ?_)
    cases queued with
    | ok ids => trivial
    | error e => exact (keeps_update (fun s hs => hs.delete _)).bind (fun _ _ => trivial)
  split
  · exact hrest false
  · exact Prog.stays_guard hs (Prog.keeps_ofExcept (Q := fun _ => True) (fun _ _ => trivial))
      (fun held _ => hrest held)

theorem stays_upload {up : Uploads} {fields : List Field} (hs : Kept s)
    (hnames : ∀ input files, up.receive fields = .ok (input, files) →
      admits s channelId auth input = true → namesParent s channelId input = true) :
    (createMessageMultipart up channelId auth fields).Stays Kept s := by
  refine stays_checked hs (fun spaceId hsend => ?_)
  refine Prog.stays_guard hs Replica.notTimedOut_guard (fun _ htimely => ?_)
  have hform : (MonadLiftT.monadLift (up.receive fields) : App _).Keeps (fun t => t = s)
      (fun a => up.receive fields = .ok a) := Prog.keeps_ofExcept (fun _ h => h)
  refine Prog.stays_guard hs hform (fun received hreceived => ?_)
  obtain ⟨input, files⟩ := received
  refine stays_checked hs (fun _ hthread => stays_checked hs (fun channel hchannel => ?_))
  have hparent := hnames input files hreceived (admits_of hsend htimely hthread)
  rw [← (Channels.getChannelRow_ok hchannel).2] at hparent
  refine stays_checked hs (fun cooldownMs _ => ?_)
  refine Prog.Stays.bind (R := fun _ => True) (stays_store hs hparent) (fun stored => ?_)
  obtain ⟨msg, held, pendingIds⟩ := stored
  dsimp only
  refine keeps_then quiet_threaded (touches_applyMentionCounts _) (by decide) (fun _ => ?_)
  have hannounce : ∀ attachments, (broadcastTo channel none "message.create"
      (messageRowToJson msg attachments) >>= fun _ =>
        (pure (Json.obj [("data", messageRowToJson msg attachments),
          ("pending_attachments", .strings pendingIds)]) : App Json)).Maintains Kept := by
    intro attachments
    exact keeps_then quiet_threaded (touches_broadcastTo _ _ _ _) (by decide) (fun _ => trivial)
  refine Prog.keeps_ite (hannounce _) ?_
  exact keeps_then quiet_threaded (touches_saveFiles _ _ _ _) (by decide)
    (fun attachments => hannounce _)

theorem threaded_announce {authorId spaceId content messageType : String} (hs : Kept s) :
    Kept ((Db.Messages.createSystemMessage channelId authorId spaceId content messageType).exec
      s).2 := by
  cases hfits : Db.Messages.systemStorable s (Db.Messages.systemRow (toString s.snowflake)
      channelId authorId spaceId content messageType s.now) with
  | true =>
    have happends := Db.Messages.createSystemMessage_appends hfits
    simp only [Db.Messages.systemStorable, Bool.and_eq_true, Bool.not_eq_true'] at hfits
    refine hs.append happends.messages hfits.1 (fun t ht => ?_)
    cases ht
  | false => exact hs.of_messages (congrArg _ (Db.Messages.createSystemMessage_refused hfits))

theorem threaded_mirror {msg : RemoteMessageInsert} (hs : Kept s) :
    Kept ((Db.Messages.insertRemoteMessage msg).exec s).2 := by
  cases hfits : Db.Messages.storable s.db msg with
  | true =>
    have happends := Db.Messages.insertRemoteMessage_appends hfits
    simp only [Db.Messages.storable, Bool.and_eq_true, Bool.not_eq_true'] at hfits
    refine hs.append happends.messages hfits.1 (fun t ht => ?_)
    cases ht
  | false => exact hs.of_messages (congrArg _ (Db.Messages.insertRemoteMessage_refused hfits))

theorem threaded_relay {authorId content : String} {spaceId replyTo : Option String} (hs : Kept s) :
    Kept ((Db.Messages.createMessage channelId authorId spaceId { content, replyTo } 0).exec
      s).2 := by
  have hstays : (Db.Messages.createMessage channelId authorId spaceId { content, replyTo } 0 >>=
      pure).Stays Kept s := stays_created hs rfl (fun _ => trivial)
  rw [bind_pure] at hstays
  exact hstays.exec

theorem threaded_served {op : Operation} (hs : Kept s) (h : answersHere s op = true) :
    Kept (served s op) := by
  cases op with
  | post channelId auth input reply unfurled =>
    refine (stays_post hs (fun hstores => ?_)).exec
    simpa [answersHere, hstores] using h
  | upload up channelId auth fields =>
    refine (stays_upload hs (fun input files hreceived hadmits => ?_)).exec
    simpa [answersHere, hreceived, hadmits] using h
  | relay channelId authorId spaceId content replyTo => exact threaded_relay hs
  | announce channelId authorId spaceId content messageType => exact threaded_announce hs
  | mirror msg => exact threaded_mirror hs
  | edit messageId input => exact ((keeps_updateMessage messageId input).exec hs).1
  | editMirrored messageId content editedAt =>
    exact ((keeps_editRemoteMessage messageId content editedAt).exec hs).1
  | remove messageIds => exact hs.delete messageIds

end

theorem threads_kept (s : AppState) (hstart : Threaded s.db) (ops : List Operation)
    (h : Lib.meets step answersHere s ops = true) :
    Lib.Always step (fun s => ThreadIntegrity s.db) s ops := by
  have hkeep : ∀ s op t, Kept s → answersHere s op = true → step s op = some t → Kept t := by
    intro s op t hs hanswers hstep
    cases hstep
    exact threaded_served hs hanswers
  exact Lib.always_of_meets hkeep (fun s hs => hs.integrity) hstart h

def eve : AuthUser := { userId := "2" }

def twoRooms : AppState where
  db :=
    { users := [{ id := "1", username := "ann" }, { id := "2", username := "eve" }]
      spaces := [{ id := "10", name := "here", ownerId := "1" }]
      channels := [{ id := "11", spaceId := some "10" }, { id := "12", spaceId := some "10" }]
      roles :=
        [{ id := "4", spaceId := "10", name := "@everyone"
           permissions := ["view_channel", "send_messages", "send_in_threads"] }]
      members := [{ userId := "2", spaceId := "10" }]
      messages :=
        [{ id := "13", channelId := "11", spaceId := some "10", authorId := "1"
           content := "hi" }] }
  ext := Externals.fixed "2026-01-01 00:00:00"
  snowflake := 20

def answer (channelId : String) : Operation :=
  .post channelId eve { content := "hello", threadId := some "13" } (.error (.internal "no answer"))
    none

theorem twoRooms_threaded : Threaded twoRooms.db := by
  constructor
  · simp [Lib.Table.Distinct, twoRooms]
  · decide

theorem answered_in_place : Lib.Always step (fun s => ThreadIntegrity s.db) twoRooms
    [answer "11", .announce "12" "1" "10" "joined" "member_join", .remove ["13"]] :=
  threads_kept twoRooms twoRooms_threaded _ (by decide +kernel)

theorem answered_elsewhere : Threaded twoRooms.db ∧
    ¬ Lib.Always step (fun s => ThreadIntegrity s.db) twoRooms [answer "12"] := by
  refine ⟨twoRooms_threaded, ?_⟩
  intro h
  have hintegrity : ThreadIntegrity (served twoRooms (answer "12")).db := h.2 _ rfl
  have hcount := hintegrity.counted
  exact absurd hcount (by decide +kernel)

end Vokusz.Routes.Threads
