import Vokusz.Automod.Footprint

namespace Vokusz.Unfurl

def maxUrls : Nat := 5

def isLink (word : String) : Bool :=
  (Federation.Outbound.startsWith "http://" word ||
    Federation.Outbound.startsWith "https://" word) && word.toList.contains '.'

def trimDelimiters (word : List Char) : String :=
  String.ofList (Text.stripEnds (fun c => "<>()[]\"'".toList.contains c) word)

def extractUrls (content : String) : List String :=
  (((Text.splitWhitespace content.toList).map trimDelimiters).filter isLink).take maxUrls

def unfurlMessageUrls (preview : String → Option Json) (content : String) : List Json :=
  (extractUrls content).filterMap preview

theorem unfurlMessageUrls_length (preview : String → Option Json) (content : String) :
    (unfurlMessageUrls preview content).length ≤ maxUrls :=
  (List.length_filterMap_le _ _).trans (List.length_take_le _ _)

end Vokusz.Unfurl

namespace Vokusz.Mcp

open Db Federation Routes.Messages

def toolSendMessage (channelId content : String) (replyTo : Option String) : App Json := do
  let channel ← Channels.getChannelRow channelId
  let systemUserId ← Users.getOrCreateSystemUser
  let msg ← Db.Messages.createMessage channelId systemUserId channel.spaceId
    { content := content, replyTo := replyTo } 0
  broadcastTo channel none "message.create"
    (.obj [("id", .str msg.id), ("channel_id", .str msg.channelId),
      ("space_id", .ofOption msg.spaceId), ("author_id", .str msg.authorId),
      ("content", .str msg.content), ("type", .str msg.messageType),
      ("timestamp", .str msg.createdAt)])
  return .obj [("id", .str msg.id), ("channel_id", .str msg.channelId),
    ("content", .str msg.content), ("created_at", .str msg.createdAt)]

end Vokusz.Mcp

namespace Vokusz.Routes.ContentLimits

open App Db Federation Messages Permissions
open Db.Messages (CreateMessage UpdateMessage)
open Lib (Prog)

inductive Write where
  | create (channelId : String) (auth : AuthUser) (input : CreateMessage)
      (reply : Except AppError Response) (preview : Option (String → Option Json))
  | createMultipart (up : Uploads) (channelId : String) (auth : AuthUser) (fields : List Field)
  | update (channelId messageId : String) (auth : AuthUser) (input : UpdateMessage)
      (reply : Except AppError Response)
  | send (ourDomain peer : String) (req : Forward.SendRequest)
  | edit (ourDomain peer : String) (req : Forward.EditRequest)
  | dmSend (ourDomain peer : String) (req : Dm.DmSendRequest)
  | toolSend (channelId content : String) (replyTo : Option String)

def unfurled (input : CreateMessage) (preview : Option (String → Option Json)) : Option Json :=
  preview.bind (fun preview =>
    let embeds := Unfurl.unfurlMessageUrls preview input.content
    if input.embeds.all (fun own => ((own.asArray?).getD []).isEmpty) && !embeds.isEmpty then
      some (.arr embeds)
    else none)

def program : Write → App Json
  | .create channelId auth input reply preview =>
    createMessage channelId auth input reply (unfurled input preview)
  | .createMultipart up channelId auth fields => createMessageMultipart up channelId auth fields
  | .update channelId messageId auth input reply =>
    updateMessage channelId messageId auth input reply
  | .send ourDomain peer req => Forward.serveSend ourDomain peer req
  | .edit ourDomain peer req => Forward.serveEdit ourDomain peer req
  | .dmSend ourDomain peer req => Dm.serveSend ourDomain peer req
  | .toolSend channelId content replyTo => Mcp.toolSendMessage channelId content replyTo

def federated : Write → Bool
  | .send .. | .edit .. | .dmSend .. => true
  | _ => false

def contentWithin (federated : Bool) (content : String) : Bool :=
  if federated then content.length ≤ 4000 else content.utf8ByteSize ≤ 4000

def embedCount (embeds : Json) : Nat := ((embeds.asArray?).getD []).length

def titleWithin (title : String) : Bool := title ≠ "" && title.length ≤ 100

structure Limited (federated : Bool) (m : MessageRow) : Prop where
  content : contentWithin federated m.content = true
  embeds : embedCount m.embeds ≤ 10
  title : ∀ title ∈ m.title, titleWithin title = true

structure Ledger where
  app : AppState
  byPeer : String → Bool

def localContent (db : Tables) (id : String) : Option String :=
  ((Lib.Table.lookup MessageRow.id id db.messages).filter (fun m => m.origin.isNone)).map
    MessageRow.content

def Ledger.next (l : Ledger) (w : Write) : Ledger :=
  let app := ((program w).exec l.app).2
  { app := app
    byPeer := fun id =>
      if localContent app.db id = localContent l.app.db id then l.byPeer id else federated w }

def Ledger.Sound (l : Ledger) : Prop :=
  ∀ id m, Lib.Table.lookup MessageRow.id id l.app.db.messages = some m → m.origin = none →
    Limited (l.byPeer id) m

def inputWithin (input : CreateMessage) : Bool :=
  contentWithin false input.content && input.embeds.all (fun e => embedCount e ≤ 10) &&
    input.title.all titleWithin

def servedHere (db : Tables) (messageId : String) : Bool :=
  match Lib.Table.lookup MessageRow.id messageId db.messages with
  | some existing => (homeOfMessage existing db).toOption = some none
  | none => false

def editWithin (input : UpdateMessage) : Bool :=
  input.content.all (contentWithin false) && input.embeds.all (fun e => embedCount e ≤ 10) &&
    input.title.all (fun t => t ≠ "")

def withinLimits (l : Ledger) : Write → Bool
  | .createMultipart up _ _ fields =>
    match up.receive fields with
    | .ok (input, _) => inputWithin input
    | .error _ => true
  | .update _ messageId _ input _ => !servedHere l.app.db messageId || editWithin input
  | .toolSend _ content _ => contentWithin false content
  | _ => true

section

structure Carried (fed : Bool) (start : Tables) (id : String) (m : MessageRow) : Prop where
  content : (∃ old, Lib.Table.lookup MessageRow.id id start.messages = some old ∧
      old.content = m.content ∧ old.origin = m.origin) ∨ contentWithin fed m.content = true
  embeds : m.origin = none → embedCount m.embeds ≤ 10
  title : m.origin = none → ∀ title ∈ m.title, titleWithin title = true

def Carries (fed : Bool) (start : Tables) (s : AppState) : Prop :=
  ∀ id m, Lib.Table.lookup MessageRow.id id s.db.messages = some m → Carried fed start id m

variable {fed : Bool} {start : Tables} {s t : AppState} {α β : Type}

theorem Carries.of_messages (h : Carries fed start s) (heq : t.db.messages = s.db.messages) :
    Carries fed start t := by
  intro id m hm
  rw [heq] at hm
  exact h id m hm

theorem keeps_untouched {slots : List Slot} {p : App α} (h : Touches slots p)
    (hm : Slot.messages ∉ slots) : p.Maintains (Carries fed start) :=
  (h .messages hm).keeps (fun _ _ heq hs => hs.of_messages heq)

theorem keeps_silent {p : App α} (h : Touches [] p) : p.Maintains (Carries fed start) :=
  keeps_untouched h (by simp)

theorem keeps_read (q : Query α) :
    (MonadLiftT.monadLift q : App α).Maintains (Carries fed start) :=
  keeps_lift (fun _ _ _ _ => trivial)

theorem keeps_get (f : AppState → α) :
    (Prog.get f : App α).Maintains (Carries fed start) :=
  Prog.keeps_get (fun _ _ => trivial)

theorem Carries.append {row : MessageRow} (h : Carries fed start s) (hrow : ∀ id, Carried fed start id row)
    (hmessages : t.db.messages = s.db.messages ++ [row]) : Carries fed start t := by
  intro id m hm
  rw [hmessages, Lib.Table.lookup_append] at hm
  cases hold : Lib.Table.lookup MessageRow.id id s.db.messages with
  | some old =>
    simp only [hold, Option.some_or, Option.some.injEq] at hm
    exact h id m (hm ▸ hold)
  | none =>
    simp only [hold, Option.none_or] at hm
    split at hm
    · cases hm
      exact hrow id
    · cases hm

theorem keeps_createMessage {channelId authorId : String} {spaceId : Option String}
    {input : CreateMessage} {cooldownMs : Int}
    (hcontent : contentWithin fed input.content = true)
    (hembeds : ∀ e ∈ input.embeds, embedCount e ≤ 10)
    (htitle : ∀ title ∈ input.title, titleWithin title = true) :
    (Db.Messages.createMessage channelId authorId spaceId input cooldownMs).Maintains
      (Carries fed start) := by
  refine (keeps_untouched touches_generateId (by decide)).bind (fun id _ => ?_)
  have hmentions : ∀ usernames, Touches [] (Db.Messages.mentionedUsers spaceId usernames) :=
    fun _ _ _ => Db.Messages.preserves_mentionedUsers _ _
  refine (keeps_untouched (hmentions _) (by decide)).bind (fun mentions _ => ?_)
  refine (keeps_get _).bind (fun now _ => ?_)
  refine (keeps_get _).bind (fun createdAt _ => ?_)
  have hinsert : (App.execute (Db.Messages.insertMessage (Db.Messages.localRow id channelId authorId
      spaceId input mentions createdAt) (max cooldownMs 0) now)).Maintains (Carries fed start) := by
    refine Prog.keeps_statement (fun s hs => ?_) (fun _ _ _ _ => trivial)
    rcases Db.Messages.insertMessage_cases (Db.Messages.localRow id channelId authorId spaceId input
      mentions createdAt) (max cooldownMs 0) now s.db with ⟨e, he⟩ | ⟨hok, -⟩
    · rw [he]
      exact hs
    · rw [hok]
      refine hs.append (fun _ => ?_) (Db.Messages.storeMessage_messages _ _ _)
      refine ⟨.inr hcontent, fun _ => ?_, fun _ => htitle⟩
      cases hown : input.embeds with
      | none => simp [Db.Messages.localRow, hown, embedCount, Json.asArray?]
      | some e => simpa [Db.Messages.localRow, hown] using hembeds e hown
  exact hinsert.bind (fun _ _ => keeps_read _)

theorem keeps_assignColumn {γ : Type} {value : Option γ} {messageId : String}
    {set : γ → MessageRow → MessageRow} (hid : ∀ v m, (set v m).id = m.id)
    (hset : ∀ v ∈ value, ∀ id m, Carried fed start id m → Carried fed start id (set v m)) :
    (Db.Messages.assignColumn value messageId set).Maintains (Carries fed start) := by
  cases value with
  | none => trivial
  | some v =>
    refine keeps_update (fun s hs id m hm => ?_)
    by_cases hrow : id = messageId
    · rw [hrow] at hm ⊢
      change Lib.Table.lookup MessageRow.id messageId
        (Lib.Table.update MessageRow.id messageId (set v) s.db.messages) = some m at hm
      rw [Lib.Table.lookup_update (fun r hr => (hid v r).trans hr)] at hm
      obtain ⟨old, hold, rfl⟩ := Option.map_eq_some_iff.mp hm
      exact hset v rfl messageId old (hs messageId old hold)
    · refine hs id m ?_
      change Lib.Table.lookup MessageRow.id id
        (Lib.Table.update MessageRow.id messageId (set v) s.db.messages) = some m at hm
      rwa [Lib.Table.lookup_update_ne hrow (fun r hr => (hid v r).trans hr)] at hm

theorem keeps_updateMessage {messageId : String} {input : UpdateMessage}
    (hcontent : ∀ c ∈ input.content, contentWithin fed c = true)
    (hembeds : ∀ e ∈ input.embeds, embedCount e ≤ 10)
    (htitle : ∀ title ∈ input.title, titleWithin title = true) :
    (Db.Messages.updateMessage messageId input).Maintains (Carries fed start) := by
  refine (keeps_get _).bind (fun now _ => ?_)
  refine Prog.Keeps.bind (Q := fun _ => True) (keeps_assignColumn (fun _ _ => rfl) ?_)
    (fun _ _ => ?_)
  · intro c hc id m hm
    exact ⟨.inr (hcontent c hc), hm.embeds, hm.title⟩
  refine Prog.Keeps.bind (Q := fun _ => True) (keeps_assignColumn (fun _ _ => rfl) ?_)
    (fun _ _ => ?_)
  · intro e he id m hm
    exact ⟨hm.content, fun _ => hembeds e he, hm.title⟩
  refine Prog.Keeps.bind (Q := fun _ => True) (keeps_assignColumn (fun _ _ => rfl) ?_)
    (fun _ _ => keeps_read _)
  intro title ht id m hm
  refine ⟨hm.content, hm.embeds, fun _ other hother => ?_⟩
  cases hother
  exact htitle title ht

theorem keeps_deleteMessage (messageId : String) :
    (Db.Messages.deleteMessage messageId).Maintains (Carries fed start) := by
  refine keeps_update (fun s hs id m hm => ?_)
  change Lib.Table.lookup MessageRow.id id (s.db.deleteMessages [messageId]).messages = some m at hm
  by_cases hgone : id ∈ s.db.deletedWith [messageId]
  · rw [Tables.deleteMessages_messages, Tables.lookup_map_unlinkReply] at hm
    obtain ⟨r, hr, -⟩ := Option.map_eq_some_iff.mp hm
    have hkept := (List.mem_filter.mp (Lib.Table.lookup_mem hr)).2
    rw [Lib.Table.lookup_key hr] at hkept
    simp [hgone] at hkept
  · cases hold : Lib.Table.lookup MessageRow.id id s.db.messages with
    | none =>
      rw [Tables.deleteMessages_messages, Tables.lookup_map_unlinkReply] at hm
      obtain ⟨r, hr, -⟩ := Option.map_eq_some_iff.mp hm
      exact absurd (Lib.Table.lookup_key hr) (Lib.Table.lookup_eq_none.mp hold r
        (List.mem_filter.mp (Lib.Table.lookup_mem hr)).1)
    | some old =>
      rw [Tables.lookup_deleteMessages hold hgone] at hm
      cases hm
      have hcarried := hs id old hold
      unfold Tables.unlinkReply
      split
      · exact ⟨hcarried.content, hcarried.embeds, hcarried.title⟩
      · exact hcarried

end

section

variable {start : Tables}

theorem keeps_createLocal {channel : ChannelRow} {auth : AuthUser} {input : CreateMessage}
    {preview : Option (String → Option Json)} (hinput : WithinLimits input) :
    (createLocal channel auth input (unfurled input preview)).Maintains (Carries false start) := by
  have htitle : ∀ title ∈ input.title, titleWithin title = true := by
    intro title ht
    have hbytes := (Text.length_le_utf8ByteSize title).trans (hinput.title title ht)
    simp [titleWithin, hinput.titled title ht, hbytes]
  have hpreviews : ∀ e, unfurled input preview = some e → embedCount e ≤ 10 := by
    intro e he
    obtain ⟨find, -, he⟩ := Option.bind_eq_some_iff.mp he
    dsimp only at he
    split at he
    · cases he
      exact (Unfurl.unfurlMessageUrls_length find input.content).trans (by decide)
    · cases he
  refine (keeps_read _).bind (fun cooldownMs _ => ?_)
  refine (keeps_createMessage (by simpa [contentWithin] using hinput.content) hinput.embeds
    htitle).bind (fun msg _ => ?_)
  refine (keeps_untouched (touches_applyMentionCounts _) (by decide)).bind (fun _ _ => ?_)
  refine (keeps_silent (touches_directTargets _)).bind (fun targets _ => ?_)
  refine (keeps_untouched (touches_broadcastTo _ _ _ _) (by decide)).bind (fun _ _ => ?_)
  refine (keeps_untouched (touches_whenSome
    (fun _ => touches_broadcastThreadParent _ _)) (by decide)).bind (fun _ _ => ?_)
  refine (keeps_untouched (touches_fanoutCreated _ _ _) (by decide)).bind (fun _ _ => ?_)
  refine Prog.Keeps.bind (Q := fun _ => True) ?_ (fun _ _ => trivial)
  cases hshown : unfurled input preview with
  | none => trivial
  | some e =>
    refine (keeps_ok? (keeps_updateMessage (by simp) ?_ (by simp))).bind (fun updated _ => ?_)
    · intro embeds hembeds
      cases hembeds
      exact hpreviews e hshown
    · cases updated with
      | none => trivial
      | some updated =>
        refine (keeps_silent (touches_found? _)).bind (fun attachments _ => ?_)
        exact keeps_untouched (touches_broadcastTo _ _ _ _) (by decide)

theorem keeps_create (channelId : String) (auth : AuthUser) (input : CreateMessage)
    (reply : Except AppError Response) (preview : Option (String → Option Json)) :
    (createMessage channelId auth input reply (unfurled input preview)).Maintains
      (Carries false start) := by
  refine (keeps_read _).bind (fun spaceId _ => ?_)
  refine (keeps_silent
    (Reactions.touches_requireNotTimedOutIn _ _)).bind (fun _ _ => ?_)
  refine (keeps_read _).bind (fun _ _ => ?_)
  have hcheck : (checkContent input).Keeps (Carries false start) (fun _ => WithinLimits input) := by
    refine Prog.keeps_require.bind (fun _ hcontent => ?_)
    refine Prog.keeps_require.bind (fun _ htitled => ?_)
    refine Prog.keeps_require.bind (fun _ htitle => ?_)
    exact Prog.keeps_require.mono (fun _ hembeds => ⟨hcontent, htitled, htitle, hembeds⟩)
  refine hcheck.bind (fun _ hinput => ?_)
  refine (keeps_read _).bind (fun channel _ => ?_)
  refine (keeps_read _).bind (fun home _ => ?_)
  cases home with
  | some home =>
    refine (keeps_read _).bind (fun author _ => ?_)
    exact keeps_untouched (touches_forwardMessage _ _ _ _ _ _) (by decide)
  | none =>
    refine (keeps_read _).bind (fun home _ => ?_)
    cases home with
    | some home =>
      refine (keeps_read _).bind (fun author _ => ?_)
      exact keeps_untouched (touches_forwardDmMessage _ _ _ _ _ _) (by decide)
    | none => exact keeps_createLocal hinput

theorem keeps_createMultipart (up : Uploads) (channelId : String) (auth : AuthUser)
    (fields : List Field)
    (hinput : ∀ input files, up.receive fields = .ok (input, files) → inputWithin input = true) :
    (createMessageMultipart up channelId auth fields).Maintains (Carries false start) := by
  refine (keeps_read _).bind (fun spaceId _ => ?_)
  refine (keeps_silent
    (Reactions.touches_requireNotTimedOutIn _ _)).bind (fun _ _ => ?_)
  have hreceive : (MonadLiftT.monadLift (up.receive fields) : App _).Keeps (Carries false start)
      (fun r => up.receive fields = .ok r) := Prog.keeps_ofExcept (fun _ h => h)
  refine hreceive.bind (fun received hreceived => ?_)
  obtain ⟨input, files⟩ := received
  have hwithin := hinput input files hreceived
  simp only [inputWithin, Bool.and_eq_true, Option.all_eq_true, decide_eq_true_eq] at hwithin
  obtain ⟨⟨hcontent, hembeds⟩, htitle⟩ := hwithin
  dsimp only
  refine (keeps_read _).bind (fun _ _ => ?_)
  refine (keeps_read _).bind (fun channel _ => ?_)
  refine (keeps_read _).bind (fun cooldownMs _ => ?_)
  have hstore : (up.store channel auth input files cooldownMs).Maintains (Carries false start) := by
    unfold Uploads.store
    extract_lets rest
    have hrest : ∀ held : Bool, (rest held).Maintains (Carries false start) := by
      intro held
      refine (keeps_createMessage hcontent hembeds htitle).bind (fun msg _ => ?_)
      refine Prog.keeps_ite ?_ trivial
      refine (keeps_untouched (touches_enqueue up _ _ _ _).attempt (by decide)).bind
        (fun queued _ => ?_)
      cases queued with
      | ok ids => trivial
      | error e => exact (keeps_deleteMessage _).bind (fun _ _ => trivial)
    refine Prog.keeps_ite (hrest false) ?_
    have hpreflight : (MonadLiftT.monadLift up.preflight : App Bool).Maintains (Carries false start) := Prog.keeps_ofExcept (fun _ _ => trivial)
    exact hpreflight.bind (fun held _ => hrest held)
  refine hstore.bind (fun stored _ => ?_)
  obtain ⟨msg, held, pendingIds⟩ := stored
  dsimp only
  refine (keeps_untouched (touches_applyMentionCounts _) (by decide)).bind (fun _ _ => ?_)
  refine Prog.keeps_ite ?_ ?_
  · exact (keeps_untouched (touches_broadcastTo _ _ _ _) (by decide)).bind (fun _ _ => trivial)
  · refine (keeps_untouched (touches_saveFiles up _ _ _) (by decide)).bind (fun attachments _ => ?_)
    exact (keeps_untouched (touches_broadcastTo _ _ _ _) (by decide)).bind (fun _ _ => trivial)

theorem servedHere_of {db : Tables} {channelId messageId : String} {existing : MessageRow}
    (hexisting : messageIn channelId messageId db = .ok existing)
    (hhome : homeOfMessage existing db = .ok none) : servedHere db messageId = true := by
  obtain ⟨row, hrow, hrest⟩ := (Query.bind_ok db).mp hexisting
  obtain ⟨_, _, hsame⟩ := (Query.bind_ok db).mp hrest
  cases hsame
  rw [servedHere, Db.Messages.getMessageRow_ok.mp hrow]
  simp [hhome, Except.toOption]

theorem keeps_update {s : AppState} (channelId messageId : String) (auth : AuthUser)
    (input : UpdateMessage) (reply : Except AppError Response) (hs : Carries false start s)
    (hinput : servedHere s.db messageId = true → editWithin input = true) :
    Carries false start ((updateMessage channelId messageId auth input reply).exec s).2 := by
  have hstays : (updateMessage channelId messageId auth input reply).Stays (Carries false start)
      s := by
    refine stays_checked hs (fun _ _ => ?_)
    refine stays_checked hs (fun existing hexisting => ?_)
    refine stays_checked hs (fun home hhome => ?_)
    cases home with
    | some home => exact (keeps_untouched (touches_forwardUpdate _ _ _ _ _) (by decide)).stays hs
    | none =>
      have hwithin := hinput (servedHere_of hexisting hhome)
      simp only [editWithin, Bool.and_eq_true, Option.all_eq_true, decide_eq_true_eq] at hwithin
      obtain ⟨⟨hcontent, hembeds⟩, hnamed⟩ := hwithin
      refine Prog.Keeps.stays (Q := fun _ => True) ?_ hs
      refine (keeps_read _).bind (fun _ _ => ?_)
      refine Prog.keeps_require.bind (fun _ htitle => ?_)
      refine (keeps_updateMessage hcontent hembeds (fun title ht => ?_)).bind (fun msg _ => ?_)
      · have hbytes := (Text.length_le_utf8ByteSize title).trans (htitle title ht)
        simp [titleWithin, hnamed title ht, hbytes]
      refine (keeps_read _).bind (fun attachments _ => ?_)
      refine (keeps_read _).bind (fun channel _ => ?_)
      refine (keeps_untouched (touches_broadcastSpace _ _ _ _) (by decide)).bind (fun _ _ => ?_)
      exact (keeps_untouched (touches_fanoutChange _ _ _) (by decide)).bind (fun _ _ => trivial)
  exact hstays.exec

theorem keeps_serveSend (ourDomain peer : String) (req : Forward.SendRequest) :
    (Forward.serveSend ourDomain peer req).Maintains (Carries true start) := by
  refine (keeps_silent (touches_liftExcept _)).bind (fun _ _ => ?_)
  refine Prog.keeps_require.bind (fun _ hcontent => ?_)
  refine Prog.Keeps.bind (Q := fun _ => True) ?_ (fun _ _ => ?_)
  · refine (keeps_untouched (Users.touches_upsertRemoteUser _ _ _ _ _) (by decide)).bind
      (fun _ _ => trivial)
  refine (keeps_read _).bind (fun spaceId _ => ?_)
  refine (keeps_createMessage (by simpa [contentWithin] using hcontent) (by simp)
    (by simp)).bind (fun msg _ => ?_)
  refine (keeps_read _).bind (fun author _ => ?_)
  refine (keeps_untouched (touches_broadcastSpace _ _ _ _) (by decide)).bind (fun _ _ => ?_)
  exact (keeps_untouched (touches_fanoutMessageCreate _) (by decide)).bind (fun _ _ => trivial)

theorem keeps_serveEdit (ourDomain peer : String) (req : Forward.EditRequest) :
    (Forward.serveEdit ourDomain peer req).Maintains (Carries true start) := by
  refine (keeps_silent (touches_liftExcept _)).bind (fun _ _ => ?_)
  refine Prog.keeps_require.bind (fun _ hcontent => ?_)
  refine (keeps_read _).bind (fun existing _ => ?_)
  refine (keeps_read _).bind (fun _ _ => ?_)
  refine (keeps_updateMessage (by simpa [contentWithin] using hcontent) (by simp)
    (by simp)).bind (fun msg _ => ?_)
  refine (keeps_untouched (touches_broadcastSpace _ _ _ _) (by decide)).bind (fun _ _ => ?_)
  exact (keeps_untouched (touches_fanoutIfSpace _ _ _) (by decide)).bind (fun _ _ => trivial)

theorem keeps_serveDmSend (ourDomain peer : String) (req : Dm.DmSendRequest) :
    (Dm.serveSend ourDomain peer req).Maintains (Carries true start) := by
  refine (keeps_silent (touches_liftExcept _)).bind (fun _ _ => ?_)
  refine Prog.keeps_require.bind (fun _ hcontent => ?_)
  refine (keeps_read _).bind (fun channel _ => ?_)
  refine Prog.keeps_require.bind (fun _ _ => ?_)
  refine (keeps_read _).bind (fun member _ => ?_)
  refine Prog.keeps_require.bind (fun _ _ => ?_)
  refine (keeps_untouched (Users.touches_upsertRemoteUser _ _ _ _ _) (by decide)).bind
    (fun _ _ => ?_)
  refine (keeps_createMessage (by simpa [contentWithin, Dm.maxContentChars] using hcontent)
    (by simp) (by simp)).bind (fun msg _ => ?_)
  refine (keeps_read _).bind (fun author _ => ?_)
  refine (keeps_untouched (Dm.touches_broadcastMessage _ _ _) (by decide)).bind (fun _ _ => ?_)
  exact (keeps_untouched (Dm.touches_fanoutDmMessage _ _) (by decide)).bind (fun _ _ => trivial)

theorem keeps_toolSend (channelId content : String) (replyTo : Option String)
    (hcontent : contentWithin false content = true) :
    (Mcp.toolSendMessage channelId content replyTo).Maintains (Carries false start) := by
  refine (keeps_read _).bind (fun channel _ => ?_)
  refine (keeps_untouched Users.touches_getOrCreateSystemUser (by decide)).bind
    (fun systemUserId _ => ?_)
  have hcreate := @keeps_createMessage false start channelId systemUserId channel.spaceId
    { content := content, replyTo := replyTo } 0 hcontent (by simp) (by simp)
  refine hcreate.bind (fun msg _ => ?_)
  exact (keeps_untouched (touches_broadcastTo _ _ _ _) (by decide)).bind (fun _ _ => trivial)

theorem carries_next {l : Ledger} (w : Write) (hsound : l.Sound)
    (hlimits : withinLimits l w = true) :
    Carries (federated w) l.app.db ((program w).exec l.app).2 := by
  have hstart : ∀ fed, Carries fed l.app.db l.app := fun fed id m hm =>
    ⟨.inl ⟨m, hm, rfl, rfl⟩, fun horigin => (hsound id m hm horigin).embeds,
      fun horigin => (hsound id m hm horigin).title⟩
  cases w with
  | create channelId auth input reply preview =>
    exact ((keeps_create channelId auth input reply preview).exec (hstart false)).1
  | createMultipart up channelId auth fields =>
    refine ((keeps_createMultipart up channelId auth fields ?_).exec (hstart false)).1
    intro input files hreceived
    simpa [withinLimits, hreceived] using hlimits
  | update channelId messageId auth input reply =>
    refine keeps_update channelId messageId auth input reply (hstart false) (fun hhere => ?_)
    simpa [withinLimits, hhere] using hlimits
  | send ourDomain peer req =>
    exact ((keeps_serveSend ourDomain peer req).exec (hstart true)).1
  | edit ourDomain peer req =>
    exact ((keeps_serveEdit ourDomain peer req).exec (hstart true)).1
  | dmSend ourDomain peer req =>
    exact ((keeps_serveDmSend ourDomain peer req).exec (hstart true)).1
  | toolSend channelId content replyTo =>
    exact ((keeps_toolSend channelId content replyTo hlimits).exec (hstart false)).1

theorem localContent_of {db : Tables} {id : String} {m : MessageRow}
    (hm : Lib.Table.lookup MessageRow.id id db.messages = some m) (horigin : m.origin = none) :
    localContent db id = some m.content := by
  simp [localContent, hm, horigin]

theorem next_sound {l : Ledger} {w : Write} (hsound : l.Sound)
    (hlimits : withinLimits l w = true) : (l.next w).Sound := by
  intro id m hm horigin
  have hcarried := carries_next w hsound hlimits id m hm
  have hnow := localContent_of hm horigin
  refine ⟨?_, hcarried.embeds horigin, hcarried.title horigin⟩
  simp only [Ledger.next]
  split
  · rename_i hsame
    obtain ⟨old, hold, hcontent⟩ := Option.map_eq_some_iff.mp (hsame.symm.trans hnow)
    obtain ⟨hlookup, hlocal⟩ := Option.filter_eq_some_iff.mp hold
    rw [← hcontent]
    exact (hsound id old hlookup (by simpa using hlocal)).content
  · rename_i hchanged
    rcases hcarried.content with ⟨old, hold, hcontent, hkept⟩ | hwithin
    · exact absurd (hnow.trans (hcontent ▸ (localContent_of hold (hkept.trans horigin)).symm))
        hchanged
    · exact hwithin

end

def step (l : Ledger) (w : Write) : Option Ledger := some (l.next w)

theorem limited_when_inputs_checked {l : Ledger} {writes : List Write} (hsound : l.Sound)
    (hlimits : Lib.meets step withinLimits l writes = true) :
    Lib.Always step Ledger.Sound l writes := by
  induction writes generalizing l with
  | nil => exact hsound
  | cons w writes ih =>
    simp only [Lib.meets, step, Option.all_some, Bool.and_eq_true] at hlimits
    refine ⟨hsound, fun next hnext => ?_⟩
    cases hnext
    exact ih (next_sound hsound hlimits.1) hlimits.2

def posted : MessageRow :=
  { id := "30", channelId := "20", spaceId := some "10", authorId := "1", content := "first" }

def chat (messages : List MessageRow) : Ledger :=
  { app :=
      { db :=
          { users := [{ id := "1", username := "ann" }]
            spaces := [{ id := "10", name := "den", ownerId := "1" }]
            members := [{ spaceId := "10", userId := "1" }]
            channels := [{ id := "20", spaceId := some "10", channelType := "forum" }]
            messages := messages }
        ext := Externals.fixed "2025-01-01 00:00:00"
        snowflake := 40 }
    byPeer := fun _ => false }

def ann : AuthUser := { userId := "1" }

def untitled : Uploads :=
  { maxAttachments := 10
    maxAttachmentSize := 1024
    charge := fun _ => .ok ()
    parse := fun _ => .ok { content := "post", title := some "" }
    contentHash := fun _ => ""
    isAlphanumeric := fun _ => true
    dimensions := fun _ => (none, none)
    preflight := .ok false
    retentionDays := 1
    enqueued := .ok () }

def noReply : Except AppError Response := .error (.internal "unreachable")

theorem chat_sound : (chat [posted]).Sound := by
  intro id m hm _
  have hrow : m = posted := by
    have hmem := Lib.Table.lookup_mem hm
    simpa [chat] using hmem
  rw [hrow]
  exact ⟨(by decide : contentWithin false posted.content = true), by decide, fun _ h => by cases h⟩

theorem forum_post_and_edit_limited :
    Lib.Always step Ledger.Sound (chat [posted])
      [.create "20" ann { content := "post", title := some "hello" } noReply none,
        .update "20" "30" ann { content := some "edited" } noReply] :=
  limited_when_inputs_checked chat_sound (by decide +kernel)

theorem untitled_posts_stored :
    (chat [posted]).Sound ∧
      ¬ ((chat [posted]).next (.update "20" "30" ann { title := some "" } noReply)).Sound ∧
      ¬ ((chat [posted]).next (.createMultipart untitled "20" ann [.payloadJson []])).Sound := by
  refine ⟨chat_sound, ?_, ?_⟩
  · intro hsound
    have htitle := (hsound "30"
      { posted with title := some "", editedAt := some "2025-01-01 00:00:00" }
      (by decide +kernel) rfl).title "" rfl
    exact absurd htitle (by decide)
  · intro hsound
    have htitle := (hsound "40"
      { posted with
        id := "40", content := "post", title := some "", createdAt := "2025-01-01 00:00:00" }
      (by decide +kernel) rfl).title "" rfl
    exact absurd htitle (by decide)

end Vokusz.Routes.ContentLimits
