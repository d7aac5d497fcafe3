import Vokusz.Db.References
import Vokusz.Lib.Transition
import Vokusz.Routes.Footprint

namespace Vokusz.Routes.Replica

open App Db Permissions Federation
open Lib (Prog)

section

def inSpace (sid : String) (db : Tables) (messageId : String) : Bool :=
  db.messages.any (fun m => m.spaceId = some sid && m.id = messageId)

def channelIn (sid : String) (db : Tables) (channelId : String) : Bool :=
  db.channels.any (fun c => c.spaceId = some sid && c.id = channelId)

structure Rows where
  messages : List MessageRow
  reactions : List ReactionRow
  pins : List PinnedMessage
  deriving DecidableEq, Repr

def Rows.ofSpace (sid : String) (db : Tables) : Rows :=
  { messages := db.messages.filter (fun m => m.spaceId = some sid)
    reactions := db.reactions.filter (fun r => inSpace sid db r.messageId)
    pins := db.pinnedMessages.filter (fun p =>
      inSpace sid db p.messageId || channelIn sid db p.channelId) }

def Rows.names (rows : Rows) (messageId : String) : Bool :=
  rows.messages.any (fun m => m.id = messageId)

variable {sid home : String} {rows : Rows} {db db' : Tables}

theorem names_ofSpace (messageId : String) :
    (Rows.ofSpace sid db).names messageId = inSpace sid db messageId := by
  simp only [Rows.names, Rows.ofSpace, inSpace, List.any_filter]

structure IsReplica (sid home : String) (rows : Rows) (db : Tables) : Prop where
  origin : Federation.spaceOrigin sid db = .ok (some home)
  rows : Rows.ofSpace sid db = rows
  keys : Tables.MessageKeys db

theorem IsReplica.inSpace (h : IsReplica sid home rows db) (messageId : String) :
    inSpace sid db messageId = rows.names messageId := by
  rw [← names_ofSpace, h.rows]

theorem ofSpace_congr
    (hmessages : db'.messages.filter (fun m => m.spaceId = some sid) =
      db.messages.filter (fun m => m.spaceId = some sid))
    (hreactions : db'.reactions.filter (fun r => inSpace sid db r.messageId) =
      db.reactions.filter (fun r => inSpace sid db r.messageId))
    (hchannels : ∀ c, channelIn sid db' c = channelIn sid db c)
    (hpins : db'.pinnedMessages.filter (fun p =>
        inSpace sid db p.messageId || channelIn sid db p.channelId) =
      db.pinnedMessages.filter (fun p =>
        inSpace sid db p.messageId || channelIn sid db p.channelId)) :
    Rows.ofSpace sid db' = Rows.ofSpace sid db := by
  have hin : ∀ id, inSpace sid db' id = inSpace sid db id := by
    intro id
    rw [← names_ofSpace, ← names_ofSpace]
    simp only [Rows.names, Rows.ofSpace, hmessages]
  simp only [Rows.ofSpace, hmessages, hin, hchannels, hreactions, hpins]

theorem IsReplica.of_frame (h : IsReplica sid home rows db) (hspaces : db'.spaces = db.spaces)
    (hmessages : db'.messages = db.messages) (hreactions : db'.reactions = db.reactions)
    (hpins : db'.pinnedMessages = db.pinnedMessages)
    (hchannels : ∀ c, channelIn sid db' c = channelIn sid db c) :
    IsReplica sid home rows db' where
  origin := by
    rw [← h.origin]
    simp only [Federation.spaceOrigin, hspaces]
  rows := by
    rw [← h.rows]
    exact ofSpace_congr (by rw [hmessages]) (by rw [hreactions]) hchannels (by rw [hpins])
  keys := h.keys.of_messages hmessages (by rw [hpins]; exact h.keys.pins)

theorem channelIn_setLastMessage (channelId messageId c : String) :
    channelIn sid (db.setLastMessage channelId messageId) c = channelIn sid db c := by
  have hsame : ∀ row : ChannelRow, ((if row.id = channelId then
      { row with lastMessageId := some messageId } else row).spaceId = row.spaceId) ∧
      (if row.id = channelId then
        { row with lastMessageId := some messageId } else row).id = row.id := by
    intro row
    split <;> exact ⟨rfl, rfl⟩
  simp only [channelIn, Tables.setLastMessage, Lib.Table.update, List.any_map]
  congr 1
  funext row
  simp only [Function.comp_apply, (hsame row).1, (hsame row).2]

theorem IsReplica.append {row : MessageRow} (h : IsReplica sid home rows db)
    (hspace : row.spaceId ≠ some sid) (heq : db'.messages = db.messages ++ [row])
    (hfresh : db.hasMessage row.id = false) (hrefs : Db.Messages.referencesExist db row = true)
    (hspaces : db'.spaces = db.spaces) (hreactions : db'.reactions = db.reactions)
    (hpins : db'.pinnedMessages = db.pinnedMessages)
    (hchannels : ∀ c, channelIn sid db' c = channelIn sid db c) :
    IsReplica sid home rows db' where
  origin := by
    rw [← h.origin]
    simp only [Federation.spaceOrigin, hspaces]
  rows := by
    rw [← h.rows]
    refine ofSpace_congr ?_ (by rw [hreactions]) hchannels (by rw [hpins])
    rw [heq, List.filter_append]
    simp [hspace]
  keys := h.keys.append heq hfresh hrefs hpins

theorem IsReplica.update {id : String} {f : MessageRow → MessageRow}
    (h : IsReplica sid home rows db) (hid : rows.names id = false) (hkeep : ∀ m, (f m).id = m.id)
    (hspace : ∀ m, (f m).spaceId = m.spaceId) (hreply : ∀ m, (f m).replyTo = m.replyTo)
    (hthread : ∀ m, (f m).threadId = m.threadId) :
    IsReplica sid home rows (db.updateMessage id f) where
  origin := h.origin
  rows := by
    rw [← h.rows]
    refine ofSpace_congr ?_ rfl (fun _ => rfl) rfl
    have hother : ∀ m ∈ db.messages, m.id = id → m.spaceId ≠ some sid := by
      intro m hm hmid hin
      rw [← h.inSpace, Replica.inSpace, List.any_eq_false] at hid
      exact hid m hm (by simp [hin, hmid])
    refine Lib.Table.filter_update (fun m hm hmid => ?_)
    simp [hspace, hother m hm hmid]
  keys := h.keys.update hkeep hreply hthread

structure Untied (sid : String) (db : Tables) (gone : List String) : Prop where
  messages : ∀ m ∈ db.messages, m.spaceId = some sid →
    m.id ∉ gone ∧ ∀ r, m.replyTo = some r → r ∉ gone
  pins : ∀ p ∈ db.pinnedMessages, channelIn sid db p.channelId = true → p.messageId ∉ gone

theorem unlinkReply_spaceId (gone : List String) (m : MessageRow) :
    (Tables.unlinkReply gone m).spaceId = m.spaceId := by
  unfold Tables.unlinkReply
  split <;> rfl

theorem unlinkReply_of_not_mem {gone : List String} {m : MessageRow}
    (h : ∀ r, m.replyTo = some r → r ∉ gone) : Tables.unlinkReply gone m = m := by
  unfold Tables.unlinkReply
  cases hr : m.replyTo with
  | none => rfl
  | some r => simp [h r hr]

theorem unlinkReply_channelId (gone : List String) (m : MessageRow) :
    (Tables.unlinkReply gone m).channelId = m.channelId := by
  unfold Tables.unlinkReply
  split <;> rfl

theorem Untied.messages_kept {gone : List String} (h : Untied sid db gone) :
    ((db.messages.filter (fun m => !gone.contains m.id)).map (Tables.unlinkReply gone)).filter
      (fun m => m.spaceId = some sid) = db.messages.filter (fun m => m.spaceId = some sid) := by
  have hspace : (fun m : MessageRow => decide (m.spaceId = some sid)) ∘ Tables.unlinkReply gone =
      fun m => decide (m.spaceId = some sid) := by
    funext m
    simp only [Function.comp_apply, unlinkReply_spaceId]
  rw [List.filter_map, hspace, List.filter_filter]
  have hkept : db.messages.filter (fun m => decide (m.spaceId = some sid) && !gone.contains m.id) =
      db.messages.filter (fun m => decide (m.spaceId = some sid)) := by
    refine List.filter_congr (fun m hm => ?_)
    by_cases hin : m.spaceId = some sid
    · simp [hin, (h.messages m hm hin).1]
    · simp [hin]
  rw [hkept]
  refine (List.map_congr_left (fun m hm => ?_)).trans (List.map_id _)
  obtain ⟨hstored, hin⟩ := List.mem_filter.mp hm
  exact unlinkReply_of_not_mem (h.messages m hstored (by simpa using hin)).2

theorem Untied.inSpace_kept {gone : List String} {messageId : String} (h : Untied sid db gone)
    (hin : inSpace sid db messageId = true) : messageId ∉ gone := by
  obtain ⟨m, hm, hmatch⟩ := List.any_eq_true.mp hin
  simp only [Bool.and_eq_true, decide_eq_true_eq] at hmatch
  obtain ⟨hspace, rfl⟩ := hmatch
  exact (h.messages m hm hspace).1

theorem IsReplica.delete {ids : List String} (h : IsReplica sid home rows db)
    (huntied : Untied sid db (db.deletedWith ids)) :
    IsReplica sid home rows (db.deleteMessages ids) where
  origin := h.origin
  rows := by
    rw [← h.rows]
    refine ofSpace_congr huntied.messages_kept ?_ (fun _ => rfl) ?_
    · rw [Tables.deleteMessages, Tables.removeMessages, List.filter_filter]
      refine List.filter_congr (fun r _ => ?_)
      cases hin : Replica.inSpace sid db r.messageId with
      | false => rfl
      | true => simp [huntied.inSpace_kept hin]
    · rw [Tables.deleteMessages, Tables.removeMessages, List.filter_filter]
      refine List.filter_congr (fun p hp => ?_)
      have hkept : (Replica.inSpace sid db p.messageId || channelIn sid db p.channelId) = true →
          p.messageId ∉ db.deletedWith ids := by
        intro hin
        rcases Bool.or_eq_true _ _ ▸ hin with hmessage | hchannel
        · exact huntied.inSpace_kept hmessage
        · exact huntied.pins p hp hchannel
      cases hin : Replica.inSpace sid db p.messageId || channelIn sid db p.channelId with
      | false => rfl
      | true => simp [hkept hin]
  keys := h.keys.delete ids

theorem IsReplica.reactions {reactions : List ReactionRow} (h : IsReplica sid home rows db)
    (heq : reactions.filter (fun r => Replica.inSpace sid db r.messageId) =
      db.reactions.filter (fun r => Replica.inSpace sid db r.messageId)) :
    IsReplica sid home rows { db with reactions := reactions } where
  origin := h.origin
  rows := by
    rw [← h.rows]
    exact ofSpace_congr rfl heq (fun _ => rfl) rfl
  keys := h.keys.of_messages rfl h.keys.pins

theorem IsReplica.pins {pins : List PinnedMessage} (h : IsReplica sid home rows db)
    (hstored : ∀ p ∈ pins, db.hasMessage p.messageId = true)
    (heq : pins.filter (fun p =>
        Replica.inSpace sid db p.messageId || channelIn sid db p.channelId) =
      db.pinnedMessages.filter (fun p =>
        Replica.inSpace sid db p.messageId || channelIn sid db p.channelId)) :
    IsReplica sid home rows { db with pinnedMessages := pins } where
  origin := h.origin
  rows := by
    rw [← h.rows]
    exact ofSpace_congr rfl rfl (fun _ => rfl) heq
  keys := h.keys.of_messages rfl hstored

end

section

variable {α β : Type} {sid home : String} {rows : Rows} {I : Tables → Prop} {Q : β → Prop}

abbrev stored (db : Tables) :
    List MessageRow × List ReactionRow × List PinnedMessage × List SpaceRow × List ChannelRow :=
  (db.messages, db.reactions, db.pinnedMessages, db.spaces, db.channels)

def Quiet (I : Tables → Prop) : Prop := ∀ db db', stored db' = stored db → I db → I db'

abbrev storedSlots : List Slot := [.messages, .reactions, .pinnedMessages, .spaces, .channels]

theorem quiet_isReplica : Quiet (IsReplica sid home rows) := by
  intro db db' heq h
  simp only [stored, Prod.mk.injEq] at heq
  obtain ⟨hmessages, hreactions, hpins, hspaces, hchannels⟩ := heq
  refine h.of_frame hspaces hmessages hreactions hpins (fun c => ?_)
  rw [channelIn, channelIn, hchannels]

theorem keeps_quiet {slots : List Slot} {q : App α} (hI : Quiet I) (h : Touches slots q)
    (hn : ∀ n ∈ storedSlots, n ∉ slots) : q.Maintains (fun s => I s.db) := by
  have hview : q.Preserves (fun s : AppState => stored s.db) :=
    (h .messages (hn _ (by decide))).pair ((h .reactions (hn _ (by decide))).pair
      ((h .pinnedMessages (hn _ (by decide))).pair ((h .spaces (hn _ (by decide))).pair
        (h .channels (hn _ (by decide))))))
  exact hview.keeps (fun s t heq hs => hI _ _ heq hs)

theorem keeps_then {slots : List Slot} {q : App α} {f : α → App β} (hI : Quiet I)
    (h : Touches slots q) (hn : ∀ n ∈ storedSlots, n ∉ slots)
    (hf : ∀ a, (f a).Keeps (fun s => I s.db) Q) : (q >>= f).Keeps (fun s => I s.db) Q :=
  (keeps_quiet hI h hn).bind (fun a _ => hf a)

theorem keeps_read {q : App α} {f : α → App β} (hI : Quiet I) (h : Touches [] q)
    (hf : ∀ a, (f a).Keeps (fun s => I s.db) Q) : (q >>= f).Keeps (fun s => I s.db) Q :=
  keeps_then hI h (by decide) hf

end

section

variable {sid home messageId : String} {rows : Rows}

abbrev Held (sid home : String) (rows : Rows) (s : AppState) : Prop :=
  IsReplica sid home rows s.db

theorem keeps_assignColumn {α : Type} {value : Option α} {set : α → MessageRow → MessageRow}
    (hset : ∀ v m, Db.Messages.placed (set v m) = Db.Messages.placed m)
    (hid : rows.names messageId = false) :
    (Db.Messages.assignColumn value messageId set).Maintains (Held sid home rows) := by
  cases value with
  | none => trivial
  | some v =>
    refine App.keeps_update (fun s hs => ?_)
    simp only [Db.Messages.placed, Prod.mk.injEq] at hset
    exact hs.update hid (fun m => (hset v m).1) (fun m => (hset v m).2.2.1)
      (fun m => (hset v m).2.2.2.1) (fun m => (hset v m).2.2.2.2)

theorem keeps_updateMessage (input : Db.Messages.UpdateMessage)
    (hid : rows.names messageId = false) :
    (Db.Messages.updateMessage messageId input).Keeps (Held sid home rows)
      (fun m => m.id = messageId) := by
  refine keeps_read quiet_isReplica (Prog.touches_get _) (fun now => ?_)
  have hcontent : ∀ content m, Db.Messages.placed (Db.Messages.setContent content now m) =
      Db.Messages.placed m := fun _ _ => rfl
  have hembeds : ∀ embeds m, Db.Messages.placed (Db.Messages.setEmbeds embeds now m) =
      Db.Messages.placed m := fun _ _ => rfl
  have htitle : ∀ title m, Db.Messages.placed (Db.Messages.setTitle title now m) =
      Db.Messages.placed m := fun _ _ => rfl
  refine (keeps_assignColumn hcontent hid).bind (fun _ _ => ?_)
  refine (keeps_assignColumn hembeds hid).bind (fun _ _ => ?_)
  refine (keeps_assignColumn htitle hid).bind (fun _ _ => ?_)
  refine keeps_lift (fun s _ m hm => ?_)
  exact Lib.Table.lookup_key (Db.Messages.getMessageRow_ok.mp hm)

theorem names_of_fresh {db : Tables} (h : IsReplica sid home rows db)
    (hfresh : db.hasMessage messageId = false) : rows.names messageId = false := by
  rw [← h.inSpace, inSpace, List.any_eq_false]
  intro m hm hmatch
  simp only [Bool.and_eq_true, decide_eq_true_eq] at hmatch
  have hstored : db.hasMessage messageId = true := Lib.Table.has_iff.mpr ⟨m, hm, hmatch.2⟩
  rw [hfresh] at hstored
  cases hstored

theorem storeMessage_frame (row : MessageRow) (now : Int) (db : Tables) :
    (Db.Messages.storeMessage row now db).spaces = db.spaces ∧
      (Db.Messages.storeMessage row now db).reactions = db.reactions ∧
      (Db.Messages.storeMessage row now db).pinnedMessages = db.pinnedMessages ∧
      ∀ c, channelIn sid (Db.Messages.storeMessage row now db) c = channelIn sid db c := by
  unfold Db.Messages.storeMessage
  dsimp only
  split
  · exact ⟨rfl, rfl, rfl, fun c => channelIn_setLastMessage _ _ c⟩
  · exact ⟨rfl, rfl, rfl, fun _ => rfl⟩

theorem keeps_insertMessage {row : MessageRow} {cooldownMs now : Int}
    (hspace : row.spaceId ≠ some sid) :
    (execute (Db.Messages.insertMessage row cooldownMs now)).Keeps (Held sid home rows)
      (fun _ => rows.names row.id = false) := by
  refine Prog.keeps_statement (fun s hs => ?_) (fun s hs a ha => ?_)
  · rcases Db.Messages.insertMessage_cases row cooldownMs now s.db with
      ⟨e, he⟩ | ⟨hok, hrefs, hfresh⟩
    · simp only [he]
      exact hs
    · obtain ⟨hspaces, hreactions, hpins, hchannels⟩ := storeMessage_frame row now s.db
      simp only [hok]
      exact hs.append hspace (Db.Messages.storeMessage_messages _ _ _) hfresh hrefs hspaces
        hreactions hpins hchannels
  · rcases Db.Messages.insertMessage_cases row cooldownMs now s.db with
      ⟨e, he⟩ | ⟨_, _, hfresh⟩
    · rw [he] at ha
      cases ha
    · exact names_of_fresh hs hfresh

theorem keeps_createMessage {channelId authorId : String} {spaceId : Option String}
    (input : Db.Messages.CreateMessage) (cooldownMs : Int) (hspace : spaceId ≠ some sid) :
    (Db.Messages.createMessage channelId authorId spaceId input cooldownMs).Keeps
      (Held sid home rows) (fun msg => rows.names msg.id = false) := by
  refine keeps_then quiet_isReplica touches_generateId (by decide) (fun id => ?_)
  refine keeps_read quiet_isReplica (fun _ _ => Db.Messages.preserves_mentionedUsers _ _)
    (fun mentions => ?_)
  refine keeps_read quiet_isReplica (Prog.touches_get _) (fun now => ?_)
  refine keeps_read quiet_isReplica (Prog.touches_get _) (fun createdAt => ?_)
  refine (keeps_insertMessage hspace).bind (fun _ hnew => ?_)
  refine keeps_lift (fun s _ m hm => ?_)
  have hid : m.id = id := Lib.Table.lookup_key (Db.Messages.getMessageRow_ok.mp hm)
  rw [hid]
  exact hnew

end

section

variable {sid home : String} {rows : Rows} {channelId messageId : String} {auth : AuthUser}

open Routes.Messages (createLocal createMessage createMessageMultipart updateLocal updateMessage
  deleteLocal deleteMessage bulkDeleteMessages homeOfChannel homeOfMessage messageIn Uploads
  Field UploadFile)

theorem keeps_unfurl {channel : ChannelRow} (embeds : Json) (hid : rows.names messageId = false) :
    (Routes.Messages.unfurl channel messageId embeds).Maintains (Held sid home rows) := by
  refine (keeps_ok? (keeps_updateMessage _ hid)).bind (fun updated _ => ?_)
  cases updated with
  | none => trivial
  | some updated =>
    refine keeps_read quiet_isReplica (touches_found? _) (fun attachments => ?_)
    exact keeps_quiet quiet_isReplica (Routes.Messages.touches_broadcastTo _ _ _ _) (by decide)

theorem keeps_createLocal {channel : ChannelRow} {input : Db.Messages.CreateMessage}
    {unfurled : Option Json} (hspace : channel.spaceId ≠ some sid) :
    (createLocal channel auth input unfurled).Maintains (Held sid home rows) := by
  refine keeps_read quiet_isReplica (touches_lift _) (fun cooldownMs => ?_)
  refine (keeps_createMessage input cooldownMs hspace).bind (fun msg hnew => ?_)
  refine keeps_then quiet_isReplica (Routes.Messages.touches_applyMentionCounts _) (by decide)
    (fun _ => ?_)
  refine keeps_read quiet_isReplica (Routes.Messages.touches_directTargets _) (fun targets => ?_)
  refine keeps_then quiet_isReplica (Routes.Messages.touches_broadcastTo _ _ _ _) (by decide)
    (fun _ => ?_)
  refine keeps_then quiet_isReplica
    (Routes.Messages.touches_whenSome (Routes.Messages.touches_broadcastThreadParent _))
    (by decide) (fun _ => ?_)
  refine keeps_then quiet_isReplica (Routes.Messages.touches_fanoutCreated _ _ _) (by decide)
    (fun _ => ?_)
  cases unfurled with
  | none => trivial
  | some embeds => exact (keeps_unfurl embeds hnew).bind (fun _ _ => trivial)

theorem homeOfSpace_none {db : Tables} {spaceId : Option String}
    (h : IsReplica sid home rows db)
    (hhome : (match spaceId with
      | some s => Federation.spaceOrigin s
      | none => (pure none : Query (Option String))) db = .ok none) : spaceId ≠ some sid := by
  rintro rfl
  have hsome := h.origin
  simp only at hhome
  rw [hsome] at hhome
  cases hhome

theorem keeps_create {input : Db.Messages.CreateMessage} {reply : Except AppError Response}
    {unfurled : Option Json} :
    (createMessage channelId auth input reply unfurled).Maintains (Held sid home rows) := by
  refine keeps_read quiet_isReplica (touches_lift _) (fun spaceId => ?_)
  refine keeps_read quiet_isReplica (Reactions.touches_requireNotTimedOutIn _ _) (fun _ => ?_)
  refine keeps_read quiet_isReplica (touches_lift _) (fun _ => ?_)
  refine keeps_read quiet_isReplica (Routes.Messages.touches_checkContent _) (fun _ => ?_)
  refine keeps_read quiet_isReplica (touches_lift _) (fun channel => ?_)
  have hhome : ∀ s : AppState, Held sid home rows s → ∀ found,
      homeOfChannel channel s.db = .ok found → found = none → channel.spaceId ≠ some sid := by
    rintro s hs found hfound rfl
    exact homeOfSpace_none hs hfound
  refine (keeps_lift hhome).bind (fun found hspace => ?_)
  cases found with
  | some home' =>
    refine keeps_read quiet_isReplica (touches_lift _) (fun author => ?_)
    exact keeps_quiet quiet_isReplica (touches_forwardMessage _ _ _ _ _ _) (by decide)
  | none =>
    refine keeps_read quiet_isReplica (touches_lift _) (fun dmHome => ?_)
    cases dmHome with
    | some home' =>
      refine keeps_read quiet_isReplica (touches_lift _) (fun author => ?_)
      exact keeps_quiet quiet_isReplica (touches_forwardDmMessage _ _ _ _ _ _) (by decide)
    | none => exact keeps_createLocal (hspace rfl)

theorem keeps_updateLocal {existing : MessageRow} {input : Db.Messages.UpdateMessage}
    (hid : rows.names messageId = false) :
    (updateLocal channelId messageId auth existing input).Maintains (Held sid home rows) := by
  refine keeps_read quiet_isReplica (touches_lift _) (fun _ => ?_)
  refine keeps_read quiet_isReplica (Prog.touches_require _ _) (fun _ => ?_)
  refine (keeps_updateMessage input hid).bind (fun msg _ => ?_)
  refine keeps_read quiet_isReplica (touches_lift _) (fun attachments => ?_)
  refine keeps_read quiet_isReplica (touches_lift _) (fun channel => ?_)
  refine keeps_then quiet_isReplica (touches_broadcastSpace _ _ _ _) (by decide) (fun _ => ?_)
  refine keeps_then quiet_isReplica (Routes.Messages.touches_fanoutChange _ _ _) (by decide)
    (fun _ => ?_)
  exact trivial

theorem messageIn_ok {db : Tables} {existing : MessageRow}
    (h : messageIn channelId messageId db = .ok existing) :
    Db.Messages.getMessageRow messageId db = .ok existing ∧ existing.channelId = channelId := by
  obtain ⟨row, hrow, hrest⟩ := (Query.bind_ok db).mp h
  obtain ⟨_, hcond, hret⟩ := (Query.bind_ok db).mp hrest
  cases hret
  refine ⟨hrow, ?_⟩
  by_contra hne
  simp [hne] at hcond

theorem names_of_local {db : Tables} {existing : MessageRow} (h : IsReplica sid home rows db)
    (hrow : Db.Messages.getMessageRow messageId db = .ok existing)
    (hspace : existing.spaceId ≠ some sid) : rows.names messageId = false := by
  rw [← h.inSpace, inSpace, List.any_eq_false]
  intro m hm hmatch
  simp only [Bool.and_eq_true, decide_eq_true_eq] at hmatch
  obtain ⟨hin, rfl⟩ := hmatch
  have hlookup := h.keys.keys.lookup_eq hm
  rw [Db.Messages.getMessageRow_ok.mp hrow] at hlookup
  rw [Option.some.inj hlookup] at hspace
  exact hspace hin

theorem keeps_update {input : Db.Messages.UpdateMessage} {reply : Except AppError Response} :
    (updateMessage channelId messageId auth input reply).Maintains (Held sid home rows) := by
  refine keeps_read quiet_isReplica (touches_lift _) (fun _ => ?_)
  have hexisting : ∀ s : AppState, Held sid home rows s → ∀ existing,
      messageIn channelId messageId s.db = .ok existing → existing.spaceId ≠ some sid →
      rows.names messageId = false :=
    fun s hs existing hin hspace => names_of_local hs (messageIn_ok hin).1 hspace
  refine (keeps_lift hexisting).bind (fun existing hnames => ?_)
  have hhome : ∀ s : AppState, Held sid home rows s → ∀ found,
      homeOfMessage existing s.db = .ok found → found = none → existing.spaceId ≠ some sid := by
    rintro s hs found hfound rfl
    exact homeOfSpace_none hs hfound
  refine (keeps_lift hhome).bind (fun found hspace => ?_)
  cases found with
  | some home' =>
    exact keeps_quiet quiet_isReplica (Routes.Messages.touches_forwardUpdate _ _ _ _ _)
      (by decide)
  | none => exact keeps_updateLocal (hnames (hspace rfl))

def Spared (sid channelId : String) (ids : List String) (db : Tables) : Prop :=
  ∀ id ∈ ids, db.messages.any (fun m => m.id = id && m.channelId = channelId) = true →
    Untied sid db (db.deletedWith [id])

theorem Untied.later {db : Tables} {ids gone gone' : List String} (h : Untied sid db gone)
    (hids : Untied sid db (db.deletedWith ids)) (hsub : ∀ id ∈ gone', id ∈ gone) :
    Untied sid (db.deleteMessages ids) gone' := by
  constructor
  · intro m hm hspace
    have hkept : m ∈ (db.deleteMessages ids).messages.filter (fun m => m.spaceId = some sid) :=
      List.mem_filter.mpr ⟨hm, by simpa using hspace⟩
    rw [Tables.deleteMessages_messages, hids.messages_kept] at hkept
    obtain ⟨hid, hreply⟩ := h.messages m (List.mem_filter.mp hkept).1 hspace
    exact ⟨fun hgone => hid (hsub _ hgone), fun r hr hgone => hreply r hr (hsub _ hgone)⟩
  · intro p hp hchannel hgone
    exact h.pins p (List.mem_filter.mp hp).1 hchannel (hsub _ hgone)

theorem Spared.delete {db : Tables} {ids : List String} {id : String}
    (h : Spared sid channelId ids db) (hid : Untied sid db (db.deletedWith [id])) :
    Spared sid channelId ids (db.deleteMessages [id]) := by
  intro other hother hstored
  have hbefore : db.messages.any (fun m => m.id = other && m.channelId = channelId) = true := by
    obtain ⟨m', hm', hmatch⟩ := List.any_eq_true.mp hstored
    rw [Tables.deleteMessages_messages] at hm'
    obtain ⟨m, hm, rfl⟩ := List.mem_map.mp hm'
    refine List.any_eq_true.mpr ⟨m, (List.mem_filter.mp hm).1, ?_⟩
    rwa [Tables.unlinkReply_id, unlinkReply_channelId] at hmatch
  exact (h other hother hbefore).later hid (Tables.deletedWith_deleteMessages _)

theorem untied_congr {db db' : Tables} {ids : List String} (heq : stored db' = stored db)
    (h : Untied sid db (db.deletedWith ids)) : Untied sid db' (db'.deletedWith ids) := by
  simp only [stored, Prod.mk.injEq] at heq
  obtain ⟨hmessages, _, hpins, _, hchannels⟩ := heq
  have hgone : db'.deletedWith ids = db.deletedWith ids := by
    have hhas : db'.hasMessage = db.hasMessage := by
      funext k
      rw [Tables.hasMessage, Tables.hasMessage, hmessages]
    rw [Tables.deletedWith, Tables.deletedWith, hmessages, hhas]
  constructor
  · rw [hmessages, hgone]
    exact h.messages
  · rw [hpins, hgone]
    unfold channelIn
    rw [hchannels]
    exact h.pins

theorem quiet_untied {ids : List String} :
    Quiet (fun db => IsReplica sid home rows db ∧ Untied sid db (db.deletedWith ids)) :=
  fun db db' heq h => ⟨quiet_isReplica db db' heq h.1, untied_congr heq h.2⟩

theorem keeps_bulkDelete {ids : List String} :
    (Db.Messages.bulkDeleteMessages channelId ids).Maintains
      (fun s => IsReplica sid home rows s.db ∧ Spared sid channelId ids s.db) := by
  refine Prog.keeps_forEach (fun id hid => App.keeps_update (fun s hs => ?_))
  dsimp only [AppState.withDb_db]
  split
  · rename_i hstored
    have huntied := hs.2 id hid hstored
    exact ⟨hs.1.delete huntied, hs.2.delete huntied⟩
  · exact hs

theorem keeps_deleteFiles {I : Tables → Prop} (hI : Quiet I) (attachments : List AttachmentRow) :
    (Prog.forEach attachments (fun a => do
      let _ ← (Storage.deleteFile a.url).attempt
      return () : AttachmentRow → App Unit)).Maintains (fun s => I s.db) := by
  refine Prog.keeps_forEach (fun a _ => ?_)
  refine keeps_quiet hI ((Storage.touches_deleteFile _).attempt.bind
    (fun _ => Prog.touches_pure _)) (by decide)

theorem keeps_deleteLocal {existing : MessageRow} :
    (deleteLocal channelId messageId auth existing).Maintains
      (fun s => IsReplica sid home rows s.db ∧
        Untied sid s.db (s.db.deletedWith [messageId])) := by
  refine keeps_read quiet_untied (touches_lift _) (fun _ => ?_)
  refine keeps_read quiet_untied (touches_lift _) (fun attachments => ?_)
  refine (keeps_deleteFiles quiet_untied attachments).bind (fun _ _ => ?_)
  refine (App.keeps_update (fun s hs => ?_)).bind (fun _ _ => ?_)
  · exact ⟨hs.1.delete hs.2, hs.2.later hs.2 (Tables.deletedWith_deleteMessages _)⟩
  · refine keeps_read quiet_untied (touches_lift _) (fun channel => ?_)
    refine keeps_then quiet_untied (touches_broadcastSpace _ _ _ _) (by decide) (fun _ => ?_)
    refine keeps_then quiet_untied (Routes.Messages.touches_fanoutChange _ _ _) (by decide)
      (fun _ => ?_)
    exact trivial

variable {s : AppState}

theorem delete_stays {reply : Except AppError Response} (hs : Held sid home rows s)
    (hspared : ∀ existing, messageIn channelId messageId s.db = .ok existing →
      homeOfMessage existing s.db = .ok none → Untied sid s.db (s.db.deletedWith [messageId])) :
    (deleteMessage channelId messageId auth reply).Stays (Held sid home rows) s := by
  refine stays_checked hs (fun existing hexisting => stays_checked hs (fun found hfound => ?_))
  cases found with
  | some home' =>
    exact (keeps_quiet quiet_isReplica (Routes.Messages.touches_forwardDeletion _ _ _ _)
      (by decide)).stays hs
  | none =>
    exact (keeps_deleteLocal.stays ⟨hs, hspared existing hexisting hfound⟩).mono
      (fun t ht => ht.1)

theorem bulkDelete_stays {ids : List String} (hs : Held sid home rows s)
    (hspared : ∀ spaceId, requireChannelPermission channelId auth "manage_messages" s.db =
      .ok spaceId → ids.length ≤ 100 → Spared sid channelId ids s.db) :
    (bulkDeleteMessages channelId auth ids).Stays (Held sid home rows) s := by
  refine stays_checked hs (fun spaceId hpermitted => Prog.stays_require hs (fun hlength => ?_))
  have hkeeps : (Db.Messages.bulkDeleteMessages channelId ids >>= fun _ =>
      (pure (Json.obj [("data", .null)]) : App Json)).Maintains
        (fun s : AppState => IsReplica sid home rows s.db ∧ Spared sid channelId ids s.db) :=
    keeps_bulkDelete.bind (fun _ _ => trivial)
  exact (hkeeps.stays ⟨hs, hspared spaceId hpermitted hlength⟩).mono (fun t ht => ht.1)

theorem pin_stays (hs : Held sid home rows s)
    (hspared : ∀ spaceId, requireChannelPermission channelId auth "manage_messages" s.db =
      .ok spaceId → inSpace sid s.db messageId = false ∧ channelIn sid s.db channelId = false) :
    (Routes.Messages.pinMessage channelId messageId auth).Stays (Held sid home rows) s := by
  refine stays_checked hs (fun spaceId hpermitted => ?_)
  obtain ⟨hmessage, hchannel⟩ := hspared spaceId hpermitted
  have hid : rows.names messageId = false := by
    rw [← hs.inSpace]
    exact hmessage
  refine Prog.Stays.bind (R := fun _ => True)
    (Prog.Stays.bind (R := fun _ => True) ?_ (fun _ => ?_)) (fun _ => ?_)
  · refine stays_write hs (fun hfree => hs.pins (fun p hp => ?_) ?_)
    · rcases Lib.Table.mem_insertNew hp with hold | rfl
      · exact hs.keys.pins p hold
      · have hboth := foreignKey_none.mp hfree
        exact (Bool.and_eq_true _ _ ▸ hboth).2
    · exact Lib.Table.filter_insertNew (by simp [hmessage, hchannel])
  · exact App.keeps_update (fun t ht => ht.update hid (fun _ => rfl) (fun _ => rfl)
      (fun _ => rfl) (fun _ => rfl))
  · exact trivial

theorem unpin_stays (hs : Held sid home rows s)
    (hspared : ∀ spaceId, requireChannelPermission channelId auth "manage_messages" s.db =
      .ok spaceId → inSpace sid s.db messageId = false ∧ channelIn sid s.db channelId = false) :
    (Routes.Messages.unpinMessage channelId messageId auth).Stays (Held sid home rows) s := by
  refine stays_checked hs (fun spaceId hpermitted => ?_)
  obtain ⟨hmessage, hchannel⟩ := hspared spaceId hpermitted
  have hid : rows.names messageId = false := by
    rw [← hs.inSpace]
    exact hmessage
  refine Prog.Stays.bind (R := fun _ => True)
    (Prog.Stays.bind (R := fun _ => True) ?_ (fun _ => ?_)) (fun _ => ?_)
  · refine stays_write hs (fun _ => hs.pins (fun p hp => ?_) ?_)
    · exact hs.keys.pins p (List.mem_filter.mp hp).1
    · refine Lib.Table.filter_delete (fun p _ hp => ?_)
      obtain ⟨rfl, rfl⟩ := Prod.mk.inj hp
      simp [hmessage, hchannel]
  · exact App.keeps_update (fun t ht => ht.update hid (fun _ => rfl) (fun _ => rfl)
      (fun _ => rfl) (fun _ => rfl))
  · exact trivial

open Routes.Reactions (Operation homeOfSpace requireNotTimedOutIn)

theorem notTimedOut_guard {spaceId : String} :
    (requireNotTimedOutIn spaceId auth).Keeps (fun t => t = s)
      (fun _ => (requireNotTimedOutIn spaceId auth).Succeeds s) := by
  unfold requireNotTimedOutIn
  split
  · exact ⟨(), s, rfl⟩
  · unfold requireNotTimedOut
    split
    · exact ⟨(), s, rfl⟩
    · refine (keeps_query (fun t ht a ha => ht ▸ ha)).bind (fun member hmember => ?_)
      refine (Prog.keeps_get (Q := fun ext => ext = s.ext) (fun t ht => ht ▸ rfl)).bind
        (fun ext hext => ?_)
      refine (Prog.keeps_get (Q := fun now => now = s.clock) (fun t ht => ht ▸ rfl)).bind
        (fun now hnow => ?_)
      refine Prog.keeps_require.mono (fun _ hnot => ?_)
      refine ⟨(), s, ?_⟩
      rw [Prog.exec_bind_of_ok ((App.exec_query _).trans (congrArg (Prod.mk · s) hmember)),
        Prog.exec_bind_of_ok App.exec_externals, Prog.exec_bind_of_ok App.exec_nowMillis]
      exact Prog.exec_require_ok.mpr ⟨by rwa [← hext, ← hnow], rfl⟩

theorem unnamed_reactions {p : ReactionRow → Bool} (hid : inSpace sid s.db messageId = false)
    (hp : ∀ r, r.messageId ≠ messageId → p r = true) :
    (s.db.reactions.filter p).filter (fun r => inSpace sid s.db r.messageId) =
      s.db.reactions.filter (fun r => inSpace sid s.db r.messageId) := by
  rw [List.filter_filter]
  refine List.filter_congr (fun r _ => ?_)
  by_cases hr : r.messageId = messageId
  · simp [hr, hid]
  · simp [hp r hr]

theorem drop_reactions {p : ReactionRow → Bool} (hs : Held sid home rows s)
    (hid : inSpace sid s.db messageId = false) (hp : ∀ r, r.messageId ≠ messageId → p r = true) :
    (update (fun db => { db with reactions := db.reactions.filter p })).Stays
      (Held sid home rows) s :=
  stays_write hs (fun _ => hs.reactions (unnamed_reactions hid hp))

structure Reaches (op : Operation) (auth : AuthUser) (channelId : String) (s : AppState)
    (spaceId : String) : Prop where
  demanded : op.demands auth channelId s.db = .ok spaceId
  timely : op = .add → (requireNotTimedOutIn spaceId auth).Succeeds s
  homed : op = .add ∨ op = .removeOwn → homeOfSpace spaceId s.db = .ok none
  writes : op ≠ .list

theorem react_stays {op : Operation} {emoji : String} {reply : Except AppError Response}
    (hs : Held sid home rows s)
    (hspared : ∀ spaceId, Reaches op auth channelId s spaceId →
      inSpace sid s.db messageId = false) :
    (op.serve channelId messageId emoji auth reply).Stays (Held sid home rows) s := by
  have hquiet : ∀ spaceId eventType data, ((Reactions.reactionEvent spaceId eventType data) >>=
      fun _ => (pure Reactions.done : App Json)).Maintains (Held sid home rows) :=
    fun _ _ _ => keeps_then quiet_isReplica (Reactions.touches_reactionEvent _ _ _) (by decide)
      (fun _ => trivial)
  have hannounce : ∀ spaceId eventType data kind userId,
      ((Reactions.reactionEvent spaceId eventType data) >>= fun _ =>
        (Reactions.fanoutReaction spaceId kind channelId messageId userId emoji) >>= fun _ =>
          (pure Reactions.done : App Json)).Maintains (Held sid home rows) :=
    fun _ _ _ _ _ => keeps_then quiet_isReplica (Reactions.touches_reactionEvent _ _ _)
      (by decide) (fun _ => keeps_then quiet_isReplica
        (Reactions.touches_fanoutReaction _ _ _ _ _ _) (by decide) (fun _ => trivial))
  have hforward : ∀ home' remove, (Reactions.forwardToHome home' channelId messageId emoji auth
      remove reply).Stays (Held sid home rows) s :=
    fun _ _ => (keeps_quiet quiet_isReplica (Reactions.touches_forwardToHome _ _ _ _ _ _ _)
      (by decide)).stays hs
  cases op with
  | add =>
    refine stays_checked hs (fun spaceId hdemanded => ?_)
    refine Prog.stays_guard hs notTimedOut_guard (fun _ htimely => ?_)
    refine stays_checked hs (fun found hfound => ?_)
    cases found with
    | some home' => exact hforward home' false
    | none =>
      have hid := hspared spaceId ⟨hdemanded, fun _ => htimely, fun _ => hfound, by decide⟩
      refine Prog.Stays.bind (stays_write hs (fun _ => hs.reactions ?_))
        (fun _ => hannounce _ _ _ _ _)
      exact Lib.Table.filter_insertNew hid
  | removeOwn =>
    refine stays_checked hs (fun spaceId hdemanded => stays_checked hs (fun found hfound => ?_))
    cases found with
    | some home' => exact hforward home' true
    | none =>
      have hid := hspared spaceId ⟨hdemanded, (by rintro ⟨⟩), fun _ => hfound, by decide⟩
      refine Prog.Stays.bind (drop_reactions hs hid ?_)
        (fun _ => hannounce _ _ _ _ _)
      exact fun r hr => by simp [hr]
  | list =>
    refine Prog.Keeps.stays (Q := fun _ => True) ?_ hs
    refine keeps_read quiet_isReplica (touches_lift _) (fun _ => ?_)
    exact keeps_read quiet_isReplica (touches_appQuery _) (fun _ => trivial)
  | removeUser userId =>
    refine stays_checked hs (fun spaceId hdemanded => ?_)
    have hid := hspared spaceId ⟨hdemanded, (by rintro ⟨⟩), (by rintro (⟨⟨⟩⟩ | ⟨⟨⟩⟩)), by simp⟩
    refine Prog.Stays.bind (drop_reactions hs hid ?_) (fun _ => hquiet _ _ _)
    exact fun r hr => by simp [hr]
  | removeAll =>
    refine stays_checked hs (fun spaceId hdemanded => ?_)
    have hid := hspared spaceId ⟨hdemanded, (by rintro ⟨⟩), (by rintro (⟨⟨⟩⟩ | ⟨⟨⟩⟩)), by simp⟩
    refine Prog.Stays.bind (drop_reactions hs hid ?_) (fun _ => hquiet _ _ _)
    exact fun r hr => by simp [hr]
  | removeAllEmoji =>
    refine stays_checked hs (fun spaceId hdemanded => ?_)
    have hid := hspared spaceId ⟨hdemanded, (by rintro ⟨⟩), (by rintro (⟨⟨⟩⟩ | ⟨⟨⟩⟩)), by simp⟩
    refine Prog.Stays.bind (drop_reactions hs hid ?_) (fun _ => hquiet _ _ _)
    exact fun r hr => by simp [hr]

structure Received (up : Uploads) (channelId : String) (auth : AuthUser) (fields : List Field)
    (s : AppState) (input : Db.Messages.CreateMessage) (files : List UploadFile) : Prop where
  permitted : ∃ spaceId, requireChannelPermission channelId auth "send_messages" s.db =
    .ok spaceId ∧ (requireNotTimedOutIn spaceId auth).Succeeds s
  form : up.receive fields = .ok (input, files)
  thread : Routes.Messages.requireThreadPermission channelId auth input s.db = .ok ()

theorem untied_created {db db' : Tables} {row : MessageRow} (h : IsReplica sid home rows db)
    (hspace : row.spaceId ≠ some sid) (heq : db'.messages = db.messages ++ [row])
    (hpins : db'.pinnedMessages = db.pinnedMessages) (hfresh : db.hasMessage row.id = false) :
    Untied sid db' (db'.deletedWith [row.id]) := by
  have hgone := h.keys.deletedWith_new heq hfresh
  have hmissing : ∀ id, db.hasMessage id = true → id ∉ db'.deletedWith [row.id] := by
    intro id hid hmem
    rw [hgone id hmem, hfresh] at hid
    cases hid
  constructor
  · intro m hm hin
    rw [heq] at hm
    rcases List.mem_append.mp hm with hold | hnew
    · exact ⟨hmissing _ (Lib.Table.has_iff.mpr ⟨m, hold, rfl⟩),
        fun r hr => hmissing r (h.keys.replies m hold r hr)⟩
    · rw [List.mem_singleton.mp hnew] at hin
      exact absurd hin hspace
  · intro p hp _
    rw [hpins] at hp
    exact hmissing _ (h.keys.pins p hp)

theorem createMessage_then {β : Type} {authorId : String} {spaceId : Option String}
    {input : Db.Messages.CreateMessage} {cooldownMs : Int} {f : MessageRow → App β}
    (hs : Held sid home rows s) (hspace : spaceId ≠ some sid)
    (hf : ∀ msg t, IsReplica sid home rows t.db ∧ Untied sid t.db (t.db.deletedWith [msg.id]) →
      (f msg).Stays (Held sid home rows) t) :
    (Db.Messages.createMessage channelId authorId spaceId input cooldownMs >>= f).Stays
      (Held sid home rows) s := by
  refine Db.Messages.stays_createMessage hs hs
    (fun mentions now createdAt row t hrow ht hrefs hfresh => ?_)
  have hin : row.spaceId ≠ some sid := by
    rw [hrow]
    exact hspace
  obtain ⟨hspaces, hreactions, hpins, hchannels⟩ := storeMessage_frame row now s.db
  have hmessages := Db.Messages.storeMessage_messages row now s.db
  have hstored : Held sid home rows t := by
    rw [ht]
    exact hs.append hin hmessages hfresh hrefs hspaces hreactions hpins hchannels
  refine ⟨hstored, hf row t ⟨hstored, ?_⟩⟩
  rw [ht]
  exact untied_created hs hin hmessages hpins hfresh

theorem keeps_queue {up : Uploads} {channel : ChannelRow} {authorId : String}
    {files : List UploadFile} {msg : MessageRow} {held : Bool} :
    (if held then do
      let queued ← (up.enqueue channel msg.id authorId files).attempt
      match queued with
      | .ok ids => return (msg, held, ids)
      | .error e =>
        Db.Messages.deleteMessage msg.id
        Prog.fail e
    else return (msg, held, []) : App (MessageRow × Bool × List String)).Maintains
      (fun s => IsReplica sid home rows s.db ∧ Untied sid s.db (s.db.deletedWith [msg.id])) := by
  cases held with
  | false => exact trivial
  | true =>
    refine keeps_then quiet_untied (Routes.Messages.touches_enqueue _ _ _ _ _).attempt (by decide)
      (fun queued => ?_)
    cases queued with
    | ok ids => exact trivial
    | error e =>
      refine (App.keeps_update (fun s hs => ?_)).bind (fun _ _ => trivial)
      exact ⟨hs.1.delete hs.2, hs.2.later hs.2 (Tables.deletedWith_deleteMessages _)⟩

theorem store_stays {up : Uploads} {channel : ChannelRow} {input : Db.Messages.CreateMessage}
    {files : List UploadFile} {cooldownMs : Int} (hs : Held sid home rows s)
    (hspace : channel.spaceId ≠ some sid) :
    (up.store channel auth input files cooldownMs).Stays (Held sid home rows) s := by
  have hheld : ∀ held : Bool, (Db.Messages.createMessage channel.id auth.userId channel.spaceId
      input cooldownMs >>= fun msg => if held then do
        let queued ← (up.enqueue channel msg.id auth.userId files).attempt
        match queued with
        | .ok ids => return (msg, held, ids)
        | .error e =>
          Db.Messages.deleteMessage msg.id
          Prog.fail e
      else return (msg, held, []) : App (MessageRow × Bool × List String)).Stays
        (Held sid home rows) s := by
    intro held
    refine createMessage_then hs hspace (fun msg t ht => ?_)
    exact (keeps_queue.stays ht).mono (fun u hu => hu.1)
  unfold Uploads.store
  dsimp only
  split
  · exact hheld false
  · exact Prog.stays_guard hs (Prog.keeps_ofExcept (Q := fun _ => True) (fun _ _ => trivial))
      (fun held _ => hheld held)

theorem multipart_stays {up : Uploads} {fields : List Field} (hs : Held sid home rows s)
    (hspared : ∀ input files, Received up channelId auth fields s input files →
      ∀ channel, Channels.getChannelRow channelId s.db = .ok channel →
        channel.spaceId ≠ some sid) :
    (createMessageMultipart up channelId auth fields).Stays (Held sid home rows) s := by
  refine stays_checked hs (fun spaceId hpermitted => ?_)
  refine Prog.stays_guard hs notTimedOut_guard (fun _ htimely => ?_)
  have hform : (MonadLiftT.monadLift (up.receive fields) : App _).Keeps (fun t => t = s)
      (fun a => up.receive fields = .ok a) := Prog.keeps_ofExcept (fun _ h => h)
  refine Prog.stays_guard hs hform (fun received hreceived => ?_)
  obtain ⟨input, files⟩ := received
  refine stays_checked hs (fun _ hthread => stays_checked hs (fun channel hchannel => ?_))
  have hspace := hspared input files ⟨⟨spaceId, hpermitted, htimely⟩, hreceived, hthread⟩
    channel hchannel
  refine stays_checked hs (fun cooldownMs _ => ?_)
  refine Prog.Stays.bind (R := fun _ => True) (store_stays hs hspace) (fun stored => ?_)
  obtain ⟨msg, held, pendingIds⟩ := stored
  refine keeps_then quiet_isReplica (Routes.Messages.touches_applyMentionCounts _) (by decide)
    (fun _ => ?_)
  have hannounce : ∀ attachments, (Routes.Messages.broadcastTo channel none "message.create"
      (messageRowToJson msg attachments) >>= fun _ =>
        (pure (Json.obj [("data", messageRowToJson msg attachments),
          ("pending_attachments", .strings pendingIds)]) : App Json)).Maintains
      (Held sid home rows) := by
    intro attachments
    exact keeps_then quiet_isReplica (Routes.Messages.touches_broadcastTo _ _ _ _) (by decide)
      (fun _ => trivial)
  dsimp only
  split
  · exact hannounce _
  · exact keeps_then quiet_isReplica (Routes.Messages.touches_saveFiles _ _ _ _) (by decide)
      (fun attachments => hannounce _)

end

section

open Routes.Messages (Uploads Field)
open Routes.Reactions (Operation)

inductive Request where
  | create (channelId : String) (auth : AuthUser) (input : Db.Messages.CreateMessage)
      (reply : Except AppError Response) (unfurled : Option Json)
  | createMultipart (up : Uploads) (channelId : String) (auth : AuthUser) (fields : List Field)
  | update (channelId messageId : String) (auth : AuthUser) (input : Db.Messages.UpdateMessage)
      (reply : Except AppError Response)
  | delete (channelId messageId : String) (auth : AuthUser) (reply : Except AppError Response)
  | bulkDelete (channelId : String) (auth : AuthUser) (ids : List String)
  | pin (channelId messageId : String) (auth : AuthUser)
  | unpin (channelId messageId : String) (auth : AuthUser)
  | react (op : Operation) (channelId messageId emoji : String) (auth : AuthUser)
      (reply : Except AppError Response)

namespace Request

def program : Request → App Json
  | .create channelId auth input reply unfurled =>
    Routes.Messages.createMessage channelId auth input reply unfurled
  | .createMultipart up channelId auth fields =>
    Routes.Messages.createMessageMultipart up channelId auth fields
  | .update channelId messageId auth input reply =>
    Routes.Messages.updateMessage channelId messageId auth input reply
  | .delete channelId messageId auth reply =>
    Routes.Messages.deleteMessage channelId messageId auth reply
  | .bulkDelete channelId auth ids => Routes.Messages.bulkDeleteMessages channelId auth ids
  | .pin channelId messageId auth => Routes.Messages.pinMessage channelId messageId auth
  | .unpin channelId messageId auth => Routes.Messages.unpinMessage channelId messageId auth
  | .react op channelId messageId emoji auth reply =>
    op.serve channelId messageId emoji auth reply

def Serves (s : AppState) (req : Request) (t : AppState) : Prop :=
  ∃ q, Relation.ReflTransGen Prog.Step (req.program, s) (q, t)

def Spares (sid : String) (s : AppState) : Request → Prop
  | .create .. | .update .. => True
  | .createMultipart up channelId auth fields =>
    ∀ input files, Received up channelId auth fields s input files →
      ∀ channel, Channels.getChannelRow channelId s.db = .ok channel → channel.spaceId ≠ some sid
  | .delete channelId messageId _ _ =>
    ∀ existing, Routes.Messages.messageIn channelId messageId s.db = .ok existing →
      Routes.Messages.homeOfMessage existing s.db = .ok none →
        Untied sid s.db (s.db.deletedWith [messageId])
  | .bulkDelete channelId auth ids =>
    ∀ spaceId, requireChannelPermission channelId auth "manage_messages" s.db = .ok spaceId →
      ids.length ≤ 100 → Spared sid channelId ids s.db
  | .pin channelId messageId auth | .unpin channelId messageId auth =>
    ∀ spaceId, requireChannelPermission channelId auth "manage_messages" s.db = .ok spaceId →
      inSpace sid s.db messageId = false ∧ channelIn sid s.db channelId = false
  | .react op channelId messageId _ auth _ =>
    ∀ spaceId, Reaches op auth channelId s spaceId → inSpace sid s.db messageId = false

variable {sid home : String} {rows : Rows} {s t : AppState} {req : Request}

theorem program_stays (hs : Held sid home rows s) (hspares : req.Spares sid s) :
    req.program.Stays (Held sid home rows) s := by
  cases req with
  | create channelId auth input reply unfurled => exact keeps_create.stays hs
  | createMultipart up channelId auth fields => exact multipart_stays hs hspares
  | update channelId messageId auth input reply => exact keeps_update.stays hs
  | delete channelId messageId auth reply => exact delete_stays hs hspares
  | bulkDelete channelId auth ids => exact bulkDelete_stays hs hspares
  | pin channelId messageId auth => exact pin_stays hs hspares
  | unpin channelId messageId auth => exact unpin_stays hs hspares
  | react op channelId messageId emoji auth reply => exact react_stays hs hspares

theorem serves_held (hs : Held sid home rows s) (hspares : req.Spares sid s)
    (hserves : req.Serves s t) : Held sid home rows t := by
  obtain ⟨q, hrun⟩ := hserves
  exact (program_stays hs hspares).run hrun

end Request

open Request

theorem local_requests_leave_rows {sid home : String} {s t : AppState} {reqs : List Request}
    (horigin : Federation.spaceOrigin sid s.db = .ok (some home)) (hkeys : s.db.MessageKeys)
    (hrun : Lib.Runs (fun s req t => req.Spares sid s ∧ req.Serves s t) s reqs t) :
    Rows.ofSpace sid t.db = Rows.ofSpace sid s.db :=
  (Lib.Runs.invariant (I := Held sid home (Rows.ofSpace sid s.db))
    (fun _ _ _ hs hstep => serves_held hs hstep.1 hstep.2) ⟨horigin, rfl, hkeys⟩ hrun).rows

def replicaServer : AppState where
  db :=
    { users :=
        [{ id := "1", username := "bob" },
          { id := "7@h.example", username := "alice@h.example", origin := some "h.example" }]
      spaces :=
        [{ id := "2@h.example", name := "home", ownerId := "7@h.example",
           origin := some "h.example" },
          { id := "10", name := "here", ownerId := "1" }]
      channels :=
        [{ id := "3@h.example", spaceId := some "2@h.example", origin := some "h.example" },
          { id := "11", spaceId := some "10" }]
      roles :=
        [{ id := "4@h.example", spaceId := "2@h.example", name := "@everyone"
           permissions := ["view_channel", "send_messages", "manage_messages"] }]
      members :=
        [{ userId := "1", spaceId := "2@h.example" }, { userId := "1", spaceId := "10" }]
      messages :=
        [{ id := "5@h.example", channelId := "3@h.example", spaceId := some "2@h.example"
           authorId := "7@h.example", content := "hello" },
          { id := "12", channelId := "11", spaceId := some "10", authorId := "1"
            content := "hi" }]
      reactions :=
        [{ messageId := "5@h.example", userId := "7@h.example", emojiName := "wave" }] }
  ext := Externals.fixed "2026-01-01 00:00:00"

def bob : AuthUser := { userId := "1" }

def plainUploads : Uploads where
  maxAttachments := 10
  maxAttachmentSize := 25 * 1024 * 1024
  charge := fun _ => .ok ()
  parse := fun _ => .ok { content := "over here" }
  contentHash := fun _ => ""
  isAlphanumeric := Char.isAlphanum
  dimensions := fun _ => (none, none)
  preflight := .ok false
  retentionDays := 7
  enqueued := .ok ()

def served (req : Request) (s : AppState) : AppState := (req.program.exec s).2

theorem serves_exec (req : Request) (s : AppState) : req.Serves s (served req s) := by
  obtain ⟨q, hrun, _⟩ := Prog.exec_steps req.program s
  exact ⟨q, hrun⟩

def unanswered : Except AppError Response := .error (.internal "no answer")

theorem replicaServer_origin :
    Federation.spaceOrigin "2@h.example" replicaServer.db = .ok (some "h.example") := by
  rfl

theorem replicaServer_keys : replicaServer.db.MessageKeys :=
  ⟨by simp [Lib.Table.Distinct, replicaServer], by decide, by decide, by decide⟩

def posted : Request := .create "3@h.example" bob { content := "over here" } unanswered none

def pinnedHere : Request := .pin "11" "12" bob

theorem forwarded_and_pinned :
    Rows.ofSpace "2@h.example" (served pinnedHere (served posted replicaServer)).db =
      Rows.ofSpace "2@h.example" replicaServer.db := by
  have hpinned : pinnedHere.Spares "2@h.example" (served posted replicaServer) :=
    fun _ _ => by decide +kernel
  have hrun : Lib.Runs (fun s req t => req.Spares "2@h.example" s ∧ req.Serves s t)
      replicaServer [posted, pinnedHere] (served pinnedHere (served posted replicaServer)) :=
    .cons ⟨trivial, serves_exec _ _⟩ (.cons ⟨hpinned, serves_exec _ _⟩ (.nil _))
  exact local_requests_leave_rows replicaServer_origin replicaServer_keys hrun

def unguarded : List Request :=
  [.createMultipart plainUploads "3@h.example" bob [.payloadJson [[]]],
    .bulkDelete "3@h.example" bob ["5@h.example"],
    .pin "3@h.example" "5@h.example" bob,
    .react .removeAll "3@h.example" "5@h.example" "" bob unanswered,
    .react .removeAllEmoji "3@h.example" "5@h.example" "wave" bob unanswered,
    .react (.removeUser "7@h.example") "3@h.example" "5@h.example" "wave" bob unanswered,
    .react .add "11" "5@h.example" "wave" bob unanswered]

theorem handlers_without_forward :
    Federation.spaceOrigin "2@h.example" replicaServer.db = .ok (some "h.example") ∧
      replicaServer.db.MessageKeys ∧
      ∀ req ∈ unguarded, ∃ t, req.Serves replicaServer t ∧
        Rows.ofSpace "2@h.example" t.db ≠ Rows.ofSpace "2@h.example" replicaServer.db := by
  have hchanged : ∀ req ∈ unguarded, Rows.ofSpace "2@h.example" (served req replicaServer).db ≠
      Rows.ofSpace "2@h.example" replicaServer.db := by decide +kernel
  refine ⟨replicaServer_origin, replicaServer_keys, fun req hreq => ?_⟩
  exact ⟨served req replicaServer, serves_exec req _, hchanged req hreq⟩

end

end Vokusz.Routes.Replica
