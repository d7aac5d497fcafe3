import Vokusz.Db.References
import Vokusz.Federation.Profiles

namespace Vokusz.Lib.Prog

variable {σ ε α ι : Type} {γ : ι → Type} {field : (n : ι) → σ → γ n} {ns : List ι}

theorem Touches.keeps {p : Prog σ ε α} {I : σ → Prop} (h : p.Touches field ns)
    (hI : ∀ s t, (∀ n, n ∉ ns → field n t = field n s) → I s → I t) : p.Maintains I := by
  induction p with
  | ret a => trivial
  | fail e => trivial
  | step u k ih =>
    intro s hs
    exact ⟨hI s (u s) (fun n hn => (h n hn s).1) hs, ih s (fun n hn => (h n hn s).2)⟩
  | stmt u k q ih ihq =>
    refine ⟨fun s hs => ?_, ihq (fun n hn => (h n hn).2)⟩
    exact ⟨hI s (u s) (fun n hn => ((h n hn).1 s).1) hs, ih s (fun n hn => ((h n hn).1 s).2)⟩

end Vokusz.Lib.Prog

namespace Vokusz.Federation.Confinement

open App Authority Db
open Lib (Prog Table.insertNew Table.update Table.upsert Table.delete)

section

variable {ρ κ : Type} [DecidableEq κ] {peer : String} {key : ρ → κ} {home : ρ → String}
  {row : ρ} {f : ρ → ρ} {rows : List ρ}

def foreign (peer : String) (home : ρ → String) (rows : List ρ) : List ρ :=
  rows.filter (fun r => !homedOn (home r) peer)

theorem foreign_insertNew (h : homedOn (home row) peer = true) :
    foreign peer home (Table.insertNew key row rows) = foreign peer home rows :=
  Lib.Table.filter_insertNew (by simp [h])

theorem foreign_update {k : κ} (h : ∀ r, key r = k → homedOn (home r) peer = true)
    (hf : ∀ r, home (f r) = home r) :
    foreign peer home (Table.update key k f rows) = foreign peer home rows := by
  refine Lib.Table.filter_update (fun r _ hkey => ?_)
  simp [hf r, h r hkey]

theorem foreign_upsert {id : ρ → String} (h : homedOn (id row) peer = true)
    (hf : ∀ r, id (f r) = id r) :
    foreign peer id (Table.upsert id row f rows) = foreign peer id rows := by
  unfold Table.upsert
  split
  · exact foreign_update (fun r hkey => hkey ▸ h) hf
  · simp [foreign, List.filter_append, h]

theorem foreign_filter {p : ρ → Bool} (h : ∀ r, p r = false → homedOn (home r) peer = true) :
    foreign peer home (rows.filter p) = foreign peer home rows := by
  rw [foreign, List.filter_filter]
  refine List.filter_congr (fun r _ => ?_)
  cases hp : p r with
  | true => simp
  | false => simp [h r hp]

end

section

variable {peer : String}

def unlinked (peer : String) (m : MessageRow) : MessageRow :=
  if m.replyTo.any (fun r => homedOn r peer) then { m with replyTo := none } else m

-- The rows that `peer` is not home to, where the rows of the slot have a home.
def elsewhere (peer : String) : (n : Slot) → n.Value → n.Value
  | .spaces, rows => foreign peer SpaceRow.id rows
  | .channels, rows => foreign peer ChannelRow.id rows
  | .roles, rows => foreign peer RoleRow.id rows
  | .members, rows => foreign peer MemberRow.spaceId rows
  | .memberRoles, rows => foreign peer MemberRole.spaceId rows
  | .messages, rows => (foreign peer MessageRow.id rows).map (unlinked peer)
  | .reactions, rows => foreign peer ReactionRow.messageId rows
  | .attachments, rows => foreign peer AttachmentRow.messageId rows
  | .pinnedMessages, rows => foreign peer PinnedMessage.messageId rows
  | .dmParticipants, rows => foreign peer DmParticipant.channelId rows
  | .emojis, rows => foreign peer EmojiRow.id rows
  | .emojiRoles, rows => foreign peer EmojiRole.emojiId rows
  | _, value => value

-- What a delivery writes besides: the users it mirrors, and the server's own records.
def incidental : List Slot :=
  [.users, .attachmentDeletions, .federationInboxDedup, .gatewayTx, .requests]

def ThreadsHome (peer : String) (rows : List MessageRow) : Prop :=
  ∀ m ∈ rows, ∀ t, m.threadId = some t → homedOn t peer = true → homedOn m.id peer = true

structure Confined (peer : String) (kept : (n : Slot) → n.Value) (s : AppState) : Prop where
  rows : ∀ n, n ∉ incidental → elsewhere peer n (s.slot n) = kept n
  threads : ThreadsHome peer s.db.messages

end

section

variable {peer : String} {kept : (n : Slot) → n.Value} {α : Type}

theorem keeps_of_touches {slots : List Slot} {q : App α} (h : Touches slots q)
    (hslots : slots ⊆ incidental) : q.Maintains (Confined peer kept) := by
  refine (h.mono hslots).keeps (fun s t hsame hs => ⟨fun n hn => ?_, ?_⟩)
  · rw [hsame n hn]
    exact hs.rows n hn
  · have hmessages : t.db.messages = s.db.messages := hsame .messages (by decide)
    rw [hmessages]
    exact hs.threads

theorem keeps_of_parts {slots : List Slot} {q : App α} (h : Touches slots q)
    (hmessages : Slot.messages ∉ slots)
    (hparts : ∀ n ∈ slots, n ∉ incidental →
      q.Preserves (fun s => elsewhere peer n (s.slot n))) :
    q.Maintains (Confined peer kept) := by
  have hboth : Prog.Touches (fun n s => (elsewhere peer n (AppState.slot n s), s.db.messages))
      incidental q := by
    intro n hn
    refine Prog.Preserves.pair ?_ (h .messages hmessages)
    by_cases hwritten : n ∈ slots
    · exact hparts n hwritten hn
    · exact (h n hwritten).map (elsewhere peer n)
  refine hboth.keeps (fun s t hsame hs => ⟨fun n hn => ?_, ?_⟩)
  · exact (Prod.mk.inj (hsame n hn)).1.trans (hs.rows n hn)
  · rw [(Prod.mk.inj (hsame .messages (by decide))).2]
    exact hs.threads

theorem keeps_then {β : Type} {slots : List Slot} {q : App α} {f : α → App β}
    (h : Touches slots q) (hslots : slots ⊆ incidental)
    (hf : ∀ a, (f a).Maintains (Confined peer kept)) : (q >>= f).Maintains (Confined peer kept) :=
  (keeps_of_touches h hslots).bind (fun a _ => hf a)

theorem keeps_of_part {n : Slot} {q : App α} (h : Touches [n] q) (hn : n ≠ .messages)
    (hpart : q.Preserves (fun s => elsewhere peer n (s.slot n))) :
    q.Maintains (Confined peer kept) := by
  refine keeps_of_parts h (by simpa using hn.symm) ?_
  rintro m hm -
  rw [List.mem_singleton.mp hm]
  exact hpart

theorem keeps_upsertRemoteDmChannel {id : String} (h : homedOn id peer = true)
    (origin channelType ownerId : String) :
    (Federation.upsertRemoteDmChannel id origin channelType ownerId).Maintains
      (Confined peer kept) :=
  keeps_of_part (Federation.touches_upsertRemoteDmChannel _ _ _ _) (by decide)
    (App.preserves_write (fun _ => foreign_upsert h (fun _ => rfl)))

theorem keeps_addParticipant {channelId : String} (h : homedOn channelId peer = true)
    (userId : String) :
    (DmParticipants.addParticipant channelId userId).Maintains (Confined peer kept) :=
  keeps_of_part DmParticipants.touches_addParticipant (by decide)
    (App.preserves_write (fun _ => foreign_insertNew h))

theorem keeps_addMemberWithOrigin {spaceId : String} (h : homedOn spaceId peer = true)
    (userId : String) (origin : Option String) :
    (Federation.addMemberWithOrigin spaceId userId origin).Maintains (Confined peer kept) :=
  keeps_of_part (Federation.touches_addMemberWithOrigin _) (by decide)
    (App.preserves_write (fun _ => foreign_insertNew h))

theorem keeps_removeMember {spaceId : String} (h : homedOn spaceId peer = true)
    (userId : String) : (Members.removeMember spaceId userId).Maintains (Confined peer kept) := by
  refine keeps_of_parts Members.touches_removeMember (by decide) ?_
  have of_space : ∀ {sid : String}, sid = spaceId → homedOn sid peer = true := fun hs => hs ▸ h
  intro n hn _
  rcases List.mem_pair.mp hn with rfl | rfl
  · exact App.preserves_update (fun s => foreign_filter (fun r hr => of_space (by simp_all)))
  · exact App.preserves_update (fun s => foreign_filter (fun r hr => of_space (by simp_all)))

theorem keeps_changeReaction {messageId : String} (h : homedOn messageId peer = true)
    (add : Bool) (userId emoji : String) :
    (Messages.changeReaction add messageId userId emoji).Maintains (Confined peer kept) := by
  refine keeps_of_part (Messages.touches_changeReaction _ _) (by decide) ?_
  refine Prog.preserves_ite (App.preserves_write (fun s => ?_))
    (App.preserves_update (fun s => foreign_filter (fun r hr => ?_)))
  · exact foreign_insertNew h
  · have hmessage : r.messageId = messageId := by simp_all
    rw [hmessage]
    exact h

theorem keeps_upsertRemoteEmoji {id : String} (h : homedOn id peer = true)
    (origin spaceId name : String) (animated : Bool) (imageUrl : Option String)
    (roleIds : List String) :
    (Emojis.upsertRemoteEmoji id origin spaceId name animated imageUrl roleIds).Maintains
      (Confined peer kept) := by
  refine keeps_of_parts (Emojis.touches_upsertRemoteEmoji _ _ _ _ _ _) (by decide) ?_
  have of_emoji : ∀ {e : String}, e = id → homedOn e peer = true := fun he => he ▸ h
  intro n hn _
  rcases List.mem_pair.mp hn with rfl | rfl
  · refine Prog.Preserves.bind (App.preserves_write (fun s => ?_)) (fun _ => ?_)
    · exact foreign_upsert h (fun _ => rfl)
    refine Prog.Preserves.bind (App.preserves_update (fun _ => rfl)) (fun _ => ?_)
    refine Prog.preserves_forEach (fun roleId _ => ?_)
    refine Prog.Preserves.bind (App.preserves_query _) (fun found => ?_)
    exact Prog.preserves_ite (App.preserves_update (fun _ => rfl)) (Prog.preserves_pure _)
  · refine Prog.Preserves.bind (App.preserves_write (fun _ => rfl)) (fun _ => ?_)
    refine Prog.Preserves.bind (App.preserves_update (fun s => ?_)) (fun _ => ?_)
    · exact foreign_filter (fun r hr => of_emoji (by simpa using hr))
    refine Prog.preserves_forEach (fun roleId _ => ?_)
    refine Prog.Preserves.bind (App.preserves_query _) (fun found => ?_)
    refine Prog.preserves_ite (App.preserves_update (fun s => ?_)) (Prog.preserves_pure _)
    exact foreign_insertNew h

theorem keeps_deleteEmoji {id : String} (h : homedOn id peer = true) :
    (Emojis.deleteEmoji id).Maintains (Confined peer kept) := by
  refine keeps_of_parts (Emojis.touches_deleteEmoji _) (by decide) ?_
  have of_emoji : ∀ {e : String}, e = id → homedOn e peer = true := fun he => he ▸ h
  intro n hn _
  refine Prog.Preserves.bind (App.preserves_query _) (fun _ => ?_)
  refine Prog.Preserves.bind (App.preserves_update (fun s => ?_)) (fun _ => Prog.preserves_pure _)
  rcases List.mem_pair.mp hn with rfl | rfl
  · exact foreign_filter (fun r hr => of_emoji (by simpa using hr))
  · exact foreign_filter (fun r hr => of_emoji (by simpa using hr))

end

section

variable {peer : String} {kept : (n : Slot) → n.Value} {α : Type}

def Harmless (peer : String) (kept : (n : Slot) → n.Value) (f : Tables → Tables) : Prop :=
  ∀ s, Confined peer kept s → Confined peer kept (s.withDb (f s.db))

theorem keeps_write {check : Tables → Option AppError} {f : Tables → Tables}
    (h : Harmless peer kept f) : (App.write check f).Maintains (Confined peer kept) :=
  App.keeps_write h

theorem keeps_update {f : Tables → Tables} (h : Harmless peer kept f) :
    (App.update f).Maintains (Confined peer kept) :=
  keeps_write h

theorem keeps_writeCounted {check : Tables → Option AppError} {affected : Tables → Bool}
    {f : Tables → Tables} (h : Harmless peer kept f) :
    (App.writeCounted check affected f).Maintains (Confined peer kept) := by
  refine Prog.keeps_statement (fun s hs => ?_) (fun _ _ _ _ => trivial)
  dsimp only
  cases check s.db with
  | none => exact h s hs
  | some e => exact hs

theorem harmless_of {slots : List Slot} {f : Tables → Tables} (h : App.Confined slots f)
    (hrows : ∀ s, Confined peer kept s → ∀ n ∈ slots, n ∉ incidental →
      elsewhere peer n ((s.withDb (f s.db)).slot n) = elsewhere peer n (s.slot n))
    (hthreads : ∀ s, Confined peer kept s → ThreadsHome peer (f s.db).messages) :
    Harmless peer kept f := by
  refine fun s hs => ⟨fun n hn => ?_, hthreads s hs⟩
  by_cases hwritten : n ∈ slots
  · exact (hrows s hs n hwritten hn).trans (hs.rows n hn)
  · rw [h n hwritten s]
    exact hs.rows n hn

theorem keeps_insertRemoteMessage {msg : Messages.RemoteMessageInsert}
    (hid : homedOn msg.id peer = true) (hchannel : homedOn msg.channelId peer = true) :
    (Messages.insertRemoteMessage msg).Maintains (Confined peer kept) := by
  refine Prog.Keeps.bind (keeps_writeCounted (@harmless_of _ _ [.messages] _ ?_ ?_ ?_))
    (fun stored _ => ?_)
  · intro n hn s
    cases n <;> first | rfl | simp at hn
  · rintro s hs n hn -
    obtain rfl := List.mem_singleton.mp hn
    exact congrArg (List.map _) (foreign_insertNew hid)
  · intro s hs m hm t ht
    rcases Lib.Table.mem_insertNew hm with hold | rfl
    · exact hs.threads m hold t ht
    · cases ht
  · refine Prog.keeps_ite (Prog.Keeps.bind (keeps_update
      (@harmless_of _ _ [.channels] _ ?_ ?_ (fun _ hs => hs.threads))) (fun _ _ => ?_)) trivial
    · intro n hn s
      cases n <;> first | rfl | simp at hn
    · rintro s hs n hn -
      obtain rfl := List.mem_singleton.mp hn
      exact foreign_update (fun c hc => hc ▸ hchannel) (fun _ => rfl)
    · exact keeps_then (touches_lift _) (List.nil_subset _) (fun _ => trivial)

theorem keeps_assignColumn {β : Type} {messageId : String} (h : homedOn messageId peer = true)
    (value : Option β) {set : β → MessageRow → MessageRow}
    (hid : ∀ v m, (set v m).id = m.id) (hthread : ∀ v m, (set v m).threadId = m.threadId) :
    (Messages.assignColumn value messageId set).Maintains (Confined peer kept) := by
  cases value with
  | none => trivial
  | some v =>
    refine keeps_update (@harmless_of _ _ [.messages] _ ?_ ?_ ?_)
    · intro n hn s
      cases n <;> first | rfl | simp at hn
    · rintro s hs n hn -
      obtain rfl := List.mem_singleton.mp hn
      exact congrArg (List.map _) (foreign_update (fun m hm => hm ▸ h) (hid v))
    · intro s hs m hm t ht hhome
      rcases Lib.Table.mem_update hm with ⟨hold, _⟩ | ⟨old, hold, _, rfl⟩
      · exact hs.threads m hold t ht hhome
      · rw [hid]
        exact hs.threads old hold t ((hthread v old).symm.trans ht) hhome

theorem keeps_editRemoteMessage {messageId : String} (h : homedOn messageId peer = true)
    (content editedAt : Option String) :
    (Messages.editRemoteMessage messageId content editedAt).Maintains (Confined peer kept) := by
  refine Prog.Keeps.bind (keeps_assignColumn h content ?_ ?_) (fun _ _ => ?_)
  · exact fun _ _ => rfl
  · exact fun _ _ => rfl
  · exact keeps_assignColumn h editedAt (fun _ _ => rfl) (fun _ _ => rfl)

theorem homed_threadClosure {rows : List MessageRow} (h : ThreadsHome peer rows) {n : Nat}
    {ids : List String} (hids : ∀ id ∈ ids, homedOn id peer = true) :
    ∀ id ∈ Tables.threadClosure rows n ids, homedOn id peer = true := by
  induction n generalizing ids with
  | zero => exact hids
  | succ n ih =>
    refine ih (fun id hid => ?_)
    rcases List.mem_append.mp hid with hroot | hreply
    · exact hids id hroot
    · obtain ⟨r, hr, rfl, t, ht, hmem⟩ := Tables.mem_repliesTo hreply
      exact h r hr t ht (hids t hmem)

theorem unlinked_unlinkReply {gone : List String} (h : ∀ id ∈ gone, homedOn id peer = true)
    (m : MessageRow) : unlinked peer (Tables.unlinkReply gone m) = unlinked peer m := by
  unfold Tables.unlinkReply
  split
  · rename_i hgone
    obtain ⟨r, hr, hmem⟩ := (Option.any_eq_true ..).mp hgone
    have hhome : homedOn r peer = true := h r (by simpa using hmem)
    simp [unlinked, hr, hhome]
  · rfl

theorem elsewhere_removeMessages {gone : List String} (h : ∀ id ∈ gone, homedOn id peer = true)
    (rows : List MessageRow) :
    (foreign peer MessageRow.id ((rows.filter (fun m => !gone.contains m.id)).map
        (Tables.unlinkReply gone))).map (unlinked peer) =
      (foreign peer MessageRow.id rows).map (unlinked peer) := by
  have hkept : foreign peer MessageRow.id (rows.filter (fun m => !gone.contains m.id)) =
      foreign peer MessageRow.id rows :=
    foreign_filter (fun m hm => h m.id (by simpa using hm))
  rw [← hkept, foreign, List.filter_map, List.map_map]
  simp only [Function.comp_def, Tables.unlinkReply_id, unlinked_unlinkReply h]
  rfl

theorem keeps_deleteMessage {messageId : String} (h : homedOn messageId peer = true) :
    (Messages.deleteMessage messageId).Maintains (Confined peer kept) := by
  have hgone : ∀ s, Confined peer kept s → ∀ id ∈ s.db.deletedWith [messageId],
      homedOn id peer = true := by
    intro s hs
    refine homed_threadClosure hs.threads (fun id hid => ?_)
    rw [List.mem_singleton.mp (List.mem_filter.mp hid).1]
    exact h
  refine keeps_update (@harmless_of _ _ [.messages, .reactions, .attachments,
    .attachmentDeletions, .pinnedMessages] _ ?_ ?_ ?_)
  · intro n hn s
    cases n <;> first | rfl | simp at hn
  · intro s hs n hn hown
    have hkept : ∀ id, (!(s.db.deletedWith [messageId]).contains id) = false →
        homedOn id peer = true := fun id hid => hgone s hs id (by simpa using hid)
    simp only [List.mem_cons, List.not_mem_nil, or_false] at hn
    rcases hn with rfl | rfl | rfl | rfl | rfl
    · exact elsewhere_removeMessages (hgone s hs) s.db.messages
    · exact foreign_filter (fun r => hkept r.messageId)
    · exact foreign_filter (fun a => hkept a.messageId)
    · exact absurd (by decide) hown
    · exact foreign_filter (fun p => hkept p.messageId)
  · intro s hs m hm t ht hhome
    obtain ⟨old, hold, rfl⟩ := List.mem_map.mp hm
    rw [Tables.unlinkReply_id]
    exact hs.threads old (List.mem_filter.mp hold).1 t
      ((Tables.unlinkReply_threadId _ old).symm.trans ht) hhome

end

section

variable {ourDomain peer : String} {env : FederationEnvelope} {kept : (n : Slot) → n.Value}
  {α β : Type}

theorem keeps_read {q : App α} {f : α → App β} {Q : β → Prop} (h : Touches [] q)
    (hf : ∀ a, (f a).Keeps (Confined peer kept) Q) : (q >>= f).Keeps (Confined peer kept) Q :=
  (keeps_of_touches h (List.nil_subset _)).bind (fun a _ => hf a)

theorem keeps_storeMessage {payload : Apply.RemoteMessagePayload}
    (hid : homedOn payload.id peer = true) (hchannel : homedOn payload.channelId peer = true)
    (channel : ChannelRow) :
    (Apply.storeMessage peer payload channel).Maintains (Confined peer kept) := by
  refine keeps_then (touches_mirrorRef _ _) (by decide) (fun _ => ?_)
  refine Prog.keeps_require.bind (fun _ _ => ?_)
  refine Prog.Keeps.bind (keeps_insertRemoteMessage hid hchannel) (fun row _ => ?_)
  cases row with
  | none => trivial
  | some row => exact keeps_of_touches (touches_broadcastSpace _ _ _ _) (by decide)

theorem keeps_applyMessageCreate :
    (Apply.applyMessageCreate peer env).Maintains (Confined peer kept) := by
  refine keeps_read (touches_orBadRequest _ _) (fun payload => ?_)
  unfold Apply.checkMessageCreate
  simp only [bind_assoc]
  refine keeps_check (fun hid => keeps_check (fun hchannel => keeps_check (fun _ => ?_)))
  refine keeps_check (fun _ => ?_)
  refine Prog.keeps_require.bind (fun _ _ => ?_)
  refine Prog.keeps_require.bind (fun _ _ => ?_)
  refine Prog.keeps_require.bind (fun _ _ => ?_)
  refine Prog.keeps_require.bind (fun _ _ => ?_)
  refine keeps_read (touches_validateOptionalUrl _ _) (fun _ => ?_)
  refine keeps_read (touches_found? _) (fun channel => ?_)
  cases channel with
  | none => trivial
  | some channel =>
    exact keeps_storeMessage (requireHomedOn_ok.mp hid) (requireHomedOn_ok.mp hchannel) channel

theorem keeps_applyMessageUpdate :
    (Apply.applyMessageUpdate peer env).Maintains (Confined peer kept) := by
  refine keeps_read (touches_orBadRequest _ _) (fun payload => ?_)
  refine keeps_check (fun hid => ?_)
  refine Prog.keeps_require.bind (fun _ _ => ?_)
  refine keeps_read (touches_found? _) (fun existing => ?_)
  cases existing with
  | none => trivial
  | some existing =>
    refine Prog.keeps_ite trivial ?_
    refine (keeps_editRemoteMessage (requireHomedOn_ok.mp hid) _ _).bind (fun _ _ => ?_)
    exact keeps_of_touches (touches_rebroadcastUpdate _) (by decide)

theorem keeps_applyMessageDelete :
    (Apply.applyMessageDelete peer env).Maintains (Confined peer kept) := by
  refine keeps_read (touches_orBadRequest _ _) (fun payload => ?_)
  refine keeps_check (fun hid => ?_)
  refine keeps_read (touches_found? _) (fun existing => ?_)
  cases existing with
  | none => trivial
  | some existing =>
    refine Prog.keeps_ite trivial ?_
    refine (keeps_deleteMessage (requireHomedOn_ok.mp hid)).bind (fun _ _ => ?_)
    exact keeps_of_touches (touches_broadcastSpace _ _ _ _) (by decide)

theorem keeps_applyReaction (add : Bool) :
    (Apply.applyReaction peer env add).Maintains (Confined peer kept) := by
  refine keeps_read (touches_orBadRequest _ _) (fun payload => ?_)
  refine keeps_check (fun hid => keeps_check (fun _ => keeps_check (fun _ => ?_)))
  refine Prog.keeps_require.bind (fun _ _ => ?_)
  refine keeps_read (touches_found? _) (fun msg => ?_)
  cases msg with
  | none => trivial
  | some msg =>
    refine keeps_then (Users.touches_ensureRemoteUser _ _ _ _ _) (by decide) (fun _ => ?_)
    refine (keeps_changeReaction (requireHomedOn_ok.mp hid) _ _ _).bind (fun _ _ => ?_)
    exact keeps_of_touches (touches_broadcastSpace _ _ _ _) (by decide)

theorem keeps_applyEmojiUpsert (created : Bool) :
    (Apply.applyEmojiUpsert peer env created).Maintains (Confined peer kept) := by
  refine keeps_read (touches_orBadRequest _ _) (fun payload => ?_)
  refine keeps_check (fun hid => keeps_check (fun _ => ?_))
  refine Prog.keeps_require.bind (fun _ _ => ?_)
  refine Prog.keeps_require.bind (fun _ _ => ?_)
  refine keeps_read (touches_validateOptionalUrl _ _) (fun _ => ?_)
  refine keeps_read (touches_found? _) (fun space => ?_)
  cases space with
  | none => trivial
  | some space =>
    refine (keeps_upsertRemoteEmoji (requireHomedOn_ok.mp hid) _ _ _ _ _ _).bind (fun _ _ => ?_)
    refine keeps_read (touches_found? _) (fun emoji => ?_)
    exact keeps_of_touches (touches_broadcastSpace _ _ _ _) (by decide)

theorem keeps_applyEmojiDelete :
    (Apply.applyEmojiDelete peer env).Maintains (Confined peer kept) := by
  refine keeps_read (touches_orBadRequest _ _) (fun id => ?_)
  refine keeps_check (fun hid => ?_)
  refine keeps_read (touches_lift _) (fun origin => ?_)
  refine Prog.keeps_ite trivial ?_
  refine keeps_read (touches_lift _) (fun spaceId => ?_)
  refine (keeps_deleteEmoji (requireHomedOn_ok.mp hid)).bind (fun _ _ => ?_)
  exact keeps_of_touches (touches_broadcastSpace _ _ _ _) (by decide)

theorem keeps_dmMessageCreate : (Dm.applyMessageCreate peer env).Maintains (Confined peer kept) := by
  refine keeps_read (touches_orBadRequest _ _) (fun payload => ?_)
  unfold Dm.checkDmMessageCreate
  simp only [bind_assoc]
  refine keeps_check (fun hid => keeps_check (fun hchannel => keeps_check (fun _ => ?_)))
  refine Prog.keeps_require.bind (fun _ _ => ?_)
  refine keeps_read (touches_found? _) (fun channel => ?_)
  cases channel with
  | none => trivial
  | some channel =>
    refine keeps_then (Users.touches_upsertRemoteUser _ _ _ _ _) (by decide) (fun _ => ?_)
    refine Prog.Keeps.bind (keeps_insertRemoteMessage (requireHomedOn_ok.mp hid)
      (requireHomedOn_ok.mp hchannel)) (fun row _ => ?_)
    cases row with
    | none => trivial
    | some row => exact keeps_of_touches (Dm.touches_broadcastMessage _ _ _) (by decide)

section

variable (hspace : ∀ sid, env.spaceId = some sid → homedOn sid peer = true)

include hspace

theorem keeps_applyMemberJoin : (Apply.applyMemberJoin peer env).Maintains (Confined peer kept) := by
  unfold Apply.applyMemberJoin
  cases hsid : env.spaceId with
  | none => trivial
  | some spaceId =>
    refine keeps_read (touches_orBadRequest _ _) (fun user => ?_)
    refine keeps_read (touches_found? _) (fun space => ?_)
    cases space with
    | none => trivial
    | some space =>
      refine keeps_check (fun _ => ?_)
      refine keeps_then (touches_mirrorRef _ _) (by decide) (fun _ => ?_)
      refine (keeps_addMemberWithOrigin (hspace spaceId hsid) _ _).bind (fun _ _ => ?_)
      exact keeps_of_touches (touches_broadcastSpace _ _ _ _) (by decide)

theorem keeps_applyMemberLeave : (Apply.applyMemberLeave env).Maintains (Confined peer kept) := by
  unfold Apply.applyMemberLeave
  cases hsid : env.spaceId with
  | none => trivial
  | some spaceId =>
    refine keeps_read (touches_orBadRequest _ _) (fun userId => ?_)
    refine keeps_read (touches_found? _) (fun space => ?_)
    cases space with
    | none => trivial
    | some space =>
      refine (keeps_removeMember (hspace spaceId hsid) _).bind (fun _ _ => ?_)
      exact keeps_of_touches (touches_broadcastSpace _ _ _ _) (by decide)

theorem keeps_applyEvent : (Inbox.applyEvent peer env).Maintains (Confined peer kept) := by
  have happlied : ∀ {q : App Unit}, q.Maintains (Confined peer kept) →
      (q >>= fun _ => (pure Apply.Applied.ok : App Apply.Applied)).Maintains
        (Confined peer kept) := fun h => h.bind (fun _ _ => trivial)
  unfold Inbox.applyEvent
  split
  · exact happlied keeps_applyMessageCreate
  · exact happlied keeps_applyMessageUpdate
  · exact happlied keeps_applyMessageDelete
  · exact happlied (keeps_applyReaction true)
  · exact happlied (keeps_applyReaction false)
  · exact happlied (keeps_applyMemberJoin hspace)
  · exact happlied (keeps_applyMemberLeave hspace)
  · exact happlied (keeps_applyEmojiUpsert true)
  · exact happlied (keeps_applyEmojiUpsert false)
  · exact happlied keeps_applyEmojiDelete
  · exact happlied (keeps_of_touches touches_applyTyping (by decide))
  · exact happlied keeps_dmMessageCreate
  · trivial

end

theorem keeps_handleInbox : (Inbox.handleInbox peer env).Maintains (Confined peer kept) := by
  unfold Inbox.handleInbox
  split
  · trivial
  · rename_i hcheck
    refine keeps_then (Federation.touches_dedupFirstSeen _ _).attempt (by decide) (fun fresh => ?_)
    rcases fresh with e | _ | _
    · trivial
    · trivial
    · refine Prog.keeps_ite trivial ?_
      refine (keeps_applyEvent (check_ok hcheck).2).attempt.bind (fun result _ => ?_)
      exact keeps_of_touches (touches_respond _) (by decide)

end

section

open Profiles (Request)

variable {ourDomain peer : String} {kept : (n : Slot) → n.Value}

theorem keeps_mirrorDm {snap : Dm.DmSnapshot} (h : homedOn snap.channelId peer = true) :
    (Dm.mirrorDm ourDomain snap).Maintains (Confined peer kept) := by
  have hparticipant : ∀ q ∈ snap.participants,
      (Dm.mirrorParticipant ourDomain snap q).Maintains (Confined peer kept) := by
    intro q _
    unfold Dm.mirrorParticipant
    split
    · exact Prog.keeps_ite trivial
        (keeps_of_touches (Profiles.touches_requireConsent _ _) (List.nil_subset _))
    · exact keeps_then (Users.touches_upsertRemoteUser _ _ _ _ _) (by decide) (fun _ => trivial)
  refine (Prog.keeps_forEach hparticipant).bind (fun _ _ => ?_)
  refine (keeps_upsertRemoteDmChannel h _ _ _).bind (fun _ _ => ?_)
  refine (Prog.keeps_forEach (fun q _ => keeps_addParticipant h _)).bind (fun _ _ => ?_)
  refine keeps_read (touches_found? _) (fun channel => ?_)
  cases channel with
  | none => trivial
  | some channel => exact keeps_of_touches (Dm.touches_broadcastChannelCreate _) (by decide)

-- The requests that store what `peer` says.
def FromPeer (peer : String) : Request → Prop
  | .inbox sender _ => sender = peer
  | .dmAnnounce sender _ => sender = peer
  | _ => False

theorem keeps_program {req : Request} (h : FromPeer peer req) :
    (req.program ourDomain).Maintains (Confined peer kept) := by
  cases req with
  | inbox sender env =>
    obtain rfl := h
    exact keeps_handleInbox.bind (fun _ _ => trivial)
  | dmAnnounce sender snap =>
    obtain rfl := h
    exact keeps_check (fun hchannel => keeps_check (fun _ =>
      keeps_mirrorDm (requireHomedOn_ok.mp hchannel)))
  | _ => exact h.elim

theorem foreign_rows_kept {s t : AppState} {reqs : List Request}
    (hthreads : ThreadsHome peer s.db.messages)
    (hrun : Lib.Runs (fun s req t => FromPeer peer req ∧ req.Serves ourDomain s t) s reqs t) :
    ∀ n, n ∉ incidental → elsewhere peer n (t.slot n) = elsewhere peer n (s.slot n) := by
  have hstart : Confined peer (fun n => elsewhere peer n (s.slot n)) s := ⟨fun _ _ => rfl, hthreads⟩
  refine (Lib.Runs.invariant (fun s req t hs hstep => ?_) hstart hrun).rows
  obtain ⟨q, hserves⟩ := hstep.2
  exact ((keeps_program hstep.1).run hs hserves).1

def repliedServer : AppState where
  db :=
    { spaces := [{ id := "2@p.example", name := "home", ownerId := "1@p.example" }]
      channels := [{ id := "3@p.example", spaceId := some "2@p.example" }]
      messages :=
        [{ id := "4@p.example"
           channelId := "3@p.example"
           spaceId := some "2@p.example"
           authorId := "1@p.example"
           content := "hi"
           origin := some "p.example" },
          { id := "5@q.example"
            channelId := "3@q.example"
            authorId := "7@q.example"
            content := "hello"
            replyTo := some "4@p.example"
            origin := some "q.example" }] }
  ext := Externals.fixed "2026-01-01 00:00:00"

def deletion : Request :=
  .inbox "p.example"
    { eventId := "1"
      origin := "p.example"
      spaceId := some "2@p.example"
      eventType := "m.message.delete"
      payload := .obj [("id", .str "4@p.example")] }

theorem foreign_rows_kept_deletion :
    let t := ((deletion.program "h.example").exec repliedServer).2
    t.db.messages.map MessageRow.id = ["5@q.example"] ∧
      ∀ n, n ∉ incidental → elsewhere "p.example" n (t.slot n) =
        elsewhere "p.example" n (repliedServer.slot n) := by
  obtain ⟨q, hrun, _⟩ := Prog.exec_steps (deletion.program "h.example") repliedServer
  refine ⟨by decide +kernel, foreign_rows_kept ?_ (.cons ⟨?_, q, hrun⟩ (.nil _))⟩
  · simp [ThreadsHome, repliedServer]
  · exact rfl

end

end Vokusz.Federation.Confinement
