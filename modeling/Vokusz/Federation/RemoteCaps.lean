import Vokusz.Db.ReadStates
import Vokusz.Federation.Profiles
import Vokusz.Routes.ContentLimits

namespace Vokusz.Federation.RemoteCaps

open App Db Mapping
open Lib (Prog)
open Profiles (Request carried placeholder keeps_parsed)
open Routes.ContentLimits (embedCount)

def urlWithin (ext : Externals) (url : String) : Bool :=
  url.length ≤ Apply.maxUrlChars &&
    (ext.urlScheme url = some "http" || ext.urlScheme url = some "https")

def profileWithin (ext : Externals) (p : Profile) : Bool :=
  p.displayName.all (fun n => n.length ≤ Apply.maxDisplayNameChars) && p.avatar.all (urlWithin ext)

def rowWithin (m : MessageRow) : Bool :=
  m.content.length ≤ Apply.maxContentChars && embedCount m.embeds ≤ Apply.maxEmbeds &&
    m.embeds.toText.utf8ByteSize ≤ Apply.maxEmbedsBytes && m.mentions.length ≤ Apply.maxMentions

def ReplicasWithin (s : AppState) : Prop :=
  ∀ m ∈ s.db.messages, m.origin.isSome = true → rowWithin m = true ∧
    ∀ u ∈ s.db.users, u.id = m.authorId → profileWithin s.ext (Profiles.ofUser u) = true

instance (s : AppState) : Decidable (ReplicasWithin s) :=
  inferInstanceAs (Decidable (∀ m ∈ s.db.messages, _))

structure Capped (s : AppState) : Prop where
  rows : ∀ m ∈ s.db.messages, m.origin.isSome = true →
    rowWithin m = true ∧ containsAt m.authorId = true
  profiles : ∀ u ∈ s.db.users, containsAt u.id = true →
    profileWithin s.ext (Profiles.ofUser u) = true

def ownProfile (ourDomain : String) (own : User) : Profile :=
  { username := handle own.username ourDomain
    displayName := some (own.displayName.getD (handle own.username ourDomain))
    avatar := own.avatar }

def mirrored (domain : String) (s : AppState) (q : RemoteUserRef) : Option Profile :=
  match mirrorsOwn s domain q.id with
  | some fed =>
    (Lib.Table.lookup User.id (localPart q.id) s.db.users).map (ownProfile fed.domain)
  | none => some (carried (homeOf q.id domain) q)

def mirroredWithin (domain : String) (s : AppState) (q : RemoteUserRef) : Bool :=
  (mirrored domain s q).all (profileWithin s.ext)

def createWithin (peer : String) (s : AppState) (p : Apply.RemoteMessagePayload) : Bool :=
  !decide ((Apply.checkMessageCreate peer p).Succeeds s) || !s.db.hasChannel p.channelId ||
    mirroredWithin peer s p.author

def dmChecked (peer : String) (p : Apply.RemoteMessagePayload) : Bool :=
  Authority.homedOn p.id peer && Authority.homedOn p.channelId peer && containsAt p.author.id &&
    p.content.length ≤ Dm.maxContentChars

def dmCreateWithin (peer : String) (s : AppState) (p : Apply.RemoteMessagePayload) : Bool :=
  !dmChecked peer p || !s.db.hasChannel p.channelId ||
    (profileWithin s.ext (carried (homeOf p.author.id peer) p.author) &&
      rowWithin (Apply.remoteInsert peer p none).row)

def reactionWithin (peer : String) (s : AppState) (r : Apply.RemoteReaction) : Bool :=
  !Authority.homedOn r.messageId peer || !Authority.homedOn r.channelId peer ||
    profileWithin s.ext (placeholder r.userId)

def eventWithin (peer : String) (s : AppState) (env : FederationEnvelope) : Bool :=
  match env.eventType with
  | "m.message.create" =>
    (Apply.RemoteMessagePayload.ofJson env.payload).all (createWithin peer s)
  | "m.dm.message.create" =>
    (Apply.RemoteMessagePayload.ofJson env.payload).all (dmCreateWithin peer s)
  | "m.member.join" =>
    ((env.payload.field? "user").bind RemoteUserRef.ofJson).all (mirroredWithin peer s)
  | "m.reaction.add" => (Apply.RemoteReaction.ofJson env.payload).all (reactionWithin peer s)
  | "m.reaction.remove" => (Apply.RemoteReaction.ofJson env.payload).all (reactionWithin peer s)
  | _ => true

def snapshotMessageWithin (homeDomain : String) (s : AppState) (m : Handshake.SnapshotMessage) :
    Bool :=
  !Authority.homedOn m.id homeDomain || !containsAt m.author.id ||
    (mirroredWithin homeDomain s m.author && rowWithin (Handshake.snapshotInsert homeDomain m).row)

def snapshotWithin (homeDomain : String) (s : AppState) (snap : Handshake.Snapshot) : Bool :=
  !Authority.homedOn snap.space.id homeDomain || !Authority.homedOn snap.space.ownerId homeDomain ||
    ((Handshake.ownerRef snap :: snap.members).all (mirroredWithin homeDomain s) &&
      snap.messages.all (snapshotMessageWithin homeDomain s))

def actorWithin (peer : String) (s : AppState) (q : RemoteUserRef) : Bool :=
  !Authority.homedOn q.id peer || profileWithin s.ext (carried peer q)

def withinCaps (ourDomain : String) (s : AppState) : Request → Bool
  | .inbox peer env => eventWithin peer s env
  | .initiateJoin homeDomain _ _ reply =>
    ((reply.toOption.bind Response.json).bind Handshake.Snapshot.ofJson).all
      (snapshotWithin homeDomain s)
  | .join peer req => actorWithin peer s req.user
  | .send peer req => actorWithin peer s req.actor
  | .react peer req => actorWithin peer s req.actor
  | .dmOpen peer req => actorWithin peer s req.opener
  | .dmSend peer req => actorWithin peer s req.actor
  | .dmAnnounce peer snap =>
    ((Request.dmAnnounce peer snap).unchecked ourDomain).all (fun w => profileWithin s.ext w.2)
  | .openDm opener recipientId reply =>
    ((Request.openDm opener recipientId reply).unchecked ourDomain).all
      (fun w => profileWithin s.ext w.2)
  | .leave .. | .edit .. | .delete .. | .typing .. => true

section

structure Held (fixed : Bool) (start s : AppState) : Prop where
  ext : s.ext = start.ext
  federation : s.federation = start.federation
  own : ∀ id, containsAt id = false →
    Lib.Table.lookup User.id id s.db.users = Lib.Table.lookup User.id id start.db.users
  rows : ∀ m ∈ s.db.messages, m.origin.isSome = true →
    rowWithin m = true ∧ containsAt m.authorId = true
  profiles : ∀ u ∈ s.db.users, containsAt u.id = true →
    profileWithin start.ext (Profiles.ofUser u) = true
  channels : fixed = true → s.db.channels.map ChannelRow.id = start.db.channels.map ChannelRow.id

theorem Capped.held {s : AppState} (h : Capped s) (fixed : Bool) : Held fixed s s :=
  { ext := rfl
    federation := rfl
    own := fun _ _ => rfl
    rows := h.rows
    profiles := h.profiles
    channels := fun _ => rfl }

variable {fixed : Bool} {start s t : AppState}

theorem Held.capped (h : Held fixed start s) : Capped s :=
  ⟨h.rows, fun u hu hid => h.ext ▸ h.profiles u hu hid⟩

theorem Capped.replicasWithin (h : Capped s) : ReplicasWithin s := by
  intro m hm hreplica
  obtain ⟨hrow, hauthor⟩ := h.rows m hm hreplica
  exact ⟨hrow, fun u hu hid => h.profiles u hu (hid ▸ hauthor)⟩

theorem Held.hasChannel (h : Held true start s) (id : String) :
    s.db.hasChannel id = start.db.hasChannel id := by
  simp only [Tables.hasChannel, Lib.Table.has_eq_contains, h.channels rfl]

theorem Held.of_fields (h : Held fixed start s) (hext : t.ext = s.ext)
    (hfed : t.federation = s.federation) (husers : t.db.users = s.db.users)
    (hmessages : t.db.messages = s.db.messages)
    (hchannels : fixed = true → t.db.channels.map ChannelRow.id = s.db.channels.map ChannelRow.id) :
    Held fixed start t where
  ext := hext.trans h.ext
  federation := hfed.trans h.federation
  own := husers ▸ h.own
  rows := hmessages ▸ h.rows
  profiles := husers ▸ h.profiles
  channels := fun hf => (hchannels hf).trans (h.channels hf)

theorem Held.of_users {users : List User} (h : Held fixed start s)
    (hown : ∀ id, containsAt id = false →
      Lib.Table.lookup User.id id users = Lib.Table.lookup User.id id s.db.users)
    (hprofiles : ∀ u ∈ users, containsAt u.id = true → u ∈ s.db.users ∨
      profileWithin start.ext (Profiles.ofUser u) = true) :
    Held fixed start (s.withDb { s.db with users := users }) where
  ext := h.ext
  federation := h.federation
  own := fun id hid => (hown id hid).trans (h.own id hid)
  rows := h.rows
  profiles := by
    intro u hu hid
    rcases hprofiles u hu hid with hold | hnew
    · exact h.profiles u hold hid
    · exact hnew
  channels := h.channels

theorem Held.of_messages {db : Tables} (h : Held fixed start s) (husers : db.users = s.db.users)
    (hchannels : fixed = true → db.channels.map ChannelRow.id = s.db.channels.map ChannelRow.id)
    (hrows : ∀ m ∈ db.messages, m.origin.isSome = true →
      rowWithin m = true ∧ containsAt m.authorId = true) : Held fixed start (s.withDb db) where
  ext := h.ext
  federation := h.federation
  own := fun id hid => (congrArg (Lib.Table.lookup User.id id) husers).trans (h.own id hid)
  rows := hrows
  profiles := fun u hu => h.profiles u (husers ▸ hu)
  channels := fun hf => (hchannels hf).trans (h.channels hf)

variable {α β : Type} {Q : β → Prop}

theorem keeps_untouched {slots : List Slot} {q : App α} (h : Touches slots q)
    (hn : (Slot.users ∉ slots ∧ Slot.messages ∉ slots ∧ Slot.ext ∉ slots ∧
      Slot.federation ∉ slots) ∧ (fixed = true → Slot.channels ∉ slots)) :
    q.Maintains (Held fixed start) := by
  obtain ⟨⟨husers, hmessages, hext, hfed⟩, hchannels⟩ := hn
  have hfields : q.Preserves (fun s : AppState =>
      ((s.db.users, s.db.messages), s.ext, s.federation)) :=
    ((h .users husers).pair (h .messages hmessages)).pair ((h .ext hext).pair (h .federation hfed))
  cases fixed with
  | false =>
    refine hfields.keeps (fun s t hview hs => ?_)
    simp only [Prod.mk.injEq] at hview
    obtain ⟨⟨hu, hm⟩, he, hf⟩ := hview
    exact hs.of_fields he hf hu hm (fun h => by cases h)
  | true =>
    refine (hfields.pair (h .channels (hchannels rfl))).keeps (fun s t hview hs => ?_)
    simp only [Prod.mk.injEq] at hview
    obtain ⟨⟨⟨hu, hm⟩, he, hf⟩, hc⟩ := hview
    exact hs.of_fields he hf hu hm (fun _ => congrArg (List.map ChannelRow.id) hc)

theorem keeps_then {slots : List Slot} {q : App α} {f : α → App β} (h : Touches slots q)
    (hn : (Slot.users ∉ slots ∧ Slot.messages ∉ slots ∧ Slot.ext ∉ slots ∧
      Slot.federation ∉ slots) ∧ (fixed = true → Slot.channels ∉ slots))
    (hf : ∀ a, (f a).Keeps (Held fixed start) Q) : (q >>= f).Keeps (Held fixed start) Q :=
  (keeps_untouched h hn).bind (fun a _ => hf a)

theorem keeps_silent {q : App α} (h : Touches [] q) : q.Maintains (Held fixed start) :=
  keeps_untouched h (by simp)

theorem keeps_read {q : App α} {f : α → App β} (h : Touches [] q)
    (hf : ∀ a, (f a).Keeps (Held fixed start) Q) : (q >>= f).Keeps (Held fixed start) Q :=
  keeps_then h (by simp) hf

theorem keeps_ensureRemoteUser {id origin handle : String} {displayName avatar : Option String}
    (hid : containsAt id = true)
    (hwithin : profileWithin start.ext
      { username := handle, displayName := some (displayName.getD handle), avatar := avatar } =
        true) :
    (Users.ensureRemoteUser id origin handle displayName avatar).Maintains (Held fixed start) := by
  refine keeps_write (fun s hs => hs.of_users ?_ ?_)
  · intro k hk
    have hne : k ≠ id := fun heq => by simp [heq, hid] at hk
    unfold Lib.Table.insertNew
    split
    · rfl
    · rw [Lib.Table.lookup_append, if_neg (fun heq => hne heq.symm), Option.or_none]
  · intro u hu _
    rcases Lib.Table.mem_insertNew hu with hold | rfl
    · exact .inl hold
    · exact .inr hwithin

theorem keeps_upsertRemoteUser {id origin handle : String} {displayName avatar : Option String}
    (hid : containsAt id = true)
    (hwithin : profileWithin start.ext
      { username := handle, displayName := some (displayName.getD handle), avatar := avatar } =
        true) :
    (Users.upsertRemoteUser id origin handle displayName avatar).Maintains (Held fixed start) := by
  refine Prog.Keeps.bind (Q := fun _ => True) (keeps_write (fun s hs => hs.of_users ?_ ?_))
    (fun _ _ => keeps_silent (touches_lift _))
  · intro k hk
    have hne : k ≠ id := fun heq => by simp [heq, hid] at hk
    exact Lib.Table.lookup_upsert_of_ne hne (fun _ => rfl)
  · intro u hu _
    rcases Lib.Table.mem_upsert hu with hold | rfl | ⟨old, -, -, rfl⟩
    · exact .inl hold
    · exact .inr hwithin
    · exact .inr hwithin

theorem keeps_found? {q : Query α} {P : α → Prop}
    (h : ∀ s, Held fixed start s → ∀ a, q s.db = .ok a → P a) :
    (found? q).Keeps (Held fixed start) (fun r => ∀ a ∈ r, P a) := by
  refine (keeps_query h).attempt.bind (fun r hr => ?_)
  intro a ha
  cases r with
  | error e => cases ha
  | ok b =>
    cases ha
    exact hr a rfl

theorem mirrorsOwn_of_federation {fed : FederationContext} {domain id : String}
    (h : s.federation = some fed) :
    mirrorsOwn s domain id =
      if eqIgnoreAsciiCase (homeOf id domain) fed.domain then some fed else none := by
  simp [mirrorsOwn, h, Option.filter]

theorem keeps_mirrorOwnUser {fed : FederationContext} {id : String} (hid : containsAt id = true)
    (hwithin : ∀ own, Lib.Table.lookup User.id (localPart id) start.db.users = some own →
      profileWithin start.ext (ownProfile fed.domain own) = true) :
    (mirrorOwnUser fed.domain id).Maintains (Held fixed start) := by
  refine (keeps_found? (P := fun own =>
    profileWithin start.ext (ownProfile fed.domain own) = true) ?_).bind (fun found hfound => ?_)
  · intro s hs own hown
    refine hwithin own ?_
    rw [← hs.own _ (containsAt_localPart id)]
    unfold Users.getUser at hown
    split at hown
    · rename_i u hu
      cases hown
      exact hu
    · cases hown
  · cases found with
    | none => trivial
    | some own =>
      refine Prog.keeps_ite trivial (keeps_ensureRemoteUser hid ?_)
      exact hfound own rfl

theorem keeps_mirrorForeignUser {domain id userHandle : String}
    {displayName avatar : Option String} (hid : containsAt id = true)
    (hwithin : profileWithin start.ext
      { username := userHandle
        displayName := some (displayName.getD userHandle)
        avatar := avatar } = true) :
    (mirrorForeignUser domain id userHandle displayName avatar).Maintains (Held fixed start) :=
  Prog.keeps_ite ((keeps_upsertRemoteUser hid hwithin).bind (fun _ _ => trivial))
    (keeps_ensureRemoteUser hid hwithin)

theorem keeps_mirrorRef {domain : String} {q : RemoteUserRef} (hid : containsAt q.id = true)
    (hwithin : mirroredWithin domain start q = true) :
    (mirrorRef domain q).Maintains (Held fixed start) := by
  refine Prog.Keeps.bind (Q := fun fed => fed = start.federation)
    (Prog.keeps_get (fun _ hs => hs.federation)) (fun fed hfed => ?_)
  cases fed with
  | none =>
    refine keeps_mirrorForeignUser hid ?_
    simpa [mirroredWithin, mirrored, mirrorsOwn, ← hfed, carried] using hwithin
  | some fed =>
    unfold mirroredWithin mirrored at hwithin
    rw [mirrorsOwn_of_federation hfed.symm] at hwithin
    dsimp only
    split
    · rename_i hown
      refine keeps_mirrorOwnUser hid (fun own hlookup => ?_)
      simpa [hown, hlookup] using hwithin
    · rename_i hforeign
      refine keeps_mirrorForeignUser hid ?_
      simpa [hforeign, carried] using hwithin

theorem keeps_insertRemoteMessage (msg : Messages.RemoteMessageInsert)
    (hauthor : containsAt msg.authorId = true) (hwithin : rowWithin msg.row = true) :
    (Messages.insertRemoteMessage msg).Maintains (Held fixed start) := by
  refine Prog.Keeps.bind (Q := fun _ => True) (Prog.keeps_statement (fun s hs => ?_)
    (fun _ _ _ _ => trivial)) (fun stored _ => ?_)
  · dsimp only
    split
    · exact hs
    · refine hs.of_messages rfl (fun _ => rfl) (fun m hm hreplica => ?_)
      rcases Lib.Table.mem_insertNew hm with hold | rfl
      · exact hs.rows m hold hreplica
      · exact ⟨hwithin, hauthor⟩
  · refine Prog.keeps_ite ?_ trivial
    refine Prog.Keeps.bind (Q := fun _ => True) (keeps_update (fun s hs => ?_)) (fun _ _ => ?_)
    · refine hs.of_messages rfl (fun _ => ?_) hs.rows
      exact Lib.Table.map_key_update (fun _ _ => rfl)
    · exact keeps_read (touches_lift _) (fun _ => trivial)

theorem keeps_assignColumn {γ : Type} {value : Option γ} {messageId : String}
    {set : γ → MessageRow → MessageRow}
    (hset : ∀ v ∈ value, ∀ m, (set v m).origin = m.origin ∧ (set v m).authorId = m.authorId ∧
      (rowWithin m = true → rowWithin (set v m) = true)) :
    (Messages.assignColumn value messageId set).Maintains (Held fixed start) := by
  cases value with
  | none => trivial
  | some v =>
    refine keeps_update (fun s hs => hs.of_messages rfl (fun _ => rfl) (fun m hm hreplica => ?_))
    obtain ⟨old, hold, rfl⟩ := List.mem_map.mp hm
    split at hreplica
    · rename_i hkey
      obtain ⟨horigin, hauthor, hrow⟩ := hset v rfl old
      rw [if_pos hkey, hauthor]
      obtain ⟨hwithin, hqualified⟩ := hs.rows old hold (horigin ▸ hreplica)
      exact ⟨hrow hwithin, hqualified⟩
    · rename_i hkey
      rw [if_neg hkey]
      exact hs.rows old hold hreplica

theorem rowWithin_setContent {m : MessageRow} {content : String}
    (hcontent : content.length ≤ Apply.maxContentChars) (hrow : rowWithin m = true)
    (editedAt : Option String) :
    rowWithin { m with content := content, editedAt := editedAt } = true := by
  simp only [rowWithin, Bool.and_eq_true, decide_eq_true_eq] at hrow ⊢
  exact ⟨⟨⟨hcontent, hrow.1.1.2⟩, hrow.1.2⟩, hrow.2⟩

theorem keeps_editRemoteMessage {messageId : String} {content editedAt : Option String}
    (hcontent : ∀ c ∈ content, c.length ≤ Apply.maxContentChars) :
    (Messages.editRemoteMessage messageId content editedAt).Maintains (Held fixed start) := by
  refine Prog.Keeps.bind (Q := fun _ => True) (keeps_assignColumn ?_) (fun _ _ => ?_)
  · intro c hc m
    exact ⟨rfl, rfl, fun hrow => rowWithin_setContent (hcontent c hc) hrow m.editedAt⟩
  · exact keeps_assignColumn (fun _ _ _ => ⟨rfl, rfl, fun hrow => hrow⟩)

theorem Held.rows_deleteMessages (h : Held fixed start s) (ids : List String) :
    ∀ m ∈ (s.db.deleteMessages ids).messages, m.origin.isSome = true →
      rowWithin m = true ∧ containsAt m.authorId = true := by
  intro m hm hreplica
  rw [Tables.deleteMessages_messages] at hm
  obtain ⟨old, hold, rfl⟩ := List.mem_map.mp hm
  have hrow := h.rows old (List.mem_filter.mp hold).1
  unfold Tables.unlinkReply at hreplica ⊢
  split at hreplica
  · rename_i hlinked
    rw [if_pos hlinked]
    exact hrow hreplica
  · rename_i hlinked
    rw [if_neg hlinked]
    exact hrow hreplica

theorem keeps_deleteMessage (messageId : String) :
    (Messages.deleteMessage messageId).Maintains (Held fixed start) :=
  keeps_update (fun _ hs => hs.of_messages rfl (fun _ => rfl) (hs.rows_deleteMessages _))

theorem keeps_deleteChannel (channelId : String) :
    (Channels.deleteChannel channelId).Maintains (Held false start) :=
  keeps_update (fun _ hs => hs.of_messages rfl (fun h => by cases h) (hs.rows_deleteMessages _))

end

section

open Apply (RemoteMessagePayload RemoteReaction CreateChecked)

variable {start : AppState} {peer : String} {env : FederationEnvelope}

theorem keeps_validateOptionalUrl (url : Option String) (what : String) :
    (Apply.validateOptionalUrl url what).Keeps (Held true start) (fun _ =>
      ∀ x ∈ url, x.length ≤ Apply.maxUrlChars ∧
        (start.ext.urlScheme x = some "http" ∨ start.ext.urlScheme x = some "https")) := by
  cases url with
  | none => exact fun x hx => by cases hx
  | some url =>
    refine Prog.Keeps.bind (Q := fun ext => ext = start.ext)
      (Prog.keeps_get (fun _ hs => hs.ext)) (fun ext hext => ?_)
    refine Prog.keeps_require.bind (fun _ hlength => ?_)
    refine Prog.keeps_require.mono (fun _ hscheme x hx => ?_)
    cases hx
    exact ⟨hlength, hext ▸ hscheme⟩

theorem keeps_foundChannel (channelId : String) :
    (found? (Channels.getChannelRow channelId)).Keeps (Held true start)
      (fun r => ∀ c ∈ r, start.db.hasChannel channelId = true) := by
  refine keeps_found? (fun s hs c hc => ?_)
  rw [← hs.hasChannel, Tables.hasChannel, ← Lib.Table.lookup_isSome]
  unfold Channels.getChannelRow at hc
  split at hc
  · rename_i row hrow
    rw [hrow]
    rfl
  · cases hc

theorem rowWithin_remoteInsert {payload : RemoteMessagePayload}
    (h : CreateChecked peer start.ext payload)
    (hbytes : (Json.toText (.arr payload.embeds)).utf8ByteSize ≤ Apply.maxEmbedsBytes)
    (spaceId : Option String) :
    rowWithin (Apply.remoteInsert peer payload spaceId).row = true := by
  have hcount : embedCount (.arr payload.embeds) ≤ Apply.maxEmbeds := h.embeds
  simp only [rowWithin, Apply.remoteInsert, Messages.RemoteMessageInsert.row, h.content, hcount,
    hbytes, h.mentions, decide_true, Bool.and_self]

theorem keeps_storeMessage {payload : RemoteMessagePayload} (channel : ChannelRow)
    (hchecked : CreateChecked peer start.ext payload)
    (hauthor : mirroredWithin peer start payload.author = true) :
    (Apply.storeMessage peer payload channel).Maintains (Held true start) := by
  refine (keeps_mirrorRef hchecked.author hauthor).bind (fun _ _ => ?_)
  refine Prog.keeps_require.bind (fun _ hbytes => ?_)
  have hrow := rowWithin_remoteInsert hchecked hbytes channel.spaceId
  have hinsert := @keeps_insertRemoteMessage true start
    (Apply.remoteInsert peer payload channel.spaceId) hchecked.author hrow
  refine hinsert.bind (fun row _ => ?_)
  cases row with
  | none => trivial
  | some row => exact keeps_untouched (touches_broadcastSpace _ _ _ _) (by decide)

theorem keeps_applyMessageCreate
    (hwithin : (RemoteMessagePayload.ofJson env.payload).all (createWithin peer start) = true) :
    (Apply.applyMessageCreate peer env).Maintains (Held true start) := by
  refine keeps_parsed (fun payload hpayload => ?_)
  unfold Apply.checkMessageCreate
  simp only [bind_assoc]
  refine keeps_check (fun hid => ?_)
  refine keeps_check (fun hchannel => ?_)
  refine keeps_check (fun hspace => ?_)
  refine keeps_check (fun hauthor => ?_)
  refine Prog.keeps_require.bind (fun _ hcontent => ?_)
  refine Prog.keeps_require.bind (fun _ hembeds => ?_)
  refine Prog.keeps_require.bind (fun _ hmentions => ?_)
  refine Prog.keeps_require.bind (fun _ hname => ?_)
  refine (keeps_validateOptionalUrl _ _).bind (fun _ havatar => ?_)
  have hchecked : CreateChecked peer start.ext payload :=
    { id := Authority.requireHomedOn_ok.mp hid
      channel := Authority.requireHomedOn_ok.mp hchannel
      space := Authority.requireSpaceHomedOn_ok.mp hspace
      author := Authority.requireRemoteTarget_ok.mp hauthor
      content := hcontent
      embeds := hembeds
      mentions := hmentions
      displayName := hname
      avatar := havatar }
  refine (keeps_foundChannel _).bind (fun channel hmirrored => ?_)
  cases channel with
  | none => trivial
  | some channel =>
    refine keeps_storeMessage channel hchecked ?_
    have hsucceeds : (Apply.checkMessageCreate peer payload).Succeeds start :=
      ⟨(), start, Apply.checkMessageCreate_ok.mpr ⟨hchecked, rfl⟩⟩
    simpa [hpayload, createWithin, hsucceeds, hmirrored channel rfl] using hwithin

theorem keeps_dmApplyMessageCreate
    (hwithin : (RemoteMessagePayload.ofJson env.payload).all (dmCreateWithin peer start) = true) :
    (Dm.applyMessageCreate peer env).Maintains (Held true start) := by
  refine keeps_parsed (fun payload hpayload => ?_)
  unfold Dm.checkDmMessageCreate
  simp only [bind_assoc]
  refine keeps_check (fun hid => ?_)
  refine keeps_check (fun hchannel => ?_)
  refine keeps_check (fun hremote => ?_)
  refine Prog.keeps_require.bind (fun _ hcontent => ?_)
  have hauthor := Authority.requireRemoteTarget_ok.mp hremote
  refine (keeps_foundChannel _).bind (fun channel hmirrored => ?_)
  cases channel with
  | none => trivial
  | some channel =>
    simp only [hpayload, Option.all_some, dmCreateWithin, dmChecked,
      Authority.requireHomedOn_ok.mp hid, Authority.requireHomedOn_ok.mp hchannel, hauthor,
      hcontent, hmirrored channel rfl, decide_true, Bool.and_self, Bool.not_true, Bool.false_or,
      Bool.and_eq_true] at hwithin
    obtain ⟨hprofile, hrow⟩ := hwithin
    have hinsert := @keeps_insertRemoteMessage true start (Apply.remoteInsert peer payload none)
      hauthor hrow
    refine (keeps_upsertRemoteUser hauthor hprofile).bind (fun _ _ => ?_)
    refine hinsert.bind (fun row _ => ?_)
    cases row with
    | none => trivial
    | some row => exact keeps_untouched (Dm.touches_broadcastMessage _ _ _) (by decide)

theorem keeps_applyMessageUpdate :
    (Apply.applyMessageUpdate peer env).Maintains (Held true start) := by
  refine keeps_parsed (fun payload _ => ?_)
  refine keeps_check (fun _ => ?_)
  refine Prog.keeps_require.bind (fun _ hcontent => ?_)
  refine keeps_read (touches_found? _) (fun existing => ?_)
  cases existing with
  | none => trivial
  | some existing =>
    refine Prog.keeps_ite trivial ?_
    refine (keeps_editRemoteMessage hcontent).bind (fun _ _ => ?_)
    exact keeps_untouched (touches_rebroadcastUpdate _) (by decide)

theorem keeps_applyMessageDelete :
    (Apply.applyMessageDelete peer env).Maintains (Held true start) := by
  refine keeps_parsed (fun payload _ => ?_)
  refine keeps_check (fun _ => ?_)
  refine keeps_read (touches_found? _) (fun existing => ?_)
  cases existing with
  | none => trivial
  | some existing =>
    refine Prog.keeps_ite trivial ?_
    refine (keeps_deleteMessage _).bind (fun _ _ => ?_)
    exact keeps_untouched (touches_broadcastSpace _ _ _ _) (by decide)

theorem keeps_applyMemberJoin
    (hwithin : ((env.payload.field? "user").bind RemoteUserRef.ofJson).all
      (mirroredWithin peer start) = true) :
    (Apply.applyMemberJoin peer env).Maintains (Held true start) := by
  unfold Apply.applyMemberJoin
  cases env.spaceId with
  | none => trivial
  | some spaceId =>
    refine keeps_parsed (fun user huser => ?_)
    refine keeps_read (touches_found? _) (fun space => ?_)
    cases space with
    | none => trivial
    | some space =>
      refine keeps_check (fun hremote => ?_)
      have hmirrored : mirroredWithin peer start user = true := by simpa [huser] using hwithin
      refine (keeps_mirrorRef (Authority.requireRemoteTarget_ok.mp hremote) hmirrored).bind
        (fun _ _ => ?_)
      refine keeps_then (Federation.touches_addMemberWithOrigin _) (by decide) (fun _ => ?_)
      exact keeps_untouched (touches_broadcastSpace _ _ _ _) (by decide)

theorem keeps_applyReaction (add : Bool)
    (hwithin : (RemoteReaction.ofJson env.payload).all (reactionWithin peer start) = true) :
    (Apply.applyReaction peer env add).Maintains (Held true start) := by
  refine keeps_parsed (fun payload hpayload => ?_)
  refine keeps_check (fun hmessage => ?_)
  refine keeps_check (fun hchannel => ?_)
  refine keeps_check (fun hremote => ?_)
  refine Prog.keeps_require.bind (fun _ _ => ?_)
  refine keeps_read (touches_found? _) (fun msg => ?_)
  cases msg with
  | none => trivial
  | some msg =>
    have hprofile : profileWithin start.ext (placeholder payload.userId) = true := by
      simpa [hpayload, reactionWithin, Authority.requireHomedOn_ok.mp hmessage,
        Authority.requireHomedOn_ok.mp hchannel] using hwithin
    have hensure := @keeps_ensureRemoteUser true start payload.userId (homeOf payload.userId peer)
      payload.userId none none (Authority.requireRemoteTarget_ok.mp hremote) hprofile
    refine hensure.bind (fun _ _ => ?_)
    refine keeps_then (Messages.touches_changeReaction _ _) (by decide) (fun _ => ?_)
    exact keeps_untouched (touches_broadcastSpace _ _ _ _) (by decide)

theorem keeps_applied {q : App Unit} (h : q.Maintains (Held true start)) :
    (q >>= fun _ => (pure Apply.Applied.ok : App Apply.Applied)).Maintains (Held true start) :=
  h.bind (fun _ _ => trivial)

theorem keeps_applyEvent (hwithin : eventWithin peer start env = true) :
    (Inbox.applyEvent peer env).Maintains (Held true start) := by
  unfold Inbox.applyEvent
  split
  · rename_i hkind
    exact keeps_applied (keeps_applyMessageCreate (by simpa [eventWithin, hkind] using hwithin))
  · exact keeps_applied keeps_applyMessageUpdate
  · exact keeps_applied keeps_applyMessageDelete
  · rename_i hkind
    exact keeps_applied (keeps_applyReaction true (by simpa [eventWithin, hkind] using hwithin))
  · rename_i hkind
    exact keeps_applied (keeps_applyReaction false (by simpa [eventWithin, hkind] using hwithin))
  · rename_i hkind
    exact keeps_applied (keeps_applyMemberJoin (by simpa [eventWithin, hkind] using hwithin))
  · exact keeps_applied (keeps_untouched touches_applyMemberLeave (by decide))
  · exact keeps_applied (keeps_untouched (touches_applyEmojiUpsert true) (by decide))
  · exact keeps_applied (keeps_untouched (touches_applyEmojiUpsert false) (by decide))
  · exact keeps_applied (keeps_untouched touches_applyEmojiDelete (by decide))
  · exact keeps_applied (keeps_untouched touches_applyTyping (by decide))
  · rename_i hkind
    exact keeps_applied (keeps_dmApplyMessageCreate (by simpa [eventWithin, hkind] using hwithin))
  · trivial

theorem keeps_handleInbox (hwithin : eventWithin peer start env = true) :
    (Inbox.handleInbox peer env).Maintains (Held true start) := by
  unfold Inbox.handleInbox
  split
  · trivial
  · refine keeps_then (Federation.touches_dedupFirstSeen _ _).attempt (by decide) (fun fresh => ?_)
    rcases fresh with e | _ | _
    · trivial
    · trivial
    · refine Prog.keeps_ite trivial ?_
      refine (keeps_applyEvent hwithin).attempt.bind (fun result _ => ?_)
      exact keeps_untouched (touches_respond result) (by decide)

end

section

variable {start : AppState} {ourDomain peer : String}

theorem keeps_createMessage (channelId authorId : String) (spaceId : Option String)
    (input : Messages.CreateMessage) (cooldownMs : Int) :
    (Messages.createMessage channelId authorId spaceId input cooldownMs).Maintains (Held false start) := by
  refine keeps_then touches_generateId (by decide) (fun id => ?_)
  refine keeps_read (fun _ _ => Messages.preserves_mentionedUsers _ _) (fun mentions => ?_)
  refine keeps_read (Prog.touches_get _) (fun now => ?_)
  refine keeps_read (Prog.touches_get _) (fun createdAt => ?_)
  refine Prog.Keeps.bind (Q := fun _ => True)
    (Prog.keeps_statement (fun s hs => ?_) (fun _ _ _ _ => trivial))
    (fun _ _ => keeps_silent (touches_lift _))
  rcases Messages.insertMessage_cases (Messages.localRow id channelId authorId spaceId input
    mentions createdAt) (max cooldownMs 0) now s.db with ⟨e, he⟩ | ⟨hok, -⟩
  · rw [he]
    exact hs
  · have husers : ∀ row : MessageRow, (Messages.storeMessage row now s.db).users = s.db.users := by
      intro row
      unfold Messages.storeMessage
      dsimp only
      split <;> rfl
    rw [hok]
    refine hs.of_messages (husers _) (fun _ => Messages.storeMessage_channelIds _ _ _) ?_
    intro m hm hreplica
    rw [Messages.storeMessage_messages] at hm
    rcases List.mem_append.mp hm with hold | hnew
    · exact hs.rows m hold hreplica
    · rw [List.mem_singleton.mp hnew] at hreplica
      cases hreplica

theorem keeps_cacheActor {actor : RemoteUserRef} (hactor : Authority.homedOn actor.id peer = true)
    (hwithin : actorWithin peer start actor = true) :
    (Users.upsertRemoteUser actor.id peer (handle actor.usernameOrId peer) actor.displayName
      actor.avatar).Maintains (Held false start) := by
  refine keeps_upsertRemoteUser (Authority.homedOn_qualified hactor) ?_
  simpa [actorWithin, hactor, carried] using hwithin

theorem keeps_serveSend {req : Forward.SendRequest}
    (hwithin : actorWithin peer start req.actor = true) :
    (Forward.serveSend ourDomain peer req).Maintains (Held false start) := by
  refine keeps_check (fun hactor => ?_)
  refine Prog.keeps_require.bind (fun _ _ => ?_)
  have hcached := keeps_cacheActor (Authority.requireHomedOn_ok.mp hactor) hwithin
  refine Prog.Keeps.bind (hcached.bind (R := fun _ => True) (fun _ _ => trivial)) (fun _ _ => ?_)
  refine keeps_read (touches_lift _) (fun spaceId => ?_)
  refine (keeps_createMessage _ _ _ _ _).bind (fun msg _ => ?_)
  refine keeps_read (touches_lift _) (fun author => ?_)
  refine keeps_then (touches_broadcastSpace _ _ _ _) (by decide) (fun _ => ?_)
  exact keeps_then (touches_fanoutMessageCreate _) (by decide) (fun _ => trivial)

theorem keeps_serveReact {req : Forward.ReactRequest}
    (hwithin : actorWithin peer start req.actor = true) :
    (Forward.serveReact ourDomain peer req).Maintains (Held false start) := by
  refine keeps_check (fun hactor => ?_)
  have hcached := keeps_cacheActor (Authority.requireHomedOn_ok.mp hactor) hwithin
  refine Prog.Keeps.bind (hcached.bind (R := fun _ => True) (fun _ _ => trivial)) (fun _ _ => ?_)
  refine keeps_read (touches_appQuery _) (fun spaceId => ?_)
  refine keeps_read (touches_lift _) (fun message => ?_)
  refine Prog.keeps_require.bind (fun _ _ => ?_)
  refine keeps_then (Messages.touches_changeReaction _ _) (by decide) (fun _ => ?_)
  refine keeps_then (touches_broadcastSpace _ _ _ _) (by decide) (fun _ => ?_)
  exact keeps_untouched (touches_fanoutIfSpace _ _ _) (by decide)

theorem keeps_serveEdit (req : Forward.EditRequest) :
    (Forward.serveEdit ourDomain peer req).Maintains (Held false start) := by
  refine keeps_check (fun _ => ?_)
  refine Prog.keeps_require.bind (fun _ hcontent => ?_)
  refine keeps_read (touches_lift _) (fun existing => ?_)
  refine keeps_read (touches_lift _) (fun _ => ?_)
  have hupdate : (Messages.updateMessage req.messageId { content := some req.content }).Maintains
      (Held false start) := by
    refine keeps_read (Prog.touches_get _) (fun now => ?_)
    refine Prog.Keeps.bind (Q := fun _ => True) (keeps_assignColumn ?_) (fun _ _ => ?_)
    · intro c hc m
      cases hc
      exact ⟨rfl, rfl, fun hrow => rowWithin_setContent hcontent hrow (some now)⟩
    · exact keeps_silent (touches_lift _)
  refine hupdate.bind (fun msg _ => ?_)
  refine keeps_then (touches_broadcastSpace _ _ _ _) (by decide) (fun _ => ?_)
  exact keeps_then (touches_fanoutIfSpace _ _ _) (by decide) (fun _ => trivial)

theorem keeps_serveDelete (req : Forward.DeleteRequest) :
    (Forward.serveDelete ourDomain peer req).Maintains (Held false start) := by
  refine keeps_check (fun _ => ?_)
  refine keeps_read (touches_lift _) (fun existing => ?_)
  refine keeps_read (touches_lift _) (fun _ => ?_)
  refine (keeps_deleteMessage _).bind (fun _ _ => ?_)
  refine keeps_then (touches_broadcastSpace _ _ _ _) (by decide) (fun _ => ?_)
  exact keeps_untouched (touches_fanoutIfSpace _ _ _) (by decide)

theorem keeps_dmServeSend {req : Dm.DmSendRequest}
    (hwithin : actorWithin peer start req.actor = true) :
    (Dm.serveSend ourDomain peer req).Maintains (Held false start) := by
  refine keeps_check (fun hactor => ?_)
  refine Prog.keeps_require.bind (fun _ _ => ?_)
  refine keeps_read (touches_lift _) (fun channel => ?_)
  refine Prog.keeps_require.bind (fun _ _ => ?_)
  refine keeps_read (touches_lift _) (fun isMember => ?_)
  refine Prog.keeps_require.bind (fun _ _ => ?_)
  refine (keeps_cacheActor (Authority.requireHomedOn_ok.mp hactor) hwithin).bind (fun _ _ => ?_)
  refine (keeps_createMessage _ _ _ _ _).bind (fun msg _ => ?_)
  refine keeps_read (touches_lift _) (fun author => ?_)
  refine keeps_then (Dm.touches_broadcastMessage _ _ _) (by decide) (fun _ => ?_)
  exact keeps_then (Dm.touches_fanoutDmMessage _ _) (by decide) (fun _ => trivial)

theorem keeps_serveOpen {req : Dm.DmOpenRequest}
    (hwithin : actorWithin peer start req.opener = true) :
    (Dm.serveOpen ourDomain peer req).Maintains (Held false start) := by
  refine keeps_check (fun hopener => ?_)
  refine Prog.keeps_require.bind (fun _ _ => ?_)
  refine keeps_read (touches_lift _) (fun recipient => ?_)
  refine keeps_read (touches_lift _) (fun blocked => ?_)
  refine Prog.keeps_require.bind (fun _ _ => ?_)
  refine (keeps_cacheActor (Authority.requireHomedOn_ok.mp hopener) hwithin).bind (fun _ _ => ?_)
  refine keeps_then (DmParticipants.touches_createDmChannel _ _) (by decide) (fun channel => ?_)
  exact keeps_then (Dm.touches_broadcastChannelCreate _) (by decide) (fun _ => trivial)

theorem keeps_handleJoin {join : Handshake.JoinRequest}
    (hwithin : actorWithin peer start join.user = true) :
    (Handshake.handleJoin ourDomain peer join).Maintains (Held false start) := by
  unfold Handshake.handleJoin
  split
  · rename_i huser
    refine keeps_read (touches_lift _) (fun space => ?_)
    refine keeps_read (touches_lift _) (fun enabled => ?_)
    refine Prog.keeps_require.bind (fun _ _ => ?_)
    refine keeps_read (touches_found? _) (fun ban => ?_)
    refine Prog.keeps_require.bind (fun _ _ => ?_)
    refine (keeps_cacheActor huser hwithin).bind (fun _ _ => ?_)
    refine keeps_then (Federation.touches_addMemberWithOrigin _) (by decide) (fun _ => ?_)
    refine keeps_read (Prog.touches_get _) (fun fed => ?_)
    exact keeps_silent (touches_lift _)
  · trivial

end

section

open Handshake

variable {start : AppState} {homeDomain : String}

theorem keeps_applySnapshotMessage {m : SnapshotMessage}
    (hwithin : snapshotMessageWithin homeDomain start m = true) :
    (applySnapshotMessage homeDomain m).Maintains (Held false start) := by
  unfold applySnapshotMessage
  split
  · rename_i hchecked
    simp only [Bool.and_eq_true] at hchecked
    obtain ⟨hid, hauthor⟩ := hchecked
    simp only [snapshotMessageWithin, hid, hauthor, Bool.not_true, Bool.false_or,
      Bool.and_eq_true] at hwithin
    obtain ⟨hprofile, hrow⟩ := hwithin
    have hinsert := @keeps_insertRemoteMessage false start (snapshotInsert homeDomain m) hauthor hrow
    refine (keeps_mirrorRef hauthor hprofile).bind (fun _ _ => ?_)
    exact hinsert.bind (fun _ _ => trivial)
  · trivial

theorem keeps_mirrorMember {m : RemoteUserRef} (hwithin : mirroredWithin homeDomain start m = true) :
    (mirrorMember homeDomain m).Maintains (Held false start) :=
  keeps_check (fun hremote => keeps_mirrorRef (Authority.requireRemoteTarget_ok.mp hremote) hwithin)

theorem keeps_applySnapshot {localUserId : String} {snapshot : Json}
    (hwithin : (Snapshot.ofJson snapshot).all (snapshotWithin homeDomain start) = true) :
    (applySnapshot homeDomain localUserId snapshot).Maintains (Held false start) := by
  refine keeps_parsed (fun snap hsnap => ?_)
  refine keeps_check (fun hspace => ?_)
  refine keeps_check (fun howner => ?_)
  simp only [hsnap, Option.all_some, snapshotWithin, Authority.requireHomedOn_ok.mp hspace,
    Authority.requireHomedOn_ok.mp howner, Bool.not_true, Bool.false_or, List.all_cons,
    Bool.and_eq_true, List.all_eq_true] at hwithin
  obtain ⟨⟨hownerWithin, hmembers⟩, hmessages⟩ := hwithin
  have hqualified : containsAt (ownerRef snap).id = true := by
    rw [Profiles.ownerRef_id]
    exact Authority.homedOn_qualified (Authority.requireHomedOn_ok.mp howner)
  refine (keeps_mirrorRef hqualified hownerWithin).bind (fun _ _ => ?_)
  refine (Prog.keeps_forEach (fun m hm => keeps_mirrorMember (hmembers m hm))).bind (fun _ _ => ?_)
  refine keeps_then (Federation.touches_upsertRemoteSpace _ _ _ _ _) (by decide) (fun _ => ?_)
  refine keeps_then (touches_snapshotChannels _) (by decide) (fun _ => ?_)
  refine keeps_then (touches_snapshotRoles _) (by decide) (fun _ => ?_)
  refine keeps_then (touches_snapshotEmojis _) (by decide) (fun _ => ?_)
  refine (Prog.keeps_forEach (fun m hm => keeps_applySnapshotMessage (hmessages m hm))).bind
    (fun _ _ => ?_)
  exact keeps_then (Federation.touches_addMemberWithOrigin _) (by decide) (fun _ => trivial)

theorem keeps_requestSigned (domain path : String) (body : Json)
    (reply : Except AppError Response) :
    (Sender.requestSigned domain path body reply).Keeps (Held false start)
      (fun response => reply = .ok response) :=
  Sender.keeps_requestSigned _ _ _ _
    (fun _ _ hs => hs.of_fields rfl rfl rfl rfl (fun _ => rfl))

theorem keeps_initiateJoin {homeSpaceId : String} {user : User} {reply : Except AppError Response}
    (hwithin : ((reply.toOption.bind Response.json).bind Snapshot.ofJson).all
      (snapshotWithin homeDomain start) = true) :
    (Forward.initiateJoin homeDomain homeSpaceId user reply).Maintains (Held false start) := by
  have hforward : (Forward.forward homeDomain joinPath "join" (fun fed =>
      .obj [("user", Outbound.userJson fed.domain user), ("space_id", .str homeSpaceId)]) reply).Keeps
      (Held false start) (fun response => reply = .ok response) := by
    refine keeps_read (fun _ _ => Sender.preserves_requireFederation) (fun fed => ?_)
    refine (keeps_requestSigned _ _ _ _).bind (fun response hreply => ?_)
    exact Prog.keeps_require.bind (fun _ _ => hreply)
  refine hforward.bind (fun response hreply => ?_)
  cases hjson : response.json with
  | none => trivial
  | some snapshot => exact keeps_applySnapshot (by simpa [hreply, hjson, Except.toOption] using hwithin)

end

section

open Dm
open Profiles (remoteParticipants)
open Profiles.Request (snapshotProfiles mem_snapshotProfiles)

variable {start : AppState} {ourDomain peer : String}

theorem keeps_mirrorDm {snap : DmSnapshot}
    (hwithin : (snapshotProfiles ourDomain snap).all (fun w => profileWithin start.ext w.2) = true) :
    (mirrorDm ourDomain snap).Maintains (Held false start) := by
  have hparticipant : ∀ q ∈ snap.participants,
      (mirrorParticipant ourDomain snap q).Maintains (Held false start) := by
    intro q hq
    unfold mirrorParticipant
    split
    · refine Prog.keeps_ite trivial ?_
      exact keeps_silent (Profiles.touches_requireConsent _ _)
    · rename_i hremote
      have hqualified : containsAt q.id = true := by
        rw [← Bool.not_eq_false]
        intro hbare
        exact hremote (isLocal_bare hbare)
      have hprofile := List.all_eq_true.mp hwithin _
        (mem_snapshotProfiles (List.mem_filter.mpr ⟨hq, by simpa using hremote⟩))
      exact (keeps_upsertRemoteUser hqualified hprofile).bind (fun _ _ => trivial)
  refine (Prog.keeps_forEach hparticipant).bind (fun _ _ => ?_)
  refine keeps_then (Federation.touches_upsertRemoteDmChannel _ _ _ _) (by decide) (fun _ => ?_)
  refine (Prog.keeps_forEach (fun q _ => keeps_untouched
    DmParticipants.touches_addParticipant (by decide))).bind (fun _ _ => ?_)
  refine keeps_read (touches_found? _) (fun channel => ?_)
  cases channel with
  | none => trivial
  | some channel => exact keeps_untouched (touches_broadcastChannelCreate _) (by decide)

theorem keeps_openDmAsHome {opener : User} {recipientId recipientDomain : String}
    {reply : Except AppError Response} (hqualified : containsAt recipientId = true)
    (hwithin : profileWithin start.ext (placeholder recipientId) = true) :
    (openDmAsHome ourDomain opener recipientId recipientDomain reply).Maintains (Held false start) := by
  have hupsert := @keeps_upsertRemoteUser false start recipientId recipientDomain recipientId none
    none hqualified hwithin
  refine hupsert.bind (fun _ _ => ?_)
  refine keeps_then (DmParticipants.touches_createDmChannel _ _) (by decide) (fun channel => ?_)
  refine (keeps_requestSigned _ _ _ _).bind (fun response _ => ?_)
  refine Prog.keeps_ite ?_ ?_
  · exact keeps_then (touches_broadcastChannelCreate _) (by decide) (fun _ => trivial)
  · exact (keeps_deleteChannel _).attempt.bind (fun _ _ => trivial)

theorem keeps_openDmAsReplica {opener : User} {recipientId home : String}
    {reply : Except AppError Response}
    (hwithin : ∀ response snap, reply = .ok response →
      response.json.bind DmSnapshot.ofJson = some snap →
      (snapshotProfiles ourDomain snap).all (fun w => profileWithin start.ext w.2) = true) :
    (openDmAsReplica ourDomain opener recipientId home reply).Maintains (Held false start) := by
  refine (keeps_requestSigned _ _ _ _).bind (fun response hreply => ?_)
  refine Prog.keeps_require.bind (fun _ _ => ?_)
  split
  · trivial
  · rename_i snap hsnap
    refine (keeps_mirrorDm (hwithin response snap hreply hsnap)).bind (fun _ _ => ?_)
    exact keeps_silent (touches_lift _)

theorem keeps_openDm {opener : User} {recipientId : String} {reply : Except AppError Response}
    (hdomain : start.federation.map FederationContext.domain = some ourDomain)
    (hwithin : ((Request.openDm opener recipientId reply).unchecked ourDomain).all
      (fun w => profileWithin start.ext w.2) = true) :
    (openDm opener recipientId reply).Maintains (Held false start) := by
  refine Prog.Keeps.bind (Q := fun fed => fed = start.federation)
    (Prog.keeps_get (fun _ hs => hs.federation)) (fun fed hfed => ?_)
  cases fed with
  | none => trivial
  | some fed =>
    rw [← hfed] at hdomain
    obtain rfl : fed.domain = ourDomain := Option.some.inj hdomain
    refine keeps_check (fun hremote => ?_)
    have hqualified := Authority.requireRemoteTarget_ok.mp hremote
    cases domainOf recipientId with
    | none => trivial
    | some recipientDomain =>
      cases hours : eqIgnoreAsciiCase (homeDomainFor (qualify opener.id fed.domain) recipientId)
          fed.domain with
      | true =>
        simp only [hours, if_true]
        refine keeps_openDmAsHome hqualified ?_
        simpa [Request.unchecked, hours] using hwithin
      | false =>
        simp only [hours]
        refine keeps_openDmAsReplica (fun response snap hreply hsnap => ?_)
        simpa only [Request.unchecked, hours, Bool.false_eq_true, if_false, hreply, hsnap,
          Option.map_some, Option.getD_some] using hwithin

end

section

variable {ourDomain : String} {start s t : AppState} {req : Request}

theorem keeps_finished {α : Type} {fixed : Bool} {q : App α}
    (h : q.Maintains (Held fixed start)) :
    (Request.finished q).Maintains (Held fixed start) :=
  h.bind (fun _ _ => trivial)

theorem keeps_program (hdomain : start.federation.map FederationContext.domain = some ourDomain)
    (hwithin : withinCaps ourDomain start req = true) :
    ∃ fixed, (req.program ourDomain).Maintains (Held fixed start) := by
  cases req with
  | inbox peer env => exact ⟨true, keeps_finished (keeps_handleInbox hwithin)⟩
  | join peer req => exact ⟨false, keeps_finished (keeps_handleJoin hwithin)⟩
  | send peer req => exact ⟨false, keeps_finished (keeps_serveSend hwithin)⟩
  | react peer req => exact ⟨false, keeps_serveReact hwithin⟩
  | leave peer req => exact ⟨true, keeps_untouched (touches_serveLeave req) (by decide)⟩
  | edit peer req => exact ⟨false, keeps_finished (keeps_serveEdit req)⟩
  | delete peer req => exact ⟨false, keeps_serveDelete req⟩
  | typing peer req => exact ⟨true, keeps_untouched (touches_serveTyping req) (by decide)⟩
  | dmOpen peer req => exact ⟨false, keeps_finished (keeps_serveOpen hwithin)⟩
  | dmAnnounce peer snap =>
    exact ⟨false, keeps_check (fun _ => keeps_check (fun _ => keeps_mirrorDm hwithin))⟩
  | dmSend peer req => exact ⟨false, keeps_finished (keeps_dmServeSend hwithin)⟩
  | openDm opener recipientId reply =>
    exact ⟨false, keeps_finished (keeps_openDm hdomain hwithin)⟩
  | initiateJoin homeDomain homeSpaceId user reply =>
    exact ⟨false, keeps_finished (keeps_initiateJoin hwithin)⟩

structure Serving (ourDomain : String) (s : AppState) : Prop where
  domain : s.federation.map FederationContext.domain = some ourDomain
  capped : Capped s

theorem serves_capped (hs : Serving ourDomain s) (hwithin : withinCaps ourDomain s req = true)
    (hserves : req.Serves ourDomain s t) : Serving ourDomain t := by
  obtain ⟨q, hrun⟩ := hserves
  obtain ⟨fixed, hkeeps⟩ := keeps_program hs.domain hwithin
  have ht := (hkeeps.run (hs.capped.held fixed) hrun).1
  exact ⟨ht.federation ▸ hs.domain, ht.capped⟩

theorem replicas_within_caps {reqs : List Request}
    (hdomain : s.federation.map FederationContext.domain = some ourDomain) (hcapped : Capped s)
    (hrun : Lib.Runs (fun s req t => withinCaps ourDomain s req = true ∧
      req.Serves ourDomain s t) s reqs t) : ReplicasWithin t := by
  have hserving : Serving ourDomain t :=
    Lib.Runs.invariant (I := Serving ourDomain)
      (fun _ _ _ hs hstep => serves_capped hs hstep.1 hstep.2) ⟨hdomain, hcapped⟩ hrun
  exact hserving.capped.replicasWithin

end

section

variable {s t : AppState} {peer : String} {user : RemoteUserRef}

def mirroredRow (domain : String) (user : RemoteUserRef) : User :=
  Users.remoteUser user.id (homeOf user.id domain)
    (handle user.usernameOrId (homeOf user.id domain)) user.displayName user.avatar

theorem mirrorRef_new (hforeign : mirrorsOwn s peer user.id = none)
    (hhome : eqIgnoreAsciiCase (homeOf user.id peer) peer = true)
    (hnew : s.db.hasUser user.id = false)
    (hfree : s.db.usernameFree user.id (handle user.usernameOrId (homeOf user.id peer)) = true) :
    (mirrorRef peer user).exec s =
      (.ok (), s.withDb { s.db with users := s.db.users ++ [mirroredRow peer user] }) := by
  have hkey : Lib.Table.has User.id (mirroredRow peer user).id s.db.users = false := hnew
  have hnone := Lib.Table.lookup_none_of_not_has hnew
  have hread : Users.getUser user.id { s.db with users := s.db.users ++ [mirroredRow peer user] } =
      .ok (mirroredRow peer user) := by
    have hid : (mirroredRow peer user).id = user.id := rfl
    simp [Users.getUser, Lib.Table.lookup_append, hnone, hid]
  rw [mirrorRef_of_foreign hforeign]
  unfold mirroredRow at *
  simp only [mirrorForeignUser, Users.upsertRemoteUser, hhome, if_true, Prog.exec_bind,
    App.exec_write, hfree, App.unique, Lib.Table.upsert, hkey, Bool.false_eq_true, if_false,
    App.exec_lift, AppState.withDb_db, hread, Prog.exec_pure]

theorem storeMessage_new {payload : Apply.RemoteMessagePayload} {channel : ChannelRow}
    (hmirror : (mirrorRef peer payload.author).exec s = (.ok (), t))
    (hbytes : (Json.toText (.arr payload.embeds)).utf8ByteSize ≤ Apply.maxEmbedsBytes)
    (hstorable : Messages.storable t.db (Apply.remoteInsert peer payload channel.spaceId) = true) :
    ∃ u, (Apply.storeMessage peer payload channel).exec s = (.ok (), u) ∧
      u.db.users = t.db.users ∧
      (Apply.remoteInsert peer payload channel.spaceId).row ∈ u.db.messages := by
  obtain ⟨v, hinsert⟩ := Messages.insertRemoteMessage_of_storable hstorable
  have happends := Messages.insertRemoteMessage_appends hstorable
  have husers := (Messages.touches_insertRemoteMessage
    (Apply.remoteInsert peer payload channel.spaceId) .users (by decide)).exec t
  rw [hinsert] at happends husers
  have hrequired := Prog.exec_require
    ((Json.toText (.arr payload.embeds)).utf8ByteSize ≤ Apply.maxEmbedsBytes)
    (AppError.badRequest "remote embeds too large") t
  rw [if_pos hbytes] at hrequired
  unfold Apply.storeMessage
  rw [Prog.exec_bind_of_ok hmirror, Prog.exec_bind_of_ok hrequired, Prog.exec_bind_of_ok hinsert]
  refine ⟨_, App.exec_send _, husers, ?_⟩
  change _ ∈ v.db.messages
  rw [happends.messages]
  simp

end

section

open Profiles (mirrorServer served serves_exec)

def inboxEvent (eventType : String) (payload : List (String × Json)) : Request :=
  .inbox "p.example"
    { eventId := "1"
      origin := "p.example"
      spaceId := none
      eventType := eventType
      payload := .obj payload }

def messagePayload (author : RemoteUserRef) (embeds : List Json) : List (String × Json) :=
  [("id", .str "4@p.example"), ("channel_id", .str "3@p.example"), ("author", author.toJson),
    ("content", .str "hi"), ("embeds", .arr embeds), ("created_at", .str "2026-01-01 00:00:00")]

def pat : RemoteUserRef := { id := "9@p.example", username := some "pat" }

def nameless : RemoteUserRef :=
  { id := "9@p.example", username := some (String.ofList (List.replicate 300 'a')) }

def joined (embeds : Nat) : Request :=
  .initiateJoin "q.example" "5" { id := "1", username := "bob" } (.ok
    { success := true
      status := "200 OK"
      json := some (Handshake.Snapshot.toJson
        { space := { id := "5@q.example", name := "den", slug := "den", ownerId := "7@q.example" }
          channels := [{ id := "6@q.example", spaceId := none, name := none, channelType := "text",
                         position := 0 }]
          messages :=
            [{ id := "8@q.example"
               channelId := "6@q.example"
               spaceId := none
               author := { id := "7@q.example" }
               content := "hi"
               mentionEveryone := false
               mentions := []
               embeds := .arr (List.replicate embeds .null)
               replyTo := none
               createdAt := "2026-01-01 00:00:00" }] }) })

theorem mirrorServer_capped : Capped mirrorServer := by
  constructor
  · intro m hm
    cases hm
  · decide

theorem small_message_and_snapshot_within_caps :
    ReplicasWithin (((joined 2).program "h.example").exec
      (served (inboxEvent "m.dm.message.create" (messagePayload pat [])))).2 := by
  have hserves : ∀ (req : Request) (s : AppState),
      req.Serves "h.example" s ((req.program "h.example").exec s).2 := by
    intro req s
    obtain ⟨q, hrun, _⟩ := Prog.exec_steps (req.program "h.example") s
    exact ⟨q, hrun⟩
  exact @replicas_within_caps "h.example" mirrorServer _ _ (by decide) mirrorServer_capped
    (.cons ⟨by decide +kernel, hserves _ _⟩ (.cons ⟨by decide +kernel, hserves _ _⟩ (.nil _)))

def Oversized (req : Request) : Prop :=
  ∃ t, req.Serves "h.example" mirrorServer t ∧ ¬ ReplicasWithin t

def namedMessage (name : String) : Apply.RemoteMessagePayload :=
  { id := "4@p.example"
    channelId := "3@p.example"
    spaceId := none
    author := { id := "9@p.example", username := some name }
    content := "hi"
    mentions := []
    mentionEveryone := false
    embeds := []
    replyTo := none
    createdAt := "2026-01-01 00:00:00" }

def namedEvent (name : String) : FederationEnvelope :=
  { eventId := "1"
    origin := "p.example"
    spaceId := none
    eventType := "m.message.create"
    payload := .obj (messagePayload (namedMessage name).author []) }

theorem namedMessage_checked {name : String} {ext : Externals} :
    Apply.CreateChecked "p.example" ext (namedMessage name) where
  id := by
    change Authority.homedOn "4@p.example" "p.example" = true
    decide +kernel
  channel := by
    change Authority.homedOn "3@p.example" "p.example" = true
    decide +kernel
  space := by simp [namedMessage]
  author := by
    change containsAt "9@p.example" = true
    decide +kernel
  content := by
    change "hi".length ≤ Apply.maxContentChars
    decide +kernel
  embeds := by simp [namedMessage]
  mentions := by simp [namedMessage]
  displayName := by simp [namedMessage]
  avatar := by simp [namedMessage]

theorem namedEvent_stored {name : String}
    (hfree : mirrorServer.db.usernameFree "9@p.example" (handle name "p.example") = true) :
    (Apply.remoteInsert "p.example" (namedMessage name) none).row ∈
        (served (.inbox "p.example" (namedEvent name))).db.messages ∧
      mirroredRow "p.example" (namedMessage name).author ∈
        (served (.inbox "p.example" (namedEvent name))).db.users := by
  have hours : eqIgnoreAsciiCase "p.example" "h.example" = false := by decide +kernel
  have hhome : homeOf "9@p.example" "p.example" = "p.example" := by decide +kernel
  obtain ⟨s, hdedup, hdb, hfed⟩ : ∃ s,
      (Federation.dedupFirstSeen "1" "p.example").exec mirrorServer = (.ok true, s) ∧
      s.db = { mirrorServer.db with federationInboxDedup := s.db.federationInboxDedup } ∧
      s.federation = mirrorServer.federation := ⟨_, rfl, rfl, rfl⟩
  have hmirror : (mirrorRef "p.example" (namedMessage name).author).exec s =
      (.ok (), s.withDb { s.db with
        users := s.db.users ++ [mirroredRow "p.example" (namedMessage name).author] }) := by
    refine mirrorRef_new ?_ ?_ ?_ ?_
    · simp only [mirrorsOwn, hfed, mirrorServer, namedMessage, hhome]
      simp [hours]
    · simp [namedMessage, hhome]
    · rw [hdb]
      rfl
    · rw [hdb]
      simp only [namedMessage, hhome]
      exact hfree
  obtain ⟨t, hstore, husers, hrow⟩ := @storeMessage_new _ _ _ (namedMessage name)
    { id := "3@p.example", channelType := "dm", origin := some "p.example" } hmirror
    (by change (Json.toText (.arr [])).utf8ByteSize ≤ Apply.maxEmbedsBytes; decide +kernel)
    (by rw [hdb]; rfl)
  have happly : (Apply.applyMessageCreate "p.example" (namedEvent name)).exec s = (.ok (), t) := by
    have hparsed : Apply.RemoteMessagePayload.ofJson (namedEvent name).payload =
        some (namedMessage name) := rfl
    have hchecked : (Apply.checkMessageCreate "p.example" (namedMessage name)).exec s =
        (.ok (), s) := Apply.checkMessageCreate_ok.mpr ⟨namedMessage_checked, rfl⟩
    have hfound : (found? (Channels.getChannelRow "3@p.example")).exec s =
        (.ok (some { id := "3@p.example", channelType := "dm", origin := some "p.example" }), s) := by
      rw [App.exec_found?, hdb]
      rfl
    unfold Apply.applyMessageCreate
    rw [hparsed]
    refine (Prog.exec_bind_of_ok (Prog.exec_pure _ _)).trans ?_
    rw [Prog.exec_bind_of_ok hchecked]
    exact (Prog.exec_bind_of_ok hfound).trans hstore
  have hevent : (Inbox.applyEvent "p.example" (namedEvent name)).exec s = (.ok .ok, t) :=
    Prog.exec_bind_of_ok happly
  have hdispatch : (Inbox.dispatch "p.example" (namedEvent name) (.ok true)).exec s =
      (.ok .ok, t) := by
    have hattempt := Prog.exec_attempt (Inbox.applyEvent "p.example" (namedEvent name)) s
    rw [hevent] at hattempt
    exact Prog.exec_bind_of_ok hattempt
  have hinbox : (Inbox.handleInbox "p.example" (namedEvent name)).exec mirrorServer =
      (.ok .ok, t) := by
    have hcheck : Authority.check "p.example" (namedEvent name) = .ok () := by
      simp [Authority.check, Authority.requireSpaceHomedOn, namedEvent]
    have hattempt := Prog.exec_attempt (Federation.dedupFirstSeen "1" "p.example") mirrorServer
    rw [hdedup] at hattempt
    unfold Inbox.handleInbox
    rw [hcheck]
    exact (Prog.exec_bind_of_ok hattempt).trans hdispatch
  have hserved : served (.inbox "p.example" (namedEvent name)) = t := by
    change ((Request.finished (Inbox.handleInbox "p.example" (namedEvent name))).exec
      mirrorServer).2 = t
    rw [Request.finished, Prog.exec_bind_of_ok hinbox]
    rfl
  rw [hserved, husers]
  exact ⟨hrow, by simp⟩

theorem named_oversized {name : String} (hbare : containsAt name = false)
    (hlong : 300 ≤ name.length) :
    ¬ ReplicasWithin (served (.inbox "p.example" (namedEvent name))) := by
  intro hwithin
  have hname : handle name "p.example" = name ++ "@" ++ "p.example" := by
    simp only [handle, hbare, Bool.false_eq_true, if_false]
  have hhandle : 300 ≤ (handle name "p.example").length := by
    rw [hname, String.length_append, String.length_append]
    omega
  have hother : ∀ other : String, other.length < 300 → other ≠ handle name "p.example" := by
    intro other hshort heq
    rw [heq] at hshort
    omega
  have hfree : mirrorServer.db.usernameFree "9@p.example" (handle name "p.example") = true := by
    have hbob := hother "bob" (by decide)
    have halice := hother "alice@q.example" (by decide)
    simp [Tables.usernameFree, mirrorServer, hbob, halice]
  obtain ⟨hrow, huser⟩ := namedEvent_stored hfree
  have hprofile := (hwithin _ hrow rfl).2 _ huser rfl
  have hhome : homeOf "9@p.example" "p.example" = "p.example" := by decide +kernel
  simp only [profileWithin, Profiles.ofUser, mirroredRow, namedMessage, Users.remoteUser,
    RemoteUserRef.usernameOrId, hhome, Option.getD_some, Option.getD_none, Option.all_some,
    Option.all_none, Bool.and_true] at hprofile
  have hshort := of_decide_eq_true hprofile
  unfold Apply.maxDisplayNameChars at hshort
  omega

theorem nameless_oversized :
    ¬ ReplicasWithin (served (inboxEvent "m.message.create" (messagePayload nameless []))) := by
  refine @named_oversized (String.ofList (List.replicate 300 'a')) ?_ ?_
  · rw [containsAt, String.toList_ofList]
    decide +kernel
  · rw [String.length_ofList, List.length_replicate]

theorem oversized_replicas_stored :
    Capped mirrorServer ∧
      Oversized (inboxEvent "m.message.create" (messagePayload nameless [])) ∧
      Oversized (inboxEvent "m.dm.message.create"
        (messagePayload pat (List.replicate 11 .null))) ∧
      Oversized (joined 11) :=
  ⟨mirrorServer_capped, ⟨_, serves_exec _, nameless_oversized⟩,
    ⟨_, serves_exec _, by decide +kernel⟩, ⟨_, serves_exec _, by decide +kernel⟩⟩

end

end Vokusz.Federation.RemoteCaps
