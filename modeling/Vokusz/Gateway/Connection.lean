import Vokusz.Gateway.Session

namespace Vokusz.Gateway

open Db Permissions Resume
open Federation (gatewayEvent)
open Federation.Outbound (startsWith)

def listSpaceIds (db : Tables) (userId : String) (current : List String) : List String :=
  ((Spaces.listSpaceIdsForUser userId db).toOption).getD current

structure Connection where
  db : Tables
  spaceIds : List String
  session : Session := {}
  sources : List (Nat × GatewayBroadcast) := []

inductive ConnectionAction where
  | change (db : Tables)
  | broadcast (b : GatewayBroadcast) (written : Bool)
  | drop
  | close
  | expire
  | resume (afterSeq : Nat) (written : Bool)

structure SessionUser where
  userId : String
  intents : List String

namespace SessionUser

variable (user : SessionUser)

def isGuest : Bool := startsWith "guest:" user.userId

def recipient (spaceIds : List String) : Recipient :=
  { userId := user.userId, spaceIds := spaceIds, intents := user.intents }

end SessionUser

namespace Session

def take (s : Session) (event : Json) (written : Bool) : Option Session :=
  match s.phase with
  | .live => s.step (.deliver event written)
  | .parked => s.step (.collect event)
  | .ended => none

def settle (guest : Bool) (s : Session) : Session :=
  if guest && s.phase = .parked then { s with phase := .ended } else s

end Session

namespace Connection

variable (user : SessionUser)

def reload (c : Connection) : Connection :=
  if user.isGuest then c
  else { c with spaceIds := listSpaceIds c.db user.userId c.spaceIds }

def deliver (c : Connection) (b : GatewayBroadcast) (written : Bool) : Option Connection :=
  (c.session.take b.event written).map (fun session =>
    { c with
      session := session.settle user.isGuest
      sources := c.sources ++ [(c.session.handover.seq + 1, b)] })

def receive (c : Connection) (b : GatewayBroadcast) (written : Bool) : Option Connection :=
  if c.session.phase = .ended then none
  else
    match classifyBroadcast c.db b (user.recipient c.spaceIds) with
    | .skip => some c
    | .refreshMutes => some c
    | .refreshSpaces none => some (c.reload user)
    | .refreshSpaces (some _) => (c.reload user).deliver user b written
    | .send _ => c.deliver user b written

def currentRecipient (c : Connection) : Recipient :=
  user.recipient (listSpaceIds c.db user.userId [])

def replayed (c : Connection) (afterSeq : Nat) : Option Buffer :=
  match missedEntries c.session.handover.buffer c.session.handover.seq afterSeq with
  | none => none
  | some missed =>
    if Session.replayable
      (fun channelId => canReceiveChannel c.db (c.currentRecipient user) channelId true) missed
    then some missed
    else none

def resume (c : Connection) (afterSeq : Nat) (written : Bool) : Option Connection :=
  if c.session.phase = .parked then
    some
      { c with
        spaceIds := (c.currentRecipient user).spaceIds
        session := c.session.claim afterSeq
          (fun channelId => canReceiveChannel c.db (c.currentRecipient user) channelId true)
          written }
  else none

def step (c : Connection) : ConnectionAction → Option Connection
  | .change db => some { c with db := db }
  | .broadcast b written => c.receive user b written
  | .drop => (c.session.step .drop).map (fun s => { c with session := s.settle user.isGuest })
  | .close => (c.session.step .close).map (fun s => { c with session := s })
  | .expire => (c.session.step .expire).map (fun s => { c with session := s })
  | .resume afterSeq written => c.resume user afterSeq written

def start (db : Tables) (spaceIds : List String) : Connection := { db := db, spaceIds := spaceIds }

def run (c : Connection) (acts : List ConnectionAction) : Option Connection :=
  Lib.runFrom (step user) c acts

def source (c : Connection) (seq : Nat) : Option GatewayBroadcast :=
  (Lib.Table.lookup Prod.fst seq c.sources).map Prod.snd

end Connection

section

variable {db : Tables} {b : GatewayBroadcast} {r : Recipient}

def delivers (db : Tables) (b : GatewayBroadcast) (r : Recipient) : Bool :=
  match classifyBroadcast db b r with
  | .send _ => true
  | .refreshSpaces (some _) => true
  | _ => false

def aboutSelf (b : GatewayBroadcast) (userId : String) : Bool :=
  (eventType b.event = "member.join" || eventType b.event = "member.leave") &&
    membershipEventSubject b.event = some userId

structure Wanted (b : GatewayBroadcast) (r : Recipient) : Prop where
  intent : Intents.hasIntent r.intents (eventType b.event) = true
  targeted : aboutSelf b r.userId = false → ∀ ids, b.targetUserIds = some ids → r.userId ∈ ids
  unmuted : eventType b.event ≠ "channel_mute.create" ∧ eventType b.event ≠ "channel_mute.delete"

structure Allowed (db : Tables) (b : GatewayBroadcast) (r : Recipient) : Prop where
  plugin : startsWith "plugin." (eventType b.event) = true → pluginVisible db b r.userId = true
  space : b.targetUserIds = none → ∀ sid, b.spaceId = some sid → sid ∈ r.spaceIds
  channel : ∀ channelId, eventChannel b.event = some channelId →
    canReceiveChannel db r channelId (startsWith "message." (eventType b.event)) = true
  permission : ∀ perm, b.requiredPermission = some perm → holdsRequired db b r.userId perm = true

theorem shouldReceive_iff : shouldReceive b r = true ↔
    (∀ ids, b.targetUserIds = some ids → r.userId ∈ ids) ∧
      (b.targetUserIds = none → ∀ sid, b.spaceId = some sid → sid ∈ r.spaceIds) := by
  unfold shouldReceive
  cases b.targetUserIds with
  | some ids => simp
  | none =>
    cases b.spaceId with
    | some sid => simp
    | none => simp

theorem aboutSelf_not_plugin (h : aboutSelf b r.userId = true) :
    startsWith "plugin." (eventType b.event) = false := by
  simp only [aboutSelf, Bool.and_eq_true, Bool.or_eq_true, decide_eq_true_eq] at h
  rcases h.1 with hjoin | hleave
  · rw [hjoin]
    decide
  · rw [hleave]
    decide

def muteKind (kind : String) : Bool :=
  kind = "channel_mute.create" || kind = "channel_mute.delete"

theorem delivers_eq : delivers db b r =
    (!(startsWith "plugin." (eventType b.event) && !pluginVisible db b r.userId) &&
      if aboutSelf b r.userId then Intents.hasIntent r.intents (eventType b.event)
      else shouldReceive b r && (eventChannel b.event).all (fun channelId =>
          canReceiveChannel db r channelId (startsWith "message." (eventType b.event))) &&
        !muteKind (eventType b.event) && Intents.hasIntent r.intents (eventType b.event) &&
          b.requiredPermission.all (holdsRequired db b r.userId)) := by
  have hself : ((eventType b.event = "member.join" || eventType b.event = "member.leave") &&
      decide (membershipEventSubject b.event = some r.userId)) = aboutSelf b r.userId := rfl
  have hmute : (eventType b.event = "channel_mute.create" ||
      eventType b.event = "channel_mute.delete") = muteKind (eventType b.event) := rfl
  unfold delivers classifyBroadcast
  simp only [hself, hmute]
  generalize (startsWith "plugin." (eventType b.event) && !pluginVisible db b r.userId) = plugin
  generalize (eventChannel b.event).all (fun channelId =>
    canReceiveChannel db r channelId (startsWith "message." (eventType b.event))) = channel
  generalize Intents.hasIntent r.intents (eventType b.event) = intent
  generalize b.requiredPermission.all (holdsRequired db b r.userId) = permission
  cases plugin with
  | true => rfl
  | false =>
    cases aboutSelf b r.userId with
    | true => cases intent <;> rfl
    | false =>
      cases shouldReceive b r <;> cases channel <;> cases muteKind (eventType b.event) <;>
        cases intent <;> cases permission <;> rfl

theorem muteKind_eq_false {kind : String} :
    muteKind kind = false ↔ kind ≠ "channel_mute.create" ∧ kind ≠ "channel_mute.delete" := by
  simp [muteKind]

theorem aboutSelf_unmuted (h : aboutSelf b r.userId = true) :
    muteKind (eventType b.event) = false := by
  simp only [aboutSelf, Bool.and_eq_true, Bool.or_eq_true, decide_eq_true_eq] at h
  rcases h.1 with hjoin | hleave
  · rw [hjoin]
    decide
  · rw [hleave]
    decide

theorem delivers_iff : delivers db b r = true ↔
    Wanted b r ∧ (aboutSelf b r.userId = true ∨ Allowed db b r) := by
  rw [delivers_eq]
  cases hself : aboutSelf b r.userId with
  | true =>
    simp only [aboutSelf_not_plugin hself, Bool.false_and, Bool.not_false, Bool.true_and, if_true,
      true_or, and_true]
    constructor
    · intro hintent
      exact ⟨hintent, fun hnot => absurd hself (by simp [hnot]),
        muteKind_eq_false.mp (aboutSelf_unmuted hself)⟩
    · intro hwanted
      exact hwanted.intent
  | false =>
    simp only [Bool.false_eq_true, if_false, false_or, Bool.and_eq_true, Bool.not_eq_true',
      Option.all_eq_true, muteKind_eq_false, shouldReceive_iff]
    constructor
    · rintro ⟨hplugin, ⟨⟨⟨⟨htargets, hspace⟩, hchannel⟩, hmute⟩, hintent⟩, hpermission⟩
      refine ⟨⟨hintent, fun _ => htargets, hmute⟩, ?_, hspace, hchannel, hpermission⟩
      intro hkind
      simpa [hkind] using hplugin
    · rintro ⟨hwanted, hallowed⟩
      refine ⟨?_, ⟨⟨⟨⟨hwanted.targeted hself, hallowed.space⟩, hallowed.channel⟩,
        hwanted.unmuted⟩, hwanted.intent⟩, hallowed.permission⟩
      cases hkind : startsWith "plugin." (eventType b.event) with
      | false => simp
      | true => simp [hallowed.plugin hkind]

theorem readAccess_of_history {channel : ChannelRow} {auth : AuthUser} {history : Bool}
    (h : requireChannelReadAccess channel (some auth) true db = .ok ()) :
    requireChannelReadAccess channel (some auth) history db = .ok () := by
  obtain ⟨u, hguest, h⟩ := (Query.bind_ok db).mp h
  obtain ⟨spaceId, hview, h⟩ := (Query.bind_ok db).mp h
  refine (Query.bind_ok db).mpr ⟨u, hguest, (Query.bind_ok db).mpr ⟨spaceId, hview, ?_⟩⟩
  cases history with
  | true => exact h
  | false => rfl

theorem canReceive_of_history {channelId : String} {history : Bool}
    (h : canReceiveChannel db r channelId true = true) :
    canReceiveChannel db r channelId history = true := by
  unfold canReceiveChannel at h ⊢
  cases hrow : Channels.getChannelRow channelId db with
  | error e => simp [hrow] at h
  | ok channel =>
    simp only [hrow] at h ⊢
    cases hread : requireChannelReadAccess channel (some (recipientAuth r)) true db with
    | error e =>
      rw [hread] at h
      cases h
    | ok u =>
      rw [readAccess_of_history hread]
      rfl

theorem field_stampSeq {event : Json} {seq : Nat} {name : String} (hname : name ≠ "seq") :
    (stampSeq event seq).field? name = event.field? name := by
  cases event with
  | obj fields =>
    have hkept : (fields.filter (fun f => f.1 ≠ "seq")).find? (fun f => f.1 = name) =
        fields.find? (fun f => f.1 = name) :=
      Lib.Table.lookup_filter (fun f _ hf => by simp [hf, hname])
    simp only [stampSeq, Json.field?, List.find?_append, hkept]
    simp [Ne.symm hname]
  | _ => rfl

theorem replayChannel_stampSeq (event : Json) (seq : Nat) :
    Session.replayChannel (stampSeq event seq) = Session.replayChannel event := by
  unfold Session.replayChannel
  rw [field_stampSeq (by decide)]

end

namespace Session

variable {s t : Session} {event : Json} {written : Bool}

theorem take_buffer (h : s.take event written = some t) :
    t.handover.seq = s.handover.seq + 1 ∧
      ∀ e ∈ t.handover.buffer, e ∈ s.handover.buffer ∨ e = s.nextEntry event := by
  have hpush : ∀ e ∈ push s.handover.buffer (s.nextEntry event).1 (s.nextEntry event).2,
      e ∈ s.handover.buffer ∨ e = s.nextEntry event := by
    intro e he
    have hmem := (evict_suffix _).subset he
    simpa using hmem
  unfold take at h
  cases hphase : s.phase with
  | live =>
    cases written with
    | true =>
      simp only [hphase, step, ne_eq, not_true, if_false, if_true, Option.some.injEq] at h
      subst h
      exact ⟨rfl, hpush⟩
    | false =>
      simp only [hphase, step, ne_eq, not_true, if_false, Bool.false_eq_true,
        Option.some.injEq] at h
      subst h
      exact ⟨rfl, fun e he => .inl he⟩
  | parked =>
    simp only [hphase, step, if_true, Option.some.injEq] at h
    subst h
    exact ⟨rfl, hpush⟩
  | ended => simp [hphase] at h

theorem settle_handover (guest : Bool) (s : Session) :
    (s.settle guest).handover = s.handover := by
  unfold settle
  split <;> rfl

theorem claim_handover (s : Session) (afterSeq : Nat) (canReceive : String → Bool)
    (written : Bool) : (s.claim afterSeq canReceive written).handover = s.handover := by
  unfold claim
  cases missedEntries s.handover.buffer s.handover.seq afterSeq with
  | none => rfl
  | some missed =>
    simp only
    split <;> rfl

end Session

namespace Connection

variable {user : SessionUser} {c c' : Connection} {b : GatewayBroadcast} {written : Bool}

structure Traced (user : SessionUser) (c : Connection) : Prop where
  buffered : ∀ e ∈ c.session.handover.buffer, ∃ b, c.source e.1 = some b ∧
    e.2 = stampSeq b.event e.1 ∧ Wanted b (user.recipient [])
  numbered : ∀ e ∈ c.sources, e.1 ≤ c.session.handover.seq

theorem Traced.of_eq (h : Traced user c) (hsources : c'.sources = c.sources)
    (hhandover : c'.session.handover = c.session.handover) : Traced user c' where
  buffered := by
    rw [hhandover]
    unfold source
    rw [hsources]
    exact h.buffered
  numbered := by
    rw [hsources, hhandover]
    exact h.numbered

theorem source_append (h : Traced user c) (b : GatewayBroadcast) (session : Session) (n : Nat) :
    source { c with session := session, sources := c.sources ++ [(c.session.handover.seq + 1, b)] }
      n = if n = c.session.handover.seq + 1 then some b else c.source n := by
  unfold source
  rw [Lib.Table.lookup_append]
  by_cases hn : n = c.session.handover.seq + 1
  · have hnone : Lib.Table.lookup Prod.fst n c.sources = none := by
      rw [Lib.Table.lookup_eq_none]
      intro e he heq
      have hle := h.numbered e he
      omega
    simp [hn ▸ hnone, hn]
  · have hne : ¬ c.session.handover.seq + 1 = n := fun heq => hn heq.symm
    simp [hn, hne]

theorem Traced.deliver (h : Traced user c) (hwanted : Wanted b (user.recipient []))
    (hdeliver : c.deliver user b written = some c') : Traced user c' := by
  obtain ⟨session, htake, rfl⟩ := Option.map_eq_some_iff.mp hdeliver
  obtain ⟨hseq, hbuffer⟩ := Session.take_buffer htake
  constructor
  · intro e he
    rw [Session.settle_handover] at he
    rw [source_append h]
    rcases hbuffer e he with hold | rfl
    · obtain ⟨b', hsource, hpayload, hb'⟩ := h.buffered e hold
      have hle : e.1 ≤ c.session.handover.seq := by
        obtain ⟨entry, hentry, _⟩ := Option.map_eq_some_iff.mp hsource
        have hkey := Lib.Table.lookup_key hentry
        have hnum := h.numbered entry (Lib.Table.lookup_mem hentry)
        omega
      have hne : ¬ e.1 = c.session.handover.seq + 1 := by omega
      rw [if_neg hne]
      exact ⟨b', hsource, hpayload, hb'⟩
    · exact ⟨b, if_pos rfl, rfl, hwanted⟩
  · intro e he
    rw [Session.settle_handover, hseq]
    rcases List.mem_append.mp he with hold | hnew
    · have hle := h.numbered e hold
      omega
    · rw [List.mem_singleton.mp hnew]

theorem Wanted.anywhere {ids ids' : List String} (h : Wanted b (user.recipient ids)) :
    Wanted b (user.recipient ids') :=
  ⟨h.intent, h.targeted, h.unmuted⟩

theorem Traced.receive (h : Traced user c) (hreceive : c.receive user b written = some c') :
    Traced user c' := by
  have hreload : Traced user (c.reload user) := by
    unfold reload
    split
    · exact h
    · exact h.of_eq rfl rfl
  have hwanted : delivers c.db b (user.recipient c.spaceIds) = true →
      Wanted b (user.recipient []) :=
    fun hdelivers => Wanted.anywhere (delivers_iff.mp hdelivers).1
  unfold Connection.receive at hreceive
  unfold delivers at hwanted
  split at hreceive
  · cases hreceive
  · cases hkind : classifyBroadcast c.db b (user.recipient c.spaceIds) with
    | skip =>
      simp only [hkind, Option.some.injEq] at hreceive
      exact hreceive ▸ h
    | refreshMutes =>
      simp only [hkind, Option.some.injEq] at hreceive
      exact hreceive ▸ h
    | refreshSpaces payload =>
      cases payload with
      | none =>
        simp only [hkind, Option.some.injEq] at hreceive
        exact hreceive ▸ hreload
      | some event =>
        simp only [hkind] at hreceive hwanted
        exact hreload.deliver (hwanted trivial) hreceive
    | send event =>
      simp only [hkind] at hreceive hwanted
      exact h.deliver (hwanted trivial) hreceive

theorem Traced.step {a : ConnectionAction} (h : Traced user c)
    (hstep : c.step user a = some c') : Traced user c' := by
  cases a with
  | change db =>
    cases hstep
    exact h.of_eq rfl rfl
  | broadcast b written => exact h.receive hstep
  | drop =>
    obtain ⟨session, hdrop, rfl⟩ := Option.map_eq_some_iff.mp hstep
    obtain ⟨_, rfl⟩ := Session.Consistent.of_guard hdrop
    exact h.of_eq rfl (Session.settle_handover _ _)
  | close =>
    obtain ⟨session, hclose, rfl⟩ := Option.map_eq_some_iff.mp hstep
    obtain ⟨_, rfl⟩ := Session.Consistent.of_guard hclose
    exact h.of_eq rfl rfl
  | expire =>
    obtain ⟨session, hexpire, rfl⟩ := Option.map_eq_some_iff.mp hstep
    obtain ⟨_, rfl⟩ := Session.Consistent.of_guard hexpire
    exact h.of_eq rfl rfl
  | resume afterSeq written =>
    obtain ⟨_, rfl⟩ : c.session.phase = .parked ∧ _ = c' := by
      simpa [Connection.step, Connection.resume] using hstep
    exact h.of_eq rfl (Session.claim_handover _ _ _ _)

theorem Traced.of_run {db : Tables} {spaceIds : List String} {acts : List ConnectionAction}
    (hrun : (start db spaceIds).run user acts = some c) : Traced user c := by
  have hstart : Traced user (start db spaceIds) :=
    ⟨fun e he => absurd he List.not_mem_nil, fun e he => absurd he List.not_mem_nil⟩
  exact Lib.run_induction (I := fun _ c => Traced user c) hstart
    (fun _ _ _ _ hinv hstep => hinv.step hstep) acts c hrun

structure Authorized (user : SessionUser) (c : Connection) (b : GatewayBroadcast) : Prop where
  delivered : delivers c.db b (c.currentRecipient user) = true
  channel : aboutSelf b user.userId = false → ∀ channelId, eventChannel b.event = some channelId →
    canReceiveChannel c.db (c.currentRecipient user) channelId
      (startsWith "message." (eventType b.event)) = true
  space : aboutSelf b user.userId = false → b.targetUserIds = none →
    ∀ sid, b.spaceId = some sid → sid ∈ listSpaceIds c.db user.userId []

def ReplaysAuthorized (user : SessionUser) (c : Connection) (missed : Buffer) : Prop :=
  ∀ e ∈ missed, ∃ b, c.source e.1 = some b ∧ e.2 = stampSeq b.event e.1 ∧ Authorized user c b

structure StillOpen (user : SessionUser) (c : Connection) (b : GatewayBroadcast) : Prop where
  plugin : startsWith "plugin." (eventType b.event) = true →
    pluginVisible c.db b user.userId = true
  space : b.targetUserIds = none → ∀ sid, b.spaceId = some sid →
    sid ∈ listSpaceIds c.db user.userId []
  record : Session.replayChannel b.event = none → ∀ channelId,
    eventChannel b.event = some channelId →
      canReceiveChannel c.db (c.currentRecipient user) channelId
        (startsWith "message." (eventType b.event)) = true
  permission : ∀ perm, b.requiredPermission = some perm →
    holdsRequired c.db b user.userId perm = true

theorem authorized_of_delivers (h : delivers c.db b (c.currentRecipient user) = true) :
    Authorized user c b := by
  have hallowed := (delivers_iff.mp h).2
  refine ⟨h, ?_, ?_⟩
  · intro hself
    rcases hallowed with habout | hopen
    · exact absurd (hself.symm.trans habout) Bool.false_ne_true
    · exact hopen.channel
  · intro hself
    rcases hallowed with habout | hopen
    · exact absurd (hself.symm.trans habout) Bool.false_ne_true
    · exact hopen.space

theorem eventChannel_of_replayChannel {event : Json} {channelId : String}
    (h : Session.replayChannel event = some channelId) :
    eventChannel event = none ∨ eventChannel event = some channelId := by
  unfold Session.replayChannel at h
  unfold eventChannel
  obtain ⟨data, hdata, hid⟩ := Option.bind_eq_some_iff.mp h
  split
  · exact .inl rfl
  · simp [hdata, hid]

theorem allowed_iff_stillOpen
    (hfilter : (Session.replayChannel b.event).all (fun channelId =>
      canReceiveChannel c.db (c.currentRecipient user) channelId true) = true) :
    Allowed c.db b (c.currentRecipient user) ↔ StillOpen user c b := by
  constructor
  · intro h
    exact ⟨h.plugin, h.space, fun _ => h.channel, h.permission⟩
  · intro h
    refine ⟨h.plugin, h.space, ?_, h.permission⟩
    intro channelId hchannel
    cases hreplay : Session.replayChannel b.event with
    | none => exact h.record hreplay channelId hchannel
    | some id =>
      rcases eventChannel_of_replayChannel hreplay with hnone | hsome
      · rw [hnone] at hchannel
        cases hchannel
      · rw [hsome] at hchannel
        cases hchannel
        rw [hreplay, Option.all_some] at hfilter
        exact canReceive_of_history hfilter

theorem replayed_filter {afterSeq : Nat} {missed : Buffer}
    (h : c.replayed user afterSeq = some missed) :
    (∀ e ∈ missed, e ∈ c.session.handover.buffer) ∧
      ∀ e ∈ missed, (Session.replayChannel e.2).all (fun channelId =>
        canReceiveChannel c.db (c.currentRecipient user) channelId true) = true := by
  unfold replayed at h
  cases hmissed : missedEntries c.session.handover.buffer c.session.handover.seq afterSeq with
  | none => simp [hmissed] at h
  | some entries =>
    simp only [hmissed] at h
    split at h
    · rename_i hfilter
      cases h
      exact ⟨missedEntries_subset hmissed, List.all_eq_true.mp hfilter⟩
    · cases h

theorem replay_authorized_iff {db : Tables} {spaceIds : List String}
    {acts : List ConnectionAction} {afterSeq : Nat} {missed : Buffer}
    (hrun : (start db spaceIds).run user acts = some c)
    (hreplay : c.replayed user afterSeq = some missed) :
    ReplaysAuthorized user c missed ↔
      ∀ e ∈ missed, ∀ b, c.source e.1 = some b →
        aboutSelf b user.userId = true ∨ StillOpen user c b := by
  have htraced := Traced.of_run hrun
  obtain ⟨hbuffer, hfilter⟩ := replayed_filter hreplay
  have hevent : ∀ e ∈ missed, ∀ b, c.source e.1 = some b → e.2 = stampSeq b.event e.1 →
      (Allowed c.db b (c.currentRecipient user) ↔ StillOpen user c b) := by
    intro e he b _ hpayload
    have hpass := hfilter e he
    rw [hpayload, replayChannel_stampSeq] at hpass
    exact allowed_iff_stillOpen hpass
  constructor
  · intro h e he b hsource
    obtain ⟨b', hsource', hpayload, hauthorized⟩ := h e he
    have hsame : b' = b := Option.some.inj (hsource'.symm.trans hsource)
    subst hsame
    rw [← hevent e he b' hsource hpayload]
    exact (delivers_iff.mp hauthorized.delivered).2
  · intro h e he
    obtain ⟨b, hsource, hpayload, hwanted⟩ := htraced.buffered e (hbuffer e he)
    have hopen := h e he b hsource
    rw [← hevent e he b hsource hpayload] at hopen
    have hdelivers := delivers_iff.mpr ⟨Wanted.anywhere hwanted, hopen⟩
    exact ⟨b, hsource, hpayload, authorized_of_delivers hdelivers⟩

def annUser : SessionUser := { userId := "1", intents := ["spaces", "messages"] }

def guild : Tables where
  users := [{ id := "1", username := "ann" }, { id := "2", username := "bob" }]
  spaces := [{ id := "10", name := "guild", ownerId := "2" }]
  channels := [{ id := "20", spaceId := some "10", topic := some "plans" }]
  roles :=
    [{ id := "30"
       spaceId := "10"
       name := "everyone"
       permissions := ["view_channel", "read_history"] }]
  members := [{ userId := "1", spaceId := "10" }, { userId := "2", spaceId := "10" }]

def hidden : Tables :=
  { guild with
    permissionOverwrites :=
      [{ id := "30", channelId := "20", overwriteType := "role", deny := ["view_channel"] }] }

def kicked : Tables := { guild with members := [{ userId := "2", spaceId := "10" }] }

def inGuild (kind : String) (data : Json) : GatewayBroadcast :=
  { spaceId := some "10"
    targetUserIds := none
    event := gatewayEvent kind data
    intent := "spaces" }

def channelUpdated : GatewayBroadcast :=
  inGuild "channel.update" (.obj [("id", .str "20"), ("topic", .str "secret plans")])

def roleUpdated : GatewayBroadcast :=
  inGuild "role.update"
    (.obj [("space_id", .str "10"), ("role", .obj [("name", .str "founders")])])

def posted : GatewayBroadcast :=
  inGuild "message.create" (.obj [("channel_id", .str "20"), ("content", .str "hello")])

def parked (b : GatewayBroadcast) (db : Tables) : List ConnectionAction :=
  [.drop, .broadcast b true, .change db]

def reached (acts : List ConnectionAction) : Connection :=
  ((start guild ["10"]).run annUser acts).getD (start guild ["10"])

def replayOf (b : GatewayBroadcast) : Buffer := [(2, stampSeq b.event 2)]

def ReplaysRevoked (b : GatewayBroadcast) (db : Tables) : Prop :=
  (start guild ["10"]).run annUser (parked b db) = some (reached (parked b db)) ∧
    (reached (parked b db)).replayed annUser 1 = some (replayOf b) ∧
    ¬ ReplaysAuthorized annUser (reached (parked b db)) (replayOf b)

theorem revoked_events_replayed :
    ReplaysRevoked channelUpdated hidden ∧ ReplaysRevoked roleUpdated kicked := by
  have hskip : ∀ x ∈ [(channelUpdated, hidden), (roleUpdated, kicked)],
      (reached (parked x.1 x.2)).source 2 = some x.1 ∧
        delivers (reached (parked x.1 x.2)).db x.1
          ((reached (parked x.1 x.2)).currentRecipient annUser) = false := by decide +kernel
  have hreplayed : ∀ x ∈ [(channelUpdated, hidden), (roleUpdated, kicked)],
      (reached (parked x.1 x.2)).replayed annUser 1 = some (replayOf x.1) := by decide +kernel
  have hran : ∀ x ∈ [(channelUpdated, hidden), (roleUpdated, kicked)],
      ((start guild ["10"]).run annUser (parked x.1 x.2)).isSome = true := by decide +kernel
  have hrevoked : ∀ x ∈ [(channelUpdated, hidden), (roleUpdated, kicked)],
      ReplaysRevoked x.1 x.2 := by
    intro x hx
    refine ⟨Lib.runFrom_getD (hran x hx), hreplayed x hx, ?_⟩
    intro hauthorized
    obtain ⟨hsource, hnot⟩ := hskip x hx
    obtain ⟨b, hb, _, hdelivers⟩ := hauthorized (2, stampSeq x.1.event 2) (by simp [replayOf])
    have hsame : b = x.1 := Option.some.inj (hb.symm.trans hsource)
    rw [hsame] at hdelivers
    rw [hdelivers.delivered] at hnot
    cases hnot
  exact ⟨hrevoked (channelUpdated, hidden) (by simp), hrevoked (roleUpdated, kicked) (by simp)⟩

theorem posted_replay_authorized_iff :
    ReplaysAuthorized annUser (reached (parked posted guild)) (replayOf posted) ↔
      ∀ e ∈ replayOf posted, ∀ b, (reached (parked posted guild)).source e.1 = some b →
        aboutSelf b annUser.userId = true ∨
          StillOpen annUser (reached (parked posted guild)) b :=
  @replay_authorized_iff annUser (reached (parked posted guild)) guild ["10"]
    (parked posted guild) 1 (replayOf posted) (Lib.runFrom_getD (by decide +kernel))
    (by decide +kernel)

end Connection

end Vokusz.Gateway
