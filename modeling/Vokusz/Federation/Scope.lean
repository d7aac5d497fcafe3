import Vokusz.Federation.Footprint
import Vokusz.Gateway.Classify
import Vokusz.Lib.Emission

namespace Vokusz.Federation.Scope

open App Db Mapping Gateway
open Lib (Prog)

def idKeys (kind : String) : List String :=
  (if Outbound.startsWith "message." kind || Outbound.startsWith "channel." kind then ["id"]
    else []) ++ ["channel_id", "space_id", "message_id", "reply_to", "thread_id"]

def named (kind : String) (data : Json) : List String :=
  (idKeys kind).filterMap (fun key => data.getStr? key)

def namedBy (event : Json) : List String :=
  named (eventType event) ((event.field? "data").getD .null)

def Session (db : Tables) (r : Recipient) : Prop :=
  containsAt r.userId = false ∧
    (Outbound.startsWith "guest:" r.userId = true ∨
      db.hasUser r.userId = true ∧ ∀ sid, sid ∈ r.spaceIds ↔ db.hasMember sid r.userId = true)

def delivered : Delivery → Option Json
  | .send payload => some payload
  | .refreshSpaces payload => payload
  | _ => none

def inAudience (b : GatewayBroadcast) (r : Recipient) : Prop :=
  match b.targetUserIds with
  | some targets => r.userId ∈ targets
  | none => ∃ sid ∈ b.spaceId, sid ∈ r.spaceIds

def Addressed (peer : String) (db : Tables) (b : GatewayBroadcast) : Prop :=
  (b.targetUserIds = none ∧ ∃ sid ∈ b.spaceId, Authority.homedOn sid peer = true) ∨
    ∃ channelId, Authority.homedOn channelId peer = true ∧ b.spaceId = none ∧
      b.targetUserIds = some (DmParticipants.participantIds db channelId)

structure InScope (peer : String) (db : Tables) (b : GatewayBroadcast) : Prop where
  addressed : Addressed peer db b
  names : ∀ id ∈ namedBy b.event, Authority.homedOn id peer = true
  confined : ∀ (db' : Tables) (r : Recipient), Session db r →
    (delivered (classifyBroadcast db' b r)).isSome = true → inAudience b r

section

variable {peer : String} {db : Tables} {b : GatewayBroadcast} {r : Recipient}

def aboutOwnMembership (event : Json) (userId : String) : Prop :=
  (eventType event = "member.join" ∨ eventType event = "member.leave") ∧
    membershipEventSubject event = some userId

theorem delivered_cases {db' : Tables}
    (h : (delivered (classifyBroadcast db' b r)).isSome = true) :
    aboutOwnMembership b.event r.userId ∨ shouldReceive b r = true := by
  unfold classifyBroadcast at h
  dsimp only at h
  split at h
  · cases h
  · split at h
    · rename_i hown
      simp only [Bool.and_eq_true, Bool.or_eq_true, decide_eq_true_eq] at hown
      exact .inl hown
    · split at h
      · cases h
      · rename_i hreceive
        exact .inr (by simpa using hreceive)

theorem Addressed.inAudience (h : Addressed peer db b) (hreceive : shouldReceive b r = true) :
    inAudience b r := by
  unfold shouldReceive at hreceive
  unfold Scope.inAudience
  rcases h with ⟨hnone, sid, hsid, _⟩ | ⟨channelId, _, _, hsome⟩
  · rw [hnone] at hreceive ⊢
    rw [Option.mem_def.mp hsid] at hreceive
    exact ⟨sid, hsid, by simpa using hreceive⟩
  · rw [hsome] at hreceive ⊢
    simpa using hreceive

theorem inScope_iff (hkind : eventType b.event ≠ "member.join" ∧
    eventType b.event ≠ "member.leave") :
    InScope peer db b ↔ Addressed peer db b ∧
      ∀ id ∈ namedBy b.event, Authority.homedOn id peer = true := by
  constructor
  · exact fun h => ⟨h.addressed, h.names⟩
  · rintro ⟨haddressed, hnames⟩
    refine ⟨haddressed, hnames, fun db' r _ hdelivered => ?_⟩
    rcases delivered_cases hdelivered with ⟨hown, _⟩ | hreceive
    · rcases hown with hjoin | hleave
      · exact absurd hjoin hkind.1
      · exact absurd hleave hkind.2
    · exact haddressed.inAudience hreceive

end

section

variable {α β : Type} {P : GatewayBroadcast → Prop} {s : AppState}

abbrev Sends (P : GatewayBroadcast → Prop) (q : App α) (s : AppState) : Prop :=
  q.Emits AppState.gatewayTx P s

theorem silent {slots : List Slot} {q : App α} (h : Touches slots q)
    (hn : Slot.gatewayTx ∉ slots) : q.Preserves AppState.gatewayTx :=
  h .gatewayTx hn

theorem sends_return (a : α) : Sends P (pure a : App α) s ↔ True :=
  iff_true_intro (Prog.emits_of_preserves (Prog.preserves_pure a) s)

theorem sends_fail (e : AppError) : Sends P (Prog.fail e : App α) s ↔ True :=
  iff_true_intro (Prog.emits_of_preserves (Prog.preserves_fail e) s)

theorem sends_lift {q : Query α} {f : α → App β} :
    Sends P ((MonadLiftT.monadLift q : App α) >>= f) s ↔
      ∀ a, q s.db = .ok a → Sends P (f a) s := by
  rw [Sends, Prog.emits_bind (preserves_lift q)]
  simp only [exec_lift, Prod.mk.injEq]
  exact ⟨fun h a ha => h a s ⟨ha, rfl⟩, fun h a t hat => hat.2 ▸ h a hat.1⟩

theorem sends_found? {q : Query α} {f : Option α → App β} :
    Sends P (found? q >>= f) s ↔ Sends P (f (q s.db).toOption) s := by
  rw [Sends, Prog.emits_bind (preserves_found? q)]
  simp only [exec_found?, Prod.mk.injEq, Except.ok.injEq]
  exact ⟨fun h => h _ s ⟨rfl, rfl⟩, fun h a t hat => hat.1 ▸ hat.2 ▸ h⟩

theorem sends_check {r : Except AppError Unit} {f : Unit → App β} :
    Sends P ((MonadLiftT.monadLift r : App Unit) >>= f) s ↔ (r = .ok () → Sends P (f ()) s) :=
  Prog.emits_ofExcept.trans ⟨fun h => h (), fun h _ ha => h ha⟩

theorem sends_parsed {what : String} {parsed : Option α} {f : α → App β} :
    Sends P (orBadRequest what parsed >>= f) s ↔ ∀ a, parsed = some a → Sends P (f a) s := by
  cases parsed with
  | none =>
    refine iff_of_true (Prog.emits_of_preserves (Prog.preserves_fail _) s) ?_
    exact fun _ ha => nomatch ha
  | some a =>
    change Sends P (f a) s ↔ _
    simp

theorem sends_then {q : App α} {f : α → App β} (h : q.Preserves AppState.gatewayTx)
    (hf : ∀ a t, q.exec s = (.ok a, t) → Sends P (f a) t) : Sends P (q >>= f) s :=
  (Prog.emits_bind h).mpr hf

theorem sends_known {q : App α} {f : α → App β} {a : α} {t : AppState}
    (hexec : q.exec s = (.ok a, t)) (h : q.Preserves AppState.gatewayTx) :
    Sends P (q >>= f) s ↔ Sends P (f a) t := by
  rw [Sends, Prog.emits_bind h]
  constructor
  · exact fun hall => hall a t hexec
  · intro hf b u hb
    rw [hexec] at hb
    cases hb
    exact hf

theorem sends_guard {C : Prop} {q : App Unit} {f : Unit → App β}
    (hexec : ∀ t, q.exec s = (.ok (), t) ↔ C ∧ s = t) (h : q.Preserves AppState.gatewayTx) :
    Sends P (q >>= f) s ↔ (C → Sends P (f ()) s) := by
  rw [Sends, Prog.emits_bind h]
  constructor
  · exact fun hall hc => hall () s ((hexec s).mpr ⟨hc, rfl⟩)
  · rintro hall ⟨⟩ t ht
    obtain ⟨hc, rfl⟩ := (hexec t).mp ht
    exact hall hc

theorem sends_silent_bind {C : Prop} {q : App α} {f : α → App β}
    (h : q.Preserves AppState.gatewayTx)
    (hf : ∀ a t, q.exec s = (.ok a, t) → (Sends P (f a) t ↔ C)) :
    Sends P (q >>= f) s ↔ (q.Succeeds s → C) := by
  rw [Sends, Prog.emits_bind h]
  constructor
  · rintro hall ⟨a, t, ht⟩
    exact (hf a t ht).mp (hall a t ht)
  · exact fun hc a t ht => (hf a t ht).mpr (hc ⟨a, t, ht⟩)

theorem sends_send (b : GatewayBroadcast) : Sends P (send b) s ↔ P b := by
  refine (Prog.emits_of_exec (exec_send b) rfl).trans ?_
  simp

end

section

variable {peer : String} {db : Tables}

def spaceBroadcast (spaceId : Option String) (eventType : String) (data : Json)
    (intent : String) : GatewayBroadcast :=
  { spaceId := spaceId
    targetUserIds := none
    event := gatewayEvent eventType data
    intent := intent }

def homedSpace (peer : String) (spaceId : Option String) : Bool :=
  spaceId.any (fun sid => Authority.homedOn sid peer)

theorem addressed_spaceBroadcast {spaceId : Option String} {kind intent : String} {data : Json} :
    Addressed peer db (spaceBroadcast spaceId kind data intent) ↔
      homedSpace peer spaceId = true := by
  unfold Addressed spaceBroadcast homedSpace
  cases spaceId <;> simp

theorem namedBy_gatewayEvent (kind : String) (data : Json) :
    namedBy (gatewayEvent kind data) = named kind data := rfl

theorem eventType_gatewayEvent (kind : String) (data : Json) :
    eventType (gatewayEvent kind data) = kind := rfl

theorem inScope_spaceBroadcast {spaceId : Option String} {kind intent : String} {data : Json}
    (hkind : kind ≠ "member.join" ∧ kind ≠ "member.leave") :
    InScope peer db (spaceBroadcast spaceId kind data intent) ↔
      homedSpace peer spaceId = true ∧
        ∀ id ∈ named kind data, Authority.homedOn id peer = true := by
  have hiff := @inScope_iff peer db (spaceBroadcast spaceId kind data intent) hkind
  rw [hiff, addressed_spaceBroadcast]
  rfl

def homedRef (peer : String) (id : Option String) : Bool :=
  id.all (fun id => Authority.homedOn id peer)

theorem homedRef_iff {id : Option String} :
    homedRef peer id = true ↔ ∀ x ∈ id.toList, Authority.homedOn x peer = true := by
  cases id <;> simp [homedRef]

theorem asStr_ofOption (id : Option String) : (Json.ofOption id).asStr? = id := by
  cases id <;> rfl

theorem named_message {kind : String} (hkind : kind = "message.create" ∨ kind = "message.update")
    (row : MessageRow) :
    (∀ id ∈ named kind (messageRowToJson row), Authority.homedOn id peer = true) ↔
      Authority.homedOn row.id peer = true ∧ Authority.homedOn row.channelId peer = true ∧
        homedRef peer row.spaceId = true ∧ homedRef peer row.replyTo = true ∧
        homedRef peer row.threadId = true := by
  have hkeys : idKeys kind =
      ["id", "channel_id", "space_id", "message_id", "reply_to", "thread_id"] := by
    rcases hkind with rfl | rfl <;> decide
  have hnamed : named kind (messageRowToJson row) =
      [row.id, row.channelId] ++ row.spaceId.toList ++ row.replyTo.toList ++
        row.threadId.toList := by
    have hspace : (messageRowToJson row).getStr? "space_id" = row.spaceId := asStr_ofOption _
    have hreply : (messageRowToJson row).getStr? "reply_to" = row.replyTo := asStr_ofOption _
    have hthread : (messageRowToJson row).getStr? "thread_id" = row.threadId := asStr_ofOption _
    have hid : (messageRowToJson row).getStr? "id" = some row.id := rfl
    have hchannel : (messageRowToJson row).getStr? "channel_id" = some row.channelId := rfl
    have hmessage : (messageRowToJson row).getStr? "message_id" = none := rfl
    unfold named
    rw [hkeys]
    simp only [List.filterMap_cons, List.filterMap_nil, hid, hchannel, hspace, hmessage, hreply,
      hthread]
    cases row.spaceId <;> cases row.replyTo <;> cases row.threadId <;> rfl
  rw [hnamed]
  simp only [List.mem_append, or_imp, forall_and, homedRef_iff]
  simp [and_assoc]

end

section

variable {peer messageId : String} {db : Tables} {env : FederationEnvelope} {s : AppState}

def typingScoped (peer : String) (env : FederationEnvelope) : Prop :=
  homedSpace peer env.spaceId = true ∧
    ∀ id ∈ named "typing.start" env.payload, Authority.homedOn id peer = true

theorem sends_typing :
    Sends (InScope peer db) (Apply.applyTyping env) s ↔ typingScoped peer env :=
  (sends_send _).trans (inScope_spaceBroadcast (by decide))

def createScoped (peer : String) (env : FederationEnvelope) (s : AppState) : Prop :=
  ∀ payload, Apply.RemoteMessagePayload.ofJson env.payload = some payload →
    Apply.CreateChecked peer s.ext payload →
    ∀ channel, Channels.getChannelRow payload.channelId s.db = .ok channel →
    Mirrorable peer payload.author s →
    (Json.toText (.arr payload.embeds)).utf8ByteSize ≤ Apply.maxEmbedsBytes →
    Messages.fits s.db (Apply.remoteInsert peer payload channel.spaceId) = true →
    homedSpace peer channel.spaceId = true ∧ homedRef peer payload.replyTo = true

theorem homedRef_of_homedSpace {id : Option String} (h : homedSpace peer id = true) :
    homedRef peer id = true := by
  cases id with
  | none => rfl
  | some id => exact h

theorem inScope_message {kind : String} (hkind : kind = "message.create" ∨ kind = "message.update")
    (spaceId : Option String) (row : MessageRow) :
    InScope peer db (spaceBroadcast spaceId kind (messageRowToJson row) "messages") ↔
      homedSpace peer spaceId = true ∧ Authority.homedOn row.id peer = true ∧
        Authority.homedOn row.channelId peer = true ∧ homedRef peer row.spaceId = true ∧
        homedRef peer row.replyTo = true ∧ homedRef peer row.threadId = true := by
  rw [inScope_spaceBroadcast (by rcases hkind with rfl | rfl <;> decide), named_message hkind]

theorem sends_storeMessage {P : GatewayBroadcast → Prop} {payload : Apply.RemoteMessagePayload}
    {channel : ChannelRow} : Sends P (Apply.storeMessage peer payload channel) s ↔
      (Mirrorable peer payload.author s →
        (Json.toText (.arr payload.embeds)).utf8ByteSize ≤ Apply.maxEmbedsBytes →
        Messages.fits s.db (Apply.remoteInsert peer payload channel.spaceId) = true →
        P (spaceBroadcast channel.spaceId "message.create"
          (messageRowToJson (Apply.remoteInsert peer payload channel.spaceId).row) "messages")) := by
  rw [← mirrorRef_succeeds]
  refine sends_silent_bind (silent (touches_mirrorRef _ _) (by decide)) ?_
  rintro ⟨⟩ t ht
  have hkeep := fun n hn => (touches_mirrorRef peer payload.author n hn).of_exec ht
  have hstorable : Messages.storable t.db (Apply.remoteInsert peer payload channel.spaceId) =
      Messages.fits s.db (Apply.remoteInsert peer payload channel.spaceId) :=
    Messages.storable_of_author (mirrorRef_hasUser ht) (hkeep .messages (by decide))
      (hkeep .channels (by decide)) (hkeep .spaces (by decide))
  refine Prog.emits_require.trans (imp_congr_right (fun _ => ?_))
  rw [← hstorable]
  refine (Prog.emits_bind (silent (Messages.touches_insertRemoteMessage _) (by decide))).trans ?_
  constructor
  · intro h hfits
    obtain ⟨u, hinsert⟩ := Messages.insertRemoteMessage_of_storable hfits
    exact (sends_send _).mp (h _ u hinsert)
  · intro h row u hinsert
    cases row with
    | none => exact (sends_return _).mpr trivial
    | some row =>
      obtain ⟨hfits, rfl⟩ := Messages.insertRemoteMessage_some hinsert
      exact (sends_send _).mpr (h hfits)

theorem sends_messageCreate :
    Sends (InScope peer db) (Apply.applyMessageCreate peer env) s ↔ createScoped peer env s := by
  refine sends_parsed.trans (forall_congr' (fun payload => imp_congr_right (fun _ => ?_)))
  refine (sends_guard (fun t => Apply.checkMessageCreate_ok)
    (touches_checkMessageCreate payload .gatewayTx List.not_mem_nil)).trans ?_
  refine imp_congr_right (fun hchecked => sends_found?.trans ?_)
  cases hchannel : Channels.getChannelRow payload.channelId s.db with
  | error e =>
    refine iff_of_true ((sends_return _).mpr trivial) ?_
    exact fun channel h => nomatch h
  | ok channel =>
    simp only [Except.toOption, Except.ok.injEq, forall_eq']
    refine sends_storeMessage.trans ?_
    refine imp_congr_right (fun _ => imp_congr_right (fun _ => imp_congr_right (fun _ => ?_)))
    refine (inScope_message (.inl rfl) _ _).trans ?_
    constructor
    · rintro ⟨hspace, _, _, _, hreply, _⟩
      exact ⟨hspace, hreply⟩
    · rintro ⟨hspace, hreply⟩
      exact ⟨hspace, hchecked.id, hchecked.channel, homedRef_of_homedSpace hspace, hreply, rfl⟩

def updateScoped (peer : String) (env : FederationEnvelope) (s : AppState) : Prop :=
  ∀ payload, Apply.RemoteMessageEdit.ofJson env.payload = some payload →
    Authority.homedOn payload.id peer = true →
    (∀ content ∈ payload.content, content.length ≤ Apply.maxContentChars) →
    ∀ row, Messages.getMessageRow payload.id s.db = .ok row → row.origin = some peer →
    homedSpace peer row.spaceId = true ∧ Authority.homedOn row.channelId peer = true ∧
      homedRef peer row.replyTo = true ∧ homedRef peer row.threadId = true

theorem sends_rebroadcastUpdate {row : MessageRow}
    (hrow : Messages.getMessageRow messageId s.db = .ok row)
    (hhomed : Authority.homedOn messageId peer = true) :
    Sends (InScope peer db) (Apply.rebroadcastUpdate messageId) s ↔
      homedSpace peer row.spaceId = true ∧ Authority.homedOn row.channelId peer = true ∧
        homedRef peer row.replyTo = true ∧ homedRef peer row.threadId = true := by
  have hid : row.id = messageId := Lib.Table.lookup_key (Messages.getMessageRow_ok.mp hrow)
  refine sends_found?.trans ?_
  rw [hrow]
  refine (sends_send _).trans ((inScope_message (.inr rfl) row.spaceId row).trans ?_)
  constructor
  · rintro ⟨hspace, _, hchannel, _, hreply, hthread⟩
    exact ⟨hspace, hchannel, hreply, hthread⟩
  · rintro ⟨hspace, hchannel, hreply, hthread⟩
    exact ⟨hspace, hid ▸ hhomed, hchannel, homedRef_of_homedSpace hspace, hreply, hthread⟩

theorem sends_messageUpdate :
    Sends (InScope peer db) (Apply.applyMessageUpdate peer env) s ↔ updateScoped peer env s := by
  refine sends_parsed.trans (forall_congr' (fun payload => imp_congr_right (fun _ => ?_)))
  refine sends_check.trans ?_
  rw [Authority.requireHomedOn_ok]
  refine imp_congr_right (fun hhomed => Prog.emits_require.trans (imp_congr_right (fun _ => ?_)))
  refine sends_found?.trans ?_
  cases hrow : Messages.getMessageRow payload.id s.db with
  | error e =>
    refine iff_of_true ((sends_return _).mpr trivial) ?_
    intro row h
    cases h
  | ok row =>
    simp only [Except.toOption, Except.ok.injEq, forall_eq']
    by_cases horigin : row.origin = some peer
    · obtain ⟨t, row', hedit, hrow', hplaced⟩ :=
        @Messages.exec_editRemoteMessage s payload.id row payload.content payload.editedAt hrow
      simp only [horigin, ne_eq, not_true_eq_false, if_false, forall_true_left]
      refine (sends_known hedit
        (silent (Messages.touches_editRemoteMessage _ _) (by decide))).trans ?_
      refine (sends_rebroadcastUpdate hrow' hhomed).trans ?_
      simp only [Messages.placed, Prod.mk.injEq] at hplaced
      obtain ⟨_, hchannel, hspace, hreply, hthread⟩ := hplaced
      rw [hchannel, hspace, hreply, hthread]
    · simp only [horigin, ne_eq, not_false_eq_true, if_true, false_implies, iff_true]
      exact (sends_return _).mpr trivial

def deleteScoped (peer : String) (env : FederationEnvelope) (s : AppState) : Prop :=
  ∀ payload, Apply.RemoteMessageDelete.ofJson env.payload = some payload →
    Authority.homedOn payload.id peer = true →
    ∀ row, Messages.getMessageRow payload.id s.db = .ok row → row.origin = some peer →
    homedSpace peer row.spaceId = true ∧
      Authority.homedOn (payload.channelId.getD row.channelId) peer = true

theorem creation_kind : "message.create" ≠ "member.join" ∧ "message.create" ≠ "member.leave" := by
  decide

theorem deletion_kind : "message.delete" ≠ "member.join" ∧ "message.delete" ≠ "member.leave" := by
  decide

theorem sends_messageDelete :
    Sends (InScope peer db) (Apply.applyMessageDelete peer env) s ↔ deleteScoped peer env s := by
  refine sends_parsed.trans (forall_congr' (fun payload => imp_congr_right (fun _ => ?_)))
  refine sends_check.trans ?_
  rw [Authority.requireHomedOn_ok]
  refine imp_congr_right (fun hhomed => sends_found?.trans ?_)
  cases hrow : Messages.getMessageRow payload.id s.db with
  | error e =>
    refine iff_of_true ((sends_return _).mpr trivial) ?_
    intro row h
    cases h
  | ok row =>
    simp only [Except.toOption, Except.ok.injEq, forall_eq']
    by_cases horigin : row.origin = some peer
    · simp only [horigin, ne_eq, not_true_eq_false, if_false, forall_true_left]
      refine (sends_known (App.exec_update _)
        (silent Messages.touches_deleteMessage (by decide))).trans ?_
      refine (sends_send _).trans ((inScope_spaceBroadcast deletion_kind).trans ?_)
      refine and_congr_right (fun _ => ?_)
      have hnamed : named "message.delete" (.obj [("id", .str payload.id),
          ("channel_id", .str (payload.channelId.getD row.channelId))]) =
          [payload.id, payload.channelId.getD row.channelId] := rfl
      rw [hnamed]
      simp [hhomed]
    · simp only [horigin, ne_eq, not_false_eq_true, if_true, false_implies, iff_true]
      exact (sends_return _).mpr trivial

def reactionScoped (peer : String) (env : FederationEnvelope) (s : AppState) : Prop :=
  ∀ payload, Apply.RemoteReaction.ofJson env.payload = some payload →
    Authority.homedOn payload.messageId peer = true →
    Authority.homedOn payload.channelId peer = true → containsAt payload.userId = true →
    payload.emoji.length ≤ Apply.maxReactionEmojiChars →
    ∀ row, Messages.getMessageRow payload.messageId s.db = .ok row →
    (s.db.hasUser payload.userId || s.db.usernameFree payload.userId payload.userId) = true →
    homedSpace peer row.spaceId = true

theorem inScope_reaction {payload : Apply.RemoteReaction} {row : MessageRow} (add : Bool)
    (hmessage : Authority.homedOn payload.messageId peer = true)
    (hchannel : Authority.homedOn payload.channelId peer = true) :
    InScope peer db (spaceBroadcast row.spaceId (if add then "reaction.add" else "reaction.remove")
      payload.toJson "message_reactions") ↔ homedSpace peer row.spaceId = true := by
  refine (inScope_spaceBroadcast (by cases add <;> decide)).trans ?_
  have hnamed : named (if add then "reaction.add" else "reaction.remove") payload.toJson =
      [payload.channelId, payload.messageId] := by
    cases add <;> rfl
  rw [hnamed]
  simp [hmessage, hchannel]

theorem sends_reaction {add : Bool} :
    Sends (InScope peer db) (Apply.applyReaction peer env add) s ↔ reactionScoped peer env s := by
  refine sends_parsed.trans (forall_congr' (fun payload => imp_congr_right (fun _ => ?_)))
  refine sends_check.trans ?_
  rw [Authority.requireHomedOn_ok]
  refine imp_congr_right (fun hmessage => sends_check.trans ?_)
  rw [Authority.requireHomedOn_ok]
  refine imp_congr_right (fun hchannel => sends_check.trans ?_)
  rw [Authority.requireRemoteTarget_ok]
  refine imp_congr_right (fun _ => Prog.emits_require.trans (imp_congr_right (fun _ => ?_)))
  refine sends_found?.trans ?_
  cases hrow : Messages.getMessageRow payload.messageId s.db with
  | error e =>
    refine iff_of_true ((sends_return _).mpr trivial) ?_
    intro row h
    cases h
  | ok row =>
    simp only [Except.toOption, Except.ok.injEq, forall_eq']
    refine (sends_silent_bind (silent (Users.touches_ensureRemoteUser _ _ _ _ _) (by decide))
      ?_).trans (imp_congr_left Users.ensureRemoteUser_succeeds)
    intro _ t ht
    have hmessages : t.db.messages = s.db.messages :=
      (Users.touches_ensureRemoteUser _ _ _ _ _ .messages (by decide)).of_exec ht
    have hstored : t.db.hasMessage payload.messageId = true := by
      rw [Tables.hasMessage, hmessages, ← Lib.Table.lookup_isSome,
        Messages.getMessageRow_ok.mp hrow]
      rfl
    obtain ⟨u, hchange⟩ := Messages.exec_changeReaction add payload.emoji hstored
      (Users.ensureRemoteUser_hasUser ht)
    refine (sends_known hchange (silent (Messages.touches_changeReaction _ _) (by decide))).trans ?_
    exact (sends_send _).trans (inScope_reaction add hmessage hchannel)

def leavesAudience (db : Tables) (spaceId userId : String) : Prop :=
  containsAt userId = false → Outbound.startsWith "guest:" userId = false ∧
    (db.hasUser userId = true → db.hasMember spaceId userId = true)

section

variable {kind spaceId userId : String} (hkind : kind = "member.join" ∨ kind = "member.leave")

include hkind

theorem named_memberEvent :
    named kind (Apply.memberEventJson spaceId userId) = [spaceId] := by
  rcases hkind with rfl | rfl <;> rfl

theorem confined_memberEvent (hsubject : leavesAudience db spaceId userId)
    (hspace : Authority.homedOn spaceId peer = true) :
    InScope peer db (spaceBroadcast (some spaceId) kind
      (Apply.memberEventJson spaceId userId) "members") := by
  have haddressed : Addressed peer db (spaceBroadcast (some spaceId) kind
      (Apply.memberEventJson spaceId userId) "members") :=
    addressed_spaceBroadcast.mpr hspace
  refine ⟨haddressed, ?_, fun db' r hsession hdelivered => ?_⟩
  · intro id hid
    rw [spaceBroadcast, namedBy_gatewayEvent, named_memberEvent hkind] at hid
    rw [List.mem_singleton.mp hid]
    exact hspace
  · rcases delivered_cases hdelivered with ⟨_, hown⟩ | hreceive
    · have hsame : r.userId = userId := (Option.some.inj hown).symm
      obtain ⟨hbare, hguest | ⟨hlocal, hspaces⟩⟩ := hsession
      · rw [hsame] at hbare hguest
        rw [(hsubject hbare).1] at hguest
        cases hguest
      · rw [hsame] at hbare hlocal
        have hmember := (hsubject hbare).2 hlocal
        exact ⟨spaceId, rfl, (hspaces spaceId).mpr (hsame ▸ hmember)⟩
    · exact haddressed.inAudience hreceive

theorem classify_memberEvent {spaceIds : List String} :
    classifyBroadcast db (spaceBroadcast (some spaceId) kind
      (Apply.memberEventJson spaceId userId) "members") ⟨userId, spaceIds, ["members"]⟩ =
      .refreshSpaces (some (gatewayEvent kind (Apply.memberEventJson spaceId userId))) := by
  have hsubject : membershipEventSubject (gatewayEvent kind
      (Apply.memberEventJson spaceId userId)) = some userId := rfl
  unfold classifyBroadcast
  rcases hkind with rfl | rfl
  · have hplugin : Outbound.startsWith "plugin." "member.join" = false := by decide
    have hintent : Intents.hasIntent ["members"] "member.join" = true := rfl
    simp [spaceBroadcast, eventType_gatewayEvent, hsubject, hplugin, hintent]
  · have hplugin : Outbound.startsWith "plugin." "member.leave" = false := by decide
    have hintent : Intents.hasIntent ["members"] "member.leave" = true := rfl
    simp [spaceBroadcast, eventType_gatewayEvent, hsubject, hplugin, hintent]

end

def joined (db : Tables) (userId : String) : List String :=
  (db.members.filter (fun m => m.userId = userId)).map MemberRow.spaceId

theorem mem_joined {userId sid : String} :
    sid ∈ joined db userId ↔ db.hasMember sid userId = true := by
  simp only [joined, Tables.hasMember, List.mem_map, List.mem_filter, List.any_eq_true,
    Bool.and_eq_true, decide_eq_true_eq]
  constructor
  · rintro ⟨m, ⟨hm, huser⟩, hspace⟩
    exact ⟨m, hm, hspace, huser⟩
  · rintro ⟨m, hm, hspace, huser⟩
    exact ⟨m, ⟨hm, huser⟩, hspace⟩

theorem inScope_memberEvent {kind spaceId userId : String}
    (hkind : kind = "member.join" ∨ kind = "member.leave")
    (hspace : Authority.homedOn spaceId peer = true) :
    InScope peer db (spaceBroadcast (some spaceId) kind
      (Apply.memberEventJson spaceId userId) "members") ↔ leavesAudience db spaceId userId := by
  refine ⟨fun h hbare => ?_, fun h => confined_memberEvent hkind h hspace⟩
  have hreach : ∀ spaceIds, Session db ⟨userId, spaceIds, ["members"]⟩ → spaceId ∈ spaceIds := by
    intro spaceIds hsession
    have hdelivered : (delivered (classifyBroadcast db (spaceBroadcast (some spaceId) kind
        (Apply.memberEventJson spaceId userId) "members")
        ⟨userId, spaceIds, ["members"]⟩)).isSome = true := by
      rw [classify_memberEvent hkind]
      rfl
    obtain ⟨sid, hsid, hmem⟩ := h.confined db _ hsession hdelivered
    obtain rfl : spaceId = sid := Option.some.inj hsid
    exact hmem
  refine ⟨?_, fun hlocal => ?_⟩
  · rw [← Bool.not_eq_true]
    intro hguest
    exact nomatch hreach [] ⟨hbare, .inl hguest⟩
  · have hjoined := fun sid => @mem_joined db userId sid
    exact (hjoined spaceId).mp (hreach (joined db userId) ⟨hbare, .inr ⟨hlocal, hjoined⟩⟩)

theorem sends_memberJoin (hspaceId : ∀ sid, env.spaceId = some sid →
    Authority.homedOn sid peer = true) :
    Sends (InScope peer db) (Apply.applyMemberJoin peer env) s := by
  unfold Apply.applyMemberJoin
  cases hspace : env.spaceId with
  | none => exact (sends_fail _).mpr trivial
  | some spaceId =>
    refine sends_parsed.mpr (fun user _ => sends_found?.mpr ?_)
    cases (Spaces.getSpaceRow spaceId s.db).toOption with
    | none => exact (sends_return _).mpr trivial
    | some _ =>
      refine sends_check.mpr (fun htarget => ?_)
      have hqualified := Authority.requireRemoteTarget_ok.mp htarget
      refine sends_then (silent (touches_mirrorRef _ _) (by decide)) (fun _ t _ => ?_)
      refine sends_then (silent (Federation.touches_addMemberWithOrigin _) (by decide))
        (fun _ _ _ => (sends_send _).mpr ?_)
      refine confined_memberEvent (.inl rfl) ?_ (hspaceId spaceId hspace)
      intro hbare
      rw [hqualified] at hbare
      cases hbare

def leaveScoped (env : FederationEnvelope) (db : Tables) : Prop :=
  ∀ spaceId, env.spaceId = some spaceId → ∀ userId, env.payload.reqStr "user_id" = some userId →
    db.hasSpace spaceId = true → leavesAudience db spaceId userId

theorem sends_memberLeave (hspaceId : ∀ sid, env.spaceId = some sid →
    Authority.homedOn sid peer = true) :
    Sends (InScope peer s.db) (Apply.applyMemberLeave env) s ↔ leaveScoped env s.db := by
  unfold Apply.applyMemberLeave leaveScoped
  cases hspace : env.spaceId with
  | none =>
    refine iff_of_true ((sends_fail _).mpr trivial) ?_
    exact fun spaceId h => nomatch h
  | some spaceId =>
    simp only [Option.some.injEq, forall_eq']
    refine sends_parsed.trans (forall_congr' (fun userId => imp_congr_right (fun _ => ?_)))
    refine sends_found?.trans ?_
    cases hrow : Spaces.getSpaceRow spaceId s.db with
    | error e =>
      refine iff_of_true ((sends_return _).mpr trivial) (fun hstored => ?_)
      rw [Spaces.hasSpace_iff] at hstored
      obtain ⟨row, h⟩ := hstored
      rw [hrow] at h
      cases h
    | ok row =>
      have hstored : s.db.hasSpace spaceId = true := Spaces.hasSpace_iff.mpr ⟨row, hrow⟩
      simp only [Except.toOption, hstored, forall_true_left]
      refine (sends_known (App.exec_update _)
        (silent Members.touches_removeMember (by decide))).trans ?_
      exact (sends_send _).trans (inScope_memberEvent (.inr rfl) (hspaceId spaceId hspace))

theorem sends_emojiUpsert (created : Bool) :
    Sends (InScope peer db) (Apply.applyEmojiUpsert peer env created) s := by
  refine sends_parsed.mpr (fun payload _ => sends_check.mpr (fun _ => ?_))
  refine sends_check.mpr (fun hspace => ?_)
  refine Prog.emits_require.mpr (fun _ => Prog.emits_require.mpr (fun _ => ?_))
  refine sends_then (touches_validateOptionalUrl _ _ .gatewayTx List.not_mem_nil) (fun _ t _ => ?_)
  refine sends_found?.mpr ?_
  cases (Spaces.getSpaceRow payload.spaceId t.db).toOption with
  | none => exact (sends_return _).mpr trivial
  | some _ =>
    refine sends_then (silent (Emojis.touches_upsertRemoteEmoji _ _ _ _ _ _) (by decide))
      (fun _ u _ => sends_found?.mpr ((sends_send _).mpr ?_))
    refine (inScope_spaceBroadcast (by cases created <;> decide)).mpr ?_
    have hhomed := Authority.requireHomedOn_ok.mp hspace
    refine ⟨hhomed, ?_⟩
    have hnamed : ∀ emoji, named (if created then "emoji.create" else "emoji.update")
        (.obj [("space_id", .str payload.spaceId), ("emoji", emoji)]) = [payload.spaceId] := by
      cases created <;> exact fun _ => rfl
    rw [hnamed]
    simpa using hhomed

def emojiDeleteScoped (peer : String) (env : FederationEnvelope) (db : Tables) : Prop :=
  ∀ id, env.payload.reqStr "id" = some id → Authority.homedOn id peer = true →
    ∀ row, Lib.Table.lookup EmojiRow.id id db.emojis = some row → row.origin = some peer →
    Authority.homedOn row.spaceId peer = true

theorem sends_emojiDelete :
    Sends (InScope peer db) (Apply.applyEmojiDelete peer env) s ↔
      emojiDeleteScoped peer env s.db := by
  refine sends_parsed.trans (forall_congr' (fun id => imp_congr_right (fun _ => ?_)))
  refine sends_check.trans ?_
  rw [Authority.requireHomedOn_ok]
  refine imp_congr_right (fun hhomed => sends_lift.trans ?_)
  simp only [Emojis.emojiOrigin, Except.ok.injEq, forall_eq']
  cases hrow : Lib.Table.lookup EmojiRow.id id s.db.emojis with
  | none =>
    refine iff_of_true ((sends_return _).mpr trivial) ?_
    intro row h
    cases h
  | some row =>
    simp only [Option.bind_some, Option.some.injEq, forall_eq']
    by_cases horigin : row.origin = some peer
    · simp only [horigin, ne_eq, not_true_eq_false, if_false, forall_true_left]
      refine sends_lift.trans ?_
      simp only [Emojis.emojiSpaceId, hrow, Option.map_some, Except.ok.injEq, forall_eq']
      obtain ⟨image, t, hdelete⟩ := Emojis.exec_deleteEmoji s id
      refine (sends_known hdelete (silent (Emojis.touches_deleteEmoji _) (by decide))).trans ?_
      refine (sends_send _).trans ((inScope_spaceBroadcast (by decide)).trans ?_)
      have hnamed : named "emoji.delete" (.obj [("space_id", .ofOption (some row.spaceId)),
          ("emoji_id", .str id)]) = [row.spaceId] := rfl
      rw [hnamed]
      simp [homedSpace]
    · simp only [horigin, ne_eq, not_false_eq_true, if_true, false_implies, iff_true]
      exact (sends_return _).mpr trivial

def dmCreateScoped (peer : String) (env : FederationEnvelope) (db : Tables) : Prop :=
  ∀ payload, Apply.RemoteMessagePayload.ofJson env.payload = some payload →
    Authority.homedOn payload.id peer = true → Authority.homedOn payload.channelId peer = true →
    containsAt payload.author.id = true → payload.content.length ≤ Dm.maxContentChars →
    (∃ channel, Channels.getChannelRow payload.channelId db = .ok channel) →
    db.usernameFree payload.author.id
      (handle payload.author.usernameOrId (homeOf payload.author.id peer)) = true →
    Messages.fits db (Apply.remoteInsert peer payload none) = true →
    DmParticipants.participantIds db payload.channelId ≠ [] → homedRef peer payload.replyTo = true

theorem checkDmMessageCreate_ok {payload : Apply.RemoteMessagePayload} {t : AppState} {u : Unit} :
    (Dm.checkDmMessageCreate peer payload).exec s = (.ok u, t) ↔
      (Authority.homedOn payload.id peer = true ∧ Authority.homedOn payload.channelId peer = true ∧
        containsAt payload.author.id = true ∧ payload.content.length ≤ Dm.maxContentChars) ∧
        s = t := by
  unfold Dm.checkDmMessageCreate
  simp only [Prog.exec_bind_ok, App.exec_liftExcept_ok, Prog.exec_require_ok]
  constructor
  · rintro ⟨_, _, ⟨hid, rfl⟩, _, _, ⟨hchannel, rfl⟩, _, _, ⟨hauthor, rfl⟩, hcontent, rfl⟩
    exact ⟨⟨Authority.requireHomedOn_ok.mp hid, Authority.requireHomedOn_ok.mp hchannel,
      Authority.requireRemoteTarget_ok.mp hauthor, hcontent⟩, rfl⟩
  · rintro ⟨⟨hid, hchannel, hauthor, hcontent⟩, rfl⟩
    exact ⟨(), s, ⟨Authority.requireHomedOn_ok.mpr hid, rfl⟩,
      (), s, ⟨Authority.requireHomedOn_ok.mpr hchannel, rfl⟩,
      (), s, ⟨Authority.requireRemoteTarget_ok.mpr hauthor, rfl⟩, hcontent, rfl⟩

def directBroadcast (db : Tables) (channelId kind : String) (data : Json) (intent : String) :
    GatewayBroadcast :=
  { spaceId := none
    targetUserIds := some (DmParticipants.participantIds db channelId)
    event := gatewayEvent kind data
    intent := intent }

theorem sends_toParticipants {P : GatewayBroadcast → Prop} {channelId kind intent : String}
    {data : Json} : Sends P (Dm.broadcastToParticipants channelId kind data intent) s ↔
      (DmParticipants.participantIds s.db channelId ≠ [] →
        P (directBroadcast s.db channelId kind data intent)) := by
  refine sends_found?.trans ?_
  simp only [DmParticipants.listParticipantIds, Except.toOption, Option.getD_some]
  by_cases hids : DmParticipants.participantIds s.db channelId = []
  · simp only [hids, List.isEmpty_nil, if_true, ne_eq, not_true_eq_false, false_implies, iff_true]
    exact (sends_return _).mpr trivial
  · simp only [List.isEmpty_iff, hids, if_false, ne_eq, not_false_eq_true, forall_true_left]
    exact sends_send _

theorem inScope_dmMessage {payload : Apply.RemoteMessagePayload}
    (hid : Authority.homedOn payload.id peer = true)
    (hchannel : Authority.homedOn payload.channelId peer = true) :
    InScope peer db (directBroadcast db payload.channelId "message.create"
      (messageRowToJson (Apply.remoteInsert peer payload none).row) "messages") ↔
      homedRef peer payload.replyTo = true := by
  have hiff := @inScope_iff peer db (directBroadcast db payload.channelId "message.create"
    (messageRowToJson (Apply.remoteInsert peer payload none).row) "messages") creation_kind
  rw [hiff, directBroadcast, namedBy_gatewayEvent, named_message (.inl rfl)]
  constructor
  · rintro ⟨_, _, _, _, hreply, _⟩
    exact hreply
  · intro hreply
    exact ⟨.inr ⟨payload.channelId, hchannel, rfl, rfl⟩, hid, hchannel, rfl, hreply, rfl⟩

theorem sends_dmMessageCreate :
    Sends (InScope peer s.db) (Dm.applyMessageCreate peer env) s ↔
      dmCreateScoped peer env s.db := by
  refine sends_parsed.trans (forall_congr' (fun payload => imp_congr_right (fun _ => ?_)))
  refine (sends_guard (fun t => checkDmMessageCreate_ok)
    (Dm.touches_checkDmMessageCreate payload .gatewayTx List.not_mem_nil)).trans ?_
  simp only [and_imp]
  refine imp_congr_right (fun hid => imp_congr_right (fun hchannel => ?_))
  refine imp_congr_right (fun _ => imp_congr_right (fun _ => sends_found?.trans ?_))
  cases hrow : Channels.getChannelRow payload.channelId s.db with
  | error e =>
    refine iff_of_true ((sends_return _).mpr trivial) ?_
    rintro ⟨channel, h⟩
    cases h
  | ok channel =>
    simp only [Except.toOption, Except.ok.injEq, exists_eq', forall_true_left]
    refine (sends_silent_bind (silent (Users.touches_upsertRemoteUser _ _ _ _ _) (by decide))
      ?_).trans (imp_congr_left Users.upsertRemoteUser_succeeds)
    intro author t ht
    have hkeep := fun n hn => (Users.touches_upsertRemoteUser payload.author.id
      (homeOf payload.author.id peer)
      (handle payload.author.usernameOrId (homeOf payload.author.id peer))
      payload.author.displayName payload.author.avatar n hn).of_exec ht
    have hstorable : Messages.storable t.db (Apply.remoteInsert peer payload none) =
        Messages.fits s.db (Apply.remoteInsert peer payload none) :=
      Messages.storable_of_author (Users.upsertRemoteUser_hasUser ht) (hkeep .messages (by decide))
        (hkeep .channels (by decide)) (hkeep .spaces (by decide))
    rw [← hstorable]
    refine (Prog.emits_bind (silent (Messages.touches_insertRemoteMessage _) (by decide))).trans ?_
    have hsent : ∀ u, (∃ row, (Messages.insertRemoteMessage
        (Apply.remoteInsert peer payload none)).exec t = (.ok row, u)) →
        DmParticipants.participantIds u.db payload.channelId =
          DmParticipants.participantIds s.db payload.channelId := by
      rintro u ⟨row, hinsert⟩
      have hafter : u.db.dmParticipants = t.db.dmParticipants :=
        (Messages.touches_insertRemoteMessage _ .dmParticipants (by decide)).of_exec hinsert
      have hbefore : t.db.dmParticipants = s.db.dmParticipants := hkeep .dmParticipants (by decide)
      rw [DmParticipants.participantIds, hafter, hbefore, DmParticipants.participantIds]
    constructor
    · intro h hfits hsome
      obtain ⟨u, hinsert⟩ := Messages.insertRemoteMessage_of_storable hfits
      have hbroadcast := sends_toParticipants.mp (h _ u hinsert)
      rw [directBroadcast, hsent u ⟨_, hinsert⟩] at hbroadcast
      exact (inScope_dmMessage hid hchannel).mp (hbroadcast hsome)
    · intro h row u hinsert
      cases row with
      | none => exact (sends_return _).mpr trivial
      | some row =>
        obtain ⟨hfits, rfl⟩ := Messages.insertRemoteMessage_some hinsert
        refine sends_toParticipants.mpr (fun hsome => ?_)
        rw [hsent u ⟨_, hinsert⟩] at hsome
        rw [directBroadcast, hsent u ⟨_, hinsert⟩]
        exact (inScope_dmMessage hid hchannel).mpr (h hfits hsome)

end

section

variable {peer : String} {env : FederationEnvelope} {s : AppState}

def fresh (env : FederationEnvelope) (db : Tables) : Bool :=
  !Lib.Table.has Federation.dedupKey (env.eventId, env.origin) db.federationInboxDedup

def Scoped (peer : String) (env : FederationEnvelope) (s : AppState) : Prop :=
  match env.eventType with
  | "m.message.create" => createScoped peer env s
  | "m.message.update" => updateScoped peer env s
  | "m.message.delete" => deleteScoped peer env s
  | "m.reaction.add" => reactionScoped peer env s
  | "m.reaction.remove" => reactionScoped peer env s
  | "m.member.leave" => leaveScoped env s.db
  | "m.emoji.delete" => emojiDeleteScoped peer env s.db
  | "m.typing" => typingScoped peer env
  | "m.dm.message.create" => dmCreateScoped peer env s.db
  | _ => True

theorem sends_marked {P : GatewayBroadcast → Prop} {q : App Unit} {C : Prop}
    (h : Sends P q s ↔ C) : Sends P (q >>= fun _ => (pure Apply.Applied.ok : App _)) s ↔ C :=
  (Prog.emits_bind_silent (fun _ => Prog.preserves_pure _)).trans h

theorem sends_applyEvent (hspace : ∀ sid, env.spaceId = some sid →
    Authority.homedOn sid peer = true) :
    Sends (InScope peer s.db) (Inbox.applyEvent peer env) s ↔ Scoped peer env s := by
  unfold Inbox.applyEvent
  split
  case h_13 =>
    refine iff_of_true ((sends_return _).mpr trivial) ?_
    unfold Scoped
    split <;> trivial
  all_goals rename_i hkind
  all_goals simp only [Scoped, hkind]
  · exact sends_marked sends_messageCreate
  · exact sends_marked sends_messageUpdate
  · exact sends_marked sends_messageDelete
  · exact sends_marked sends_reaction
  · exact sends_marked sends_reaction
  · exact sends_marked (iff_true_intro (sends_memberJoin hspace))
  · exact sends_marked (sends_memberLeave hspace)
  · exact sends_marked (iff_true_intro (sends_emojiUpsert true))
  · exact sends_marked (iff_true_intro (sends_emojiUpsert false))
  · exact sends_marked sends_emojiDelete
  · exact sends_marked sends_typing
  · exact sends_marked sends_dmMessageCreate

theorem scoped_ping (h : env.eventType = "m.ping") : Scoped peer env s := by
  unfold Scoped
  split <;> first | trivial | simp_all

theorem sends_applyOnce (hspace : ∀ sid, env.spaceId = some sid →
    Authority.homedOn sid peer = true) :
    Sends (InScope peer s.db) (Inbox.applyOnce peer env) s ↔ Scoped peer env s := by
  unfold Inbox.applyOnce
  split
  · rename_i hping
    exact iff_of_true ((sends_return _).mpr trivial) (scoped_ping hping)
  · refine (Prog.emits_bind_silent (fun result => ?_)).trans ?_
    · exact silent (touches_respond result) (by decide)
    · exact Prog.emits_attempt.trans (sends_applyEvent hspace)

def recorded (s : AppState) (rows : List DedupRow) : AppState :=
  s.withDb { s.db with federationInboxDedup := rows }

theorem scoped_recorded (rows : List DedupRow) :
    Scoped peer env (recorded s rows) = Scoped peer env s := rfl

theorem inScope_recorded (rows : List DedupRow) :
    InScope peer (recorded s rows).db = InScope peer s.db := by
  funext b
  exact propext ⟨fun h => ⟨h.addressed, h.names, h.confined⟩,
    fun h => ⟨h.addressed, h.names, h.confined⟩⟩

theorem exec_dedupFirstSeen :
    ∃ rows, (Federation.dedupFirstSeen env.eventId env.origin).attempt.exec s =
      (.ok (.ok (fresh env s.db)), recorded s rows) := by
  unfold Federation.dedupFirstSeen Federation.dedupInsert
  rw [Prog.exec_attempt, Prog.exec_bind_of_ok App.exec_now, App.exec_writeCounted]
  exact ⟨_, rfl⟩

theorem inbound_broadcasts_in_scope (peer : String) (env : FederationEnvelope) (s : AppState) :
    (Inbox.handleInbox peer env).Emits AppState.gatewayTx (InScope peer s.db) s ↔
      (Authority.check peer env = .ok () → fresh env s.db = true → Scoped peer env s) := by
  unfold Inbox.handleInbox
  cases hcheck : Authority.check peer env with
  | error e =>
    refine iff_of_true ((sends_return _).mpr trivial) ?_
    exact fun h => nomatch h
  | ok u =>
    obtain ⟨_, hspace⟩ := Authority.check_ok hcheck
    obtain ⟨rows, hdedup⟩ := @exec_dedupFirstSeen env s
    simp only [forall_true_left]
    refine (sends_known hdedup ?_).trans ?_
    · exact (silent (Federation.touches_dedupFirstSeen _ _) (by decide)).attempt
    · cases hfresh : fresh env s.db with
      | false => exact iff_of_true ((sends_return _).mpr trivial) (fun h => nomatch h)
      | true =>
        simp only [forall_true_left]
        rw [← scoped_recorded rows, ← inScope_recorded rows]
        exact sends_applyOnce hspace

end

def hub : AppState where
  db :=
    { users := [{ id := "1", username := "alice" }]
      spaces :=
        [{ id := "10", name := "home", ownerId := "1" },
          { id := "20@p.example", name := "away", ownerId := "9@p.example" }]
      channels :=
        [{ id := "11", spaceId := some "10" },
          { id := "21@p.example", spaceId := some "20@p.example", origin := some "p.example" }]
      members :=
        [{ userId := "1", spaceId := "10" },
          { userId := "1", spaceId := "20@p.example" }]
      messages :=
        [{ id := "22@p.example"
           channelId := "21@p.example"
           spaceId := some "20@p.example"
           authorId := "9@p.example"
           content := "hi"
           origin := some "p.example" }] }
  federation := some { domain := "h.example", publicUrl := "https://h.example" }
  ext := Externals.fixed "2026-01-01 00:00:00"

def alice : Recipient :=
  { userId := "1"
    spaceIds := ["10", "20@p.example"]
    intents := ["messages", "message_typing"] }

def forgedTyping : FederationEnvelope :=
  { eventId := "1"
    origin := "p.example"
    spaceId := none
    eventType := "m.typing"
    payload := .obj [("channel_id", .str "11"), ("user_id", .str "9@p.example")] }

def forgedDelete : FederationEnvelope :=
  { eventId := "1"
    origin := "p.example"
    spaceId := some "20@p.example"
    eventType := "m.message.delete"
    payload := .obj [("id", .str "22@p.example"), ("channel_id", .str "11")] }

def NamesLocalChannel (env : FederationEnvelope) : Prop :=
  ¬ (Inbox.handleInbox "p.example" env).Emits AppState.gatewayTx (InScope "p.example" hub.db)
      hub ∧
    ∃ b ∈ ((Inbox.handleInbox "p.example" env).exec hub).2.gatewayTx,
      "11" ∈ namedBy b.event ∧ classifyBroadcast hub.db b alice = .send b.event

theorem local_channel_named_by_peer :
    NamesLocalChannel forgedTyping ∧ NamesLocalChannel forgedDelete := by
  have hsent : ∀ env ∈ [forgedTyping, forgedDelete],
      ∃ b ∈ ((Inbox.handleInbox "p.example" env).exec hub).2.gatewayTx,
        "11" ∈ namedBy b.event ∧ classifyBroadcast hub.db b alice = .send b.event := by
    decide +kernel
  have hnames : ∀ env ∈ [forgedTyping, forgedDelete], NamesLocalChannel env := by
    intro env henv
    refine ⟨fun hscope => ?_, hsent env henv⟩
    obtain ⟨b, hb, hnamed, _⟩ := hsent env henv
    have hhomed : Authority.homedOn "11" "p.example" = true := (hscope b hb).names "11" hnamed
    exact absurd hhomed (by decide)
  exact ⟨hnames _ (by simp), hnames _ (by simp)⟩

end Vokusz.Federation.Scope
