import Vokusz.Db.References
import Vokusz.Lib.Footprint
import Vokusz.Routes.DirectMessages

namespace Vokusz.Federation.Dm

open Db Mapping
open Lib
open Routes.DirectMessages

structure Unharmed (db db' : Tables) : Prop where
  channels : db'.channels.filter ChannelRow.isDm = db.channels.filter ChannelRow.isDm
  messages : db'.messages = db.messages
  participants : ∀ p ∈ db.dmParticipants, p ∈ db'.dmParticipants

def Answered (db : Tables) (domain : String) (reply : Except AppError Response)
    (response : Response) : Prop :=
  reply = .ok response ∧
    ∃ peer, Table.lookup Peer.domain domain db.federationPeers = some peer ∧ peer.isTrusted = true

structure Unused (id : String) (db : Tables) : Prop where
  channel : db.hasChannel id = false
  children : ∀ c ∈ db.channels, c.parentId ≠ some id
  messages : ∀ m ∈ db.messages, m.channelId ≠ id
  participants : ∀ p ∈ db.dmParticipants, p.channelId ≠ id

def HomeKept (opener : User) (recipientId domain : String) (reply : Except AppError Response)
    (db : Tables) : Prop :=
  db.usernameFree recipientId recipientId = true →
    (∀ c, DmParticipants.findExistingDm opener.id recipientId db = .ok (some c) →
      ∀ response, Answered db domain reply response → response.success = true) ∧
    (DmParticipants.findExistingDm opener.id recipientId db = .ok none →
      ∃ response, Answered db domain reply response)

section

variable {s t : AppState} {db db' : Tables} {opener : User} {recipientId domain ourDomain : String}
  {reply : Except AppError Response} {response : Response}

theorem Unharmed.of_same (hchannels : db'.channels = db.channels)
    (hmessages : db'.messages = db.messages)
    (hseats : db'.dmParticipants = db.dmParticipants) : Unharmed db db' := by
  refine ⟨by rw [hchannels], hmessages, fun p hp => ?_⟩
  rwa [hseats]

theorem requestSigned_db (targetDomain path : String) (body : Json) :
    ((Sender.requestSigned targetDomain path body reply).exec s).2.db = s.db := by
  have hkept : (Sender.requestSigned targetDomain path body reply).Preserves AppState.db :=
    Sender.preserves_requestSigned _ _ _ _ (fun _ _ => rfl)
  exact hkept.exec s

theorem requestSigned_ok_iff {path : String} {body : Json} (hfed : s.federation.isSome = true) :
    ((Sender.requestSigned domain path body reply).exec s).1 = .ok response ↔
      Answered s.db domain reply response := by
  have hguard : (Prog.require (s.federation.isSome = true)
      (AppError.internal "federation disabled")).exec s = (.ok (), s) :=
    Prog.exec_require_ok.mpr ⟨hfed, rfl⟩
  rw [Sender.requestSigned, Prog.exec_bind_of_ok App.exec_federation,
    Prog.exec_bind_of_ok hguard, Prog.exec_bind, App.exec_lift, Federation.getPeer]
  dsimp only
  cases hpeer : Table.lookup Peer.domain domain s.db.federationPeers with
  | none =>
    constructor
    · intro h
      cases h
    · rintro ⟨-, peer, hfound, -⟩
      rw [hpeer] at hfound
      cases hfound
  | some peer =>
    dsimp only
    rw [Prog.exec_bind, Prog.exec_require]
    cases htrusted : peer.isTrusted with
    | false =>
      constructor
      · intro h
        cases h
      · rintro ⟨-, peer', hfound, htrust⟩
        rw [hpeer] at hfound
        cases hfound
        rw [htrusted] at htrust
        cases htrust
    | true =>
      rw [if_pos rfl]
      dsimp only
      rw [Prog.exec_bind_of_ok (Prog.exec_modify _ _), Prog.exec_ofExcept]
      constructor
      · intro h
        exact ⟨h, peer, hpeer, htrusted⟩
      · intro h
        exact h.1

theorem findExistingDm_some {u v : String} {c : ChannelRow}
    (h : DmParticipants.findExistingDm u v db = .ok (some c)) :
    ∃ row ∈ db.channels, row.id = c.id ∧ row.isDm = true ∧ db.isParticipant c.id u = true := by
  rw [DmParticipants.findExistingDm, Except.ok.injEq, Option.map_eq_some_iff] at h
  obtain ⟨row, hfind, rfl⟩ := h
  have hkey := List.find?_some hfind
  simp only [Bool.and_eq_true, decide_eq_true_eq] at hkey
  refine ⟨row, List.mem_of_find?_eq_some hfind, rfl, ?_, hkey.1.1⟩
  rw [ChannelRow.isDm, hkey.2]
  rfl

theorem harmed_of_deleted {c : ChannelRow} {id : String} (hc : c ∈ db.channels)
    (hdm : c.isDm = true) (hid : c.id = id)
    (hchannels : db'.hasChannel id = false) : ¬ Unharmed db db' := by
  intro h
  have hmem : c ∈ db'.channels.filter ChannelRow.isDm := by
    rw [h.channels]
    exact List.mem_filter.mpr ⟨hc, hdm⟩
  have hhas : db'.hasChannel id = true :=
    Table.has_iff.mpr ⟨c, (List.mem_filter.mp hmem).1, hid⟩
  rw [hchannels] at hhas
  cases hhas

theorem harmed_of_new {c : ChannelRow} (hc : c ∈ db'.channels) (hdm : c.isDm = true)
    (hnew : db.hasChannel c.id = false) : ¬ Unharmed db db' := by
  intro h
  have hmem : c ∈ db.channels.filter ChannelRow.isDm := by
    rw [← h.channels]
    exact List.mem_filter.mpr ⟨hc, hdm⟩
  have hhas : db.hasChannel c.id = true :=
    Table.has_iff.mpr ⟨c, (List.mem_filter.mp hmem).1, rfl⟩
  rw [hnew] at hhas
  cases hhas

theorem deletedWith_nil (db : Tables) : db.deletedWith [] = [] := by
  have hnone : Tables.repliesTo db.messages [] = [] := by simp [Tables.repliesTo]
  exact Tables.threadClosure_stable hnone _

theorem deleteMessages_none (db : Tables) : (db.deleteMessages []).messages = db.messages := by
  rw [Tables.deleteMessages_messages, deletedWith_nil]
  have hlink : Tables.unlinkReply [] = id := by
    funext m
    simp [Tables.unlinkReply]
  simp [hlink]

theorem deleteChannel_channels (id : String) :
    ((Channels.deleteChannel id).exec s).2.db.channels =
      (Table.delete ChannelRow.id id s.db.channels).map (fun c =>
        if c.parentId = some id then { c with parentId := none } else c) := rfl

theorem deleteChannel_messages (id : String) :
    ((Channels.deleteChannel id).exec s).2.db.messages = (s.db.deleteMessages
      ((s.db.messages.filter (fun m => m.channelId = id)).map MessageRow.id)).messages := rfl

theorem deleteChannel_seats (id : String) :
    ((Channels.deleteChannel id).exec s).2.db.dmParticipants =
      s.db.dmParticipants.filter (fun p => p.channelId ≠ id) := rfl

theorem deleteChannel_gone (id : String) :
    ((Channels.deleteChannel id).exec s).2.db.hasChannel id = false := by
  rw [Bool.eq_false_iff]
  intro hhas
  obtain ⟨c, hc, hid⟩ := Table.has_iff.mp hhas
  rw [deleteChannel_channels] at hc
  obtain ⟨old, hold, rfl⟩ := List.mem_map.mp hc
  have hkept := (Table.mem_delete.mp hold).2
  apply hkept
  rw [← hid]
  split <;> rfl

theorem delete_append_fresh {id : String} {rows : List ChannelRow} {row : ChannelRow}
    (hid : row.id = id) (hfresh : Table.has ChannelRow.id id rows = false) :
    Table.delete ChannelRow.id id (rows ++ [row]) = rows := by
  have hkeep : ∀ c ∈ rows, decide (c.id ≠ id) = true := by
    intro c hc
    refine decide_eq_true (fun heq => ?_)
    have hhas : Table.has ChannelRow.id id rows = true := Table.has_iff.mpr ⟨c, hc, heq⟩
    rw [hfresh] at hhas
    cases hhas
  rw [Table.delete, List.filter_append, List.filter_eq_self.mpr hkeep]
  simp [hid]

theorem deleteChannel_restores {id u v : String} {row : ChannelRow} (h : Unused id db)
    (hid : row.id = id) (hchannels : s.db.channels = db.channels ++ [row])
    (hmessages : s.db.messages = db.messages)
    (hseats : s.db.dmParticipants =
      (seat id v (seat id u { db with channels := db.channels ++ [row] })).dmParticipants) :
    Unharmed db ((Channels.deleteChannel id).exec s).2.db := by
  have hempty : s.db.messages.filter (fun m => m.channelId = id) = [] := by
    rw [hmessages, List.filter_eq_nil_iff]
    intro m hm
    rw [decide_eq_true_eq]
    exact h.messages m hm
  have hchildren : db.channels.map (fun c =>
      if c.parentId = some id then { c with parentId := none } else c) = db.channels := by
    refine (List.map_congr_left (fun c hc => ?_)).trans (List.map_id _)
    rw [if_neg (h.children c hc)]
    rfl
  constructor
  · rw [deleteChannel_channels, hchannels, delete_append_fresh hid h.channel, hchildren]
  · rw [deleteChannel_messages, hempty, List.map_nil, deleteMessages_none, hmessages]
  · intro p hp
    rw [deleteChannel_seats, hseats]
    refine List.mem_filter.mpr ⟨?_, decide_eq_true (h.participants p hp)⟩
    have hfirst : p ∈ (seat id u { db with channels := db.channels ++ [row] }).dmParticipants :=
      isParticipant_iff.mp (isParticipant_seat.mpr (.inl (isParticipant_iff.mpr hp)))
    exact isParticipant_iff.mp (isParticipant_seat.mpr (.inl (isParticipant_iff.mpr hfirst)))

def settle (ourDomain : String) (opener : User) (recipientId recipientDomain : String)
    (reply : Except AppError Response) (channel : ChannelRow) : App ChannelRow := do
  let snapshot := announceSnapshot ourDomain opener recipientId channel
  let response ← Sender.requestSigned recipientDomain dmAnnouncePath snapshot.toJson reply
  if response.success then
    broadcastChannelCreate channel
    return channel
  else
    let _ ← (Channels.deleteChannel channel.id).attempt
    Prog.fail (.forbidden ("recipient server rejected the DM: " ++ response.text))

theorem openDmAsHome_eq : openDmAsHome ourDomain opener recipientId domain reply =
    Users.upsertRemoteUser recipientId domain recipientId none none >>= fun _ =>
      DmParticipants.createDmChannel opener.id [recipientId] >>= fun channel =>
        settle ourDomain opener recipientId domain reply channel := rfl

theorem total_broadcastChannelCreate (channel : ChannelRow) :
    (broadcastChannelCreate channel).Total := by
  refine Prog.Total.bind (fun s => ⟨_, s, App.exec_query _⟩) (fun json => ?_)
  refine (App.total_found? _).bind (fun ids => ?_)
  exact Prog.total_ite (Prog.total_pure _) (Prog.total_modify _)

theorem settle_cases (hfed : s.federation.isSome = true) (channel : ChannelRow) :
    (∃ response, Answered s.db domain reply response ∧ response.success = true ∧
      ∃ c t, (settle ourDomain opener recipientId domain reply channel).exec s = (.ok c, t)) ∨
    (∃ response, Answered s.db domain reply response ∧ response.success = false ∧
      ∃ e u, u.db = s.db ∧ (settle ourDomain opener recipientId domain reply channel).exec s =
        (.error e, ((Channels.deleteChannel channel.id).exec u).2)) ∨
    (¬ ∃ response, Answered s.db domain reply response) ∧
      ∃ e u, u.db = s.db ∧ (settle ourDomain opener recipientId domain reply channel).exec s =
        (.error e, u) := by
  let body := (announceSnapshot ourDomain opener recipientId channel).toJson
  have hok := fun response => @requestSigned_ok_iff s domain reply response dmAnnouncePath body hfed
  have hdb := @requestSigned_db s reply domain dmAnnouncePath body
  rcases hrequest : (Sender.requestSigned domain dmAnnouncePath body reply).exec s with ⟨r, u⟩
  rw [hrequest] at hok hdb
  cases r with
  | error e =>
    refine .inr (.inr ⟨?_, e, u, hdb, Prog.exec_bind_of_error hrequest⟩)
    rintro ⟨response, hanswered⟩
    cases (hok response).mpr hanswered
  | ok response =>
    have hanswered := (hok response).mp rfl
    cases hsuccess : response.success with
    | true =>
      obtain ⟨_, t, hbroadcast⟩ := total_broadcastChannelCreate channel u
      refine .inl ⟨response, hanswered, hsuccess, channel, t, ?_⟩
      refine (Prog.exec_bind_of_ok hrequest).trans ?_
      rw [if_pos hsuccess, Prog.exec_bind_of_ok hbroadcast]
      rfl
    | false =>
      refine .inr (.inl ⟨response, hanswered, hsuccess,
        .forbidden ("recipient server rejected the DM: " ++ response.text), u, hdb, ?_⟩)
      refine (Prog.exec_bind_of_ok hrequest).trans ?_
      rw [hsuccess, if_neg Bool.false_ne_true, Prog.exec_bind_of_ok (Prog.exec_attempt _ _)]
      rfl

theorem upsertRemoteUser_cases (id origin handle : String) (displayName avatar : Option String) :
    (s.db.usernameFree id handle = false ∧ ∃ e,
      (Users.upsertRemoteUser id origin handle displayName avatar).exec s = (.error e, s)) ∨
    (s.db.usernameFree id handle = true ∧ ∃ user us, Table.has User.id id us = true ∧
      (∀ v, Table.has User.id v s.db.users = true → Table.has User.id v us = true) ∧
      (Users.upsertRemoteUser id origin handle displayName avatar).exec s =
        (.ok user, s.withDb { s.db with users := us })) := by
  cases hfree : s.db.usernameFree id handle with
  | false =>
    refine .inl ⟨rfl, AppError.uniqueViolation, ?_⟩
    rw [Users.upsertRemoteUser, Prog.exec_bind, App.exec_write, hfree]
    rfl
  | true =>
    let f := fun u : User =>
      { u with
        username := handle
        displayName := some (displayName.getD handle)
        avatar := avatar
        origin := some origin }
    let row := Users.remoteUser id origin handle displayName avatar
    let us := Table.upsert User.id row f s.db.users
    have hus : ∀ v, Table.has User.id v us = true ↔
        v = row.id ∨ Table.has User.id v s.db.users = true :=
      fun v => Table.has_upsert_iff (fun _ _ => rfl)
    have hhas : Table.has User.id id us = true := (hus id).mpr (.inl rfl)
    obtain ⟨user, huser⟩ := @Users.getUser_of_has id { s.db with users := us } hhas
    refine .inr ⟨rfl, user, us, hhas, fun v hv => (hus v).mpr (.inr hv), ?_⟩
    have hwrite : App.unique (s.db.usernameFree id handle) = none := by
      rw [hfree]
      rfl
    refine (Prog.exec_bind_of_ok (App.exec_write_of_none hwrite)).trans ?_
    rw [App.exec_lift]
    exact Prod.ext huser rfl

variable {α : Type} {p : App α} {a : α} {e : AppError}

theorem kept_of_ok (h : p.exec s = (.ok a, t)) :
    ∀ e u, p.exec s = (.error e, u) → Unharmed db u.db := by
  intro e u hexec
  rw [h] at hexec
  cases hexec

theorem kept_of_error (h : p.exec s = (.error e, t)) :
    (∀ e' u, p.exec s = (.error e', u) → Unharmed db u.db) ↔ Unharmed db t.db := by
  constructor
  · intro hall
    exact hall e t h
  · intro hkept e' u hexec
    rw [h] at hexec
    cases hexec
    exact hkept

theorem Answered.unique {response' : Response} (h : Answered db domain reply response)
    (h' : Answered db domain reply response') : response = response' := by
  have hsame := h.1.symm.trans h'.1
  cases hsame
  rfl

theorem home_kept_iff (hfed : s.federation.isSome = true)
    (hunused : Unused (toString s.snowflake) s.db) (hopener : s.db.hasUser opener.id = true) :
    (∀ e t, (openDmAsHome ourDomain opener recipientId domain reply).exec s = (.error e, t) →
      Unharmed s.db t.db) ↔ HomeKept opener recipientId domain reply s.db := by
  rw [openDmAsHome_eq]
  rcases @upsertRemoteUser_cases s recipientId domain recipientId none none with
    ⟨htaken, e, hexec⟩ | ⟨hfree, user, us, hrecipient, hkept, hexec⟩
  · rw [Prog.exec_bind_of_error hexec]
    constructor
    · intro _ hfree
      rw [htaken] at hfree
      cases hfree
    · intro _ e' t ht
      cases ht
      exact .of_same rfl rfl rfl
  · rw [Prog.exec_bind_of_ok hexec]
    let s₁ := s.withDb { s.db with users := us }
    cases hfound : DmParticipants.findExistingDm opener.id recipientId s.db with
    | error e => cases hfound
    | ok found =>
      have hfound₁ : DmParticipants.findExistingDm opener.id recipientId s₁.db = .ok found := hfound
      cases found with
      | some c =>
        obtain ⟨row, hrow, hid, hdm, hseat⟩ := findExistingDm_some hfound
        rw [Prog.exec_bind_of_ok (exec_createDm_found hfound₁ hseat)]
        rcases @settle_cases s₁ opener recipientId domain ourDomain reply hfed c with
          ⟨response, hanswered, hsuccess, c', t, hsettle⟩ |
          ⟨response, hanswered, hsuccess, e, u, hu, hsettle⟩ | ⟨hsilent, e, u, hu, hsettle⟩
        · refine iff_of_true (kept_of_ok hsettle) (fun _ => ⟨fun _ _ response' hanswered' => ?_, ?_⟩)
          · rw [← hanswered.unique hanswered']
            exact hsuccess
          · intro hnone
            cases hfound.symm.trans hnone
        · refine iff_of_false (fun hkept => ?_) (fun hkept => ?_)
          · have hall := (kept_of_error hsettle).mp hkept
            exact harmed_of_deleted hrow hdm hid (deleteChannel_gone c.id) hall
          · rw [(hkept hfree).1 c hfound response hanswered] at hsuccess
            cases hsuccess
        · refine iff_of_true ((kept_of_error hsettle).mpr ?_)
            (fun _ => ⟨fun _ _ response hanswered => absurd ⟨response, hanswered⟩ hsilent, ?_⟩)
          · rw [hu]
            exact .of_same rfl rfl rfl
          · intro hnone
            cases hfound.symm.trans hnone
      | none =>
        have hcreate := @exec_createDm_new s₁ opener.id recipientId hfound₁ hunused.channel
          (hkept _ hopener) hrecipient
        rw [Prog.exec_bind_of_ok hcreate]
        let id := toString s.snowflake
        let s₂ := seated (seated (started s₁ opener.id) id opener.id) id recipientId
        have hanswer : (∃ response, Answered s.db domain reply response) →
            HomeKept opener recipientId domain reply s.db := by
          refine fun hanswered _ => ⟨fun c hsome => ?_, fun _ => hanswered⟩
          cases hfound.symm.trans hsome
        rcases @settle_cases s₂ opener recipientId domain ourDomain reply hfed (newDm id opener.id)
          with ⟨response, hanswered, hsuccess, c', t, hsettle⟩ |
          ⟨response, hanswered, hsuccess, e, u, hu, hsettle⟩ | ⟨hsilent, e, u, hu, hsettle⟩
        · exact iff_of_true (kept_of_ok hsettle) (hanswer ⟨response, hanswered⟩)
        · refine iff_of_true ((kept_of_error hsettle).mpr ?_) (hanswer ⟨response, hanswered⟩)
          exact deleteChannel_restores hunused rfl (by rw [hu]; rfl) (by rw [hu]; rfl)
            (by rw [hu]; rfl)
        · refine iff_of_false (fun hkept => ?_) (fun hkept => hsilent ((hkept hfree).2 hfound))
          have hall := (kept_of_error hsettle).mp hkept
          have hnew : newDm id opener.id ∈ u.db.channels := by
            rw [hu]
            exact List.mem_append_right _ (List.mem_singleton_self _)
          exact harmed_of_new hnew rfl hunused.channel hall

end

def Stranded (ourDomain : String) (snap : DmSnapshot) (s : AppState) : Prop :=
  ∃ t, (Prog.forEach snap.participants (mirrorParticipant ourDomain snap)).exec s = (.ok (), t) ∧
    (s.db.hasChannel snap.channelId ||
      t.db.hasUser (participantStorageId snap.ownerId ourDomain)) = true ∧
    (∃ p ∈ snap.participants,
      s.db.isParticipant snap.channelId (participantStorageId p.id ourDomain) = false ∧
      t.db.hasUser (participantStorageId p.id ourDomain) = false) ∧
    (s.db.hasChannel snap.channelId = false ∧
        (snap.channelType = "dm" ∨ snap.channelType = "group_dm") ∨
      ∃ c ∈ s.db.channels, c.id = snap.channelId ∧ c.isDm = true ∧ c.origin ≠ some snap.home)

def ReplicaKept (ourDomain home : String) (reply : Except AppError Response) (s : AppState) : Prop :=
  ∀ response snap, Answered s.db home reply response → response.success = true →
    response.json.bind DmSnapshot.ofJson = some snap → ¬ Stranded ourDomain snap s

section

variable {s t u : AppState} {db db' : Tables} {opener : User} {recipientId home ourDomain : String}
  {reply : Except AppError Response} {snap : DmSnapshot}

theorem within_lift {α : Type} (q : Query α) :
    (MonadLiftT.monadLift q : App α).Within AppState.db := Prog.within_query

theorem within_write (check : Tables → Option AppError) (f : Tables → Tables) :
    (App.write check f).Within AppState.db := by
  apply Prog.within_statement
  intro s t h
  rw [h]
  exact ⟨rfl, rfl⟩

theorem within_mirrorParticipant (p : RemoteUserRef) :
    (mirrorParticipant ourDomain snap p).Within AppState.db := by
  refine Prog.within_ite (Prog.within_ite (Prog.within_pure _) ?_) ?_
  · refine Prog.within_forEach (fun other _ => Prog.within_ite (Prog.within_pure _) ?_)
    exact (within_lift _).bind (fun _ => Prog.within_require _ _)
  · exact ((within_write _ _).bind (fun _ => within_lift _)).bind (fun _ => Prog.within_pure _)

theorem Stranded.congr (h : Stranded ourDomain snap s) (hdb : s.db = u.db) :
    Stranded ourDomain snap u := by
  obtain ⟨t, hmirror, howner, hrefused, hwritten⟩ := h
  have hwithin : (Prog.forEach snap.participants (mirrorParticipant ourDomain snap)).Within
      AppState.db := Prog.within_forEach (fun p _ => within_mirrorParticipant p)
  have hsame := hwithin s u hdb
  rw [hmirror] at hsame
  rcases hother : (Prog.forEach snap.participants (mirrorParticipant ourDomain snap)).exec u with
    ⟨r, v⟩
  rw [hother] at hsame
  obtain ⟨hresult, hview⟩ := hsame
  cases hresult
  have hview : t.db = v.db := hview
  refine ⟨v, hother, ?_⟩
  rw [← hview, ← hdb]
  exact ⟨howner, hrefused, hwritten⟩

def adopt (id home : String) (c : ChannelRow) : ChannelRow :=
  if c.id = id then { c with origin := some home } else c

theorem adopt_isDm (id home : String) (c : ChannelRow) : (adopt id home c).isDm = c.isDm := by
  unfold adopt
  split <;> rfl

theorem adopt_eq_iff {id home : String} {c : ChannelRow} :
    adopt id home c = c ↔ (c.id = id → c.origin = some home) := by
  by_cases hid : c.id = id
  · rw [adopt, if_pos hid]
    constructor
    · intro heq _
      rw [← heq]
    · intro horigin
      rw [← horigin hid]
  · rw [adopt, if_neg hid]
    exact iff_of_true rfl (fun h => absurd h hid)

theorem filter_upsert_iff {row : ChannelRow} {home : String} :
    (Table.upsert ChannelRow.id row (fun c => { c with origin := some home }) db.channels).filter
        ChannelRow.isDm = db.channels.filter ChannelRow.isDm ↔
      ¬ (db.hasChannel row.id = false ∧ row.isDm = true ∨
        ∃ c ∈ db.channels, c.id = row.id ∧ c.isDm = true ∧ c.origin ≠ some home) := by
  cases hhas : db.hasChannel row.id with
  | false =>
    have hold : ∀ c ∈ db.channels, c.id ≠ row.id := by
      intro c hc heq
      have hused : db.hasChannel row.id = true := Table.has_iff.mpr ⟨c, hc, heq⟩
      rw [hhas] at hused
      cases hused
    have hupsert : Table.upsert ChannelRow.id row (fun c => { c with origin := some home })
        db.channels = db.channels ++ [row] := if_neg (by rw [Bool.not_eq_true]; exact hhas)
    rw [hupsert, List.filter_append]
    cases hdm : row.isDm with
    | false =>
      refine iff_of_true (by simp [hdm]) ?_
      rintro (⟨-, hnew⟩ | ⟨c, hc, hid, -⟩)
      · cases hnew
      · exact hold c hc hid
    | true =>
      refine iff_of_false (by simp [hdm]) (fun hnone => hnone (.inl ⟨rfl, rfl⟩))
  | true =>
    have hupsert : Table.upsert ChannelRow.id row (fun c => { c with origin := some home })
        db.channels = db.channels.map (adopt row.id home) := if_pos hhas
    have hfilter : (db.channels.map (adopt row.id home)).filter ChannelRow.isDm =
        (db.channels.filter ChannelRow.isDm).map (adopt row.id home) := by
      rw [List.filter_map]
      exact congrArg _ (List.filter_congr (fun c _ => adopt_isDm row.id home c))
    have hsame : (db.channels.filter ChannelRow.isDm).map (adopt row.id home) =
        db.channels.filter ChannelRow.isDm ↔
        ∀ c ∈ db.channels.filter ChannelRow.isDm, adopt row.id home c = id c := by
      rw [← List.map_inj_left, List.map_id]
    rw [hupsert, hfilter, hsame]
    constructor
    · rintro hkept (⟨hnew, -⟩ | ⟨c, hc, hid, hdm, horigin⟩)
      · cases hnew
      · exact horigin (adopt_eq_iff.mp (hkept c (List.mem_filter.mpr ⟨hc, hdm⟩)) hid)
    · intro hnone c hc
      obtain ⟨hmem, hdm⟩ := List.mem_filter.mp hc
      refine adopt_eq_iff.mpr (fun hid => ?_)
      by_contra horigin
      exact hnone (.inr ⟨c, hmem, hid, hdm, horigin⟩)

theorem exec_addParticipant_cases {id : String} (hchannel : s.db.hasChannel id = true) (v : String) :
    ((s.db.isParticipant id v || s.db.hasUser v) = true ∧
      (DmParticipants.addParticipant id v).exec s = (.ok (), s.withDb (seat id v s.db))) ∨
    ((s.db.isParticipant id v || s.db.hasUser v) = false ∧
      ∃ e, (DmParticipants.addParticipant id v).exec s = (.error e, s)) := by
  rw [DmParticipants.addParticipant, App.exec_write, hchannel, Bool.true_and]
  cases s.db.isParticipant id v || s.db.hasUser v
  · exact .inr ⟨rfl, _, rfl⟩
  · exact .inl ⟨rfl, rfl⟩

theorem seats_succeed_iff {id : String} {ids : List RemoteUserRef} {f : RemoteUserRef → String}
    (hchannel : s.db.hasChannel id = true) :
    (Prog.forEach ids (fun p => DmParticipants.addParticipant id (f p))).Succeeds s ↔
      ∀ p ∈ ids, (s.db.isParticipant id (f p) || s.db.hasUser (f p)) = true := by
  induction ids generalizing s with
  | nil => exact iff_of_true ⟨(), s, rfl⟩ (fun p hp => absurd hp List.not_mem_nil)
  | cons w ids ih =>
    rcases exec_addParticipant_cases hchannel (f w) with ⟨hallowed, hexec⟩ | ⟨hrefused, e, hexec⟩
    · have hlater : (Prog.forEach (w :: ids) (fun p => DmParticipants.addParticipant id (f p))).Succeeds
          s ↔ (Prog.forEach ids (fun p => DmParticipants.addParticipant id (f p))).Succeeds
            (s.withDb (seat id (f w) s.db)) := by
        rw [Prog.forEach_cons, Prog.Succeeds, Prog.exec_bind_of_ok hexec]
        rfl
      have hnext := @ih (s.withDb (seat id (f w) s.db)) hchannel
      rw [hlater, hnext, List.forall_mem_cons]
      constructor
      · intro hrest
        refine ⟨hallowed, fun p hp => ?_⟩
        rcases Bool.or_eq_true_iff.mp (hrest p hp) with hseat | huser
        · rcases isParticipant_seat.mp hseat with hold | ⟨-, hsame⟩
          · rw [hold, Bool.true_or]
          · rwa [hsame]
        · rw [show s.db.hasUser (f p) = true from huser, Bool.or_true]
      · rintro ⟨-, hrest⟩ p hp
        rcases Bool.or_eq_true_iff.mp (hrest p hp) with hseat | huser
        · exact Bool.or_eq_true_iff.mpr (.inl (isParticipant_seat.mpr (.inl hseat)))
        · exact Bool.or_eq_true_iff.mpr (.inr huser)
    · refine iff_of_false ?_ (fun hall => ?_)
      · rintro ⟨a, t, ht⟩
        rw [Prog.forEach_cons, Prog.exec_bind_of_error hexec] at ht
        cases ht
      · rw [hall w List.mem_cons_self] at hrefused
        cases hrefused

theorem keeps_seats (id : String) (ids : List RemoteUserRef) (f : RemoteUserRef → String) :
    (Prog.forEach ids (fun p => DmParticipants.addParticipant id (f p))).Maintains
      (fun t => t.db.channels = db.channels ∧ t.db.messages = db.messages ∧
        ∀ p ∈ db.dmParticipants, p ∈ t.db.dmParticipants) := by
  refine Prog.keeps_forEach (fun p _ => App.keeps_write (fun t ht => ?_))
  refine ⟨ht.1, ht.2.1, fun q hq => ?_⟩
  exact isParticipant_iff.mp (isParticipant_seat.mpr (.inl (isParticipant_iff.mpr (ht.2.2 q hq))))

theorem preserves_mirrorParticipant (p : RemoteUserRef) :
    (mirrorParticipant ourDomain snap p).Preserves
      (fun s => (s.db.channels, s.db.messages, s.db.dmParticipants)) := by
  refine Prog.preserves_ite (Prog.preserves_ite (Prog.preserves_pure _) ?_) ?_
  · refine Prog.preserves_forEach (fun other _ => Prog.preserves_ite (Prog.preserves_pure _) ?_)
    exact (App.preserves_lift _).bind (fun _ => Prog.preserves_require _ _)
  · exact (Users.preserves_upsertRemoteUser _ _ _ _ _ (fun _ _ => rfl)).bind
      (fun _ => Prog.preserves_pure _)

theorem stored_by_mirror {r : Except AppError Unit}
    (h : (Prog.forEach snap.participants (mirrorParticipant ourDomain snap)).exec s = (r, t)) :
    t.db.channels = s.db.channels ∧ t.db.messages = s.db.messages ∧
      t.db.dmParticipants = s.db.dmParticipants := by
  have hpreserved : (Prog.forEach snap.participants (mirrorParticipant ourDomain snap)).Preserves
      (fun s => (s.db.channels, s.db.messages, s.db.dmParticipants)) :=
    Prog.preserves_forEach (fun p _ => preserves_mirrorParticipant p)
  have hview := hpreserved.of_exec h
  simp only [Prod.mk.injEq] at hview
  exact hview

theorem mirrorDm_eq : mirrorDm ourDomain snap =
    Prog.forEach snap.participants (mirrorParticipant ourDomain snap) >>= fun _ =>
      Federation.upsertRemoteDmChannel snap.channelId snap.home snap.channelType
        (participantStorageId snap.ownerId ourDomain) >>= fun _ =>
      Prog.forEach snap.participants (fun p =>
        DmParticipants.addParticipant snap.channelId (participantStorageId p.id ourDomain)) >>=
        fun _ => App.found? (Channels.getChannelRow snap.channelId) >>= fun channel =>
          match channel with
          | some channel => broadcastChannelCreate channel
          | none => return () := rfl

theorem preserves_broadcastChannelCreate (channel : ChannelRow) :
    (broadcastChannelCreate channel).Preserves (fun s => s.db) := by
  refine (App.preserves_query _).bind (fun json => ?_)
  refine (App.preserves_found? _).bind (fun ids => ?_)
  exact Prog.preserves_ite (Prog.preserves_pure _) (Prog.preserves_modify (fun _ => rfl))

def mirroredRow (ourDomain : String) (snap : DmSnapshot) : ChannelRow :=
  { id := snap.channelId
    channelType := snap.channelType
    ownerId := some (participantStorageId snap.ownerId ourDomain)
    origin := some snap.home }

def mirrored (ourDomain : String) (snap : DmSnapshot) (db : Tables) : Tables :=
  { db with
    channels := Table.upsert ChannelRow.id (mirroredRow ourDomain snap)
      (fun c => { c with origin := some snap.home }) db.channels }

theorem hasChannel_mirrored : (mirrored ourDomain snap db).hasChannel snap.channelId = true :=
  Table.has_upsert (fun _ => rfl)

theorem getChannelRow_of_has {id : String} (h : db.hasChannel id = true) :
    ∃ row, Channels.getChannelRow id db = .ok row := by
  rw [Tables.hasChannel, ← Table.lookup_isSome, Option.isSome_iff_exists] at h
  obtain ⟨row, hrow⟩ := h
  rw [Channels.getChannelRow, hrow]
  exact ⟨row, rfl⟩

theorem exec_mirrorDm
    (hmirror : (Prog.forEach snap.participants (mirrorParticipant ourDomain snap)).exec s = (.ok (), t))
    (howner : (t.db.hasChannel snap.channelId ||
      t.db.hasUser (participantStorageId snap.ownerId ourDomain)) = true) :
    ((∀ p ∈ snap.participants,
        (t.db.isParticipant snap.channelId (participantStorageId p.id ourDomain) ||
          t.db.hasUser (participantStorageId p.id ourDomain)) = true) ∧
      ∃ u, (mirrorDm ourDomain snap).exec s = (.ok (), u) ∧
        u.db.hasChannel snap.channelId = true) ∨
    ((∃ p ∈ snap.participants,
        (t.db.isParticipant snap.channelId (participantStorageId p.id ourDomain) ||
          t.db.hasUser (participantStorageId p.id ourDomain)) = false) ∧
      ∃ e u, (mirrorDm ourDomain snap).exec s = (.error e, u) ∧
        u.db.channels = (mirrored ourDomain snap t.db).channels ∧ u.db.messages = t.db.messages ∧
        ∀ p ∈ t.db.dmParticipants, p ∈ u.db.dmParticipants) := by
  have hwrite : (Federation.upsertRemoteDmChannel snap.channelId snap.home snap.channelType
      (participantStorageId snap.ownerId ourDomain)).exec t =
      (.ok (), t.withDb (mirrored ourDomain snap t.db)) :=
    App.exec_write_of_none (App.foreignKey_none.mpr howner)
  let f := fun p : RemoteUserRef => participantStorageId p.id ourDomain
  let t₂ := t.withDb (mirrored ourDomain snap t.db)
  have hkept := (@keeps_seats t₂.db snap.channelId snap.participants f).exec (s := t₂)
    ⟨rfl, rfl, fun _ hp => hp⟩
  have hsucceed := @seats_succeed_iff t₂ snap.channelId snap.participants f hasChannel_mirrored
  rcases hseats : (Prog.forEach snap.participants (fun p =>
    DmParticipants.addParticipant snap.channelId (f p))).exec t₂ with ⟨r, t₃⟩
  rw [hseats] at hkept
  rw [Prog.Succeeds, hseats] at hsucceed
  obtain ⟨⟨hchannels, hmessages, hgrow⟩, -⟩ := hkept
  rw [mirrorDm_eq]
  cases r with
  | error e =>
    refine .inr ⟨?_, e, t₃, ?_, hchannels, hmessages, hgrow⟩
    · by_contra hnone
      have hall : ∀ p ∈ snap.participants,
          (t₂.db.isParticipant snap.channelId (f p) || t₂.db.hasUser (f p)) = true := by
        intro p hp
        by_contra hrefused
        exact hnone ⟨p, hp, by rwa [Bool.not_eq_true] at hrefused⟩
      obtain ⟨a, u, hok⟩ := hsucceed.mpr hall
      cases hok
    · refine (Prog.exec_bind_of_ok hmirror).trans ((Prog.exec_bind_of_ok hwrite).trans ?_)
      exact Prog.exec_bind_of_error hseats
  | ok _ =>
    refine .inl ⟨hsucceed.mp ⟨(), t₃, rfl⟩, ?_⟩
    have hstored : t₃.db.hasChannel snap.channelId = true := by
      rw [Tables.hasChannel, hchannels]
      exact hasChannel_mirrored
    obtain ⟨channel, hchannel⟩ := getChannelRow_of_has hstored
    obtain ⟨_, u, hbroadcast⟩ := total_broadcastChannelCreate channel t₃
    have hdb := (preserves_broadcastChannelCreate channel).of_exec hbroadcast
    refine ⟨u, ?_, ?_⟩
    · refine (Prog.exec_bind_of_ok hmirror).trans ((Prog.exec_bind_of_ok hwrite).trans ?_)
      refine (Prog.exec_bind_of_ok hseats).trans ?_
      rw [Prog.exec_bind_of_ok (App.exec_found? _), hchannel]
      exact hbroadcast
    · rwa [show u.db = t₃.db from hdb]

theorem mirror_kept_iff :
    (∀ e u, (mirrorDm ourDomain snap >>= fun _ =>
      (MonadLiftT.monadLift (Channels.getChannelRow snap.channelId) : App ChannelRow)).exec s =
        (.error e, u) → Unharmed s.db u.db) ↔ ¬ Stranded ourDomain snap s := by
  rcases hmirror : (Prog.forEach snap.participants (mirrorParticipant ourDomain snap)).exec s with
    ⟨r, t⟩
  obtain ⟨hchannels, hmessages, hseats⟩ := stored_by_mirror hmirror
  cases r with
  | error e =>
    have hexec : (mirrorDm ourDomain snap).exec s = (.error e, t) := Prog.exec_bind_of_error hmirror
    refine iff_of_true ((kept_of_error (Prog.exec_bind_of_error hexec)).mpr
      (.of_same hchannels hmessages hseats)) ?_
    rintro ⟨t', hok, -⟩
    cases hmirror.symm.trans hok
  | ok _ =>
    have hhas : t.db.hasChannel snap.channelId = s.db.hasChannel snap.channelId := by
      rw [Tables.hasChannel, hchannels]
      rfl
    have hseat : ∀ v, t.db.isParticipant snap.channelId v = s.db.isParticipant snap.channelId v := by
      intro v
      rw [Tables.isParticipant, hseats]
      rfl
    cases howner : t.db.hasChannel snap.channelId ||
        t.db.hasUser (participantStorageId snap.ownerId ourDomain) with
    | false =>
      have hwrite : (Federation.upsertRemoteDmChannel snap.channelId snap.home snap.channelType
          (participantStorageId snap.ownerId ourDomain)).exec t =
          (.error AppError.foreignKeyViolation, t) := by
        rw [Federation.upsertRemoteDmChannel, App.exec_write, howner]
        rfl
      have hexec : (mirrorDm ourDomain snap).exec s = (.error AppError.foreignKeyViolation, t) :=
        (Prog.exec_bind_of_ok hmirror).trans (Prog.exec_bind_of_error hwrite)
      refine iff_of_true ((kept_of_error (Prog.exec_bind_of_error hexec)).mpr
        (.of_same hchannels hmessages hseats)) ?_
      rintro ⟨t', hok, hallowed, -⟩
      cases hmirror.symm.trans hok
      rw [← hhas, howner] at hallowed
      cases hallowed
    | true =>
      rcases exec_mirrorDm hmirror howner with ⟨hall, u, hexec, hstored⟩ |
        ⟨⟨p, hp, hrefused⟩, e, u, hexec, hcols, hmsgs, hgrow⟩
      · obtain ⟨row, hrow⟩ := getChannelRow_of_has hstored
        have hdone : (mirrorDm ourDomain snap >>= fun _ =>
            (MonadLiftT.monadLift (Channels.getChannelRow snap.channelId) : App ChannelRow)).exec s =
            (.ok row, u) := by
          rw [Prog.exec_bind_of_ok hexec, App.exec_lift, hrow]
        refine iff_of_true (kept_of_ok hdone) ?_
        rintro ⟨t', hok, -, ⟨p, hp, hnoseat, hnouser⟩, -⟩
        cases hmirror.symm.trans hok
        have hseated := hall p hp
        rw [hseat, hnoseat, hnouser] at hseated
        cases hseated
      · rw [kept_of_error (Prog.exec_bind_of_error hexec)]
        have hfilter := @filter_upsert_iff s.db (mirroredRow ourDomain snap) snap.home
        have hdm : (mirroredRow ourDomain snap).isDm = true ↔
            snap.channelType = "dm" ∨ snap.channelType = "group_dm" := by
          rw [ChannelRow.isDm, Bool.or_eq_true, decide_eq_true_eq, decide_eq_true_eq]
          rfl
        rw [hdm] at hfilter
        have hrows : u.db.channels.filter ChannelRow.isDm = (Table.upsert ChannelRow.id
            (mirroredRow ourDomain snap) (fun c => { c with origin := some snap.home })
            s.db.channels).filter ChannelRow.isDm := by
          rw [hcols, mirrored, hchannels]
        rw [hseat, Bool.or_eq_false_iff] at hrefused
        constructor
        · rintro hkept ⟨t', -, -, -, hwritten⟩
          exact hfilter.mp (hrows.symm.trans hkept.channels) hwritten
        · intro hnot
          refine ⟨hrows.trans (hfilter.mpr (fun hwritten => hnot ?_)), hmsgs.trans hmessages, ?_⟩
          · exact ⟨t, hmirror, by rwa [← hhas], ⟨p, hp, hrefused⟩, hwritten⟩
          · rwa [← hseats]

theorem mirrored_replica_kept_iff (hfed : s.federation.isSome = true) :
    (∀ e t, (openDmAsReplica ourDomain opener recipientId home reply).exec s = (.error e, t) →
      Unharmed s.db t.db) ↔ ReplicaKept ourDomain home reply s := by
  let body := Json.obj [("opener", (actorRef ourDomain opener).toJson),
    ("recipient_id", .str recipientId)]
  have hok := fun response => @requestSigned_ok_iff s home reply response dmOpenPath body hfed
  have hdb := @requestSigned_db s reply home dmOpenPath body
  rcases hrequest : (Sender.requestSigned home dmOpenPath body reply).exec s with ⟨r, u⟩
  rw [hrequest] at hok hdb
  have hstate : u.db = s.db := hdb
  have hsame : Unharmed s.db u.db := by
    rw [hstate]
    exact .of_same rfl rfl rfl
  rw [openDmAsReplica]
  cases r with
  | error e =>
    refine iff_of_true ((kept_of_error (Prog.exec_bind_of_error hrequest)).mpr hsame) ?_
    intro response snap hanswered
    cases (hok response).mpr hanswered
  | ok response =>
    have hanswered := (hok response).mp rfl
    have hunique : ∀ response', Answered s.db home reply response' → response = response' :=
      fun response' h => hanswered.unique h
    rw [Prog.exec_bind_of_ok hrequest]
    cases hsuccess : response.success with
    | false =>
      have hrefused : (Prog.require (false = true) (AppError.badRequest
          ("home server rejected the DM open: " ++ response.text))).exec u =
          (.error (.badRequest ("home server rejected the DM open: " ++ response.text)), u) := rfl
      refine iff_of_true ((kept_of_error (Prog.exec_bind_of_error hrefused)).mpr hsame) ?_
      intro response' snap hanswered' hsuccess'
      rw [← hunique response' hanswered', hsuccess] at hsuccess'
      cases hsuccess'
    | true =>
      have hpassed : (Prog.require (true = true) (AppError.badRequest
          ("home server rejected the DM open: " ++ response.text))).exec u = (.ok (), u) := rfl
      rw [Prog.exec_bind_of_ok hpassed]
      cases hsnap : response.json.bind DmSnapshot.ofJson with
      | none =>
        refine iff_of_true ((kept_of_error rfl).mpr hsame) ?_
        intro response' snap hanswered' _ hparsed
        rw [← hunique response' hanswered', hsnap] at hparsed
        cases hparsed
      | some snap =>
        dsimp only
        rw [← hstate, mirror_kept_iff]
        constructor
        · intro hnot response' snap' hanswered' _ hparsed hstranded
          rw [← hunique response' hanswered', hsnap] at hparsed
          cases hparsed
          exact hnot (hstranded.congr hstate.symm)
        · intro hkept hstranded
          exact hkept response snap hanswered hsuccess hsnap (hstranded.congr hstate)

end

def UndoneOnError (opener : User) (recipientId : String) (reply : Except AppError Response)
    (s : AppState) : Prop :=
  ∀ e t, (openDm opener recipientId reply).exec s = (.error e, t) → Unharmed s.db t.db

def OpeningKept (opener : User) (recipientId : String) (reply : Except AppError Response)
    (s : AppState) : Prop :=
  ∀ fed domain home, s.federation = some fed → domainOf recipientId = some domain →
    homeDomainFor (qualify opener.id fed.domain) recipientId = home →
    (eqIgnoreAsciiCase home fed.domain = true → HomeKept opener recipientId domain reply s.db) ∧
    (eqIgnoreAsciiCase home fed.domain = false → ReplicaKept fed.domain home reply s)

theorem opening_kept_iff {s : AppState} {opener : User}
    (hunused : Unused (toString s.snowflake) s.db) (hopener : s.db.hasUser opener.id = true)
    (recipientId : String) (reply : Except AppError Response) :
    UndoneOnError opener recipientId reply s ↔ OpeningKept opener recipientId reply s := by
  rw [UndoneOnError, openDm, Prog.exec_bind_of_ok App.exec_federation]
  cases hfed : s.federation with
  | none =>
    refine iff_of_true ?_ ?_
    · intro e t h
      cases h
      exact .of_same rfl rfl rfl
    · intro fed domain home h
      rw [hfed] at h
      cases h
  | some fed =>
    dsimp only
    cases hdomain : domainOf recipientId with
    | none =>
      have hrefused : Authority.requireRemoteTarget recipientId =
          .error (.forbidden "federation event may not target a local entity") := if_pos hdomain
      refine iff_of_true ?_ ?_
      · rw [hrefused]
        intro e t h
        cases h
        exact .of_same rfl rfl rfl
      · intro fed' domain home _ hnone
        rw [hdomain] at hnone
        cases hnone
    | some domain =>
      have hremote : Authority.requireRemoteTarget recipientId = .ok () :=
        if_neg (by rw [hdomain]; exact Option.some_ne_none domain)
      have hisSome : s.federation.isSome = true := by
        rw [hfed]
        rfl
      rw [hremote, Prog.exec_bind_of_ok (App.exec_liftExcept _)]
      dsimp only
      generalize hhome : homeDomainFor (qualify opener.id fed.domain) recipientId = home
      have hkept : OpeningKept opener recipientId reply s ↔
          (eqIgnoreAsciiCase home fed.domain = true →
            HomeKept opener recipientId domain reply s.db) ∧
          (eqIgnoreAsciiCase home fed.domain = false → ReplicaKept fed.domain home reply s) := by
        constructor
        · intro h
          exact h fed domain home hfed hdomain hhome
        · intro h fed' domain' home' hfed' hdomain' hhome'
          cases hfed.symm.trans hfed'
          cases hdomain.symm.trans hdomain'
          cases hhome.symm.trans hhome'
          exact h
      rw [hkept]
      cases eqIgnoreAsciiCase home fed.domain with
      | true =>
        rw [if_pos rfl, home_kept_iff hisSome hunused hopener]
        exact ⟨fun h => ⟨fun _ => h, fun hfalse => absurd hfalse (by decide)⟩, fun h => h.1 rfl⟩
      | false =>
        rw [if_neg Bool.false_ne_true, mirrored_replica_kept_iff hisSome]
        exact ⟨fun h => ⟨fun htrue => absurd htrue (by decide), fun _ => h⟩, fun h => h.2 rfl⟩

def annUser : User := { id := "1", username := "ann" }

def acquainted : AppState :=
  { db :=
      { users := [annUser, { id := "9@a.example", username := "bob@a.example" }]
        channels := [{ id := "40", channelType := "dm", ownerId := some "1" }]
        dmParticipants :=
          [{ channelId := "40", userId := "1" }, { channelId := "40", userId := "9@a.example" }]
        messages := [{ id := "30", channelId := "40", authorId := "1", content := "hello" }]
        federationPeers :=
          [{ domain := "a.example", publicKey := "", inboxUrl := "https://a.example/inbox"
             trustState := "trusted" }] }
    federation := some { domain := "b.example", publicUrl := "https://b.example" }
    ext := .fixed ""
    snowflake := 50 }

theorem acquainted_unused : Unused (toString acquainted.snowflake) acquainted.db := by
  constructor
  · rfl
  · intro c hc
    cases List.mem_singleton.mp hc
    decide
  · intro m hm
    cases List.mem_singleton.mp hm
    decide
  · intro p hp
    simp only [acquainted, List.mem_cons, List.not_mem_nil, or_false] at hp
    rcases hp with rfl | rfl
    · decide
    · decide

def unreachable : Except AppError Response := .error (.internal "post to a.example: timed out")

def rejected : Except AppError Response :=
  .ok { success := false, status := "403", text := "blocked", json := none }

theorem opening_interrupted : UndoneOnError annUser "9@a.example" unreachable acquainted := by
  refine (opening_kept_iff acquainted_unused (by decide) "9@a.example" unreachable).mpr ?_
  intro fed domain home hfed hdomain hhome
  cases hfed
  constructor
  · intro _ _
    refine ⟨fun c _ response hanswered => ?_, fun hnone => ?_⟩
    · cases hanswered.1
    · have hfound : (DmParticipants.findExistingDm annUser.id "9@a.example" acquainted.db) ≠
          .ok none := by decide +kernel
      exact absurd hnone hfound
  · intro hremote
    rw [← hhome] at hremote
    exact absurd hremote (by decide +kernel)

theorem history_deleted : ¬ ∀ (opener : User) (recipientId : String)
    (reply : Except AppError Response) (s : AppState), Unused (toString s.snowflake) s.db →
    s.db.hasUser opener.id = true → UndoneOnError opener recipientId reply s := by
  intro h
  have hundone := h annUser "9@a.example" rejected acquainted acquainted_unused (by decide)
  have herror : ((openDm annUser "9@a.example" rejected).exec acquainted).1 =
      .error (.forbidden "recipient server rejected the DM: blocked") := by decide +kernel
  have hgone : ((openDm annUser "9@a.example" rejected).exec acquainted).2.db.messages = [] := by
    decide +kernel
  have hkept := hundone _ _ (Prod.ext herror rfl)
  cases hgone.symm.trans hkept.messages

end Vokusz.Federation.Dm
