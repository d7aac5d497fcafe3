import Vokusz.Voice.Effects

namespace Vokusz.Voice

open Lib Db Permissions

inductive Audience where
  | space (spaceId : String)
  | dm (channelId : String)
deriving DecidableEq, Repr

def receives (db : Tables) (b : GatewayBroadcast) (userId : String) : Bool :=
  match b.targetUserIds, b.spaceId with
  | some targets, _ => targets.contains userId
  | none, some sid => db.hasMember sid userId
  | none, none => true

namespace Audience

def people (db : Tables) : Audience → List String
  | .space sid => (db.members.filter (fun m => m.spaceId = sid)).map MemberRow.userId
  | .dm c => DmParticipants.participantIds db c

def hears (db : Tables) (a : Audience) (b : GatewayBroadcast) : Bool :=
  (a.people db).all (receives db b)

def channelWithin : Audience → Option String → Option String → Option String
  | .space sid, spaceId, channelId => if spaceId = some sid then channelId else none
  | .dm c, spaceId, channelId => if spaceId = none then channelId.filter (fun id => id = c) else none

def follow (a : Audience) (userId : String) (seat : Option String) (event : Json) : Option String :=
  if event.getStr? "type" = some "voice.state_update" then
    match event.field? "data" with
    | some data =>
      if data.getStr? "user_id" = some userId then
        a.channelWithin (data.getStr? "space_id") (data.getStr? "channel_id")
      else seat
    | none => seat
  else seat

end Audience

def VoiceState.seatIn (vs : VoiceState) (a : Audience) : Option String :=
  a.channelWithin vs.spaceId vs.channelId

def VoiceState.audience (vs : VoiceState) : Option Audience :=
  match vs.spaceId with
  | some sid => some (.space sid)
  | none => vs.channelId.map .dm

namespace Rooms

def seatIn (r : Rooms) (a : Audience) (userId : String) : Option String :=
  (r.getUserVoiceState userId).bind (fun vs => vs.seatIn a)

def delivered (a : Audience) (r t : Rooms) : List Json :=
  ((t.app.gatewayTx.drop r.app.gatewayTx.length).filter (a.hears t.app.db)).map
    GatewayBroadcast.event

def tells (r : Rooms) (act : VoiceAction) : Bool :=
  match r.arrival act with
  | none => true
  | some arrival =>
    match r.getUserVoiceState arrival.userId with
    | none => r.announces act
    | some old =>
      old.channelId = some arrival.channelId && old.spaceId = arrival.spaceId ||
        r.announces act && old.audience.all (fun a =>
          a.hears r.app.db (r.voiceStateUpdate arrival.channelId arrival.spaceId old))

end Rooms

section

variable {r : Rooms} {a : Audience} {u : String} {seat : Option String}

theorem getStr_toJson (vs : VoiceState) :
    vs.toJson.getStr? "user_id" = some vs.userId ∧ vs.toJson.getStr? "space_id" = vs.spaceId ∧
      vs.toJson.getStr? "channel_id" = vs.channelId := by
  refine ⟨rfl, ?_, ?_⟩
  · change (Json.ofOption vs.spaceId).asStr? = vs.spaceId
    cases vs.spaceId <;> rfl
  · change (Json.ofOption vs.channelId).asStr? = vs.channelId
    cases vs.channelId <;> rfl

theorem follow_voiceStateUpdate (channelId : String) (spaceId : Option String) (vs : VoiceState) :
    a.follow u seat (r.voiceStateUpdate channelId spaceId vs).event =
      if vs.userId = u then vs.seatIn a else seat := by
  obtain ⟨huser, hspace, hchannel⟩ := getStr_toJson vs
  have htype : (r.voiceStateUpdate channelId spaceId vs).event.getStr? "type" =
      some "voice.state_update" := rfl
  have hdata : (r.voiceStateUpdate channelId spaceId vs).event.field? "data" = some vs.toJson := rfl
  rw [Audience.follow, if_pos htype, hdata]
  simp only [huser, hspace, hchannel, Option.some.injEq]
  rfl

theorem follow_callEvent {eventType : String} (h : eventType ≠ "voice.state_update")
    (channelId : String) (data : Json) :
    a.follow u seat (r.callEvent channelId eventType data).event = seat := by
  simp [Audience.follow, Rooms.callEvent, Json.getStr?, Json.field?, Json.asStr?, h]

theorem seatIn_audience {vs : VoiceState} (h : vs.seatIn a ≠ none) : vs.audience = some a := by
  cases a with
  | space sid =>
    simp only [VoiceState.seatIn, Audience.channelWithin] at h
    split at h
    · rename_i hspace
      rw [VoiceState.audience, hspace]
    · exact absurd rfl h
  | dm c =>
    simp only [VoiceState.seatIn, Audience.channelWithin] at h
    split at h
    · rename_i hspace
      cases hchannel : vs.channelId with
      | none => simp [hchannel] at h
      | some id =>
        have hid : id = c := by
          by_contra hne
          simp [hchannel, hne] at h
        rw [VoiceState.audience, hspace, hchannel, hid]
        rfl
    · exact absurd rfl h

theorem hears_own {vs : VoiceState} {channelId : String} (h : vs.seatIn a ≠ none)
    (hchannel : vs.channelId = some channelId) (vs' : VoiceState) :
    a.hears r.app.db (r.voiceStateUpdate channelId vs.spaceId vs') = true := by
  have haudience := seatIn_audience h
  cases hspace : vs.spaceId with
  | some sid =>
    rw [VoiceState.audience, hspace] at haudience
    cases haudience
    simp only [Audience.hears, Audience.people, List.all_eq_true, List.mem_map, List.mem_filter]
    rintro m ⟨row, ⟨hrow, hsid⟩, rfl⟩
    simp only [receives, Rooms.voiceStateUpdate, Tables.hasMember]
    exact List.any_eq_true.mpr ⟨row, hrow, by simpa using hsid⟩
  | none =>
    rw [VoiceState.audience, hspace, hchannel] at haudience
    cases haudience
    simp [Audience.hears, Audience.people, receives, Rooms.voiceStateUpdate]

end

namespace Rooms

structure Follows (r t : Rooms) : Prop where
  db : t.app.db = r.app.db
  sent : ∃ bs, t.app.gatewayTx = r.app.gatewayTx ++ bs ∧
    ∀ (a : Audience) u, ((bs.filter (a.hears r.app.db)).map GatewayBroadcast.event).foldl
      (a.follow u) (r.seatIn a u) = t.seatIn a u

variable {r s t : Rooms}

theorem Follows.quiet (hdb : t.app.db = r.app.db) (hsent : t.app.gatewayTx = r.app.gatewayTx)
    (hseats : ∀ a u, t.seatIn a u = r.seatIn a u) : r.Follows t where
  db := hdb
  sent := ⟨[], by rw [hsent, List.append_nil], fun a u => (hseats a u).symm⟩

theorem Follows.refl : r.Follows r := .quiet rfl rfl (fun _ _ => rfl)

theorem Follows.trans (h : r.Follows s) (h' : s.Follows t) : r.Follows t := by
  obtain ⟨bs, hbs, hview⟩ := h.sent
  obtain ⟨bs', hbs', hview'⟩ := h'.sent
  refine ⟨h'.db.trans h.db, bs ++ bs', by rw [hbs', hbs, List.append_assoc], ?_⟩
  intro a u
  rw [h.db] at hview'
  rw [List.filter_append, List.map_append, List.foldl_append, hview, hview']

theorem Follows.told {vs : VoiceState} {channelId : String} {spaceId : Option String}
    (hdb : t.app.db = r.app.db)
    (hsent : t.app.gatewayTx = r.app.gatewayTx ++ [r.voiceStateUpdate channelId spaceId vs])
    (hself : ∀ a, t.seatIn a vs.userId = vs.seatIn a)
    (hothers : ∀ a u, u ≠ vs.userId → t.seatIn a u = r.seatIn a u)
    (hmissed : ∀ a, Audience.hears r.app.db a (r.voiceStateUpdate channelId spaceId vs) = false →
      r.seatIn a vs.userId = vs.seatIn a) : r.Follows t := by
  refine ⟨hdb, _, hsent, fun a u => ?_⟩
  by_cases hu : u = vs.userId
  · subst hu
    rw [hself]
    cases hheard : a.hears r.app.db (r.voiceStateUpdate channelId spaceId vs) with
    | true => simp [hheard, follow_voiceStateUpdate]
    | false => simpa [hheard] using hmissed a hheard
  · rw [hothers a u hu]
    cases hheard : a.hears r.app.db (r.voiceStateUpdate channelId spaceId vs) with
    | true => simp [hheard, follow_voiceStateUpdate, Ne.symm hu]
    | false => simp [hheard]

theorem seatIn_seat {vs : VoiceState} (a : Audience) (u : String)
    (hvoices : t.voices = (r.seat vs).voices) :
    t.seatIn a u = if vs.userId = u then vs.seatIn a else r.seatIn a u := by
  rw [seatIn, getUserVoiceState, hvoices, seat, withVoices_voices, Table.lookup_replace]
  split <;> rfl

theorem seatIn_clear (user : String) (hvoices : t.voices = (r.clear user).voices) (a : Audience)
    (u : String) : t.seatIn a u = if u = user then none else r.seatIn a u := by
  rw [seatIn, getUserVoiceState, hvoices, clear, withVoices_voices, Table.lookup_delete]
  split <;> rfl

theorem seatIn_of_lookup {old : VoiceState} (hold : r.getUserVoiceState old.userId = some old)
    (a : Audience) : r.seatIn a old.userId = old.seatIn a := by
  rw [seatIn, hold]
  rfl

theorem follows_seated {act : VoiceAction} {arrival : Arrival} {vs : VoiceState}
    (harrival : r.arrival act = some arrival) (hvs : arrival.holds vs)
    (hvoices : t.voices = (r.seat vs).voices) (hdb : t.app.db = r.app.db)
    (hsent : t.app.gatewayTx = r.app.gatewayTx ++
      if r.announces act then [r.voiceStateUpdate arrival.channelId arrival.spaceId vs] else [])
    (htells : r.tells act = true) : r.Follows t := by
  obtain ⟨huser, hchannel, hspace⟩ := hvs
  simp only [tells, harrival] at htells
  have hself : ∀ a, t.seatIn a vs.userId = vs.seatIn a := by
    intro a
    rw [seatIn_seat a _ hvoices, if_pos rfl]
  have hothers : ∀ a u, u ≠ vs.userId → t.seatIn a u = r.seatIn a u := by
    intro a u hu
    rw [seatIn_seat a _ hvoices, if_neg hu.symm]
  have hown : ∀ a, Audience.hears r.app.db a
      (r.voiceStateUpdate arrival.channelId arrival.spaceId vs) = false → vs.seatIn a = none := by
    intro a hmissed
    by_contra hseat
    rw [← hspace, hears_own hseat hchannel vs] at hmissed
    cases hmissed
  cases hold : r.getUserVoiceState arrival.userId with
  | none =>
    rw [hold] at htells
    simp only at htells
    rw [htells, if_pos rfl] at hsent
    refine .told hdb hsent hself hothers ?_
    intro a hmissed
    rw [hown a hmissed, seatIn, huser, hold]
    rfl
  | some old =>
    have hbefore : ∀ a, r.seatIn a vs.userId = old.seatIn a := by
      intro a
      rw [seatIn, huser, hold]
      rfl
    have hsame : old.channelId = some arrival.channelId → old.spaceId = arrival.spaceId →
        ∀ a, old.seatIn a = vs.seatIn a := by
      intro hc hs a
      rw [VoiceState.seatIn, VoiceState.seatIn, hc, hs, hchannel, hspace]
    rw [hold] at htells
    simp only [Bool.or_eq_true, Bool.and_eq_true, decide_eq_true_eq] at htells
    cases hannounces : r.announces act with
    | true =>
      rw [hannounces, if_pos rfl] at hsent
      refine .told hdb hsent hself hothers ?_
      intro a hmissed
      rw [hbefore]
      rcases htells with ⟨hc, hs⟩ | ⟨_, hreached⟩
      · exact hsame hc hs a
      · rw [hown a hmissed]
        by_contra hseat
        rw [seatIn_audience hseat, Option.all_some] at hreached
        exact absurd (hreached.symm.trans hmissed) (by simp)
    | false =>
      rw [hannounces, if_neg (by simp), List.append_nil] at hsent
      rcases htells with ⟨hc, hs⟩ | ⟨htold, _⟩
      · refine .quiet hdb hsent (fun a u => ?_)
        by_cases hu : u = vs.userId
        · rw [hu, hself, hbefore, hsame hc hs]
        · exact hothers a u hu
      · rw [hannounces] at htold
        cases htold

theorem follows_flagged {old : VoiceState} {channelId : String} {scope : Option String}
    {flags : Flags} (hold : r.getUserVoiceState old.userId = some old) :
    r.Follows ((r.withVoices (Table.update VoiceState.userId old.userId (setFlags flags)
      r.voices)).broadcastVoiceStateUpdate channelId scope (setFlags flags old)) := by
  have hkey : ∀ vs : VoiceState, vs.userId = old.userId → (setFlags flags vs).userId = old.userId :=
    fun _ h => h
  refine .told rfl rfl ?_ ?_ ?_
  · intro a
    have hself : Table.lookup VoiceState.userId old.userId
        (Table.update VoiceState.userId old.userId (setFlags flags) r.voices) =
        some (setFlags flags old) := by
      rw [Table.lookup_update hkey]
      exact congrArg (Option.map (setFlags flags)) hold
    exact congrArg (fun found => found.bind (fun vs => vs.seatIn a)) hself
  · intro a u hu
    have hother : Table.lookup VoiceState.userId u
        (Table.update VoiceState.userId old.userId (setFlags flags) r.voices) =
        Table.lookup VoiceState.userId u r.voices := Table.lookup_update_ne hu hkey
    exact congrArg (fun found => found.bind (fun vs => vs.seatIn a)) hother
  · intro a _
    exact seatIn_of_lookup hold a

theorem channelWithin_none (a : Audience) (spaceId : Option String) :
    a.channelWithin spaceId none = none := by
  cases a <;> simp [Audience.channelWithin]

theorem follows_cleared {old left : VoiceState} {channelId : String}
    (hold : r.getUserVoiceState old.userId = some old) (hchannel : old.channelId = some channelId)
    (huser : left.userId = old.userId) (hleft : left.channelId = none) :
    r.Follows ((r.clear old.userId).broadcastVoiceStateUpdate channelId old.spaceId left) := by
  have hnone : ∀ a, left.seatIn a = none := by
    intro a
    rw [VoiceState.seatIn, hleft, channelWithin_none]
  have hvoices : ((r.clear old.userId).broadcastVoiceStateUpdate channelId old.spaceId
      left).voices = (r.clear old.userId).voices := rfl
  refine .told rfl rfl ?_ ?_ ?_
  · intro a
    rw [seatIn_clear old.userId hvoices, if_pos huser, hnone]
  · intro a u hu
    rw [huser] at hu
    rw [seatIn_clear old.userId hvoices, if_neg hu]
  · intro a hmissed
    rw [huser, hnone, seatIn_of_lookup hold]
    by_contra hseat
    have hheard := hears_own (r := r) hseat hchannel left
    exact absurd (hheard.symm.trans hmissed) (by simp)

theorem follows_endDmCallIfEmpty (old : VoiceState) (channelId userId : String) :
    r.Follows (r.endDmCallIfEmpty old channelId userId) := by
  unfold endDmCallIfEmpty
  split
  · exact .refl
  · unfold broadcastCallEvent
    split
    · exact .refl
    · refine ⟨rfl, [_], rfl, fun a u => ?_⟩
      cases hheard : a.hears r.app.db (r.callEvent channelId "call.end"
          (.obj [("channel_id", .str channelId), ("user_id", .str userId)])) with
      | true =>
        simp only [hheard, List.filter_cons_of_pos, List.filter_nil, List.map_cons, List.map_nil,
          List.foldl_cons, List.foldl_nil, follow_callEvent (by decide : "call.end" ≠ _)]
        rfl
      | false =>
        simp only [hheard, Bool.false_eq_true, not_false_eq_true, List.filter_cons_of_neg,
          List.filter_nil, List.map_nil, List.foldl_nil]
        rfl

theorem follows_left {old : VoiceState} (hold : r.getUserVoiceState old.userId = some old)
    (sessionId : String) :
    r.Follows ((r.clear old.userId).announceLeft old old.userId sessionId) := by
  unfold announceLeft
  split
  · rename_i hchannel
    refine .quiet rfl rfl (fun a u => ?_)
    rw [seatIn_clear old.userId rfl]
    split
    · rename_i hu
      rw [hu, seatIn_of_lookup hold, VoiceState.seatIn, hchannel, channelWithin_none]
    · rfl
  · rename_i channelId hchannel
    have hcleared : r.Follows ((r.clear old.userId).broadcastVoiceStateUpdate channelId old.spaceId
        (leftState old old.userId sessionId)) := follows_cleared hold hchannel rfl rfl
    exact hcleared.trans (follows_endDmCallIfEmpty _ _ _)

theorem follows_dropVoiceSession {old : VoiceState} (h : r.Observed old)
    (queued : VoiceState → Bool) : r.Follows (r.dropVoiceSession queued old) := by
  rcases dropVoiceSession_cases h queued with heq | ⟨channelId, hchannel, _, hold, heq⟩
  · rw [heq]
    exact .refl
  · rw [heq]
    exact follows_cleared hold hchannel rfl rfl

theorem follows_revokeVoiceSessions (hkeyed : r.Keyed) (queued selected : VoiceState → Bool) :
    r.Follows (r.revokeVoiceSessions queued selected) :=
  revoke_induction (fun _ _ hs hold => hs.trans (follows_dropVoiceSession hold queued)) hkeyed .refl

theorem delivered_follows (h : r.Follows t) (a : Audience) (u : String) :
    (delivered a r t).foldl (a.follow u) (r.seatIn a u) = t.seatIn a u := by
  obtain ⟨bs, hbs, hview⟩ := h.sent
  rw [delivered, hbs, List.drop_left, h.db]
  exact hview a u

theorem step_followed {act : VoiceAction} (hkeyed : r.Keyed) (hstep : r.step act = some t)
    (htells : r.tells act = true) (a : Audience) (u : String) :
    (delivered a r t).foldl (a.follow u) (r.seatIn a u) = t.seatIn a u := by
  cases step_effect hstep with
  | idle _ => exact delivered_follows .refl a u
  | changed _ =>
    rw [delivered, List.drop_length]
    rfl
  | seated harrival hvs hvoices hdb hsent =>
    exact delivered_follows (follows_seated harrival hvs hvoices hdb hsent htells) a u
  | flagged _ hold _ ht =>
    subst ht
    exact delivered_follows (follows_flagged hold) a u
  | left _ hold => exact delivered_follows (follows_left hold _) a u
  | revoked revocation queued =>
    exact delivered_follows (follows_revokeVoiceSessions hkeyed _ _) a u

theorem voice_views_converge {start : Rooms} {acts : List VoiceAction}
    (hempty : start.voices = []) (hrun : start.run acts = some r)
    (htells : meets step tells start acts = true) (a : Audience) (u : String) :
    (heard step (delivered a) start acts).foldl (a.follow u) none = r.seatIn a u := by
  have hnone : start.seatIn a u = none := by
    rw [seatIn, getUserVoiceState, hempty]
    rfl
  have hkeyed : start.Keyed := by
    rw [Keyed, hempty]
    exact List.Pairwise.nil
  rw [← hnone]
  exact foldl_heard (fun _ _ _ h hstep => h.step hstep)
    (fun _ _ _ h hsound hstep => step_followed h hstep hsound a u) hkeyed htells hrun

def twoSpaces : Tables where
  users := [{ id := "1", username := "ann", isAdmin := true }, { id := "2", username := "bob" }]
  spaces := [{ id := "10", name := "garden", ownerId := "1" },
    { id := "20", name := "attic", ownerId := "1" }]
  channels := [{ id := "100", channelType := "voice", spaceId := some "10" },
    { id := "101", channelType := "voice", spaceId := some "10" },
    { id := "200", channelType := "voice", spaceId := some "20" }]
  members := [{ userId := "1", spaceId := "10" }, { userId := "2", spaceId := "10" },
    { userId := "1", spaceId := "20" }]

def ann : AuthUser := { userId := "1", isAdmin := true }

def quietRooms (livekit : Bool) : Rooms :=
  { app := { db := twoSpaces, ext := .fixed "" }, livekit := livekit }

def reached (start : Rooms) (acts : List VoiceAction) : Rooms := (start.run acts).getD start

def withinSpace : List VoiceAction :=
  [.joinVoice "100" ann {}, .moveMember "101" ann { userId := "1", sourceChannelId := "100" },
    .leaveVoice "101" ann, .joinVoice "200" ann {}]

theorem voice_views_converge_within_space :
    (heard step (delivered (.space "10")) (quietRooms true) withinSpace).foldl
      (Audience.follow (.space "10") "1") none = (reached (quietRooms true) withinSpace).seatIn
        (.space "10") "1" :=
  voice_views_converge rfl (runFrom_getD (by decide +kernel)) (by decide +kernel) _ _

def acrossSpaces : List VoiceAction := [.joinVoice "100" ann {}, .joinVoice "200" ann {}]

theorem move_across_spaces_not_followed :
    (quietRooms true).run acrossSpaces = some (reached (quietRooms true) acrossSpaces) ∧
      (heard step (delivered (.space "10")) (quietRooms true) acrossSpaces).foldl
        (Audience.follow (.space "10") "1") none = some "100" ∧
      (reached (quietRooms true) acrossSpaces).seatIn (.space "10") "1" = none :=
  ⟨runFrom_getD (by decide +kernel), by decide +kernel, by decide +kernel⟩

end Rooms

end Vokusz.Voice
