import Vokusz.Voice.Views

namespace Vokusz.Voice

open Lib Db Permissions

def isDmCall (db : Tables) (channelId : String) : Bool :=
  (Table.lookup ChannelRow.id channelId db.channels).any ChannelRow.isDm

def endsCall (channelId : String) (b : GatewayBroadcast) : Bool :=
  b.event.getStr? "type" = some "call.end" &&
    ((b.event.field? "data").bind (fun data => data.getStr? "channel_id")) = some channelId

def Arrival.takesOut (arrival : Arrival) (vs : VoiceState) : Bool :=
  vs.userId = arrival.userId && vs.channelId ≠ some arrival.channelId

namespace Rooms

def EndsEmptied (r t : Rooms) : Prop :=
  ∀ c, isDmCall r.app.db c = true → r.getChannelVoiceStates c ≠ [] →
    t.getChannelVoiceStates c = [] → ∀ m ∈ DmParticipants.participantIds r.app.db c,
      ∃ b ∈ t.app.gatewayTx.drop r.app.gatewayTx.length,
        endsCall c b = true ∧ receives r.app.db b m = true

variable (r : Rooms)

def leavesUnchecked : VoiceAction → VoiceState → Bool
  | .revoke revocation queued, vs => revocation.selects r vs && queued vs
  | act, vs => (r.arrival act).any (fun arrival => arrival.takesOut vs)

def strands (act : VoiceAction) (c : String) : Bool :=
  isDmCall r.app.db c && !(DmParticipants.participantIds r.app.db c).isEmpty &&
    !(r.getChannelVoiceStates c).isEmpty &&
    (r.getChannelVoiceStates c).all (r.leavesUnchecked act)

def endsCalls (act : VoiceAction) : Bool :=
  r.voices.all (fun vs => vs.channelId.all (fun c => !r.strands act c))

structure Placed : Prop where
  keyed : r.Keyed
  stands : r.scopesStand r.app.db = true

variable {r : Rooms} {t : Rooms}

theorem mem_getChannelVoiceStates {c : String} {vs : VoiceState} :
    vs ∈ r.getChannelVoiceStates c ↔ vs ∈ r.voices ∧ vs.channelId = some c := by
  simp [getChannelVoiceStates]

theorem endsCalls_iff {act : VoiceAction} :
    r.endsCalls act = true ↔ ∀ c, r.strands act c = false := by
  simp only [endsCalls, List.all_eq_true]
  constructor
  · intro h c
    cases hstrands : r.strands act c with
    | false => rfl
    | true =>
      have hsome : r.getChannelVoiceStates c ≠ [] := by
        simp only [strands, Bool.and_eq_true] at hstrands
        simpa using hstrands.1.2
      obtain ⟨vs, hvs⟩ := List.exists_mem_of_ne_nil _ hsome
      obtain ⟨hmem, hc⟩ := mem_getChannelVoiceStates.mp hvs
      have hnot := h vs hmem
      rw [hc, Option.all_some, hstrands] at hnot
      cases hnot
  · intro h vs _
    cases vs.channelId with
    | none => rfl
    | some c => simp [h c]

theorem getChannelRow_of_lookup {db : Tables} {channelId : String} {row : ChannelRow}
    (h : Table.lookup ChannelRow.id channelId db.channels = some row) :
    Channels.getChannelRow channelId db = .ok row := by
  rw [Channels.getChannelRow, h]

theorem joinScope_scope {channelId : String} {auth : AuthUser} {scope : Option String}
    (h : r.joinScope channelId auth = .ok scope) {row : ChannelRow}
    (hrow : Table.lookup ChannelRow.id channelId r.app.db.channels = some row) :
    scopeOf row = scope := by
  unfold joinScope at h
  cases hpermission : requireChannelPermission channelId auth "connect" r.app.db with
  | error e =>
    rw [hpermission] at h
    cases h
  | ok _ =>
    rw [hpermission, getChannelRow_of_lookup hrow] at h
    simp only [bind, Except.bind] at h
    unfold scopeOf
    split at h
    · rename_i hdm
      cases h
      rw [if_pos hdm]
    · rename_i hdm
      rw [if_neg hdm]
      split at h
      · cases h
      · split at h
        · cases h
        · rename_i sid hspace
          cases htimed : r.notTimedOut sid auth with
          | error e =>
            rw [htimed] at h
            cases h
          | ok _ =>
            rw [htimed] at h
            cases h
            exact hspace

theorem updateScope_scope {client : VoiceClient} {channelId : String} {claimed : Option String}
    {found : ChannelRow × Option String} (h : r.updateScope client channelId claimed = some found)
    {row : ChannelRow}
    (hrow : Table.lookup ChannelRow.id channelId r.app.db.channels = some row) :
    scopeOf row = found.2 := by
  unfold updateScope at h
  rw [getChannelRow_of_lookup hrow] at h
  simp only [Except.toOption, Option.bind_eq_bind, Option.bind_some] at h
  rw [scopeOf]
  split at h
  · rename_i hdm
    split at h
    · obtain ⟨_, _, hfound⟩ := Option.bind_eq_some_iff.mp h
      cases hfound
      rw [if_pos hdm]
    · cases h
  · rename_i hdm
    obtain ⟨scope, hscope, hnext⟩ := Option.bind_eq_some_iff.mp h
    obtain ⟨sid, hsid, rfl⟩ := Option.map_eq_some_iff.mp hscope
    split at hnext
    · obtain ⟨_, _, hfound⟩ := Option.bind_eq_some_iff.mp hnext
      cases hfound
      rw [if_neg hdm]
      exact (Option.filter_eq_some_iff.mp hsid).1
    · cases hnext

theorem restArrival_scope {channelId : String} {auth : AuthUser} {arrival : Arrival}
    (h : r.restArrival channelId auth = some arrival) {row : ChannelRow}
    (hrow : Table.lookup ChannelRow.id arrival.channelId r.app.db.channels = some row) :
    scopeOf row = arrival.spaceId := by
  obtain ⟨scope, hscope, rfl⟩ := Option.map_eq_some_iff.mp h
  cases hjoin : r.joinScope channelId auth with
  | error e =>
    rw [hjoin] at hscope
    cases hscope
  | ok found =>
    rw [hjoin] at hscope
    cases hscope
    exact joinScope_scope hjoin hrow

theorem arrival_scope {act : VoiceAction} {arrival : Arrival} (h : r.arrival act = some arrival)
    {row : ChannelRow}
    (hrow : Table.lookup ChannelRow.id arrival.channelId r.app.db.channels = some row) :
    scopeOf row = arrival.spaceId := by
  cases act with
  | joinVoice channelId auth input => exact restArrival_scope h hrow
  | moveMember channelId auth input =>
    obtain ⟨found, _, hfound⟩ := Option.bind_eq_some_iff.mp h
    exact restArrival_scope hfound hrow
  | voiceStateUpdate client vsu =>
    obtain ⟨channelId, hchannel, hnext⟩ := Option.bind_eq_some_iff.mp h
    obtain ⟨⟨channel, scope⟩, hfound, hlast⟩ := Option.bind_eq_some_iff.mp hnext
    dsimp only at hlast
    split at hlast
    · cases hlast
      exact updateScope_scope hfound hrow
    · cases hlast
  | change | leaveVoice | disconnect | revoke => cases h

theorem Placed.seated {act : VoiceAction} {arrival : Arrival} {vs : VoiceState} (h : r.Placed)
    (harrival : r.arrival act = some arrival) (hvs : arrival.holds vs)
    (hvoices : t.voices = (r.seat vs).voices) (hdb : t.app.db = r.app.db) :
    t.scopesStand t.app.db = true := by
  obtain ⟨_, hchannel, hspace⟩ := hvs
  simp only [scopesStand, List.all_eq_true]
  intro other hother
  rw [hdb]
  rw [hvoices] at hother
  rcases Table.mem_replace.mp hother with rfl | ⟨hmem, _⟩
  · rw [channelOf, hchannel, Option.bind_some]
    cases hrow : Table.lookup ChannelRow.id arrival.channelId r.app.db.channels with
    | none => rfl
    | some row =>
      rw [Option.all_some, hspace]
      exact decide_eq_true (arrival_scope harrival hrow)
  · exact List.all_eq_true.mp h.stands other hmem

theorem stands_of_subset (h : r.scopesStand r.app.db = true) (hdb : t.app.db = r.app.db)
    (hsub : t.voices ⊆ r.voices) : t.scopesStand t.app.db = true := by
  rw [hdb]
  exact List.all_eq_true.mpr (fun vs hvs => List.all_eq_true.mp h vs (hsub hvs))

theorem dropVoiceSession_subset {old : VoiceState} (hold : r.Observed old)
    (queued : VoiceState → Bool) :
    (r.dropVoiceSession queued old).voices ⊆ r.voices ∧
      (r.dropVoiceSession queued old).app.db = r.app.db := by
  rcases dropVoiceSession_cases hold queued with heq | ⟨_, _, _, _, heq⟩
  · rw [heq]
    exact ⟨List.Subset.refl _, rfl⟩
  · rw [heq]
    exact ⟨fun vs hvs => (Table.mem_delete.mp hvs).1, rfl⟩

theorem announceLeft_db (old : VoiceState) (userId sessionId : String) :
    (r.announceLeft old userId sessionId).app.db = r.app.db := by
  unfold announceLeft
  split
  · rfl
  · unfold endDmCallIfEmpty
    split
    · rfl
    · unfold broadcastCallEvent
      split <;> rfl

theorem Placed.step {act : VoiceAction} (h : r.Placed) (hstep : r.step act = some t) :
    t.Placed := by
  refine ⟨h.keyed.step hstep, ?_⟩
  cases step_effect hstep with
  | idle _ => exact h.stands
  | changed hstands => exact hstands
  | seated harrival hvs hvoices hdb _ => exact h.seated harrival hvs hvoices hdb
  | flagged _ _ _ ht =>
    subst ht
    refine List.all_eq_true.mpr (fun vs hvs => ?_)
    rcases Table.mem_update hvs with ⟨hmem, _⟩ | ⟨old, hmem, _, rfl⟩
    · exact List.all_eq_true.mp h.stands vs hmem
    · exact List.all_eq_true.mp h.stands old hmem
  | left _ _ =>
    refine stands_of_subset h.stands (announceLeft_db _ _ _) ?_
    rw [announceLeft_voices]
    exact fun vs hvs => (Table.mem_delete.mp hvs).1
  | revoked revocation queued =>
    have hsub : (r.revokeVoiceSessions queued (revocation.selects r)).voices ⊆ r.voices ∧
        (r.revokeVoiceSessions queued (revocation.selects r)).app.db = r.app.db := by
      refine revoke_induction (I := fun s => s.voices ⊆ r.voices ∧ s.app.db = r.app.db)
        (fun s old hs hold => ?_) h.keyed ⟨List.Subset.refl _, rfl⟩
      obtain ⟨hvoices, hdb⟩ := dropVoiceSession_subset hold queued
      exact ⟨List.Subset.trans hvoices hs.1, hdb.trans hs.2⟩
    exact stands_of_subset h.stands hsub.2 hsub.1

theorem unchecked_of_arrival {act : VoiceAction} (hact : ∀ rev queued, act ≠ .revoke rev queued)
    (vs : VoiceState) : r.leavesUnchecked act vs =
      (r.arrival act).any (fun arrival => arrival.takesOut vs) := by
  cases act with
  | revoke rev queued => exact absurd rfl (hact rev queued)
  | _ => rfl

theorem endsCalls_of_none {act : VoiceAction} (hact : ∀ rev queued, act ≠ .revoke rev queued)
    (h : r.arrival act = none) : r.endsCalls act = true := by
  rw [endsCalls_iff]
  intro c
  cases hstates : r.getChannelVoiceStates c with
  | nil => simp [strands, hstates]
  | cons vs rest => simp [strands, hstates, unchecked_of_arrival hact, h]

theorem endsEmptied_of_voices (h : t.voices = r.voices) : r.EndsEmptied t := by
  intro c _ hsome hempty
  rw [getChannelVoiceStates, h] at hempty
  exact absurd hempty hsome

theorem endsEmptied_iff_of_silent
    (hsilent : ∀ b ∈ t.app.gatewayTx.drop r.app.gatewayTx.length, ∀ c, endsCall c b = false) :
    r.EndsEmptied t ↔ ∀ c, isDmCall r.app.db c = true → r.getChannelVoiceStates c ≠ [] →
      DmParticipants.participantIds r.app.db c ≠ [] → t.getChannelVoiceStates c ≠ [] := by
  constructor
  · intro h c hdm hsome hpeople hempty
    obtain ⟨m, hm⟩ := List.exists_mem_of_ne_nil _ hpeople
    obtain ⟨b, hb, hends, _⟩ := h c hdm hsome hempty m hm
    rw [hsilent b hb c] at hends
    cases hends
  · intro h c hdm hsome hempty m hm
    exact absurd hempty (h c hdm hsome (List.ne_nil_of_mem hm))

theorem endsCalls_iff_of_leavers {act : VoiceAction}
    (hleft : ∀ c, isDmCall r.app.db c = true → r.getChannelVoiceStates c ≠ [] →
      (t.getChannelVoiceStates c = [] ↔ ∀ vs ∈ r.getChannelVoiceStates c,
        r.leavesUnchecked act vs = true)) :
    (∀ c, isDmCall r.app.db c = true → r.getChannelVoiceStates c ≠ [] →
      DmParticipants.participantIds r.app.db c ≠ [] → t.getChannelVoiceStates c ≠ []) ↔
      r.endsCalls act = true := by
  rw [endsCalls_iff]
  constructor
  · intro h c
    cases hstrands : r.strands act c with
    | false => rfl
    | true =>
      simp only [strands, Bool.and_eq_true, Bool.not_eq_true', List.isEmpty_eq_false_iff,
        List.all_eq_true] at hstrands
      obtain ⟨⟨⟨hdm, hpeople⟩, hsome⟩, hall⟩ := hstrands
      exact absurd ((hleft c hdm hsome).mpr hall) (h c hdm hsome hpeople)
  · intro h c hdm hsome hpeople hempty
    have hstrands : r.strands act c = true := by
      simp only [strands, Bool.and_eq_true, Bool.not_eq_true', List.isEmpty_eq_false_iff,
        List.all_eq_true]
      exact ⟨⟨⟨hdm, hpeople⟩, hsome⟩, (hleft c hdm hsome).mp hempty⟩
    rw [h c] at hstrands
    cases hstrands

theorem endsCall_voiceStateUpdate (c channelId : String) (spaceId : Option String)
    (vs : VoiceState) : endsCall c (r.voiceStateUpdate channelId spaceId vs) = false := by
  have htype : (r.voiceStateUpdate channelId spaceId vs).event.getStr? "type" =
      some "voice.state_update" := rfl
  simp [endsCall, htype]

theorem emptied_seated {act : VoiceAction} {arrival : Arrival} {vs : VoiceState}
    (harrival : r.arrival act = some arrival) (hvs : arrival.holds vs)
    (hvoices : t.voices = (r.seat vs).voices) {c : String}
    (hsome : r.getChannelVoiceStates c ≠ []) :
    t.getChannelVoiceStates c = [] ↔ ∀ old ∈ r.getChannelVoiceStates c,
      r.leavesUnchecked act old = true := by
  obtain ⟨huser, hchannel, _⟩ := hvs
  have hact : ∀ rev queued, act ≠ .revoke rev queued := by
    rintro rev queued rfl
    cases harrival
  have hstates : ∀ other, other ∈ t.getChannelVoiceStates c ↔
      (other = vs ∨ other ∈ r.voices ∧ other.userId ≠ vs.userId) ∧ other.channelId = some c := by
    intro other
    rw [mem_getChannelVoiceStates, hvoices]
    exact and_congr_left' Table.mem_replace
  rw [List.eq_nil_iff_forall_not_mem]
  constructor
  · intro h old hold
    obtain ⟨hmem, hc⟩ := mem_getChannelVoiceStates.mp hold
    have hsame : old.userId = vs.userId := by
      by_contra hne
      exact h old ((hstates old).mpr ⟨.inr ⟨hmem, hne⟩, hc⟩)
    have haway : arrival.channelId ≠ c := by
      rintro rfl
      exact h vs ((hstates vs).mpr ⟨.inl rfl, hchannel⟩)
    rw [unchecked_of_arrival hact, harrival]
    simp [Arrival.takesOut, hsame, huser, hc, haway.symm]
  · intro h other hother
    obtain ⟨first, hfirst⟩ := List.exists_mem_of_ne_nil _ hsome
    obtain ⟨hwho, hc⟩ := (hstates other).mp hother
    have htaken : ∀ old ∈ r.getChannelVoiceStates c,
        old.userId = arrival.userId ∧ old.channelId ≠ some arrival.channelId := by
      intro old hold
      have hun := h old hold
      rw [unchecked_of_arrival hact, harrival] at hun
      simpa [Arrival.takesOut] using hun
    rcases hwho with rfl | ⟨hmem, hne⟩
    · have haway := (htaken first hfirst).2
      rw [(mem_getChannelVoiceStates.mp hfirst).2, ← hc, hchannel] at haway
      exact haway rfl
    · exact hne ((htaken other (mem_getChannelVoiceStates.mpr ⟨hmem, hc⟩)).1.trans huser.symm)

theorem mem_clear {user : String} {vs : VoiceState} :
    vs ∈ (r.clear user).voices ↔ vs ∈ r.voices ∧ vs.userId ≠ user := Table.mem_delete

theorem Keyed.get (h : r.Keyed) {vs : VoiceState} (hvs : vs ∈ r.voices) :
    r.getUserVoiceState vs.userId = some vs := Table.Distinct.lookup_eq h hvs

theorem mem_dropVoiceSession {queued : VoiceState → Bool} {old vs : VoiceState} (h : r.Keyed)
    (hobserved : r.Observed old) : vs ∈ (r.dropVoiceSession queued old).voices ↔
      vs ∈ r.voices ∧ ¬ (vs = old ∧ queued old = true ∧ old.channelId.isSome = true) := by
  have hsame : vs ∈ r.voices → vs.userId = old.userId → vs = old := by
    intro hvs huser
    exact hobserved vs (huser ▸ h.get hvs)
  unfold dropVoiceSession
  split
  · rename_i hchannel
    simp [hchannel]
  · rename_i channel hchannel
    cases hqueued : queued old with
    | false => simp
    | true =>
      cases hcurrent : r.getUserVoiceState old.userId with
      | none =>
        have habsent : ∀ vs ∈ r.voices, vs.userId ≠ old.userId := Table.lookup_eq_none.mp hcurrent
        simp only [Bool.not_true, Bool.false_eq_true, if_false]
        constructor
        · intro hvs
          exact ⟨hvs, fun hgone => habsent vs hvs (congrArg VoiceState.userId hgone.1)⟩
        · exact fun hvs => hvs.1
      | some current =>
        cases hobserved current hcurrent
        simp only [Bool.not_true, Bool.false_eq_true, if_false, decide_true, Bool.and_self, if_true]
        have hcleared : vs ∈ (r.clear old.userId).voices ↔
            vs ∈ r.voices ∧ vs.userId ≠ old.userId := mem_clear
        constructor
        · intro hvs
          obtain ⟨hmem, hne⟩ := hcleared.mp hvs
          exact ⟨hmem, fun hgone => hne (congrArg VoiceState.userId hgone.1)⟩
        · rintro ⟨hmem, hkept⟩
          refine hcleared.mpr ⟨hmem, fun huser => hkept ⟨hsame hmem huser, trivial, ?_⟩⟩
          rw [hchannel]
          rfl

theorem mem_dropAll {queued : VoiceState → Bool} {vs : VoiceState} {targets : List VoiceState}
    (h : r.Keyed) (hobserved : ∀ old ∈ targets, r.Observed old) :
    vs ∈ (targets.foldl (fun s old => s.dropVoiceSession queued old) r).voices ↔
      vs ∈ r.voices ∧ ¬ (vs ∈ targets ∧ queued vs = true ∧ vs.channelId.isSome = true) := by
  induction targets generalizing r with
  | nil => simp
  | cons old targets ih =>
    have hold : r.Observed old := hobserved old (by simp)
    rw [List.foldl_cons, ih (h.drop hold queued)
      (fun other hother => (hobserved other (by simp [hother])).drop hold queued),
      mem_dropVoiceSession h hold, List.mem_cons]
    constructor
    · rintro ⟨⟨hmem, hkept⟩, hrest⟩
      refine ⟨hmem, ?_⟩
      rintro ⟨rfl | htarget, hq, hc⟩
      · exact hkept ⟨rfl, hq, hc⟩
      · exact hrest ⟨htarget, hq, hc⟩
    · rintro ⟨hmem, hkept⟩
      refine ⟨⟨hmem, ?_⟩, fun hrest => hkept ⟨.inr hrest.1, hrest.2⟩⟩
      rintro ⟨rfl, hq, hc⟩
      exact hkept ⟨.inl rfl, hq, hc⟩

theorem mem_revoked {queued selected : VoiceState → Bool} {vs : VoiceState} (h : r.Keyed) :
    vs ∈ (r.revokeVoiceSessions queued selected).voices ↔
      vs ∈ r.voices ∧ ¬ (selected vs = true ∧ queued vs = true ∧ vs.channelId.isSome = true) := by
  rw [revokeVoiceSessions,
    mem_dropAll h (fun old hold => h.observed (List.mem_of_mem_filter hold)), List.mem_filter]
  constructor
  · rintro ⟨hmem, hkept⟩
    exact ⟨hmem, fun hgone => hkept ⟨⟨hmem, hgone.1⟩, hgone.2⟩⟩
  · rintro ⟨hmem, hkept⟩
    exact ⟨hmem, fun hgone => hkept ⟨hgone.1.2, hgone.2⟩⟩

theorem revoke_silent {queued selected : VoiceState → Bool} (h : r.Keyed) :
    ∀ b ∈ (r.revokeVoiceSessions queued selected).app.gatewayTx.drop r.app.gatewayTx.length,
      ∀ c, endsCall c b = false := by
  have hsent : ∃ bs, (r.revokeVoiceSessions queued selected).app.gatewayTx =
      r.app.gatewayTx ++ bs ∧ ∀ b ∈ bs, ∀ c, endsCall c b = false := by
    refine revoke_induction (I := fun s => ∃ bs, s.app.gatewayTx = r.app.gatewayTx ++ bs ∧
      ∀ b ∈ bs, ∀ c, endsCall c b = false) ?_ h ⟨[], by simp, by simp⟩
    rintro s old ⟨bs, hbs, hquiet⟩ hold
    rcases dropVoiceSession_cases hold queued with heq | ⟨channel, _, _, _, heq⟩
    · exact ⟨bs, by rw [heq, hbs], hquiet⟩
    · refine ⟨bs ++ [(s.clear old.userId).voiceStateUpdate channel old.spaceId
        { old with channelId := none }], ?_, ?_⟩
      · rw [heq, ← List.append_assoc, ← hbs]
        rfl
      · intro b hb c
        rcases List.mem_append.mp hb with hmem | hmem
        · exact hquiet b hmem c
        · rw [List.mem_singleton.mp hmem]
          exact endsCall_voiceStateUpdate _ _ _ _
  obtain ⟨bs, hbs, hquiet⟩ := hsent
  rw [hbs, List.drop_left]
  exact hquiet

theorem states_unchanged {user c : String}
    (h : ∀ vs ∈ r.getChannelVoiceStates c, vs.userId ≠ user) :
    (r.clear user).getChannelVoiceStates c = r.getChannelVoiceStates c := by
  simp only [getChannelVoiceStates, clear, withVoices_voices, Table.delete, List.filter_filter]
  apply List.filter_congr
  intro vs hvs
  by_cases hc : vs.channelId = some c
  · have hne := h vs (mem_getChannelVoiceStates.mpr ⟨hvs, hc⟩)
    simp [hc, hne]
  · simp [hc]

theorem endsEmptied_left {old : VoiceState} {sessionId : String} (h : r.Placed)
    (hold : r.getUserVoiceState old.userId = some old) :
    r.EndsEmptied ((r.clear old.userId).announceLeft old old.userId sessionId) := by
  intro c hdm hsome hempty m hm
  have hcleared : (r.clear old.userId).getChannelVoiceStates c = [] := by
    rwa [getChannelVoiceStates, announceLeft_voices] at hempty
  have hmem : old ∈ r.voices := Table.lookup_mem hold
  have hchannel : old.channelId = some c := by
    by_contra hne
    have hsame : (r.clear old.userId).getChannelVoiceStates c = r.getChannelVoiceStates c := by
      refine states_unchanged (fun vs hvs huser => ?_)
      obtain ⟨hvmem, hc⟩ := mem_getChannelVoiceStates.mp hvs
      have heq := h.keyed.get hvmem
      rw [huser, hold] at heq
      cases heq
      exact hne hc
    exact hsome (hsame ▸ hcleared)
  have hspace : old.spaceId = none := by
    have hstands := List.all_eq_true.mp h.stands old hmem
    obtain ⟨row, hrow, hrowDm⟩ := (Option.any_eq_true _ _).mp hdm
    rw [channelOf, hchannel, Option.bind_some, hrow, Option.all_some, decide_eq_true_eq, scopeOf,
      if_pos hrowDm] at hstands
    exact hstands.symm
  have hpeople : (DmParticipants.participantIds r.app.db c).isEmpty = false := by
    rw [List.isEmpty_eq_false_iff]
    exact List.ne_nil_of_mem hm
  have hsent : ((r.clear old.userId).announceLeft old old.userId sessionId).app.gatewayTx =
      r.app.gatewayTx ++ [r.voiceStateUpdate c none (leftState old old.userId sessionId),
        r.callEvent c "call.end" (.obj [("channel_id", .str c), ("user_id", .str old.userId)])] := by
    have hstates : ((r.clear old.userId).broadcastVoiceStateUpdate c none
        (leftState old old.userId sessionId)).getChannelVoiceStates c = [] := hcleared
    have hthere : DmParticipants.participantIds ((r.clear old.userId).broadcastVoiceStateUpdate c
        none (leftState old old.userId sessionId)).app.db c = DmParticipants.participantIds r.app.db c :=
      rfl
    simp only [announceLeft, hchannel, hspace, endDmCallIfEmpty, hstates, broadcastCallEvent, hthere,
      hpeople]
    simp [broadcastVoiceStateUpdate, send, clear, withVoices, voiceStateUpdate, callEvent]
  rw [hsent, List.drop_left]
  refine ⟨_, List.mem_cons_of_mem _ (List.mem_singleton_self _), ?_, ?_⟩
  · simp [endsCall, callEvent, Json.getStr?, Json.field?, Json.asStr?]
  · simpa [receives, callEvent] using hm

theorem states_flagged {flags : Flags} {user c channelId : String} {scope : Option String}
    {vs : VoiceState} : ((r.withVoices (Table.update VoiceState.userId user (setFlags flags)
      r.voices)).broadcastVoiceStateUpdate channelId scope vs).getChannelVoiceStates c = [] ↔
      r.getChannelVoiceStates c = [] := by
  have hkept : ∀ other : VoiceState, (decide ((if other.userId = user then setFlags flags other
      else other).channelId = some c)) = decide (other.channelId = some c) := by
    intro other
    split <;> rfl
  simp only [getChannelVoiceStates, List.filter_eq_nil_iff, broadcastVoiceStateUpdate, send_voices,
    withVoices_voices, Table.update, List.forall_mem_map, hkept]

theorem step_endsEmptied_iff {act : VoiceAction} (h : r.Placed) (hstep : r.step act = some t) :
    r.EndsEmptied t ↔ r.endsCalls act = true := by
  by_cases hrevoke : ∃ rev queued, act = .revoke rev queued
  · obtain ⟨rev, queued, rfl⟩ := hrevoke
    cases hstep
    rw [endsEmptied_iff_of_silent (revoke_silent h.keyed)]
    refine endsCalls_iff_of_leavers (fun c _ _ => ?_)
    rw [List.eq_nil_iff_forall_not_mem]
    constructor
    · intro hgone vs hvs
      obtain ⟨hmem, hc⟩ := mem_getChannelVoiceStates.mp hvs
      by_contra hkept
      refine hgone vs (mem_getChannelVoiceStates.mpr ⟨(mem_revoked h.keyed).mpr ⟨hmem, ?_⟩, hc⟩)
      rintro ⟨hselected, hqueued, _⟩
      exact hkept (by simp [leavesUnchecked, hselected, hqueued])
    · intro hall vs hvs
      obtain ⟨hmem, hc⟩ := mem_getChannelVoiceStates.mp hvs
      obtain ⟨hbefore, hkept⟩ := (mem_revoked h.keyed).mp hmem
      have hun := hall vs (mem_getChannelVoiceStates.mpr ⟨hbefore, hc⟩)
      simp only [leavesUnchecked, Bool.and_eq_true] at hun
      exact hkept ⟨hun.1, hun.2, by rw [hc]; rfl⟩
  · have hact : ∀ rev queued, act ≠ .revoke rev queued := by
      intro rev queued heq
      exact hrevoke ⟨rev, queued, heq⟩
    cases step_effect hstep with
    | idle harrival => exact iff_of_true (endsEmptied_of_voices rfl) (endsCalls_of_none hact harrival)
    | changed _ => exact iff_of_true (endsEmptied_of_voices rfl) (endsCalls_of_none hact rfl)
    | seated harrival hvs hvoices _ hsent =>
      rw [endsEmptied_iff_of_silent]
      · exact endsCalls_iff_of_leavers (fun c _ hsome => emptied_seated harrival hvs hvoices hsome)
      · intro b hb c
        rw [hsent, List.drop_left] at hb
        split at hb
        · rw [List.mem_singleton.mp hb]
          exact endsCall_voiceStateUpdate _ _ _ _
        · cases hb
    | flagged harrival _ _ ht =>
      subst ht
      refine iff_of_true ?_ (endsCalls_of_none hact harrival)
      intro c _ hsome hempty
      exact absurd (states_flagged.mp hempty) hsome
    | left harrival hold =>
      exact iff_of_true (endsEmptied_left h hold) (endsCalls_of_none hact harrival)
    | revoked rev queued => exact absurd rfl (hact rev queued)

theorem emptied_calls_end_iff {start : Rooms} {acts : List VoiceAction}
    (hempty : start.voices = []) (hrun : start.run acts = some r) :
    Along step EndsEmptied start acts ↔ meets step endsCalls start acts = true := by
  have hplaced : start.Placed := by
    constructor
    · rw [Keyed, hempty]
      exact List.Pairwise.nil
    · rw [scopesStand, hempty]
      rfl
  have hkeep : ∀ s a t, Placed s → Rooms.step s a = some t → Placed t :=
    fun _ _ _ h hstep => h.step hstep
  have hstep : ∀ s a t, Placed s → Rooms.step s a = some t →
      (EndsEmptied s t ↔ endsCalls s a = true) :=
    fun _ _ _ h hstep => step_endsEmptied_iff h hstep
  exact along_iff_meets hkeep hstep hplaced hrun

def callTables : Tables :=
  { twoSpaces with
    channels := twoSpaces.channels ++ [{ id := "300", channelType := "group_dm" }]
    dmParticipants := [{ channelId := "300", userId := "1" }, { channelId := "300", userId := "2" }] }

def callRooms : Rooms := { app := { db := callTables, ext := .fixed "" }, livekit := true }

def bob : AuthUser := { userId := "2" }

def lastOneHangsUp : List VoiceAction :=
  [.joinVoice "300" ann {}, .joinVoice "300" bob {}, .joinVoice "100" ann {},
    .leaveVoice "300" bob]

theorem emptied_calls_end_when_hung_up : Along step EndsEmptied callRooms lastOneHangsUp := by
  have hrun : callRooms.run lastOneHangsUp = some (reached callRooms lastOneHangsUp) :=
    runFrom_getD (by decide +kernel)
  exact (emptied_calls_end_iff rfl hrun).mpr (by decide +kernel)

def callerMoves : List VoiceAction := [.joinVoice "300" ann {}, .joinVoice "100" ann {}]

def callerRevoked : List VoiceAction :=
  [.joinVoice "300" ann {}, .revoke (.channel "300" (some "1")) (fun _ => true)]

def alone : Rooms := reached callRooms [.joinVoice "300" ann {}]

theorem emptied_calls_without_end :
    callRooms.run callerMoves = some (reached callRooms callerMoves) ∧
      ¬ Along step EndsEmptied callRooms callerMoves ∧
      callRooms.run callerRevoked = some (reached callRooms callerRevoked) ∧
      ¬ Along step EndsEmptied callRooms callerRevoked := by
  have hfirst : callRooms.step (.joinVoice "300" ann {}) = some alone := rfl
  have hmoved : alone.step (.joinVoice "100" ann {}) = some (reached callRooms callerMoves) := rfl
  have hrevoked : alone.step (.revoke (.channel "300" (some "1")) (fun _ => true)) =
      some (reached callRooms callerRevoked) := rfl
  have hdm : isDmCall alone.app.db "300" = true := by decide +kernel
  have hsome : alone.getChannelVoiceStates "300" ≠ [] := by decide +kernel
  refine ⟨runFrom_getD (by decide +kernel), fun h => ?_, runFrom_getD (by decide +kernel),
    fun h => ?_⟩
  · obtain ⟨b, hb, hends, _⟩ := ((h _ hfirst).2 _ hmoved).1 "300" hdm hsome (by decide +kernel) "2"
      (by decide +kernel)
    have hnone : ∀ b ∈ (reached callRooms callerMoves).app.gatewayTx.drop
        alone.app.gatewayTx.length, endsCall "300" b = false := by decide +kernel
    rw [hnone b hb] at hends
    cases hends
  · obtain ⟨b, hb, hends, _⟩ := ((h _ hfirst).2 _ hrevoked).1 "300" hdm hsome (by decide +kernel)
      "2" (by decide +kernel)
    have hnone : ∀ b ∈ (reached callRooms callerRevoked).app.gatewayTx.drop
        alone.app.gatewayTx.length, endsCall "300" b = false := by decide +kernel
    rw [hnone b hb] at hends
    cases hends

end Rooms

end Vokusz.Voice
