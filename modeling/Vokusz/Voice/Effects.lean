import Vokusz.Voice.State
import Vokusz.Lib.Transition

namespace Vokusz.Voice

open Lib Db Permissions

inductive VoiceAction where
  | change (db : Tables) (clock : Nat)
  | joinVoice (channelId : String) (auth : AuthUser) (input : JoinVoiceRequest)
  | leaveVoice (channelId : String) (auth : AuthUser)
  | moveMember (channelId : String) (auth : AuthUser) (input : MoveMemberRequest)
  | voiceStateUpdate (client : VoiceClient) (vsu : VoiceStateUpdateData)
  | disconnect (client : VoiceClient)
  | revoke (revocation : Revocation) (queued : VoiceState → Bool)

structure Arrival where
  userId : String
  channelId : String
  spaceId : Option String
deriving DecidableEq, Repr

namespace Rooms

variable (r : Rooms)

def channelOf (db : Tables) (vs : VoiceState) : Option ChannelRow :=
  vs.channelId.bind (fun c => Table.lookup ChannelRow.id c db.channels)

def scopesStand (db : Tables) : Bool :=
  r.voices.all (fun vs => (channelOf db vs).all (fun row => scopeOf row = vs.spaceId))

def step : VoiceAction → Option Rooms
  | .change db clock =>
    if r.scopesStand db then some { r with app := { r.app with db := db, clock := clock } } else none
  | .joinVoice channelId auth input => some (r.joinVoice channelId auth input).2
  | .leaveVoice channelId auth => some (r.leaveVoice channelId auth).2
  | .moveMember channelId auth input => some (r.moveMember channelId auth input).2
  | .voiceStateUpdate client vsu => some (r.voiceStateUpdateOp client vsu)
  | .disconnect client => some (r.gatewayLeave client)
  | .revoke revocation queued => some (r.revokeVoiceSessions queued (revocation.selects r))

def run (acts : List VoiceAction) : Option Rooms := runFrom step r acts

def restArrival (channelId : String) (auth : AuthUser) : Option Arrival :=
  (r.joinScope channelId auth).toOption.map
    (fun spaceId => { userId := auth.userId, channelId := channelId, spaceId := spaceId })

def gatewayArrival (client : VoiceClient) (vsu : VoiceStateUpdateData) : Option Arrival := do
  let channelId ← vsu.channelId
  let (channel, scope) ← r.updateScope client channelId vsu.spaceId
  if (r.getUserVoiceState client.userId).bind VoiceState.channelId ≠ some channelId &&
      r.mayConnect client channel scope then
    some { userId := client.userId, channelId := channelId, spaceId := scope }
  else none

def arrival : VoiceAction → Option Arrival
  | .joinVoice channelId auth _ => r.restArrival channelId auth
  | .moveMember channelId auth input =>
    (r.checkMove channelId auth input).toOption.bind (fun found => r.restArrival channelId found.2)
  | .voiceStateUpdate client vsu => r.gatewayArrival client vsu
  | _ => none

def announces : VoiceAction → Bool
  | .joinVoice _ _ _ => r.livekit
  | _ => true

def seat (vs : VoiceState) : Rooms :=
  r.withVoices (Table.upsert VoiceState.userId vs (fun _ => vs) r.voices)

def clear (userId : String) : Rooms :=
  r.withVoices (Table.delete VoiceState.userId userId r.voices)

end Rooms

def Arrival.holds (arrival : Arrival) (vs : VoiceState) : Prop :=
  vs.userId = arrival.userId ∧ vs.channelId = some arrival.channelId ∧ vs.spaceId = arrival.spaceId

inductive Effect (r : Rooms) : VoiceAction → Rooms → Prop
  | idle {a : VoiceAction} (harrival : r.arrival a = none) : Effect r a r
  | changed {db : Tables} {clock : Nat} (h : r.scopesStand db = true) :
      Effect r (.change db clock) { r with app := { r.app with db := db, clock := clock } }
  | seated {a : VoiceAction} {arrival : Arrival} {vs : VoiceState} {t : Rooms}
      (harrival : r.arrival a = some arrival) (hvs : arrival.holds vs)
      (hvoices : t.voices = (r.seat vs).voices) (hdb : t.app.db = r.app.db)
      (hsent : t.app.gatewayTx = r.app.gatewayTx ++
        if r.announces a then [r.voiceStateUpdate arrival.channelId arrival.spaceId vs] else []) :
      Effect r a t
  | flagged {a : VoiceAction} {old : VoiceState} {channelId : String} {scope : Option String}
      {flags : Flags} {t : Rooms} (harrival : r.arrival a = none)
      (hold : r.getUserVoiceState old.userId = some old) (hchannel : old.channelId = some channelId)
      (ht : t = (r.withVoices (Table.update VoiceState.userId old.userId (Rooms.setFlags flags)
        r.voices)).broadcastVoiceStateUpdate channelId scope (Rooms.setFlags flags old)) :
      Effect r a t
  | left {a : VoiceAction} {old : VoiceState} {sessionId : String}
      (harrival : r.arrival a = none) (hold : r.getUserVoiceState old.userId = some old) :
      Effect r a ((r.clear old.userId).announceLeft old old.userId sessionId)
  | revoked (revocation : Revocation) (queued : VoiceState → Bool) :
      Effect r (.revoke revocation queued) (r.revokeVoiceSessions queued (revocation.selects r))

namespace Rooms

variable {r t : Rooms}

theorem joinVoice_effect (channelId : String) (auth : AuthUser) (input : JoinVoiceRequest)
    (a : VoiceAction) (harrival : r.arrival a = r.restArrival channelId auth)
    (hannounces : r.announces a = r.livekit) :
    Effect r a (r.joinVoice channelId auth input).2 := by
  unfold joinVoice
  cases hscope : r.joinScope channelId auth with
  | error e => exact .idle (by rw [harrival, restArrival, hscope]; rfl)
  | ok spaceId =>
    have hseat : r.arrival a = some ⟨auth.userId, channelId, spaceId⟩ := by
      rw [harrival, restArrival, hscope]
      rfl
    dsimp only
    cases hlivekit : r.livekit with
    | true =>
      have hlk : r.announces a = true := hannounces.trans hlivekit
      refine .seated hseat ⟨rfl, rfl, rfl⟩ rfl rfl ?_
      rw [hlk]
      rfl
    | false =>
      have hlk : r.announces a = false := hannounces.trans hlivekit
      refine .seated hseat ⟨rfl, rfl, rfl⟩ rfl rfl ?_
      rw [hlk]
      simp [generateId, joinVoiceChannel]

theorem checkMove_livekit {channelId : String} {auth : AuthUser} {input : MoveMemberRequest}
    {found : VoiceState × AuthUser} (h : r.checkMove channelId auth input = .ok found) :
    r.livekit = true := by
  unfold checkMove at h
  split at h
  · cases h
  · rename_i hlivekit
    simpa using hlivekit

theorem moveMember_effect (channelId : String) (auth : AuthUser) (input : MoveMemberRequest) :
    Effect r (.moveMember channelId auth input) (r.moveMember channelId auth input).2 := by
  unfold moveMember
  cases hcheck : r.checkMove channelId auth input with
  | error e => exact .idle (by rw [arrival, hcheck]; rfl)
  | ok found =>
    apply joinVoice_effect
    · rw [arrival, hcheck]
      rfl
    · exact (checkMove_livekit hcheck).symm

theorem takeMembership_cases (userId : String) (onlyIfChannel : Option String) :
    r.takeMembership userId onlyIfChannel = (none, r) ∨
      ∃ old, old.userId = userId ∧ r.getUserVoiceState old.userId = some old ∧
        r.takeMembership userId onlyIfChannel = (some old, r.clear old.userId) := by
  unfold takeMembership
  split
  · exact .inl rfl
  · rename_i old hold
    have huser : old.userId = userId := Table.lookup_key hold
    split
    · rw [← huser] at hold
      exact .inr ⟨old, huser, hold, by rw [huser]; rfl⟩
    · exact .inl rfl

theorem leaveVoice_effect (channelId : String) (auth : AuthUser) :
    Effect r (.leaveVoice channelId auth) (r.leaveVoice channelId auth).2 := by
  unfold leaveVoice leaveVoiceChannelIfCurrent
  split
  · exact .idle rfl
  · rcases takeMembership_cases auth.userId (some channelId) with hnone | ⟨old, huser, hold, htaken⟩
    · rw [hnone]
      exact .idle rfl
    · rw [htaken, ← huser]
      exact .left rfl hold

theorem gatewayLeave_effect {a : VoiceAction} (client : VoiceClient) (ha : r.arrival a = none) :
    Effect r a (r.gatewayLeave client) := by
  unfold gatewayLeave leaveVoiceChannel
  rcases takeMembership_cases client.userId none with hnone | ⟨old, huser, hold, htaken⟩
  · rw [hnone]
    exact .idle ha
  · rw [htaken]
    dsimp only
    rw [← huser]
    exact .left ha hold

theorem gatewayJoin_effect {client : VoiceClient} {channelId : String} {vsu : VoiceStateUpdateData}
    (hchannel : vsu.channelId = some channelId) :
    Effect r (.voiceStateUpdate client vsu) (r.gatewayJoin client channelId vsu) := by
  have harrival : r.arrival (.voiceStateUpdate client vsu) = r.gatewayArrival client vsu := rfl
  unfold gatewayArrival at harrival
  rw [hchannel] at harrival
  unfold gatewayJoin
  cases hscope : r.updateScope client channelId vsu.spaceId with
  | none => exact .idle (by simpa [hscope] using harrival)
  | some found =>
    obtain ⟨channel, scope⟩ := found
    dsimp only
    split
    · rename_i hsame
      obtain ⟨old, hold, hc⟩ := Option.bind_eq_some_iff.mp hsame
      have huser : old.userId = client.userId := Table.lookup_key hold
      have hupdate : r.updateVoiceState client.userId vsu.flags =
          (some (setFlags vsu.flags old), r.withVoices
            (Table.update VoiceState.userId client.userId (setFlags vsu.flags) r.voices)) := by
        rw [updateVoiceState, hold]
        rfl
      rw [hupdate]
      dsimp only
      rw [← huser] at hold ⊢
      exact .flagged (by simpa [hscope, hsame] using harrival) hold hc rfl
    · rename_i hother
      split
      · rename_i hconnect
        have hseat : r.arrival (.voiceStateUpdate client vsu) =
            some ⟨client.userId, channelId, scope⟩ := by
          simpa [hscope, hother, hconnect] using harrival
        exact .seated hseat ⟨rfl, rfl, rfl⟩ rfl rfl rfl
      · rename_i hconnect
        exact .idle (by simpa [hscope, hconnect] using harrival)

theorem step_effect {a : VoiceAction} (h : r.step a = some t) : Effect r a t := by
  cases a with
  | change db clock =>
    simp only [step, Option.ite_none_right_eq_some] at h
    obtain ⟨hstand, ht⟩ := h
    cases ht
    exact .changed hstand
  | joinVoice channelId auth input =>
    cases h
    exact joinVoice_effect channelId auth input _ rfl rfl
  | leaveVoice channelId auth =>
    cases h
    exact leaveVoice_effect channelId auth
  | moveMember channelId auth input =>
    cases h
    exact moveMember_effect channelId auth input
  | voiceStateUpdate client vsu =>
    cases h
    unfold voiceStateUpdateOp
    split
    · rename_i channelId hchannel
      exact gatewayJoin_effect hchannel
    · rename_i hchannel
      refine gatewayLeave_effect client ?_
      rw [arrival, gatewayArrival, hchannel]
      rfl
  | disconnect client =>
    cases h
    exact gatewayLeave_effect client rfl
  | revoke revocation queued =>
    cases h
    exact .revoked revocation queued

def Keyed (r : Rooms) : Prop := Table.Distinct VoiceState.userId r.voices

def Observed (r : Rooms) (old : VoiceState) : Prop :=
  ∀ current, r.getUserVoiceState old.userId = some current → current = old

theorem Keyed.observed (h : r.Keyed) {old : VoiceState} (hold : old ∈ r.voices) : r.Observed old := by
  intro current hcurrent
  rw [getUserVoiceState, Table.Distinct.lookup_eq h hold] at hcurrent
  exact (Option.some.inj hcurrent).symm

theorem dropVoiceSession_cases {old : VoiceState} (h : r.Observed old)
    (queued : VoiceState → Bool) :
    r.dropVoiceSession queued old = r ∨
      ∃ channel, old.channelId = some channel ∧ queued old = true ∧
        r.getUserVoiceState old.userId = some old ∧
        r.dropVoiceSession queued old = (r.clear old.userId).broadcastVoiceStateUpdate channel
          old.spaceId { old with channelId := none } := by
  unfold dropVoiceSession
  split
  · exact .inl rfl
  · rename_i channel hchannel
    cases hqueued : queued old with
    | false => exact .inl rfl
    | true =>
      cases hcurrent : r.getUserVoiceState old.userId with
      | none => exact .inl rfl
      | some current =>
        cases h current hcurrent
        right
        refine ⟨channel, hchannel, rfl, rfl, ?_⟩
        simp
        rfl

theorem getUserVoiceState_clear (user u : String) :
    (r.clear user).getUserVoiceState u = if u = user then none else r.getUserVoiceState u :=
  Table.lookup_delete

theorem Observed.drop {old other : VoiceState} (h : r.Observed other) (hold : r.Observed old)
    (queued : VoiceState → Bool) : (r.dropVoiceSession queued old).Observed other := by
  rcases dropVoiceSession_cases hold queued with heq | ⟨channel, _, _, _, heq⟩
  · rwa [heq]
  · intro current hcurrent
    have hcleared : (r.clear old.userId).getUserVoiceState other.userId = some current := by
      rwa [heq] at hcurrent
    rw [getUserVoiceState_clear] at hcleared
    split at hcleared
    · cases hcleared
    · exact h current hcleared

theorem revoke_induction {queued selected : VoiceState → Bool} {I : Rooms → Prop}
    (hdrop : ∀ s old, I s → s.Observed old → I (s.dropVoiceSession queued old))
    (hkeyed : r.Keyed) (hr : I r) : I (r.revokeVoiceSessions queued selected) := by
  have hfold : ∀ (targets : List VoiceState) s, I s → (∀ old ∈ targets, s.Observed old) →
      I (targets.foldl (fun s old => s.dropVoiceSession queued old) s) := by
    intro targets
    induction targets with
    | nil => exact fun s hs _ => hs
    | cons old targets ih =>
      intro s hs hobserved
      have hold : s.Observed old := hobserved old (by simp)
      apply ih
      · exact hdrop s old hs hold
      · exact fun other hother => (hobserved other (by simp [hother])).drop hold queued
  exact hfold _ r hr (fun old hold => hkeyed.observed (List.mem_of_mem_filter hold))

theorem Keyed.drop {old : VoiceState} (h : r.Keyed) (hold : r.Observed old)
    (queued : VoiceState → Bool) : (r.dropVoiceSession queued old).Keyed := by
  rcases dropVoiceSession_cases hold queued with heq | ⟨channel, _, _, _, heq⟩
  · rwa [heq]
  · rw [heq]
    exact Table.Distinct.delete h _

theorem announceLeft_voices (old : VoiceState) (userId sessionId : String) :
    (r.announceLeft old userId sessionId).voices = r.voices := by
  unfold announceLeft
  split
  · rfl
  · unfold endDmCallIfEmpty
    split
    · rfl
    · unfold broadcastCallEvent
      split <;> rfl

theorem Keyed.step {a : VoiceAction} (h : r.Keyed) (hstep : r.step a = some t) : t.Keyed := by
  cases step_effect hstep with
  | idle _ => exact h
  | changed _ => exact h
  | seated _ _ hvoices _ _ =>
    rw [Keyed, hvoices]
    exact Table.Distinct.replace h
  | flagged _ _ _ ht =>
    subst ht
    exact Table.Distinct.update h (fun _ _ => rfl)
  | left _ _ =>
    rw [Keyed, announceLeft_voices]
    exact Table.Distinct.delete h _
  | revoked revocation queued =>
    exact revoke_induction (fun s old hs hold => hs.drop hold queued) h h

end Rooms

end Vokusz.Voice
