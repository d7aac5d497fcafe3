import Vokusz.Voice.Views

namespace Vokusz.Voice

open Lib Db Permissions

structure Backend where
  testMode : Bool := false
  ensureRoom : String → Except AppError Unit
  lookupFault : Option AppError := none
  generateToken : AuthUser → String → String → Except AppError String

namespace Rooms

variable (r : Rooms)

def lookupUser (backend : Backend) (userId : String) : Except AppError User :=
  match backend.lookupFault with
  | some e => .error e
  | none => Users.getUser userId r.app.db

def ticket (backend : Backend) (channelId : String) (auth : AuthUser) : Except AppError String := do
  let user ←
    if backend.testMode then r.lookupUser backend auth.userId
    else do
      backend.ensureRoom channelId
      r.lookupUser backend auth.userId
  backend.generateToken auth (user.displayName.getD user.username) channelId

def joinVoiceRoute (backend : Backend) (channelId : String) (auth : AuthUser)
    (input : JoinVoiceRequest) : Except AppError (VoiceState × String) × Rooms :=
  match r.joinVoice channelId auth input with
  | (.error e, t) => (.error e, t)
  | (.ok vs, t) => ((t.ticket backend channelId auth).map (fun token => (vs, token)), t)

def joinedState (spaceId : Option String) (channelId : String) (auth : AuthUser)
    (input : JoinVoiceRequest) : VoiceState :=
  { userId := auth.userId
    spaceId := spaceId
    channelId := some channelId
    sessionId := r.generateId.1
    selfMute := input.selfMute.getD false
    selfDeaf := input.selfDeaf.getD false }

def SameSeats (t : Rooms) (userId : String) : Prop :=
  t.getUserVoiceState userId = r.getUserVoiceState userId ∧
    ∀ c, t.getChannelVoiceStates c = r.getChannelVoiceStates c

variable {r} {t : Rooms} {backend : Backend} {channelId : String} {auth : AuthUser}
  {input : JoinVoiceRequest} {spaceId : Option String}

theorem sameSeats_of_voices {userId : String} (h : t.voices = r.voices) : r.SameSeats t userId := by
  unfold SameSeats getUserVoiceState getChannelVoiceStates
  rw [h]
  exact ⟨rfl, fun _ => rfl⟩

theorem ticket_congr (backend : Backend) (channelId : String) (auth : AuthUser)
    (h : t.app.db = r.app.db) :
    t.ticket backend channelId auth = r.ticket backend channelId auth := by
  unfold ticket lookupUser
  rw [h]

theorem joinVoice_refused {e : AppError} (h : r.joinScope channelId auth = .error e) :
    r.joinVoice channelId auth input = (.error e, r) := by
  unfold joinVoice
  rw [h]

theorem joinVoice_seats (input : JoinVoiceRequest)
    (h : r.joinScope channelId auth = .ok spaceId) :
    (r.joinVoice channelId auth input).2.voices =
        (r.seat (r.joinedState spaceId channelId auth input)).voices ∧
      (r.joinVoice channelId auth input).2.app.db = r.app.db ∧
      (r.joinVoice channelId auth input).1 =
        if r.livekit then .ok (r.joinedState spaceId channelId auth input)
        else .error (.badRequest "voice_not_configured") := by
  unfold joinVoice
  rw [h]
  dsimp only
  split <;> exact ⟨rfl, rfl, rfl⟩

theorem joinVoiceRoute_state :
    (r.joinVoiceRoute backend channelId auth input).2 = (r.joinVoice channelId auth input).2 := by
  unfold joinVoiceRoute
  generalize r.joinVoice channelId auth input = out
  obtain ⟨answer, t⟩ := out
  cases answer <;> rfl

theorem joinVoiceRoute_ok_iff (input : JoinVoiceRequest)
    (h : r.joinScope channelId auth = .ok spaceId) :
    (∃ answer, (r.joinVoiceRoute backend channelId auth input).1 = .ok answer) ↔
      r.livekit = true ∧ ∃ token, r.ticket backend channelId auth = .ok token := by
  obtain ⟨-, hdb, hanswer⟩ := joinVoice_seats input h
  have hticket := ticket_congr backend channelId auth hdb
  unfold joinVoiceRoute
  generalize r.joinVoice channelId auth input = out at hanswer hticket
  obtain ⟨answer, t⟩ := out
  dsimp only at hanswer hticket
  cases hlivekit : r.livekit with
  | false =>
    rw [hlivekit, if_neg Bool.false_ne_true] at hanswer
    subst hanswer
    simp
  | true =>
    rw [hlivekit, if_pos rfl] at hanswer
    subst hanswer
    dsimp only
    rw [hticket]
    cases r.ticket backend channelId auth with
    | error e => simp [Except.map]
    | ok token => simp [Except.map]

theorem getUserVoiceState_seat (vs : VoiceState) :
    (r.seat vs).getUserVoiceState vs.userId = some vs :=
  Table.lookup_replace.trans (if_pos rfl)

theorem Keyed.seat_same {vs : VoiceState} (h : r.Keyed)
    (hvs : r.getUserVoiceState vs.userId = some vs) : (r.seat vs).voices = r.voices := by
  have hhas : Table.has VoiceState.userId vs.userId r.voices = true :=
    Table.has_iff.mpr ⟨vs, Table.lookup_mem hvs, rfl⟩
  have hsame : ∀ x ∈ r.voices, (if x.userId = vs.userId then vs else x) = x := by
    intro x hx
    split
    · rename_i hkey
      have hlookup := Table.Distinct.lookup_eq h hx
      rw [hkey] at hlookup
      exact Option.some.inj (hvs.symm.trans hlookup)
    · rfl
  change Table.upsert VoiceState.userId vs (fun _ => vs) r.voices = r.voices
  unfold Table.upsert Table.update
  rw [if_pos hhas, List.map_congr_left hsame, List.map_id']

theorem join_atomic_iff (hkeyed : r.Keyed) :
    (∀ e, (r.joinVoiceRoute backend channelId auth input).1 = .error e →
        r.SameSeats (r.joinVoiceRoute backend channelId auth input).2 auth.userId) ↔
      ∀ spaceId, r.joinScope channelId auth = .ok spaceId →
        (r.livekit = true ∧ ∃ token, r.ticket backend channelId auth = .ok token) ∨
          r.getUserVoiceState auth.userId = some (r.joinedState spaceId channelId auth input) := by
  rw [joinVoiceRoute_state]
  constructor
  · intro h spaceId hscope
    cases hanswer : (r.joinVoiceRoute backend channelId auth input).1 with
    | ok answer => exact .inl ((joinVoiceRoute_ok_iff input hscope).mp ⟨answer, hanswer⟩)
    | error e =>
      have hsame := (h e hanswer).1
      have hvoices := (joinVoice_seats input hscope).1
      have hnew := r.getUserVoiceState_seat (r.joinedState spaceId channelId auth input)
      rw [getUserVoiceState, hvoices] at hsame
      exact .inr (hsame.symm.trans hnew)
  · intro h e hanswer
    cases hscope : r.joinScope channelId auth with
    | error e' =>
      rw [joinVoice_refused hscope]
      exact sameSeats_of_voices rfl
    | ok spaceId =>
      have hvoices := (joinVoice_seats input hscope).1
      rcases h spaceId hscope with hgranted | hheld
      · obtain ⟨answer, hok⟩ := (joinVoiceRoute_ok_iff input hscope).mpr hgranted
        rw [hok] at hanswer
        cases hanswer
      · exact sameSeats_of_voices (hvoices.trans (hkeyed.seat_same hheld))

def joinedRoom : Backend := { ensureRoom := fun _ => .ok (), generateToken := fun _ name _ => .ok name }

theorem join_atomic_with_livekit :
    (∀ e, ((quietRooms true).joinVoiceRoute joinedRoom "100" ann {}).1 = .error e →
        (quietRooms true).SameSeats ((quietRooms true).joinVoiceRoute joinedRoom "100" ann {}).2
          "1") ↔
      ∀ spaceId, (quietRooms true).joinScope "100" ann = .ok spaceId →
        ((quietRooms true).livekit = true ∧
            ∃ token, (quietRooms true).ticket joinedRoom "100" ann = .ok token) ∨
          (quietRooms true).getUserVoiceState "1" =
            some ((quietRooms true).joinedState spaceId "100" ann {}) :=
  join_atomic_iff (r := quietRooms true) (by unfold Keyed Table.Distinct; decide)

theorem join_without_livekit_seats :
    ((quietRooms false).joinVoiceRoute joinedRoom "100" ann {}).1 =
        .error (.badRequest "voice_not_configured") ∧
      (quietRooms false).getChannelVoiceStates "100" = [] ∧
      ((quietRooms false).joinVoiceRoute joinedRoom "100" ann {}).2.getChannelVoiceStates "100" =
        [(quietRooms false).joinedState (some "10") "100" ann {}] := by
  decide +kernel

def KeepsOthers (r t : Rooms) (client : VoiceClient) : Prop :=
  ∀ vs ∈ r.voices, (vs.userId = client.userId → vs.sessionId ≠ client.sessionId) → vs ∈ t.voices

variable {client : VoiceClient}

theorem mem_gatewayLeave {vs : VoiceState} :
    vs ∈ (r.gatewayLeave client).voices ↔ vs ∈ r.voices ∧ vs.userId ≠ client.userId := by
  unfold gatewayLeave leaveVoiceChannel takeMembership
  cases hold : r.getUserVoiceState client.userId with
  | none =>
    have hnone := Table.lookup_eq_none.mp hold
    constructor
    · intro hvs
      exact ⟨hvs, hnone vs hvs⟩
    · rintro ⟨hvs, -⟩
      exact hvs
  | some old =>
    simp only [Option.all_none, if_true]
    rw [announceLeft_voices]
    exact Table.mem_delete

theorem teardown_frame_iff : r.KeepsOthers (r.gatewayLeave client) client ↔
    ∀ vs ∈ r.voices, vs.userId = client.userId → vs.sessionId = client.sessionId := by
  constructor
  · intro h vs hvs huser
    by_contra hother
    exact (mem_gatewayLeave.mp (h vs hvs (fun _ => hother))).2 huser
  · intro h vs hvs hother
    exact mem_gatewayLeave.mpr ⟨hvs, fun huser => hother huser (h vs hvs huser)⟩

def phone : VoiceClient := { userId := "1", sessionId := "31", isAdmin := true, spaceIds := ["10"] }

def laptop : VoiceClient := { userId := "1", sessionId := "32", isAdmin := true, spaceIds := ["10"] }

def onThePhone : Rooms :=
  reached (quietRooms true) [.voiceStateUpdate phone { channelId := some "100" }]

theorem laptop_hangs_up_phone :
    (onThePhone.getUserVoiceState "1").map VoiceState.sessionId = some "31" ∧
      ((onThePhone.step (.disconnect laptop)).map (fun t => t.getUserVoiceState "1")) = some none ∧
      ¬ onThePhone.KeepsOthers (onThePhone.gatewayLeave laptop) laptop := by
  unfold KeepsOthers
  decide +kernel

end Rooms

end Vokusz.Voice
