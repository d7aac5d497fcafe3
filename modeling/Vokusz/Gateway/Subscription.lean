import Vokusz.Gateway.Connection

namespace Vokusz.Gateway

open Db

structure Subscription where
  conn : Connection
  sent : List GatewayBroadcast := []
  position : Nat := 0
  classified : List GatewayBroadcast := []

inductive SubscriptionAction where
  | send (b : GatewayBroadcast)
  | receive (written : Bool)
  | change (db : Tables)
  | drop
  | close
  | expire
  | resume (afterSeq : Nat) (written : Bool)

inductive Received where
  | lagged (n : Nat)
  | value (b : GatewayBroadcast)
  | pending

namespace Subscription

@[irreducible] def CAPACITY : Nat := 1024

def outstanding (s : Subscription) : Nat := s.sent.length - s.position

def overrun (s : Subscription) : Bool := CAPACITY < s.outstanding

def recv (s : Subscription) : Received :=
  if s.overrun then .lagged (s.outstanding - CAPACITY)
  else
    match s.sent[s.position]? with
    | some b => .value b
    | none => .pending

variable (user : SessionUser)

def receive (s : Subscription) (written : Bool) : Option Subscription :=
  if s.conn.session.phase = .ended then none
  else
    match s.recv with
    | .lagged n => some { s with position := s.position + n }
    | .value b =>
      (s.conn.receive user b written).map (fun conn =>
        { s with
          conn := conn
          position := s.position + 1
          classified := s.classified ++ [b] })
    | .pending => none

def act (s : Subscription) (a : ConnectionAction) : Option Subscription :=
  (s.conn.step user a).map (fun conn => { s with conn := conn })

def step (s : Subscription) : SubscriptionAction → Option Subscription
  | .send b => some { s with sent := s.sent ++ [b] }
  | .receive written => s.receive user written
  | .change db => s.act user (.change db)
  | .drop => s.act user .drop
  | .close => s.act user .close
  | .expire => s.act user .expire
  | .resume afterSeq written => s.act user (.resume afterSeq written)

def start (db : Tables) (spaceIds : List String) : Subscription :=
  { conn := Connection.start db spaceIds }

def run (s : Subscription) (acts : List SubscriptionAction) : Option Subscription :=
  Lib.runFrom (step user) s acts

def Unbroken (s : Subscription) : Prop := s.classified = s.sent.take s.position

def keepsUp (s : Subscription) : SubscriptionAction → Bool
  | .receive _ => !s.overrun
  | _ => true

variable {user : SessionUser} {s t : Subscription} {acts : List SubscriptionAction}

structure Tracked (lossless : Bool) (s : Subscription) : Prop where
  behind : s.position ≤ s.sent.length
  counted : s.classified.length ≤ s.position
  unbroken : lossless = true → s.Unbroken
  broken : lossless = false → s.classified.length < s.position

theorem Tracked.of_conn {lossless : Bool} {conn : Connection} (h : Tracked lossless s) :
    Tracked lossless { s with conn := conn } :=
  ⟨h.behind, h.counted, h.unbroken, h.broken⟩

section

variable {lossless : Bool} (h : Tracked lossless s)

include h

theorem Tracked.send (b : GatewayBroadcast) :
    Tracked lossless { s with sent := s.sent ++ [b] } where
  behind := by
    have hbehind := h.behind
    simp only [List.length_append]
    omega
  counted := h.counted
  unbroken := by
    intro hlossless
    have hbroken := h.unbroken hlossless
    simp only [Unbroken] at hbroken ⊢
    rw [List.take_append_of_le_length h.behind]
    exact hbroken
  broken := h.broken

theorem Tracked.value {conn : Connection} {b : GatewayBroadcast} (hb : s.sent[s.position]? = some b) :
    Tracked lossless
      { s with conn := conn, position := s.position + 1, classified := s.classified ++ [b] } where
  behind := by
    have hlt := (List.getElem?_eq_some_iff.mp hb).1
    simp only
    omega
  counted := by
    have hcounted := h.counted
    simp only [List.length_append, List.length_singleton]
    omega
  unbroken := by
    intro hlossless
    have hunbroken := h.unbroken hlossless
    simp only [Unbroken] at hunbroken ⊢
    rw [hunbroken, List.take_add_one, hb]
    rfl
  broken := by
    intro hlossy
    have hbroken := h.broken hlossy
    simp only [List.length_append, List.length_singleton]
    omega

theorem Tracked.lag (hover : s.overrun = true) :
    Tracked false { s with position := s.position + (s.outstanding - CAPACITY) } := by
  have hmany : CAPACITY < s.sent.length - s.position :=
    of_decide_eq_true hover
  have hcounted := h.counted
  refine ⟨?_, ?_, fun hlossless => absurd hlossless Bool.false_ne_true, fun _ => ?_⟩
  · simp only [outstanding]
    omega
  · simp only [outstanding]
    omega
  · simp only [outstanding]
    omega

theorem Tracked.act {a : ConnectionAction} (hact : s.act user a = some t) : Tracked lossless t := by
  obtain ⟨conn, _, rfl⟩ := Option.map_eq_some_iff.mp hact
  exact h.of_conn

theorem Tracked.receive {written : Bool} (hreceive : s.receive user written = some t) :
    Tracked (lossless && !s.overrun) t := by
  unfold Subscription.receive at hreceive
  split at hreceive
  · cases hreceive
  · unfold recv at hreceive
    cases hover : s.overrun with
    | true =>
      simp only [hover, if_true, Option.some.injEq] at hreceive
      subst hreceive
      simpa using h.lag hover
    | false =>
      cases hb : s.sent[s.position]? with
      | none => simp [hover, hb] at hreceive
      | some b =>
        simp only [hover, hb, Bool.false_eq_true, if_false] at hreceive
        obtain ⟨conn, _, rfl⟩ := Option.map_eq_some_iff.mp hreceive
        simpa using h.value hb

theorem Tracked.step {a : SubscriptionAction} (hstep : s.step user a = some t) :
    Tracked (lossless && s.keepsUp a) t := by
  cases a with
  | receive written => exact h.receive hstep
  | send b =>
    cases hstep
    simpa [keepsUp] using h.send b
  | change db => simpa [keepsUp] using h.act hstep
  | drop => simpa [keepsUp] using h.act hstep
  | close => simpa [keepsUp] using h.act hstep
  | expire => simpa [keepsUp] using h.act hstep
  | resume afterSeq written => simpa [keepsUp] using h.act hstep

end

theorem Tracked.of_run {db : Tables} {spaceIds : List String}
    (hrun : (start db spaceIds).run user acts = some s) :
    Tracked (Lib.meets (Subscription.step user) keepsUp (start db spaceIds) acts) s := by
  have hpair : ∀ acts s, (start db spaceIds).run user acts = some s →
      (start db spaceIds).run user acts = some s ∧
        Tracked (Lib.meets (Subscription.step user) keepsUp (start db spaceIds) acts) s := by
    refine Lib.run_induction ⟨rfl, ?_⟩ ?_
    · refine ⟨Nat.le_refl _, Nat.le_refl _, ?_, ?_⟩
      · exact fun _ => rfl
      · intro hfalse
        cases hfalse
    · intro acts t a u ht hstep
      refine ⟨?_, ?_⟩
      · have hreached : Lib.runFrom (Subscription.step user) (start db spaceIds) acts =
            some t := ht.1
        rw [run, Lib.runFrom_concat, hreached]
        exact hstep
      · rw [Lib.meets_concat ht.1 hstep]
        exact ht.2.step hstep
  exact (hpair acts s hrun).2

theorem unbroken_iff_keeps_up {db : Tables} {spaceIds : List String}
    (hrun : (start db spaceIds).run user acts = some s) :
    (s.conn.session.phase ≠ .ended → s.Unbroken) ↔
      s.conn.session.phase = .ended ∨
        Lib.meets (Subscription.step user) keepsUp (start db spaceIds) acts = true := by
  have htracked := Tracked.of_run hrun
  constructor
  · intro hunbroken
    by_cases hended : s.conn.session.phase = .ended
    · exact .inl hended
    · right
      by_contra hlossy
      have hshort := htracked.broken (by simpa using hlossy)
      have hlength := congrArg List.length (hunbroken hended)
      have hbehind := htracked.behind
      simp only [List.length_take] at hlength
      omega
  · rintro (hended | hlossless) hphase
    · exact absurd hended hphase
    · exact htracked.unbroken hlossless

def quietDb : Tables where
  users := [{ id := "1", username := "ann" }]

def listener : SessionUser := { userId := "1", intents := [] }

def note : GatewayBroadcast :=
  { spaceId := some "10"
    targetUserIds := none
    event := .obj [("type", .str "typing.start")]
    intent := "message_typing" }

theorem run_sends (n : Nat) (s : Subscription) :
    s.run user (List.replicate n (.send note)) =
      some { s with sent := s.sent ++ List.replicate n note } := by
  induction n generalizing s with
  | zero => simp [run]
  | succ n ih =>
    have hnext := ih { s with sent := s.sent ++ [note] }
    rw [List.append_assoc, List.singleton_append, ← List.replicate_succ] at hnext
    exact hnext

def flood : List SubscriptionAction := List.replicate 1025 (.send note)

def flooded : Subscription := { start quietDb [] with sent := List.replicate 1025 note }

def skipped : Subscription := { flooded with position := 1 }

theorem overrun_session_goes_on :
    (start quietDb []).run listener flood = some flooded ∧
      flooded.step listener (.receive true) = some skipped ∧
      ¬ (skipped.conn.session.phase ≠ .ended → skipped.Unbroken) := by
  have hlength : flooded.sent.length = 1025 := List.length_replicate
  have hposition : flooded.position = 0 := rfl
  have hmany : flooded.outstanding = 1025 := by
    rw [outstanding, hlength, hposition]
  have hover : flooded.overrun = true := by
    unfold overrun CAPACITY
    rw [hmany]
    rfl
  have hlag : flooded.outstanding - CAPACITY = 1 := by
    unfold CAPACITY
    rw [hmany]
  refine ⟨run_sends 1025 _, ?_, ?_⟩
  · have hlive : flooded.conn.session.phase = .live := rfl
    simp only [step, receive, hlive, recv, hover, hlag, if_true]
    rfl
  · intro hunbroken
    have hempty : [] = (flooded.sent).take 1 := hunbroken (by decide)
    cases hempty

def attentive : List SubscriptionAction := [.send note, .receive true]

def heard : Subscription := ((start quietDb []).run listener attentive).getD (start quietDb [])

theorem attentive_session_unbroken :
    (heard.conn.session.phase ≠ .ended → heard.Unbroken) ↔
      heard.conn.session.phase = .ended ∨
        Lib.meets (Subscription.step listener) keepsUp (start quietDb []) attentive = true :=
  @unbroken_iff_keeps_up listener heard attentive quietDb []
    (Lib.runFrom_getD (by decide +kernel))

end Subscription

end Vokusz.Gateway
