import Vokusz.Lib.Transition

namespace Vokusz.Client.Gateway

open Lib (meets Along)

inductive GatewayState where
  | disconnected | connecting | connected | resuming
  deriving DecidableEq, Repr

structure Options where
  maxReconnectAttempts : Nat := 10
  stableSessionThreshold : Nat := 30000
  gatewayConnectUrl : String := ""
  validEndpoint : String → Bool

def Options.endpoint (o : Options) (url : String) : String :=
  if url ≠ "" then url else o.gatewayConnectUrl

-- A connection is a number; `listening` are those whose stream is still heard, `backoffs` and
-- `invalidated` count the sleeps that lead to a reconnect. No code reads `rejected`.
structure Socket where
  state : GatewayState := .disconnected
  conn : Option Nat := none
  sub : Option Nat := none
  listening : List Nat := []
  opened : Nat := 0
  gatewayUrl : String := ""
  sessionId : String := ""
  sequence : Int := 0
  sessionLive : Bool := false
  sessionStartedAt : Option Nat := none
  resumeSupported : Bool := false
  resumePending : Bool := false
  probePending : Bool := false
  heartbeatAckReceived : Bool := true
  heartbeat : Bool := false
  reconnectAttempts : Nat := 0
  reconnectCancelled : Bool := false
  backoffs : Nat := 0
  invalidated : Nat := 0
  closings : Nat := 0
  rejected : Bool := false
  deriving DecidableEq, Repr

inductive Frame where
  | hello (resumable : Bool)
  | heartbeatAck
  | heartbeat
  | reconnect
  | invalidSession (resumable : Bool)
  | ready (sessionId : String) (resumable : Bool)
  | resumed
  | event
  deriving DecidableEq, Repr

namespace Socket

variable (o : Options) (s : Socket)

def teardownConnection : Socket :=
  { s with
    listening := s.listening.filter (fun c => s.sub ≠ some c)
    sub := none
    conn := none }

def openConnection (initialState : GatewayState) : Socket :=
  let t := s.teardownConnection
  { t with
    sessionLive := false
    state := initialState
    conn := some t.opened
    sub := some t.opened
    listening := t.opened :: t.listening
    opened := t.opened + 1
    rejected := false }

def dropSession : Socket := { s with sessionId := "", sequence := 0 }

def handshake : Socket :=
  if s.sessionId = "" then s.openConnection .connecting
  else if s.resumeSupported then s.openConnection .resuming
  else s.dropSession.openConnection .connecting

def ready : Socket := if s.state = .connecting then { s with state := .connected } else s

def connectToGateway (url : String) : Socket :=
  if s.state ≠ .disconnected then s
  else if o.validEndpoint (o.endpoint url) then
    { s with
      gatewayUrl := o.endpoint url
      reconnectAttempts := 0
      reconnectCancelled := false }.openConnection .connecting
  else s

def disconnectFromGateway : Socket :=
  if s.state = .disconnected then { s with reconnectCancelled := true }
  else
    { s with
      reconnectCancelled := true
      state := .disconnected
      heartbeat := false
      listening := s.listening.filter (fun c => s.sub ≠ some c)
      closings := s.closings + 1 }

def afterCancel : Socket := { s with closings := s.closings - 1, sub := none }

def probeLiveness : Socket :=
  if s.probePending then s
  else { s with probePending := true, heartbeat := false, heartbeatAckReceived := false }

def afterProbe : Socket :=
  { s with probePending := false, heartbeat := s.heartbeat || s.heartbeatAckReceived }

def ensureConnected : Socket :=
  if s.reconnectCancelled || s.gatewayUrl = "" then s
  else if s.state = .disconnected then { s with reconnectAttempts := 0 }.handshake
  else if s.state ≠ .connected then s
  else s.probeLiveness

def creditStableSession (now : Nat) : Socket :=
  { s with
    sessionStartedAt := none
    reconnectAttempts :=
      if s.sessionStartedAt.any (fun startedAt => startedAt + o.stableSessionThreshold ≤ now) then 0
      else s.reconnectAttempts }

def fatalCodes : List Nat := [4003, 4004, 4012, 4013, 4014]

def shouldReconnect (code : Nat) : Bool :=
  !fatalCodes.contains code && s.reconnectAttempts < o.maxReconnectAttempts

def attemptReconnect : Socket :=
  { s with reconnectAttempts := s.reconnectAttempts + 1, backoffs := s.backoffs + 1 }

def afterBackoff : Socket :=
  let t := { s with backoffs := s.backoffs - 1 }
  if t.reconnectCancelled then t else t.handshake

def dropPendingResume : Socket :=
  if s.resumePending then { s.dropSession with resumePending := false } else s

def reconnects (code now : Nat) : Bool :=
  !s.reconnectCancelled && (s.creditStableSession o now).shouldReconnect o code

def onClosed (code now : Nat) : Socket :=
  let t :=
    { (s.creditStableSession o now).dropPendingResume with
      sessionLive := false
      heartbeat := false
      state := .disconnected }
  if s.reconnects o code now then t.attemptReconnect else t

def sendHeartbeat : Socket :=
  if s.heartbeatAckReceived then { s with heartbeatAckReceived := false } else s

def onHello (resumable : Bool) : Socket :=
  let t :=
    { s with
      heartbeatAckReceived := true
      heartbeat := true
      resumeSupported := s.resumeSupported || resumable }
  if t.sessionId ≠ "" ∧ t.state = .resuming ∧ t.resumeSupported = true then
    { t with resumePending := true }
  else
    { t.dropSession with state := if t.state = .resuming then .connected else t.state }

def handleInvalidSession (resumable : Bool) : Socket :=
  let t :=
    if resumable then { s with sessionLive := false }
    else { s.dropSession with sessionLive := false }
  if o.maxReconnectAttempts ≤ t.reconnectAttempts then
    { t with state := .disconnected, heartbeat := false }
  else { t with invalidated := t.invalidated + 1 }

def afterInvalid : Socket :=
  let t := { s with invalidated := s.invalidated - 1 }
  if t.reconnectCancelled then t else t.attemptReconnect

def markSessionLive (now : Nat) : Socket :=
  { s with
    sessionStartedAt := some now
    resumePending := false
    sessionLive := true
    rejected := false }

def handleFrame (now : Nat) : Frame → Socket
  | .hello resumable => s.onHello resumable
  | .heartbeatAck => { s with heartbeatAckReceived := true }
  | .heartbeat => s.sendHeartbeat
  | .reconnect => s
  | .invalidSession resumable => s.handleInvalidSession o resumable
  | .ready sessionId resumable =>
    { s with
      sessionId := sessionId
      resumeSupported := s.resumeSupported || resumable }.markSessionLive now
  | .resumed => s.markSessionLive now
  | .event => s

def noted (c : Nat) : Frame → Socket
  | .invalidSession _ => { s with rejected := s.rejected || s.conn = some c }
  | _ => s

def handleMessage (c : Nat) (seq : Option Int) (f : Frame) (now : Nat) : Socket :=
  ({ s with sequence := seq.getD s.sequence }.noted c f).handleFrame o now f

def pending : Nat := s.backoffs + s.invalidated

def inUse : Bool := s.conn.any s.listening.contains && !s.rejected

end Socket

inductive Action where
  | connectToGateway (url : String)
  | disconnectFromGateway
  | cancelled
  | ensureConnected
  | probeTimeout
  | handshaken
  | heartbeatTimer
  | backoffExpired
  | invalidExpired
  | frame (c : Nat) (seq : Option Int) (f : Frame) (now : Nat)
  | closed (c code now : Nat)
  deriving DecidableEq, Repr

def Options.step (o : Options) (s : Socket) : Action → Option Socket
  | .connectToGateway url => some (s.connectToGateway o url)
  | .disconnectFromGateway => some s.disconnectFromGateway
  | .cancelled => if 0 < s.closings then some s.afterCancel else none
  | .ensureConnected => some s.ensureConnected
  | .probeTimeout => if s.probePending then some s.afterProbe else none
  | .handshaken => if s.conn.isSome then some s.ready else none
  | .heartbeatTimer => if s.heartbeat then some s.sendHeartbeat else none
  | .backoffExpired => if 0 < s.backoffs then some s.afterBackoff else none
  | .invalidExpired => if 0 < s.invalidated then some s.afterInvalid else none
  | .frame c seq f now => if c ∈ s.listening then some (s.handleMessage o c seq f now) else none
  | .closed c code now =>
    if c ∈ s.listening then
      some ({ s with listening := s.listening.filter (· ≠ c) }.onClosed o code now)
    else none

def SingleFlight (s t : Socket) : Prop :=
  t.pending ≤ 1 ∧ (t.backoffs < s.backoffs → s.inUse = true → t.conn = s.conn)

def opens (o : Options) (s : Socket) : Action → Bool
  | .connectToGateway url =>
    s.state = .disconnected && o.validEndpoint (o.endpoint url)
  | .ensureConnected => !s.reconnectCancelled && s.gatewayUrl ≠ "" && s.state = .disconnected
  | .frame _ _ (.ready _ _) _ => true
  | .frame _ _ .resumed _ => true
  | _ => false

def schedules (o : Options) (s : Socket) : Action → Option Nat
  | .frame c _ (.invalidSession _) _ =>
    if s.reconnectAttempts < o.maxReconnectAttempts then some c else none
  | .closed c code now => if s.reconnects o code now then some c else none
  | _ => none

def calm (o : Options) (s : Socket) (a : Action) : Bool :=
  (!opens o s a || s.pending = 0) &&
    (schedules o s a).all (fun c => s.pending = 0 && s.conn = some c)

structure Calm (s : Socket) : Prop where
  single : s.pending ≤ 1
  replaced : 0 < s.pending → s.inUse = false

section

variable {o : Options} {s t : Socket}

theorem inUse_iff : s.inUse = true ↔
    (∃ c, s.conn = some c ∧ c ∈ s.listening) ∧ s.rejected = false := by
  simp only [Socket.inUse, Bool.and_eq_true, Option.any_eq_true, List.contains_iff_mem,
    Bool.not_eq_true']

theorem Calm.quiet (h : s.pending = 0) : Calm s := by
  constructor
  · omega
  · omega

theorem Calm.same (h : Calm s) (hpending : t.pending ≤ s.pending)
    (huse : t.inUse = true → s.inUse = true) : Calm t := by
  constructor
  · exact Nat.le_trans hpending h.single
  · intro hpos
    have hold := h.replaced (by omega)
    cases hnew : t.inUse with
    | false => rfl
    | true =>
      rw [huse hnew] at hold
      cases hold

theorem Calm.scheduled (hone : t.pending = 1) (huse : t.inUse = false) : Calm t :=
  ⟨Nat.le_of_eq hone, fun _ => huse⟩

@[simp] theorem pending_openConnection (st : GatewayState) :
    (s.openConnection st).pending = s.pending := rfl

@[simp] theorem pending_handshake : s.handshake.pending = s.pending := by
  unfold Socket.handshake
  split
  · rfl
  · split <;> rfl

theorem inUse_of_listening {cs : List Nat} (hsub : ∀ c ∈ cs, c ∈ s.listening)
    (hconn : t.conn = s.conn) (hlist : t.listening = cs) (hrej : t.rejected = s.rejected)
    (h : t.inUse = true) : s.inUse = true := by
  obtain ⟨⟨c, hc, hmem⟩, hrejected⟩ := inUse_iff.mp h
  rw [hconn] at hc
  rw [hlist] at hmem
  rw [hrej] at hrejected
  exact inUse_iff.mpr ⟨⟨c, hc, hsub c hmem⟩, hrejected⟩

theorem inUse_same (hconn : t.conn = s.conn) (hlist : t.listening = s.listening)
    (hrej : t.rejected = s.rejected) (h : t.inUse = true) : s.inUse = true :=
  inUse_of_listening (fun _ hc => hc) hconn hlist hrej h

theorem calm_connectToGateway {url : String} (h : Calm s)
    (hcalm : calm o s (.connectToGateway url) = true) : Calm (s.connectToGateway o url) := by
  unfold Socket.connectToGateway
  split
  · exact h
  · rename_i hstate
    split
    · rename_i hvalid
      have hstate : s.state = .disconnected := by simpa using hstate
      have hnone : s.pending = 0 := by simpa [calm, opens, schedules, hstate, hvalid] using hcalm
      exact .quiet hnone
    · exact h

theorem calm_disconnectFromGateway (h : Calm s) : Calm s.disconnectFromGateway := by
  unfold Socket.disconnectFromGateway
  split
  · exact h.same (Nat.le_refl _) (inUse_same rfl rfl rfl)
  · exact h.same (Nat.le_refl _)
      (inUse_of_listening (fun c hc => (List.mem_filter.mp hc).1) rfl rfl rfl)

theorem calm_probeLiveness (h : Calm s) : Calm s.probeLiveness := by
  unfold Socket.probeLiveness
  split
  · exact h
  · exact h.same (Nat.le_refl _) (inUse_same rfl rfl rfl)

theorem calm_ensureConnected (h : Calm s) (hcalm : calm o s .ensureConnected = true) :
    Calm s.ensureConnected := by
  unfold Socket.ensureConnected
  split
  · exact h
  · rename_i hactive
    split
    · rename_i hstate
      simp only [Bool.or_eq_true, decide_eq_true_eq, not_or, Bool.not_eq_true] at hactive
      have hnone : s.pending = 0 := by
        simpa [calm, opens, schedules, hstate, hactive.1, hactive.2] using hcalm
      refine .quiet ?_
      rw [pending_handshake]
      exact hnone
    · split
      · exact h
      · exact calm_probeLiveness h

theorem pending_afterBackoff (hpos : 0 < s.backoffs) : s.afterBackoff.pending + 1 = s.pending := by
  unfold Socket.afterBackoff
  dsimp only
  split
  · simp only [Socket.pending]
    omega
  · rw [pending_handshake]
    simp only [Socket.pending]
    omega

section

variable (h : Calm s)

include h

theorem calm_afterBackoff (hpos : 0 < s.backoffs) : Calm s.afterBackoff := by
  have hless := pending_afterBackoff hpos
  have hone := h.single
  exact .quiet (by omega)

theorem calm_afterInvalid (hpos : 0 < s.invalidated) : Calm s.afterInvalid := by
  unfold Socket.afterInvalid
  dsimp only
  split
  · refine h.same ?_ (inUse_same rfl rfl rfl)
    simp only [Socket.pending]
    omega
  · refine h.same ?_ (inUse_same rfl rfl rfl)
    simp only [Socket.pending, Socket.attemptReconnect]
    omega

theorem calm_onClosed {c code now : Nat} (hcalm : calm o s (.closed c code now) = true) :
    Calm ({ s with listening := s.listening.filter (· ≠ c) }.onClosed o code now) := by
  have hcredit : ∀ t : Socket, ((t.creditStableSession o now).dropPendingResume.conn,
      (t.creditStableSession o now).dropPendingResume.listening,
      (t.creditStableSession o now).dropPendingResume.rejected,
      (t.creditStableSession o now).dropPendingResume.backoffs,
      (t.creditStableSession o now).dropPendingResume.invalidated) =
        (t.conn, t.listening, t.rejected, t.backoffs, t.invalidated) := by
    intro t
    unfold Socket.dropPendingResume
    split <;> rfl
  have hview := hcredit { s with listening := s.listening.filter (· ≠ c) }
  simp only [Prod.mk.injEq] at hview
  obtain ⟨hconn, hlist, hrej, hback, hinv⟩ := hview
  have hsub : ∀ d ∈ s.listening.filter (· ≠ c), d ∈ s.listening :=
    fun d hd => (List.mem_filter.mp hd).1
  unfold Socket.onClosed
  dsimp only
  split
  · rename_i hreconnects
    have hreconnects : s.reconnects o code now = true := hreconnects
    have hsched : s.pending = 0 ∧ s.conn = some c := by
      simpa [calm, opens, schedules, hreconnects] using hcalm
    refine .scheduled ?_ ?_
    · have hnone := hsched.1
      simp only [Socket.pending, Socket.attemptReconnect, hback, hinv] at hnone ⊢
      omega
    · rw [Bool.eq_false_iff]
      intro huse
      obtain ⟨⟨d, hd, hmem⟩, -⟩ := inUse_iff.mp huse
      simp only [Socket.attemptReconnect, hconn, hlist] at hd hmem
      rw [hsched.2, Option.some.injEq] at hd
      have hne := (List.mem_filter.mp hmem).2
      simp [hd] at hne
  · refine h.same ?_ (inUse_of_listening hsub hconn hlist hrej)
    simp only [Socket.pending, hback, hinv]
    exact Nat.le_refl _

theorem calm_handleInvalidSession {c : Nat} {resumable : Bool}
    (hnone : s.reconnectAttempts < o.maxReconnectAttempts → s.pending = 0 ∧ s.conn = some c) :
    Calm ((s.noted c (.invalidSession resumable)).handleInvalidSession o resumable) := by
  have hrej : ∀ {u : Socket}, u.conn = s.conn → u.listening = s.listening →
      u.rejected = (s.rejected || s.conn = some c) → u.inUse = true → s.inUse = true := by
    intro u hconn hlist hrejected huse
    obtain ⟨hheard, hfree⟩ := inUse_iff.mp huse
    rw [hconn, hlist] at hheard
    rw [hrejected, Bool.or_eq_false_iff] at hfree
    exact inUse_iff.mpr ⟨hheard, hfree.1⟩
  have hrefused : ∀ {u : Socket}, u.rejected = (s.rejected || s.conn = some c) →
      s.conn = some c → u.inUse = false := by
    intro u hrejected hconn
    rw [Socket.inUse, hrejected, hconn]
    simp
  cases resumable with
  | true =>
    simp only [Socket.handleInvalidSession, Socket.noted, if_true]
    split
    · exact h.same (Nat.le_refl _) (hrej rfl rfl rfl)
    · rename_i hmore
      obtain ⟨hzero, hconn⟩ := hnone (by omega)
      refine .scheduled ?_ (hrefused rfl hconn)
      simp only [Socket.pending] at hzero ⊢
      omega
  | false =>
    simp only [Socket.handleInvalidSession, Socket.noted, Socket.dropSession, Bool.false_eq_true,
      if_false]
    split
    · exact h.same (Nat.le_refl _) (hrej rfl rfl rfl)
    · rename_i hmore
      obtain ⟨hzero, hconn⟩ := hnone (by omega)
      refine .scheduled ?_ (hrefused rfl hconn)
      simp only [Socket.pending] at hzero ⊢
      omega

theorem calm_onHello (resumable : Bool) : Calm (s.onHello resumable) := by
  unfold Socket.onHello
  dsimp only
  split
  · exact h.same (Nat.le_refl _) (inUse_same rfl rfl rfl)
  · exact h.same (Nat.le_refl _) (inUse_same rfl rfl rfl)

theorem calm_sendHeartbeat : Calm s.sendHeartbeat := by
  unfold Socket.sendHeartbeat
  split
  · exact h.same (Nat.le_refl _) (inUse_same rfl rfl rfl)
  · exact h

theorem calm_ready : Calm s.ready := by
  unfold Socket.ready
  split
  · exact h.same (Nat.le_refl _) (inUse_same rfl rfl rfl)
  · exact h

theorem calm_handleMessage {c now : Nat} {seq : Option Int} {f : Frame}
    (hcalm : calm o s (.frame c seq f now) = true) : Calm (s.handleMessage o c seq f now) := by
  have hseq : Calm { s with sequence := seq.getD s.sequence } :=
    h.same (Nat.le_refl _) (inUse_same rfl rfl rfl)
  cases f with
  | hello resumable => exact calm_onHello hseq resumable
  | heartbeatAck => exact hseq.same (Nat.le_refl _) (inUse_same rfl rfl rfl)
  | heartbeat => exact calm_sendHeartbeat hseq
  | reconnect => exact hseq
  | event => exact hseq
  | invalidSession resumable =>
    refine calm_handleInvalidSession hseq (fun hmore => ?_)
    have hmore : s.reconnectAttempts < o.maxReconnectAttempts := hmore
    have hsched : s.pending = 0 ∧ s.conn = some c := by
      simpa [calm, opens, schedules, hmore] using hcalm
    exact hsched
  | ready sessionId resumable =>
    have hnone : s.pending = 0 := by simpa [calm, opens, schedules] using hcalm
    exact .quiet hnone
  | resumed =>
    have hnone : s.pending = 0 := by simpa [calm, opens, schedules] using hcalm
    exact .quiet hnone

theorem calm_step {a : Action} (hcalm : calm o s a = true) (hstep : o.step s a = some t) :
    Calm t := by
  cases a with
  | connectToGateway url =>
    cases hstep
    exact calm_connectToGateway h hcalm
  | disconnectFromGateway =>
    cases hstep
    exact calm_disconnectFromGateway h
  | cancelled =>
    obtain ⟨-, hstep⟩ := Option.ite_none_right_eq_some.mp hstep
    cases hstep
    exact h.same (Nat.le_refl _) (inUse_same rfl rfl rfl)
  | ensureConnected =>
    cases hstep
    exact calm_ensureConnected h hcalm
  | probeTimeout =>
    obtain ⟨-, hstep⟩ := Option.ite_none_right_eq_some.mp hstep
    cases hstep
    exact h.same (Nat.le_refl _) (inUse_same rfl rfl rfl)
  | handshaken =>
    obtain ⟨-, hstep⟩ := Option.ite_none_right_eq_some.mp hstep
    cases hstep
    exact calm_ready h
  | heartbeatTimer =>
    obtain ⟨-, hstep⟩ := Option.ite_none_right_eq_some.mp hstep
    cases hstep
    exact calm_sendHeartbeat h
  | backoffExpired =>
    obtain ⟨hpos, hstep⟩ := Option.ite_none_right_eq_some.mp hstep
    cases hstep
    exact calm_afterBackoff h hpos
  | invalidExpired =>
    obtain ⟨hpos, hstep⟩ := Option.ite_none_right_eq_some.mp hstep
    cases hstep
    exact calm_afterInvalid h hpos
  | frame c seq f now =>
    obtain ⟨-, hstep⟩ := Option.ite_none_right_eq_some.mp hstep
    cases hstep
    exact calm_handleMessage h hcalm
  | closed c code now =>
    obtain ⟨-, hstep⟩ := Option.ite_none_right_eq_some.mp hstep
    cases hstep
    exact calm_onClosed h hcalm

theorem singleFlight_step {a : Action} (hcalm : calm o s a = true) (hstep : o.step s a = some t) :
    SingleFlight s t := by
  refine ⟨(calm_step h hcalm hstep).single, fun hexpired huse => ?_⟩
  have hpos : 0 < s.pending := by
    rw [Socket.pending]
    omega
  rw [h.replaced hpos] at huse
  cases huse

end

end

theorem reconnect_single_flight (o : Options) (acts : List Action)
    (h : meets o.step (calm o) {} acts = true) : Along o.step SingleFlight {} acts := by
  have hkeep : ∀ s a t, Calm s → calm o s a = true → o.step s a = some t → Calm t :=
    fun s a t hs hcalm hstep => calm_step hs hcalm hstep
  have hstep : ∀ s a t, Calm s → calm o s a = true → o.step s a = some t → SingleFlight s t :=
    fun s a t hs hcalm hstep => singleFlight_step hs hcalm hstep
  exact Lib.along_of_meets hkeep hstep (.quiet rfl) h

def anyEndpoint : Options := { validEndpoint := fun _ => true }

def sessionStarts : List Action :=
  [.connectToGateway "wss://chat.example/ws", .handshaken, .frame 0 none (.hello false) 0,
    .frame 0 none (.ready "a1" false) 10]

theorem closed_then_reopened : Along anyEndpoint.step SingleFlight {}
    (sessionStarts ++ [.closed 0 1006 20, .backoffExpired, .handshaken]) :=
  reconnect_single_flight anyEndpoint _ (by decide)

theorem refused_then_closed : ¬ Along anyEndpoint.step SingleFlight {}
    (sessionStarts ++ [.frame 0 none (.invalidSession false) 20, .closed 0 1006 21]) := by
  intro h
  have hstarted := (((h _ rfl).2 _ rfl).2 _ rfl).2 _ rfl
  have hsingle := ((hstarted.2 _ rfl).2 _ rfl).1.1
  exact absurd hsingle (by decide)

end Vokusz.Client.Gateway
