import Vokusz.Gateway.Classify
import Vokusz.Gateway.Resume
import Vokusz.Lib.Transition

namespace Vokusz.Gateway

open Resume

def stampSeq (event : Json) (seq : Nat) : Json :=
  match event with
  | .obj fields => .obj (fields.filter (fun f => f.1 ≠ "seq") ++ [("seq", .num seq)])
  | event => event

inductive Phase where
  | live
  | parked
  | ended
deriving DecidableEq, Repr

structure History where
  stamped : Buffer := []
  retained : Buffer := []
  received : Buffer := []
deriving DecidableEq

structure Session where
  phase : Phase := .live
  handover : Handover := { seq := 1, buffer := [] }
  history : History := {}
deriving DecidableEq

inductive SessionAction where
  | deliver (event : Json) (written : Bool)
  | drop
  | close
  | collect (event : Json)
  | expire
  | resume (afterSeq : Nat) (canReceive : String → Bool) (written : Bool)

namespace Session

def nextEntry (s : Session) (event : Json) : Nat × Json :=
  (s.handover.seq + 1, stampSeq event (s.handover.seq + 1))

def stamp (s : Session) (event : Json) : Session :=
  { s with
    handover := { s.handover with seq := s.handover.seq + 1 }
    history := { s.history with stamped := s.history.stamped ++ [s.nextEntry event] } }

def retain (s : Session) (entry : Nat × Json) : Session :=
  { s with
    handover := { s.handover with buffer := push s.handover.buffer entry.1 entry.2 }
    history := { s.history with retained := s.history.retained ++ [entry] } }

theorem retain_buffer (s : Session) (entry : Nat × Json) :
    (s.retain entry).handover.buffer = push s.handover.buffer entry.1 entry.2 := rfl

def receive (s : Session) (entries : Buffer) : Session :=
  { s with history := { s.history with received := s.history.received ++ entries } }

def processed (s : Session) (afterSeq : Nat) : Bool :=
  afterSeq == 1 || s.history.received.any (fun e => e.1 == afterSeq)

def replayChannel (payload : Json) : Option String :=
  (payload.field? "data").bind (·.getStr? "channel_id")

def replayable (canReceive : String → Bool) (missed : Buffer) : Bool :=
  missed.all (fun e => (replayChannel e.2).all canReceive)

def resumeWith (s : Session) (afterSeq : Nat) (missed : Buffer) : Session :=
  { s with
    phase := .live
    history := { s.history with received := upTo s.history.received afterSeq ++ missed } }

def claim (s : Session) (afterSeq : Nat) (canReceive : String → Bool) (written : Bool) : Session :=
  match missedEntries s.handover.buffer s.handover.seq afterSeq with
  | none => { s with phase := .ended }
  | some missed =>
    if replayable canReceive missed && written then s.resumeWith afterSeq missed
    else { s with phase := .ended }

def step (s : Session) : SessionAction → Option Session
  | .deliver event written =>
    if s.phase ≠ .live then none
    else if written then
      some (((s.stamp event).receive [s.nextEntry event]).retain (s.nextEntry event))
    else some { s.stamp event with phase := .parked }
  | .drop => if s.phase = .live then some { s with phase := .parked } else none
  | .close => if s.phase = .live then some { s with phase := .ended } else none
  | .collect event =>
    if s.phase = .parked then some ((s.stamp event).retain (s.nextEntry event)) else none
  | .expire => if s.phase = .parked then some { s with phase := .ended } else none
  | .resume afterSeq canReceive written =>
    if s.phase = .parked ∧ s.processed afterSeq = true then
      some (s.claim afterSeq canReceive written)
    else none

def run (acts : List SessionAction) : Option Session := Lib.runFrom step {} acts

end Session

def SessionAction.lost : SessionAction → Bool
  | .deliver _ written => !written
  | _ => false

structure Session.Consistent (acts : List SessionAction) (s : Session) : Prop where
  counted : s.handover.seq = s.history.stamped.length + 1
  numbered : s.history.stamped.map Prod.fst = List.range' 2 s.history.stamped.length
  sublist : s.history.retained.Sublist s.history.stamped
  lost : s.history.retained.length + acts.countP SessionAction.lost = s.history.stamped.length
  buffered : s.handover.buffer <:+ s.history.retained
  behind : s.history.received <+: s.history.retained
  current : s.phase = .live → s.history.received = s.history.retained
  bounded : s.handover.buffer.length ≤ REPLAY_BUFFER_LIMIT

namespace Session.Consistent

variable {acts : List SessionAction} {s : Session}

theorem stamped_bounds (h : s.Consistent acts) :
    ∀ e ∈ s.history.stamped, 2 ≤ e.1 ∧ e.1 ≤ s.handover.seq := by
  intro e he
  have hmem : e.1 ∈ List.range' 2 s.history.stamped.length := by
    rw [← h.numbered]
    exact List.mem_map_of_mem he
  have hcount := h.counted
  rw [List.mem_range'_1] at hmem
  omega

theorem retained_bounds (h : s.Consistent acts) :
    ∀ e ∈ s.history.retained, 2 ≤ e.1 ∧ e.1 ≤ s.handover.seq :=
  fun e he => h.stamped_bounds e (h.sublist.subset he)

theorem increasing (h : s.Consistent acts) : Increasing s.history.retained := by
  have hstamped : Increasing s.history.stamped := by
    have hrange : (s.history.stamped.map Prod.fst).Pairwise (· < ·) := by
      rw [h.numbered]
      exact List.pairwise_lt_range'
    exact List.pairwise_map.mp hrange
  exact hstamped.sublist h.sublist

theorem numbered_concat (h : s.Consistent acts) (payload : Json) :
    (s.history.stamped ++ [(s.handover.seq + 1, payload)]).map Prod.fst =
      List.range' 2 (s.history.stamped ++ [(s.handover.seq + 1, payload)]).length := by
  have hcount := h.counted
  rw [List.map_append, h.numbered, List.length_append, List.length_singleton,
    List.range'_1_concat]
  simp only [List.map_cons, List.map_nil, List.append_cancel_left_eq, List.cons.injEq, and_true]
  omega

theorem resumed (h : s.Consistent acts) {afterSeq : Nat} {missed : Buffer}
    (hprocessed : s.processed afterSeq = true)
    (hmissed : missedEntries s.handover.buffer s.handover.seq afterSeq = some missed) :
    upTo s.history.received afterSeq ++ missed = s.history.retained := by
  have hseen : upTo s.history.received afterSeq = upTo s.history.retained afterSeq := by
    apply upTo_of_prefix h.increasing h.behind
    rcases (by simpa [processed] using hprocessed) with hready | ⟨payload, hmem⟩
    · right
      intro e he
      have hlow := (h.retained_bounds e he).1
      omega
    · exact .inl ⟨_, hmem, rfl⟩
  have hreplay : missed = beyond s.history.retained afterSeq :=
    missedEntries_eq_beyond h.increasing h.buffered (fun e he => (h.retained_bounds e he).2) hmissed
  rw [hseen, hreplay]
  exact upTo_append_beyond h.increasing afterSeq

theorem initial : Session.Consistent [] {} where
  counted := rfl
  numbered := rfl
  sublist := .refl _
  lost := rfl
  buffered := List.suffix_rfl
  behind := List.prefix_rfl
  current := fun _ => rfl
  bounded := by decide

theorem countP_concat (acts : List SessionAction) (a : SessionAction) :
    (acts ++ [a]).countP SessionAction.lost =
      acts.countP SessionAction.lost + (if a.lost then 1 else 0) := by
  rw [List.countP_append, List.countP_singleton]

section

variable (h : s.Consistent acts)

include h

theorem delivered (hlive : s.phase = .live) (event : Json) :
    (((s.stamp event).receive [s.nextEntry event]).retain (s.nextEntry event)).Consistent
      (acts ++ [.deliver event true]) where
  counted := by simp [retain, receive, stamp, h.counted]
  numbered := h.numbered_concat _
  sublist := h.sublist.append (.refl _)
  lost := by
    have hlost := h.lost
    simp only [countP_concat, retain, receive, stamp, SessionAction.lost, List.length_append,
      List.length_singleton, Bool.not_true]
    simp
    omega
  buffered := push_suffix h.buffered _ _
  behind := by
    change s.history.received ++ _ <+: s.history.retained ++ _
    have hcurrent := h.current hlive
    simp [hcurrent]
  current := by
    intro _
    change s.history.received ++ _ = s.history.retained ++ _
    rw [h.current hlive]
  bounded := by
    rw [retain_buffer]
    exact push_length _ _ _

theorem lostWrite (event : Json) :
    Session.Consistent (acts ++ [.deliver event false]) { s.stamp event with phase := .parked } where
  counted := by simp [stamp, h.counted]
  numbered := h.numbered_concat _
  sublist := h.sublist.trans (List.sublist_append_left _ _)
  lost := by
    have hlost := h.lost
    simp only [countP_concat, stamp, SessionAction.lost, List.length_append,
      List.length_singleton, Bool.not_false]
    simp
    omega
  buffered := h.buffered
  behind := h.behind
  current := by simp
  bounded := h.bounded

theorem collected (hparked : s.phase = .parked) (event : Json) :
    ((s.stamp event).retain (s.nextEntry event)).Consistent (acts ++ [.collect event]) where
  counted := by simp [retain, stamp, h.counted]
  numbered := h.numbered_concat _
  sublist := h.sublist.append (.refl _)
  lost := by
    have hlost := h.lost
    simp only [countP_concat, retain, stamp, SessionAction.lost, List.length_append,
      List.length_singleton]
    simp
    omega
  buffered := push_suffix h.buffered _ _
  behind := h.behind.trans (List.prefix_append _ _)
  current := by simp [retain, stamp, hparked]
  bounded := by
    rw [retain_buffer]
    exact push_length _ _ _

theorem moved {a : SessionAction} (ha : a.lost = false) {phase : Phase} (hphase : phase ≠ .live) :
    Session.Consistent (acts ++ [a]) { s with phase := phase } where
  counted := h.counted
  numbered := h.numbered
  sublist := h.sublist
  lost := by simpa [countP_concat, ha] using h.lost
  buffered := h.buffered
  behind := h.behind
  current := fun hlive => absurd hlive hphase
  bounded := h.bounded

theorem resumedWith {a : SessionAction} (ha : a.lost = false) {afterSeq : Nat} {missed : Buffer}
    (hprocessed : s.processed afterSeq = true)
    (hmissed : missedEntries s.handover.buffer s.handover.seq afterSeq = some missed) :
    (s.resumeWith afterSeq missed).Consistent (acts ++ [a]) where
  counted := h.counted
  numbered := h.numbered
  sublist := h.sublist
  lost := by simpa [countP_concat, ha, resumeWith] using h.lost
  buffered := h.buffered
  behind := by
    change upTo s.history.received afterSeq ++ missed <+: s.history.retained
    have hresumed := h.resumed hprocessed hmissed
    simp [hresumed]
  current := fun _ => h.resumed hprocessed hmissed
  bounded := h.bounded

theorem claimed {afterSeq : Nat} (canReceive : String → Bool) (written : Bool)
    (hprocessed : s.processed afterSeq = true) :
    (s.claim afterSeq canReceive written).Consistent
      (acts ++ [.resume afterSeq canReceive written]) := by
  unfold claim
  cases hmissed : missedEntries s.handover.buffer s.handover.seq afterSeq with
  | none => exact h.moved rfl (by decide)
  | some missed =>
    simp only
    split
    · exact h.resumedWith rfl hprocessed hmissed
    · exact h.moved rfl (by decide)

end

theorem of_guard {c : Prop} [Decidable c] {t u : Session}
    (h : (if c then some u else none) = some t) : c ∧ u = t := by
  simpa using h

theorem step {a : SessionAction} {t : Session} (h : s.Consistent acts)
    (hstep : s.step a = some t) : t.Consistent (acts ++ [a]) := by
  cases a with
  | deliver event written =>
    simp only [Session.step] at hstep
    by_cases hlive : s.phase = .live
    · cases written with
      | true =>
        simp only [hlive, ne_eq, not_true, if_false, if_true, Option.some.injEq] at hstep
        subst hstep
        exact h.delivered hlive event
      | false =>
        simp only [hlive, ne_eq, not_true, if_false, Bool.false_eq_true, Option.some.injEq] at hstep
        subst hstep
        exact h.lostWrite event
    · simp [hlive] at hstep
  | drop =>
    obtain ⟨_, rfl⟩ := of_guard hstep
    exact h.moved rfl (by decide)
  | close =>
    obtain ⟨_, rfl⟩ := of_guard hstep
    exact h.moved rfl (by decide)
  | collect event =>
    obtain ⟨hparked, rfl⟩ := of_guard hstep
    exact h.collected hparked event
  | expire =>
    obtain ⟨_, rfl⟩ := of_guard hstep
    exact h.moved rfl (by decide)
  | resume afterSeq canReceive written =>
    obtain ⟨⟨_, hprocessed⟩, rfl⟩ := of_guard hstep
    exact h.claimed canReceive written hprocessed

theorem of_run (hrun : Session.run acts = some s) : s.Consistent acts :=
  Lib.run_induction initial (fun _ _ _ _ hinv hstep => hinv.step hstep) acts s hrun

theorem retained_eq_stamped_iff (h : s.Consistent acts) :
    s.history.retained = s.history.stamped ↔ ∀ a ∈ acts, a.lost = false := by
  have hlost := h.lost
  have hcount : acts.countP SessionAction.lost = 0 ↔ ∀ a ∈ acts, a.lost = false := by
    simp [List.countP_eq_zero]
  rw [← hcount]
  constructor
  · intro heq
    have hlen := congrArg List.length heq
    omega
  · intro hzero
    exact h.sublist.eq_of_length (by omega)

end Session.Consistent

namespace Session

def replayedPayloads (s : Session) (afterSeq : Nat) : Option (List Json) :=
  missedSince s.handover.buffer s.handover.seq afterSeq

def processedPayloads (s : Session) (afterSeq : Nat) : List Json :=
  (upTo s.history.received afterSeq).map Prod.snd

def stampedPayloads (s : Session) : List Json := s.history.stamped.map Prod.snd

def ContinuesNumbering (s : Session) : Prop :=
  ∀ event s', s.step (.deliver event true) = some s' →
    s'.history.stamped = s.history.stamped ++
      [(s.history.stamped.length + 2, stampSeq event (s.history.stamped.length + 2))]

theorem Consistent.continuesNumbering {acts : List SessionAction} {s : Session}
    (h : s.Consistent acts) : s.ContinuesNumbering := by
  intro event s' hstep
  have hcount := h.counted
  have hentry : s.nextEntry event =
      (s.history.stamped.length + 2, stampSeq event (s.history.stamped.length + 2)) := by
    simp [nextEntry, hcount]
  rw [← hentry]
  simp only [Session.step] at hstep
  split at hstep
  · cases hstep
  · simp only [if_true, Option.some.injEq] at hstep
    subst hstep
    rfl

def ResumeExact (s s' : Session) (afterSeq : Nat) : Prop :=
  ∃ missed, s.replayedPayloads afterSeq = some missed ∧
    s.processedPayloads afterSeq ++ missed = s.stampedPayloads ∧ s'.ContinuesNumbering

theorem Consistent.replayed {acts : List SessionAction} {s : Session} (h : s.Consistent acts)
    {afterSeq : Nat} {missed : List Json} (hprocessed : s.processed afterSeq = true)
    (hmissed : s.replayedPayloads afterSeq = some missed) :
    s.processedPayloads afterSeq ++ missed = s.history.retained.map Prod.snd := by
  obtain ⟨entries, hentries, rfl⟩ := Option.map_eq_some_iff.mp hmissed
  rw [processedPayloads, ← List.map_append, h.resumed hprocessed hentries]

theorem resumed_of_live {s s' : Session} {afterSeq : Nat} {canReceive : String → Bool}
    {written : Bool} (hstep : s.step (.resume afterSeq canReceive written) = some s')
    (hlive : s'.phase = .live) :
    s.processed afterSeq = true ∧ ∃ missed, s.replayedPayloads afterSeq = some missed := by
  obtain ⟨⟨_, hprocessed⟩, rfl⟩ := Consistent.of_guard hstep
  refine ⟨hprocessed, ?_⟩
  unfold claim at hlive
  cases hmissed : missedEntries s.handover.buffer s.handover.seq afterSeq with
  | none => simp [hmissed] at hlive
  | some missed => exact ⟨missed.map Prod.snd, by simp [replayedPayloads, missedSince, hmissed]⟩

theorem resume_exact_iff_no_lost_write {acts : List SessionAction} {s s' : Session}
    {afterSeq : Nat} {canReceive : String → Bool} (hrun : Session.run acts = some s)
    (hresume : s.step (.resume afterSeq canReceive true) = some s') (hlive : s'.phase = .live) :
    ResumeExact s s' afterSeq ↔ ∀ a ∈ acts, a.lost = false := by
  have hinv : s.Consistent acts := Consistent.of_run hrun
  have hnext : s'.ContinuesNumbering := (hinv.step hresume).continuesNumbering
  obtain ⟨hprocessed, missed, hmissed⟩ := resumed_of_live hresume hlive
  have hseam := hinv.replayed hprocessed hmissed
  rw [← hinv.retained_eq_stamped_iff]
  constructor
  · rintro ⟨replay, hreplay, hexact, _⟩
    have hsame : replay = missed := Option.some.inj (hreplay.symm.trans hmissed)
    subst hsame
    have hpayloads : s.history.retained.map Prod.snd = s.history.stamped.map Prod.snd :=
      hseam.symm.trans hexact
    exact hinv.sublist.eq_of_length (by simpa using congrArg List.length hpayloads)
  · intro heq
    exact ⟨missed, hmissed, by rw [hseam, heq]; rfl, hnext⟩

def typing (user : String) : Json :=
  .obj [("op", .num 0), ("type", .str "typing.start"),
    ("data", .obj [("channel_id", .str "20"), ("user_id", .str user)])]

def writeFailsRun : List SessionAction := [.deliver (typing "1") true, .deliver (typing "2") false]

def droppedRun : List SessionAction :=
  [.deliver (typing "1") true, .drop, .collect (typing "2")]

def resumeTwo : SessionAction := .resume 2 (fun _ => true) true

def reached (acts : List SessionAction) : Session := (Session.run acts).getD {}

theorem failed_write_leaves_gap :
    Session.run writeFailsRun = some (reached writeFailsRun) ∧
      (reached writeFailsRun).step resumeTwo = some (reached (writeFailsRun ++ [resumeTwo])) ∧
      (reached (writeFailsRun ++ [resumeTwo])).phase = .live ∧
      ¬ ResumeExact (reached writeFailsRun) (reached (writeFailsRun ++ [resumeTwo])) 2 := by
  refine ⟨by decide +kernel, by decide +kernel, by decide +kernel, ?_⟩
  rintro ⟨missed, hmissed, hexact, _⟩
  have hnone : (reached writeFailsRun).replayedPayloads 2 = some [] := by decide +kernel
  have hempty : missed = [] := Option.some.inj (hmissed.symm.trans hnone)
  rw [hempty] at hexact
  have hgap : (reached writeFailsRun).processedPayloads 2 ++ [] ≠
      (reached writeFailsRun).stampedPayloads := by decide +kernel
  exact hgap hexact

theorem dropped_socket_resumes_exactly :
    ResumeExact (reached droppedRun) (reached (droppedRun ++ [resumeTwo])) 2 ↔
      ∀ a ∈ droppedRun, a.lost = false :=
  @resume_exact_iff_no_lost_write droppedRun (reached droppedRun)
    (reached (droppedRun ++ [resumeTwo])) 2 (fun _ => true) (by decide +kernel)
    (by decide +kernel) (by decide +kernel)

end Session

end Vokusz.Gateway
