import Vokusz.Federation.Verify
import Vokusz.Lib.Transition

namespace Vokusz.Federation.Verify

open Lib (Prog Table.lookup)
open Db (Peer)

inductive Stage where
  | received
  | dated
  | found (peer : Peer)
  | verified (peer : Peer)
  | timed (peer : Peer) (now : Nat)
  | fresh (peer : Peer) (now : Nat)
  | noted (peer : Peer) (reading : Option Nat)
  | counting (peer : Peer) (reading : Option Nat) (now : Nat)
  | accepted (peer : Peer) (reading : Option Nat)
  | rejected (error : ErrResponse)
  deriving DecidableEq, Repr

variable (ext : Signatures.Crypto) (ourDomain : String) (r : Inbound) (parsed : ParsedSignature)

def afterNote (peer : Peer) (isFresh : Bool) : Check Peer := do
  Prog.require (isFresh = true) { status := 401, message := "replayed request" }
  trustAndLimit ext peer

def afterCharge (peer : Peer) (allowed : Bool) : Check Peer := do
  Prog.require (allowed = true) { status := 429, message := "rate limited" }
  return peer

def afterPeer (peer : Peer) : Check Peer := do
  checkSignature ext ourDomain r peer parsed.signatureB64
  rejectReplay r parsed.signatureB64
  trustAndLimit ext peer

def afterDate : Check Peer := do
  let peer ← lookupPeer parsed.keyId
  afterPeer ext ourDomain r parsed peer

namespace Stage

def program : Stage → Check Peer
  | .received => do
    checkDate ext r
    afterDate ext ourDomain r parsed
  | .dated => afterDate ext ourDomain r parsed
  | .found peer => afterPeer ext ourDomain r parsed peer
  | .verified peer => noteSignature parsed.signatureB64 >>= afterNote ext peer
  | .timed peer now => noteAt parsed.signatureB64 now >>= afterNote ext peer
  | .fresh peer now => recordSignature parsed.signatureB64 now >>= afterNote ext peer
  | .noted peer _ => allowRequest ext peer.domain >>= afterCharge peer
  | .counting peer _ now => chargeAt ext peer.domain now >>= afterCharge peer
  | .accepted peer _ => pure peer
  | .rejected e => .fail e

def trustGate (peer : Peer) (reading : Option Nat) : Stage :=
  if peer.isTrusted then .noted peer reading
  else .rejected { status := 403, message := "peer not trusted" }

def replayGate (peer : Peer) : Stage :=
  if r.path ≠ Inbox.inboxPath then .verified peer else trustGate peer none

def next (v : Verifier) : Stage → Option (Stage × Verifier)
  | .received =>
    some (if Signatures.dateWithinSkew ext v.utc (r.date.getD "") then .dated
      else .rejected { status := 401, message := "stale or missing date" }, v)
  | .dated =>
    some (match Table.lookup Peer.domain parsed.keyId v.db.federationPeers with
      | some peer => .found peer
      | none => .rejected { status := 403, message := "unknown peer" }, v)
  | .found peer =>
    some (if Verify.verified ext ourDomain r peer parsed.signatureB64 v.utc then replayGate r peer
      else .rejected { status := 401, message := "signature verification failed" }, v)
  | .verified peer => some (.timed peer v.instant, v)
  | .timed peer now =>
    some (if isReplay now (v.seenSignatures parsed.signatureB64) then
        .rejected { status := 401, message := "replayed request" }
      else .fresh peer now, v)
  | .fresh peer now =>
    some (trustGate peer (some now), rememberSignature parsed.signatureB64 now v)
  | .noted peer reading => some (.counting peer reading v.instant, v)
  | .counting peer reading now =>
    let charged := chargeBucket ext.refill peer.domain now v
    some (if charged.1 then .accepted peer reading
      else .rejected { status := 429, message := "rate limited" }, charged.2)
  | .accepted _ _ => none
  | .rejected _ => none

def fault : Stage → Option Stage
  | .dated => some (.rejected { status := 500, message := "peer lookup failed" })
  | _ => none

end Stage

theorem program_trustGate (peer : Peer) (reading : Option Nat) :
    (Stage.trustGate peer reading).program ext ourDomain r parsed = trustAndLimit ext peer := by
  unfold Stage.trustGate trustAndLimit
  rw [Prog.require_bind]
  split <;> rfl

theorem program_replayGate (peer : Peer) :
    (Stage.replayGate r peer).program ext ourDomain r parsed =
      (rejectReplay r parsed.signatureB64 >>= fun _ => trustAndLimit ext peer) := by
  unfold Stage.replayGate rejectReplay
  split
  · rw [bind_assoc]
    rfl
  · exact program_trustGate ext ourDomain r parsed peer none

theorem program_tick (st : Stage) (v : Verifier) :
    (st.program ext ourDomain r parsed).tick v =
      (st.next ext ourDomain r parsed v).map
        (fun p => (p.1.program ext ourDomain r parsed, p.2)) := by
  cases st with
  | received =>
    have hcheck : (checkDate ext r >>= fun _ => afterDate ext ourDomain r parsed).tick v =
        some (Prog.require (Signatures.dateWithinSkew ext v.utc (r.date.getD "") = true) _ >>=
          fun _ => afterDate ext ourDomain r parsed, v) := rfl
    rw [Prog.require_bind] at hcheck
    refine hcheck.trans ?_
    unfold Stage.next
    split <;> rfl
  | dated =>
    have hlookup : (afterDate ext ourDomain r parsed).tick v =
        ((lookupPeer parsed.keyId).tick v).map
          (fun p => (p.1 >>= afterPeer ext ourDomain r parsed, p.2)) :=
      Prog.tick_bind (fun _ h => by cases h) _ v
    refine hlookup.trans ?_
    unfold Stage.next lookupPeer
    rw [Prog.tick_query]
    cases Table.lookup Peer.domain parsed.keyId v.db.federationPeers <;> rfl
  | found peer =>
    have hcheck : (afterPeer ext ourDomain r parsed peer).tick v =
        some (Prog.require (Verify.verified ext ourDomain r peer parsed.signatureB64 v.utc = true) _ >>=
          fun _ => rejectReplay r parsed.signatureB64 >>= fun _ => trustAndLimit ext peer, v) := rfl
    rw [Prog.require_bind] at hcheck
    refine hcheck.trans ?_
    unfold Stage.next
    rw [Option.map_some, ← program_replayGate]
    dsimp only
    split <;> rfl
  | verified peer => rfl
  | timed peer now =>
    have hlookup : (noteAt parsed.signatureB64 now >>= afterNote ext peer).tick v =
        some ((if isReplay now (v.seenSignatures parsed.signatureB64) then pure false
          else recordSignature parsed.signatureB64 now) >>= afterNote ext peer, v) := rfl
    refine hlookup.trans ?_
    simp only [Stage.next]
    cases isReplay now (v.seenSignatures parsed.signatureB64) <;> rfl
  | fresh peer now =>
    have hrecord : (recordSignature parsed.signatureB64 now >>= afterNote ext peer).tick v =
        some (trustAndLimit ext peer, rememberSignature parsed.signatureB64 now v) := rfl
    refine hrecord.trans ?_
    rw [Stage.next, Option.map_some, program_trustGate]
  | noted peer reading => rfl
  | counting peer reading now =>
    have hcharge : (chargeAt ext peer.domain now >>= afterCharge peer).tick v =
        some (Prog.require ((chargeBucket ext.refill peer.domain now v).1 = true) _ >>=
          fun _ => pure peer, (chargeBucket ext.refill peer.domain now v).2) := rfl
    rw [Prog.require_bind] at hcharge
    refine hcharge.trans ?_
    unfold Stage.next
    dsimp only
    split <;> rfl
  | accepted peer reading => rfl
  | rejected e => rfl

theorem program_faulted (st : Stage) :
    (st.program ext ourDomain r parsed).faulted =
      st.fault.map (fun st' => st'.program ext ourDomain r parsed) := by
  cases st <;> rfl

theorem verifySigned_stages :
    verifySigned ext ourDomain r = (Prog.ofExcept (parseHeader r) >>= fun parsed =>
        Stage.received.program ext ourDomain r parsed) ∧
      ∀ parsed (st : Stage) v q v',
        Prog.Step (st.program ext ourDomain r parsed, v) (q, v') ↔
          ∃ st' : Stage, st'.program ext ourDomain r parsed = q ∧
            (st.next ext ourDomain r parsed v = some (st', v') ∨ st.fault = some st' ∧ v' = v) :=
  ⟨rfl, fun parsed st v _ _ => Prog.step_iff_of_moves (program_tick ext ourDomain r parsed st v)
    (program_faulted ext ourDomain r parsed st)⟩

structure Copy where
  request : Inbound
  parsed : ParsedSignature
  stage : Stage
  deriving DecidableEq, Repr

-- `visited` records the latest clock reading with which a pruning went over a key of the cache.
structure System where
  verifier : Verifier
  copies : List Copy := []
  visited : String → Nat := fun _ => 0

inductive Event where
  | receive (request : Inbound)
  | advance (i : Nat)
  | fault (i : Nat)
  | clock (elapsed : Nat) (utc : Int)
  | prune (now : Nat) (keys : List String)
  | peers (db : Db.Tables)

namespace System

def moveTo (s : System) (i : Nat) (c : Copy) (st : Stage) (v : Verifier) : System :=
  { s with verifier := v, copies := s.copies.set i { c with stage := st } }

def step (s : System) : Event → Option System
  | .receive request =>
    match parseHeader request with
    | .error _ => some s
    | .ok parsed =>
      some { s with
        copies := s.copies ++ [{ request := request, parsed := parsed, stage := .received }] }
  | .advance i => do
    let c ← s.copies[i]?
    let (st, v) ← c.stage.next ext ourDomain c.request c.parsed s.verifier
    return s.moveTo i c st v
  | .fault i => do
    let c ← s.copies[i]?
    let st ← c.stage.fault
    return s.moveTo i c st s.verifier
  | .clock elapsed utc =>
    some { s with
      verifier := { s.verifier with utc := utc, instant := s.verifier.instant + elapsed } }
  | .prune now keys =>
    if now ≤ s.verifier.instant then
      some { s with
        verifier := dropStale now keys s.verifier
        visited := fun key => if key ∈ keys then max (s.visited key) now else s.visited key }
    else none
  | .peers db => some { s with verifier := { s.verifier with db := db } }

end System

namespace Stage

def reading : Stage → Option Nat
  | .fresh _ now => some now
  | .noted _ reading => reading
  | .counting _ reading _ => reading
  | .accepted _ reading => reading
  | _ => none

def recorded : Stage → Bool
  | .fresh _ _ => false
  | _ => true

def isAccepted : Stage → Bool
  | .accepted _ _ => true
  | _ => false

def pastReplay : Stage → Bool
  | .noted _ _ => true
  | .counting _ _ _ => true
  | .accepted _ _ => true
  | _ => false

def coveredAt (now visited : Nat) (st : Stage) : Bool :=
  st.reading.all (fun t => st.recorded && isReplay now (some t) && isReplay visited (some t))

end Stage

namespace System

def SingleUse (s : System) : Prop :=
  ∀ (i j : Nat) (c d : Copy), s.copies[i]? = some c → s.copies[j]? = some d →
    c.request.path ≠ Inbox.inboxPath → d.request.path ≠ Inbox.inboxPath →
    c.parsed.signatureB64 = d.parsed.signatureB64 →
    c.stage.isAccepted = true → d.stage.isAccepted = true → i = j

def lookupCovered (s : System) (c : Copy) : Bool :=
  match c.stage with
  | .timed _ now =>
    s.copies.all (fun d => d.parsed.signatureB64 ≠ c.parsed.signatureB64 ||
      d.stage.coveredAt now (s.visited c.parsed.signatureB64))
  | _ => true

def covered (s : System) : Event → Bool
  | .advance i => (s.copies[i]?).all s.lookupCovered
  | _ => true

structure Inv (s : System) : Prop where
  unique : ∀ {i j : Nat} {c d : Copy}, s.copies[i]? = some c → s.copies[j]? = some d →
    c.parsed.signatureB64 = d.parsed.signatureB64 → c.stage.reading.isSome = true →
    d.stage.reading.isSome = true → i = j
  kept : ∀ {c : Copy} {t : Nat}, c ∈ s.copies → c.stage.reading = some t →
    c.stage.recorded = true →
    s.verifier.seenSignatures c.parsed.signatureB64 = some t ∨
      isReplay (s.visited c.parsed.signatureB64) (some t) = false
  coherent : ∀ {c : Copy}, c ∈ s.copies → c.request.path ≠ Inbox.inboxPath →
    c.stage.pastReplay = true → c.stage.reading.isSome = true

end System

namespace Stage

variable {ext ourDomain r parsed} {st st' : Stage} {v v' : Verifier}

@[simp] theorem reading_trustGate_none (peer : Peer) : (trustGate peer none).reading = none := by
  unfold trustGate
  split <;> rfl

theorem reading_trustGate (peer : Peer) (t : Option Nat) :
    (trustGate peer t).reading = t ∨ (trustGate peer t).reading = none := by
  unfold trustGate
  split
  · exact .inl rfl
  · exact .inr rfl

@[simp] theorem recorded_trustGate (peer : Peer) (t : Option Nat) :
    (trustGate peer t).recorded = true := by
  unfold trustGate
  split <;> rfl

@[simp] theorem reading_replayGate (peer : Peer) : (replayGate r peer).reading = none := by
  unfold replayGate
  split
  · rfl
  · exact reading_trustGate_none peer

theorem next_cases (h : st.next ext ourDomain r parsed v = some (st', v')) :
    (v'.seenSignatures = v.seenSignatures ∧
      (st'.reading = none ∨ st'.reading = st.reading ∧ st.recorded = true)) ∨
    (∃ peer now, st = .timed peer now ∧
      isReplay now (v.seenSignatures parsed.signatureB64) = false ∧
      st' = .fresh peer now ∧ v' = v) ∨
    (∃ peer now, st = .fresh peer now ∧ st' = trustGate peer (some now) ∧
      v' = rememberSignature parsed.signatureB64 now v) := by
  cases st with
  | received =>
    cases h
    refine .inl ⟨rfl, .inl ?_⟩
    split <;> rfl
  | dated =>
    cases h
    refine .inl ⟨rfl, .inl ?_⟩
    split <;> rfl
  | found peer =>
    cases h
    refine .inl ⟨rfl, .inl ?_⟩
    split
    · exact reading_replayGate peer
    · rfl
  | verified peer =>
    cases h
    exact .inl ⟨rfl, .inl rfl⟩
  | timed peer now =>
    cases h
    cases hreplay : isReplay now (v.seenSignatures parsed.signatureB64) with
    | true => exact .inl ⟨rfl, .inl rfl⟩
    | false => exact .inr (.inl ⟨peer, now, rfl, hreplay, rfl, rfl⟩)
  | fresh peer now =>
    cases h
    exact .inr (.inr ⟨peer, now, rfl, rfl, rfl⟩)
  | noted peer reading =>
    cases h
    exact .inl ⟨rfl, .inr ⟨rfl, rfl⟩⟩
  | counting peer reading now =>
    cases h
    refine .inl ⟨rfl, ?_⟩
    split
    · exact .inr ⟨rfl, rfl⟩
    · exact .inl rfl
  | accepted peer reading => cases h
  | rejected e => cases h

theorem pastReplay_trustGate {peer : Peer} {t : Option Nat}
    (h : (trustGate peer t).pastReplay = true) : (trustGate peer t).reading = t := by
  unfold trustGate at h ⊢
  split
  · rfl
  · simp_all [pastReplay]

theorem next_coherent (hpath : r.path ≠ Inbox.inboxPath)
    (hst : st.pastReplay = true → st.reading.isSome = true)
    (h : st.next ext ourDomain r parsed v = some (st', v'))
    (hpast : st'.pastReplay = true) : st'.reading.isSome = true := by
  cases st with
  | received =>
    cases h
    split at hpast <;> cases hpast
  | dated =>
    cases h
    split at hpast <;> cases hpast
  | found peer =>
    cases h
    unfold replayGate at hpast
    rw [if_pos hpath] at hpast
    split at hpast <;> cases hpast
  | verified peer =>
    cases h
    cases hpast
  | timed peer now =>
    cases h
    split at hpast <;> cases hpast
  | fresh peer now =>
    cases h
    rw [pastReplay_trustGate hpast]
    rfl
  | noted peer reading =>
    cases h
    exact hst rfl
  | counting peer reading now =>
    cases h
    split
    · exact hst rfl
    · simp_all [pastReplay]
  | accepted peer reading => cases h
  | rejected e => cases h

theorem fault_rejected (h : st.fault = some st') : ∃ e, st' = .rejected e := by
  cases st <;> cases h
  exact ⟨_, rfl⟩

end Stage

namespace System

variable {ext ourDomain} {s t : System} {i : Nat} {c d : Copy} {st : Stage} {v : Verifier}

theorem inv_of_no_copies (h : s.copies = []) : s.Inv where
  unique hi := by simp [h] at hi
  kept hc := by simp [h] at hc
  coherent hc := by simp [h] at hc

theorem mem_moveTo {d : Copy} (h : d ∈ (s.moveTo i c st v).copies) :
    d ∈ s.copies ∨ d = { c with stage := st } :=
  List.mem_or_eq_of_mem_set h

theorem getElem?_moveTo {j : Nat} (h : (s.moveTo i c st v).copies[j]? = some d) :
    (j = i ∧ d = { c with stage := st }) ∨ (j ≠ i ∧ s.copies[j]? = some d) := by
  unfold moveTo at h
  rw [List.getElem?_set] at h
  by_cases hij : i = j
  · rw [if_pos hij] at h
    split at h
    · exact .inl ⟨hij.symm, (Option.some.inj h).symm⟩
    · cases h
  · rw [if_neg hij] at h
    exact .inr ⟨fun hji => hij hji.symm, h⟩

theorem unique_moveTo (hinv : s.Inv) (hi : s.copies[i]? = some c)
    (hst : st.reading.isSome = true → c.stage.reading.isSome = true ∨
      ∀ d ∈ s.copies, d.parsed.signatureB64 = c.parsed.signatureB64 → d.stage.reading = none)
    {j k : Nat} {d e : Copy} (hj : (s.moveTo i c st v).copies[j]? = some d)
    (hk : (s.moveTo i c st v).copies[k]? = some e)
    (hsig : d.parsed.signatureB64 = e.parsed.signatureB64)
    (hd : d.stage.reading.isSome = true) (he : e.stage.reading.isSome = true) : j = k := by
  have hother : ∀ {l : Nat} {f : Copy}, l ≠ i → s.copies[l]? = some f →
      f.parsed.signatureB64 = c.parsed.signatureB64 → f.stage.reading.isSome = true →
      st.reading.isSome = true → False := by
    intro l f hl hf hfsig hread hstread
    rcases hst hstread with hc | hnone
    · exact hl (hinv.unique hf hi hfsig hread hc)
    · rw [hnone f (List.mem_of_getElem? hf) hfsig] at hread
      cases hread
  rcases getElem?_moveTo hj with ⟨hji, rfl⟩ | ⟨hji, hjold⟩
  · rcases getElem?_moveTo hk with ⟨hki, rfl⟩ | ⟨hki, hkold⟩
    · exact hji.trans hki.symm
    · exact (hother hki hkold hsig.symm he hd).elim
  · rcases getElem?_moveTo hk with ⟨hki, rfl⟩ | ⟨hki, hkold⟩
    · exact (hother hji hjold hsig hd he).elim
    · exact hinv.unique hjold hkold hsig hd he

theorem coherent_moveTo (hinv : s.Inv)
    (hst : c.request.path ≠ Inbox.inboxPath → st.pastReplay = true → st.reading.isSome = true)
    {d : Copy} (hd : d ∈ (s.moveTo i c st v).copies) (hpath : d.request.path ≠ Inbox.inboxPath)
    (hpast : d.stage.pastReplay = true) : d.stage.reading.isSome = true := by
  rcases mem_moveTo hd with hd | rfl
  · exact hinv.coherent hd hpath hpast
  · exact hst hpath hpast

theorem inv_quiet (hinv : s.Inv) (hi : s.copies[i]? = some c)
    (hseen : v.seenSignatures = s.verifier.seenSignatures)
    (hst : st.reading = none ∨ st.reading = c.stage.reading ∧ c.stage.recorded = true)
    (hpast : c.request.path ≠ Inbox.inboxPath → st.pastReplay = true → st.reading.isSome = true) :
    (s.moveTo i c st v).Inv where
  unique := by
    refine unique_moveTo hinv hi (fun hsome => .inl ?_)
    rcases hst with hnone | ⟨hsame, _⟩
    · rw [hnone] at hsome
      cases hsome
    · rwa [hsame] at hsome
  kept := by
    intro d t hd ht hrec
    change v.seenSignatures _ = _ ∨ _
    rw [hseen]
    rcases mem_moveTo hd with hd | rfl
    · exact hinv.kept hd ht hrec
    · rcases hst with hnone | ⟨hsame, hcrec⟩
      · rw [hnone] at ht
        cases ht
      · exact hinv.kept (c := c) (List.mem_of_getElem? hi) (hsame ▸ ht) hcrec
  coherent := coherent_moveTo hinv hpast

theorem reading_none_of_covered (hinv : s.Inv) {peer : Peer} {now : Nat}
    (hc : c.stage = .timed peer now) (hcovered : s.lookupCovered c = true)
    (hfresh : isReplay now (s.verifier.seenSignatures c.parsed.signatureB64) = false) :
    ∀ d ∈ s.copies, d.parsed.signatureB64 = c.parsed.signatureB64 → d.stage.reading = none := by
  intro d hd hsig
  unfold lookupCovered at hcovered
  rw [hc] at hcovered
  have hcov := List.all_eq_true.mp hcovered d hd
  simp only [hsig, ne_eq, not_true_eq_false, decide_false, Bool.false_or] at hcov
  cases hread : d.stage.reading with
  | none => rfl
  | some t =>
    simp only [Stage.coveredAt, hread, Option.all_some, Bool.and_eq_true] at hcov
    rcases hinv.kept hd hread hcov.1.1 with hseen | hgone
    · rw [hsig] at hseen
      rw [hseen, hcov.1.2] at hfresh
      cases hfresh
    · rw [hsig, hcov.2] at hgone
      cases hgone

theorem inv_advance (hinv : s.Inv) (hi : s.copies[i]? = some c)
    (hcovered : s.lookupCovered c = true)
    (hnext : c.stage.next ext ourDomain c.request c.parsed s.verifier = some (st, v)) :
    (s.moveTo i c st v).Inv := by
  have hmem := List.mem_of_getElem? hi
  have hpast : c.request.path ≠ Inbox.inboxPath → st.pastReplay = true →
      st.reading.isSome = true :=
    fun hpath => Stage.next_coherent hpath (hinv.coherent hmem hpath) hnext
  rcases Stage.next_cases hnext with ⟨hseen, hst⟩ | ⟨peer, now, hc, hfresh, rfl, rfl⟩ |
    ⟨peer, now, hc, rfl, rfl⟩
  · exact inv_quiet hinv hi hseen hst hpast
  · have hnone := reading_none_of_covered hinv hc hcovered hfresh
    constructor
    · exact unique_moveTo hinv hi (fun _ => .inr hnone)
    · intro d t hd ht hrec
      rcases mem_moveTo hd with hd | rfl
      · exact hinv.kept hd ht hrec
      · cases hrec
    · exact coherent_moveTo hinv hpast
  · have hread : c.stage.reading = some now := by rw [hc]; rfl
    have hgate := Stage.reading_trustGate peer (some now)
    constructor
    · exact unique_moveTo hinv hi (fun _ => .inl (by rw [hread]; rfl))
    · intro d t hd ht hrec
      change Function.update s.verifier.seenSignatures c.parsed.signatureB64 (some now) _ = _ ∨ _
      rcases mem_moveTo hd with hd | rfl
      · by_cases hsig : d.parsed.signatureB64 = c.parsed.signatureB64
        · obtain ⟨j, hj⟩ := List.mem_iff_getElem?.mp hd
          have hji := hinv.unique hj hi hsig (by rw [ht]; rfl) (by rw [hread]; rfl)
          rw [hji, hi] at hj
          cases hj
          rw [hc] at hrec
          cases hrec
        · rw [Function.update_of_ne hsig]
          exact hinv.kept hd ht hrec
      · refine .inl ?_
        rcases hgate with hgate | hgate
        · rw [hgate] at ht
          rw [Function.update_self, ht]
        · rw [hgate] at ht
          cases ht
    · exact coherent_moveTo hinv hpast

theorem isReplay_max {a b t : Nat} :
    isReplay (max a b) (some t) = false ↔
      isReplay a (some t) = false ∨ isReplay b (some t) = false := by
  simp only [isReplay, Option.any_some, decide_eq_false_iff_not]
  omega

theorem inv_prune (hinv : s.Inv) (now : Nat) (keys : List String) :
    Inv { s with
      verifier := dropStale now keys s.verifier
      visited := fun key => if key ∈ keys then max (s.visited key) now else s.visited key } where
  unique := hinv.unique
  kept := by
    intro c t hc ht hrec
    have hkept := hinv.kept hc ht hrec
    dsimp only [dropStale]
    by_cases hkey : c.parsed.signatureB64 ∈ keys
    · rw [if_pos hkey, if_pos hkey, isReplay_max]
      rcases hkept with hseen | hgone
      · rw [hseen]
        cases hreplay : isReplay now (some t) with
        | true =>
          have hwithin : now - t < signatureReplayWindow := by
            simpa [isReplay] using hreplay
          exact .inl (by simp [hwithin])
        | false => exact .inr (.inr rfl)
      · exact .inr (.inl hgone)
    · rw [if_neg hkey, if_neg hkey]
      exact hkept
  coherent := hinv.coherent

theorem getElem?_concat_reading {request : Inbound} {parsed : ParsedSignature} {j : Nat}
    (h : (s.copies ++ [{ request := request, parsed := parsed, stage := .received }])[j]? = some d)
    (hd : d.stage.reading.isSome = true) : s.copies[j]? = some d := by
  rw [List.getElem?_append] at h
  split at h
  · exact h
  · cases List.mem_singleton.mp (List.mem_of_getElem? h)
    cases hd

theorem inv_receive (hinv : s.Inv) (request : Inbound) (parsed : ParsedSignature) :
    Inv { s with
      copies := s.copies ++ [{ request := request, parsed := parsed, stage := .received }] } where
  unique := by
    intro j k d e hj hk hsig hd he
    exact hinv.unique (getElem?_concat_reading hj hd) (getElem?_concat_reading hk he) hsig hd he
  kept := by
    intro c t hc ht hrec
    rcases List.mem_append.mp hc with hc | hc
    · exact hinv.kept hc ht hrec
    · cases List.mem_singleton.mp hc
      cases ht
  coherent := by
    intro c hc hpath hpast
    rcases List.mem_append.mp hc with hc | hc
    · exact hinv.coherent hc hpath hpast
    · cases List.mem_singleton.mp hc
      cases hpast

theorem inv_step (hinv : s.Inv) {e : Event} (hcovered : s.covered e = true)
    (hstep : s.step ext ourDomain e = some t) : t.Inv := by
  cases e with
  | receive request =>
    unfold step at hstep
    dsimp only at hstep
    cases hparse : parseHeader request with
    | error e =>
      rw [hparse] at hstep
      cases hstep
      exact hinv
    | ok parsed =>
      rw [hparse] at hstep
      cases hstep
      exact inv_receive hinv request parsed
  | advance i =>
    obtain ⟨c, hi, hstep⟩ := Option.bind_eq_some_iff.mp hstep
    obtain ⟨⟨st, v⟩, hnext, hstep⟩ := Option.bind_eq_some_iff.mp hstep
    cases hstep
    have hlookup : s.lookupCovered c = true := by
      simpa [covered, hi] using hcovered
    exact inv_advance hinv hi hlookup hnext
  | fault i =>
    obtain ⟨c, hi, hstep⟩ := Option.bind_eq_some_iff.mp hstep
    obtain ⟨st, hfault, hstep⟩ := Option.bind_eq_some_iff.mp hstep
    cases hstep
    obtain ⟨e, rfl⟩ := Stage.fault_rejected hfault
    exact inv_quiet hinv hi rfl (.inl rfl) (fun _ hpast => by cases hpast)
  | clock elapsed utc =>
    cases hstep
    exact ⟨hinv.unique, hinv.kept, hinv.coherent⟩
  | prune now keys =>
    unfold step at hstep
    dsimp only at hstep
    split at hstep
    · cases hstep
      exact inv_prune hinv now keys
    · cases hstep
  | peers db =>
    cases hstep
    exact ⟨hinv.unique, hinv.kept, hinv.coherent⟩

theorem pastReplay_of_accepted {st : Stage} (h : st.isAccepted = true) : st.pastReplay = true := by
  cases st <;> first | rfl | cases h

theorem Inv.singleUse (hinv : s.Inv) : s.SingleUse := by
  intro i j c d hi hj hc hd hsig haccc haccd
  have hreadc := hinv.coherent (List.mem_of_getElem? hi) hc (pastReplay_of_accepted haccc)
  have hreadd := hinv.coherent (List.mem_of_getElem? hj) hd (pastReplay_of_accepted haccd)
  exact hinv.unique hi hj hsig hreadc hreadd

end System

theorem signature_single_use {s t : System} {events : List Event} (hnew : s.copies = [])
    (hcovered : Lib.meets (System.step ext ourDomain) System.covered s events = true)
    (hrun : Lib.runFrom (System.step ext ourDomain) s events = some t) : t.SingleUse :=
  (Lib.run_induction_of_meets (fun _ _ _ hinv hcov hstep => System.inv_step hinv hcov hstep)
    (System.inv_of_no_copies hnew) hcovered hrun).singleUse

def fixedCrypto : Signatures.Crypto where
  parseRfc2822 := fun date =>
    if date = "Mon, 06 Jul 2026 12:00:00 +0000" then some (1783339200 * 10 ^ 9) else none
  bodyDigest := fun body => if body = [] then "SHA-256=empty" else ""
  verifyB64 := fun _ _ signature => signature = "c2ln"
  refill := fun elapsed => 5 * elapsed

def leaveRequest : Inbound where
  signature := some "keyId=\"a.example\",algorithm=\"ed25519\",signature=\"c2ln\""
  date := some "Mon, 06 Jul 2026 12:00:00 +0000"
  digest := some "SHA-256=empty"
  path := "/federation/v1/leave"
  body := []

def earlyReceiver : System where
  verifier :=
    { db :=
        { federationPeers :=
            [{ domain := "a.example"
               publicKey := "key"
               inboxUrl := "https://a.example/federation/v1/inbox"
               trustState := "trusted" }] }
      utc := (1783339200 - 300) * 10 ^ 9
      instant := 0
      seenSignatures := fun _ => none
      rateLimits := fun _ => none }

def verifyWhole (i : Nat) : List Event := List.replicate 8 (.advance i)

def repeated : List Event :=
  .receive leaveRequest :: verifyWhole 0 ++
    [.clock (299 * 10 ^ 9) ((1783339200 - 1) * 10 ^ 9), .prune (299 * 10 ^ 9) ["c2ln"],
      .receive leaveRequest] ++ List.replicate 5 (.advance 1)

def repeatedLate : List Event :=
  .receive leaveRequest :: verifyWhole 0 ++
    [.clock (600 * 10 ^ 9) ((1783339200 + 300) * 10 ^ 9), .receive leaveRequest] ++ verifyWhole 1

def raced : List Event :=
  [.receive leaveRequest, .receive leaveRequest] ++ List.replicate 5 (.advance 0) ++
    List.replicate 5 (.advance 1) ++ List.replicate 3 (.advance 0) ++ List.replicate 3 (.advance 1)

def outcome (events : List Event) : System :=
  (Lib.runFrom (System.step fixedCrypto "b.example") earlyReceiver events).getD earlyReceiver

theorem repeated_single_use : (outcome repeated).SingleUse :=
  signature_single_use fixedCrypto "b.example" rfl (by decide +kernel)
    (Lib.runFrom_getD (by decide +kernel))

def Copy.summary (c : Copy) : String × String × Bool :=
  (c.request.path, c.parsed.signatureB64, c.stage.isAccepted)

theorem System.not_singleUse {s : System} (path signature : String)
    (hpath : path ≠ Inbox.inboxPath)
    (h : s.copies.map Copy.summary = [(path, signature, true), (path, signature, true)]) :
    ¬ s.SingleUse := by
  obtain ⟨c, d, hcopies⟩ := List.length_eq_two.mp (by simpa using congrArg List.length h)
  rw [hcopies] at h
  simp only [List.map_cons, List.map_nil, List.cons.injEq, Copy.summary, Prod.mk.injEq,
    and_true] at h
  obtain ⟨⟨hpathc, hsigc, haccc⟩, hpathd, hsigd, haccd⟩ := h
  intro hsingle
  have hzero := hsingle 0 1 c d (by rw [hcopies]; rfl) (by rw [hcopies]; rfl) (hpathc ▸ hpath)
    (hpathd ▸ hpath) (hsigc.trans hsigd.symm) haccc haccd
  cases hzero

theorem late_and_raced_copies_accepted :
    (∃ t, Lib.runFrom (System.step fixedCrypto "b.example") earlyReceiver repeatedLate = some t ∧
      ¬ t.SingleUse) ∧
    ∃ t, Lib.runFrom (System.step fixedCrypto "b.example") earlyReceiver raced = some t ∧
      ¬ t.SingleUse := by
  have hpath : leaveRequest.path ≠ Inbox.inboxPath := by decide
  constructor
  · refine ⟨outcome repeatedLate, Lib.runFrom_getD (by decide +kernel), ?_⟩
    exact System.not_singleUse leaveRequest.path "c2ln" hpath (by decide +kernel)
  · refine ⟨outcome raced, Lib.runFrom_getD (by decide +kernel), ?_⟩
    exact System.not_singleUse leaveRequest.path "c2ln" hpath (by decide +kernel)

end Vokusz.Federation.Verify
