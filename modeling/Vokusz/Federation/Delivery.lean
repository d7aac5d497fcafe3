import Vokusz.Federation.Footprint
import Vokusz.Lib.Transition

namespace Vokusz.Federation.Inbox

open Db Lib
open Apply (Applied)

abbrev EventKey := String × String

def eventKey (env : FederationEnvelope) : EventKey := (env.eventId, env.origin)

inductive Stage where
  | checking (rest : App (Except AppError Bool))
  | applying (rest : App Applied) (complete : Bool)
  | rollingBack (rest : App (Except AppError Unit)) (reply : Reply)
  | answered (reply : Reply) (complete : Bool)

namespace Stage

variable (peer : String) (env : FederationEnvelope)

def program : Stage → App Reply
  | .checking rest => rest >>= dispatch peer env
  | .applying rest _ => rest.attempt >>= respond env
  | .rollingBack rest reply => rest >>= fun _ => return reply
  | .answered reply _ => return reply

def start : Stage := .checking (Federation.dedupFirstSeen env.eventId env.origin).attempt

def rollback (reply : Reply) : Stage :=
  .rollingBack (Federation.dedupRemove env.eventId env.origin).attempt reply

def afterRollback (reply : Reply) : App (Except AppError Unit) → Stage
  | .ret _ => .answered reply false
  | rest => .rollingBack rest reply

def afterApply (complete : Bool) : App Applied → Stage
  | .ret .ok => .answered .ok complete
  | .ret .unsupported => rollback env .notImplemented
  | .fail e => rollback env (.rejected e)
  | rest => .applying rest complete

def beginApply : Stage :=
  if env.eventType = "m.ping" then .answered .ok true
  else afterApply env true (applyEvent peer env)

def afterCheck : App (Except AppError Bool) → Stage
  | .ret (.ok true) => beginApply peer env
  | .ret (.ok false) => .answered .ok false
  | .ret (.error _) => .answered .dedupFailed false
  | rest => .checking rest

def work : Stage → AppState → Option (Stage × AppState)
  | .checking rest, s => (rest.tick s).map (fun r => (afterCheck peer env r.1, r.2))
  | .applying rest complete, s =>
    (rest.tick s).map (fun r => (afterApply env complete r.1, r.2))
  | .rollingBack rest reply, s => (rest.tick s).map (fun r => (afterRollback reply r.1, r.2))
  | .answered _ _, _ => none

def fault : Stage → Option Stage
  | .checking rest => rest.faulted.map (afterCheck peer env)
  | .applying rest _ => rest.faulted.map (afterApply env false)
  | .rollingBack rest reply => rest.faulted.map (afterRollback reply)
  | .answered _ _ => none

def Pending : Stage → Prop
  | .checking rest => ∀ r, rest ≠ .ret r
  | .applying rest _ => (∀ r, rest ≠ .ret r) ∧ ∀ e, rest ≠ .fail e
  | .rollingBack rest _ => ∀ r, rest ≠ .ret r
  | .answered _ _ => True

theorem program_start (h : Authority.check peer env = .ok ()) :
    (start env).program peer env = handleInbox peer env := by
  simp [start, program, handleInbox, h]

theorem program_rollback (reply : Reply) :
    (rollback env reply).program peer env = (do rollbackDedup env; return reply) := by
  simp [rollback, program, rollbackDedup]

theorem program_afterRollback (reply : Reply) (rest : App (Except AppError Unit)) :
    (afterRollback reply rest).program peer env = (rest >>= fun _ => return reply) := by
  cases rest <;> rfl

theorem program_afterApply (complete : Bool) (rest : App Applied) :
    (afterApply env complete rest).program peer env = (rest.attempt >>= respond env) := by
  cases rest with
  | ret r =>
    cases r with
    | ok => rfl
    | unsupported => exact program_rollback peer env _
  | fail e => exact program_rollback peer env _
  | step u n => rfl
  | stmt u n q => rfl

theorem program_beginApply : (beginApply peer env).program peer env = applyOnce peer env := by
  unfold beginApply applyOnce
  split
  · rfl
  · exact program_afterApply peer env _ _

theorem program_afterCheck (rest : App (Except AppError Bool)) :
    (afterCheck peer env rest).program peer env = (rest >>= dispatch peer env) := by
  cases rest with
  | ret r =>
    cases r with
    | error e => rfl
    | ok fresh =>
      cases fresh with
      | true => exact program_beginApply peer env
      | false => rfl
  | fail e => rfl
  | step u n => rfl
  | stmt u n q => rfl

theorem attempt_ne_ret {rest : App Applied} (hret : ∀ r, rest ≠ .ret r)
    (hfail : ∀ e, rest ≠ .fail e) : ∀ r, rest.attempt ≠ .ret r := by
  cases rest with
  | ret a => exact absurd rfl (hret a)
  | fail e => exact absurd rfl (hfail e)
  | step u n => simp [Prog.attempt]
  | stmt u n q => simp [Prog.attempt]

theorem program_tick {st : Stage} (hst : st.Pending) (s : AppState) :
    (st.program peer env).tick s =
      (st.work peer env s).map (fun r => (r.1.program peer env, r.2)) := by
  cases st with
  | checking rest =>
    change (rest >>= dispatch peer env).tick s = _
    rw [Prog.tick_bind hst, work, Option.map_map]
    simp only [Function.comp_def, program_afterCheck]
  | applying rest complete =>
    change (rest.attempt >>= respond env).tick s = _
    rw [Prog.tick_bind (attempt_ne_ret hst.1 hst.2), Prog.tick_attempt, work, Option.map_map,
      Option.map_map]
    simp only [Function.comp_def, program_afterApply]
  | rollingBack rest reply =>
    change (rest >>= fun _ => return reply).tick s = _
    rw [Prog.tick_bind hst, work, Option.map_map]
    simp only [Function.comp_def, program_afterRollback]
  | answered reply complete => rfl

theorem program_faulted {st : Stage} (hst : st.Pending) :
    (st.program peer env).faulted = (st.fault peer env).map (program peer env) := by
  cases st with
  | checking rest =>
    change (rest >>= dispatch peer env).faulted = _
    rw [Prog.faulted_bind hst, fault, Option.map_map]
    simp only [Function.comp_def, program_afterCheck]
  | applying rest complete =>
    change (rest.attempt >>= respond env).faulted = _
    rw [Prog.faulted_bind (attempt_ne_ret hst.1 hst.2), Prog.faulted_attempt, fault,
      Option.map_map, Option.map_map]
    simp only [Function.comp_def, program_afterApply]
  | rollingBack rest reply =>
    change (rest >>= fun _ => return reply).faulted = _
    rw [Prog.faulted_bind hst, fault, Option.map_map]
    simp only [Function.comp_def, program_afterRollback]
  | answered reply complete => rfl

theorem pending_rollback (reply : Reply) : (rollback env reply).Pending := by
  intro r h
  cases h

theorem pending_afterRollback (reply : Reply) (rest : App (Except AppError Unit)) :
    (afterRollback reply rest).Pending := by
  cases rest with
  | ret r => trivial
  | fail e => simp [afterRollback, Pending]
  | step u n => simp [afterRollback, Pending]
  | stmt u n q => simp [afterRollback, Pending]

theorem pending_afterApply (complete : Bool) (rest : App Applied) :
    (afterApply env complete rest).Pending := by
  cases rest with
  | ret r =>
    cases r with
    | ok => trivial
    | unsupported => exact pending_rollback env _
  | fail e => exact pending_rollback env _
  | step u n => simp [afterApply, Pending]
  | stmt u n q => simp [afterApply, Pending]

theorem pending_beginApply : (beginApply peer env).Pending := by
  unfold beginApply
  split
  · trivial
  · exact pending_afterApply env _ _

theorem pending_afterCheck (rest : App (Except AppError Bool)) :
    (afterCheck peer env rest).Pending := by
  cases rest with
  | ret r =>
    cases r with
    | error e => trivial
    | ok fresh =>
      cases fresh with
      | true => exact pending_beginApply peer env
      | false => trivial
  | fail e => simp [afterCheck, Pending]
  | step u n => simp [afterCheck, Pending]
  | stmt u n q => simp [afterCheck, Pending]

theorem pending_work {st st' : Stage} {s s' : AppState}
    (h : st.work peer env s = some (st', s')) : st'.Pending := by
  cases st with
  | checking rest =>
    obtain ⟨r, _, hr⟩ := Option.map_eq_some_iff.mp h
    cases hr
    exact pending_afterCheck peer env _
  | applying rest complete =>
    obtain ⟨r, _, hr⟩ := Option.map_eq_some_iff.mp h
    cases hr
    exact pending_afterApply env _ _
  | rollingBack rest reply =>
    obtain ⟨r, _, hr⟩ := Option.map_eq_some_iff.mp h
    cases hr
    exact pending_afterRollback _ _
  | answered reply complete => cases h

theorem pending_fault {st st' : Stage} (h : st.fault peer env = some st') : st'.Pending := by
  cases st with
  | checking rest =>
    obtain ⟨r, _, rfl⟩ := Option.map_eq_some_iff.mp h
    exact pending_afterCheck peer env _
  | applying rest complete =>
    obtain ⟨r, _, rfl⟩ := Option.map_eq_some_iff.mp h
    exact pending_afterApply env _ _
  | rollingBack rest reply =>
    obtain ⟨r, _, rfl⟩ := Option.map_eq_some_iff.mp h
    exact pending_afterRollback _ _
  | answered reply complete => cases h

theorem residual_has_stage {s t : AppState} {q : App Reply}
    (hcheck : Authority.check peer env = .ok ())
    (hrun : Relation.ReflTransGen Prog.Step (handleInbox peer env, s) (q, t)) :
    ∃ st : Stage, st.Pending ∧ st.program peer env = q := by
  have hstage : ∀ x, Relation.ReflTransGen Prog.Step (handleInbox peer env, s) x →
      ∃ st : Stage, st.Pending ∧ st.program peer env = x.1 := by
    intro x hx
    induction hx with
    | refl =>
      refine ⟨start env, ?_, program_start peer env hcheck⟩
      intro r h
      cases h
    | @tail y z _ hstep ih =>
      obtain ⟨st, hst, hprogram⟩ := ih
      obtain ⟨p, u⟩ := y
      subst hprogram
      obtain ⟨st', heq, hwork | ⟨hfault, _⟩⟩ := 
        (Prog.step_iff_of_moves (program_tick peer env hst _) (program_faulted peer env hst)).mp hstep
      · exact ⟨st', pending_work peer env hwork, heq⟩
      · exact ⟨st', pending_fault peer env hfault, heq⟩
  exact hstage (q, t) hrun

def owns : Stage → Bool
  | .applying _ _ => true
  | .rollingBack _ _ => true
  | _ => false

def finished : Stage → Bool
  | .answered _ complete => complete
  | _ => false

def inserting : Stage → Bool
  | .checking (.stmt _ _ _) => true
  | _ => false

def propagates : App Applied → Bool
  | .fail _ => true
  | _ => false

def faultPropagates : Stage → Bool
  | .applying rest _ => rest.faulted.all propagates
  | .rollingBack _ _ => false
  | _ => true

def Framed : Stage → Prop
  | .checking rest =>
    rest = (Federation.dedupFirstSeen env.eventId env.origin).attempt ∨
      ∃ now, rest = (Federation.dedupInsert env.eventId env.origin now).attempt
  | .applying rest complete => rest.Preserves dedupRows ∧ complete = true
  | .rollingBack rest reply =>
    rest = (Federation.dedupRemove env.eventId env.origin).attempt ∧ reply ≠ .ok
  | .answered _ _ => True

theorem afterApply_framed {rest : App Applied} (h : rest.Preserves dedupRows) :
    (afterApply env true rest).Framed env ∧
      ((afterApply env true rest).owns = true ∨
        afterApply env true rest = .answered .ok true) := by
  cases rest with
  | ret r =>
    cases r with
    | ok => exact ⟨trivial, .inr rfl⟩
    | unsupported => exact ⟨⟨rfl, by decide⟩, .inl rfl⟩
  | fail e => exact ⟨⟨rfl, by simp⟩, .inl rfl⟩
  | step u n => exact ⟨⟨h, rfl⟩, .inl rfl⟩
  | stmt u n q => exact ⟨⟨h, rfl⟩, .inl rfl⟩

theorem beginApply_framed :
    (beginApply peer env).Framed env ∧
      ((beginApply peer env).owns = true ∨ beginApply peer env = .answered .ok true) := by
  unfold beginApply
  split
  · exact ⟨trivial, .inr rfl⟩
  · exact afterApply_framed env (dedup_applyEvent peer env)

end Stage

structure Delivery where
  peer : String
  env : FederationEnvelope
  stage : Stage

namespace Delivery

def key (d : Delivery) : EventKey := eventKey d.env

def owns (d : Delivery) : Bool := d.stage.owns

end Delivery

structure System where
  app : AppState
  inflight : List Delivery := []
  acknowledged : List EventKey := []
  settled : List EventKey := []

inductive InboxAction where
  | receive (peer : String) (env : FederationEnvelope)
  | work (i : Nat)
  | fault (i : Nat)
  | answer (i : Nat)
  | crash
  | background (app : AppState)

namespace System

def boot (app : AppState) : System :=
  { app := app, settled := (dedupRows app).map Federation.dedupKey }

def place (s : System) (i : Nat) (d : Delivery) (stage : Stage) (app : AppState) : System :=
  { s with
    app := app
    inflight := s.inflight.set i { d with stage := stage }
    settled := if stage.finished then d.key :: s.settled else s.settled }

def reply (s : System) (i : Nat) (d : Delivery) (reply : Reply) : System :=
  { s with
    inflight := s.inflight.eraseIdx i
    acknowledged := if reply = .ok then d.key :: s.acknowledged else s.acknowledged }

def step (s : System) : InboxAction → Option System
  | .receive peer env =>
    match Authority.check peer env with
    | .ok () => some { s with inflight := s.inflight ++ [⟨peer, env, Stage.start env⟩] }
    | .error _ => some s
  | .work i => do
    let d ← s.inflight[i]?
    let r ← d.stage.work d.peer d.env s.app
    return s.place i d r.1 r.2
  | .fault i => do
    let d ← s.inflight[i]?
    let stage ← d.stage.fault d.peer d.env
    return s.place i d stage s.app
  | .answer i => do
    let d ← s.inflight[i]?
    match d.stage with
    | .answered reply _ => some (s.reply i d reply)
    | _ => none
  | .crash => some { s with inflight := [] }
  | .background app =>
    if ∀ r ∈ dedupRows app, r ∈ dedupRows s.app then some { s with app := app } else none

def owned (s : System) (k : EventKey) : Bool :=
  s.inflight.any (fun d => d.owns && d.key == k)

def sound (s : System) : InboxAction → Bool
  | .work i => s.inflight[i]?.all (fun d => !d.stage.inserting || !s.owned d.key)
  | .fault i => s.inflight[i]?.all (fun d => d.stage.faultPropagates)
  | .crash => s.inflight.all (fun d => !d.owns)
  | _ => true

structure Acknowledging (s : System) : Prop where
  recorded : ∀ r ∈ dedupRows s.app, Federation.dedupKey r ∈ s.settled ∨
    ∃ d ∈ s.inflight, d.owns = true ∧ d.key = Federation.dedupKey r
  replied : ∀ d ∈ s.inflight, ∀ complete, d.stage = .answered .ok complete → d.key ∈ s.settled
  framed : ∀ d ∈ s.inflight, d.stage.Framed d.env
  acknowledged : ∀ k ∈ s.acknowledged, k ∈ s.settled

theorem mem_set_or {l : List Delivery} {i : Nat} {d x y : Delivery} (hi : l[i]? = some d)
    (hy : y ∈ l) : y = d ∨ y ∈ l.set i x := by
  obtain ⟨j, hj⟩ := List.mem_iff_getElem?.mp hy
  by_cases hij : i = j
  · subst hij
    exact .inl (Option.some.inj (hj.symm.trans hi))
  · right
    apply List.mem_iff_getElem?.mpr
    exact ⟨j, by rw [List.getElem?_set_ne hij, hj]⟩

theorem mem_eraseIdx_or {l : List Delivery} {i : Nat} {d y : Delivery} (hi : l[i]? = some d)
    (hy : y ∈ l) : y = d ∨ y ∈ l.eraseIdx i := by
  obtain ⟨j, hj⟩ := List.mem_iff_getElem?.mp hy
  by_cases hij : j = i
  · subst hij
    exact .inl (Option.some.inj (hj.symm.trans hi))
  · exact .inr (List.mem_eraseIdx_iff_getElem?.mpr ⟨j, hij, hj⟩)

theorem settled_place {s : System} {i : Nat} {d : Delivery} {stage : Stage} {app : AppState}
    {k : EventKey} (h : k ∈ s.settled) : k ∈ (s.place i d stage app).settled := by
  simp only [place]
  split
  · exact List.mem_cons_of_mem _ h
  · exact h

theorem mem_place {s : System} {i : Nat} {d : Delivery} {stage : Stage} {app : AppState}
    (hi : s.inflight[i]? = some d) :
    { d with stage := stage } ∈ (s.place i d stage app).inflight := by
  obtain ⟨hlt, _⟩ := List.getElem?_eq_some_iff.mp hi
  exact List.mem_set hlt _

theorem Acknowledging.place {s : System} (h : s.Acknowledging) {i : Nat} {d : Delivery}
    {stage : Stage} {app : AppState} (hi : s.inflight[i]? = some d)
    (hframed : stage.Framed d.env)
    (hrows : ∀ r ∈ dedupRows app, r ∈ dedupRows s.app ∨
      (Federation.dedupKey r = d.key ∧ (stage.owns = true ∨ stage.finished = true)))
    (hkept : d.owns = true → ∀ r ∈ dedupRows app, Federation.dedupKey r = d.key →
      stage.owns = true ∨ stage.finished = true)
    (hreplied : ∀ complete, stage = .answered .ok complete →
      d.key ∈ (s.place i d stage app).settled) :
    (s.place i d stage app).Acknowledging where
  recorded := by
    have hkeep : stage.owns = true ∨ stage.finished = true →
        d.key ∈ (s.place i d stage app).settled ∨
          ∃ d' ∈ (s.place i d stage app).inflight, d'.owns = true ∧ d'.key = d.key := by
      rintro (howns | hfinished)
      · exact .inr ⟨_, mem_place hi, howns, rfl⟩
      · left
        simp [System.place, hfinished]
    intro r hr
    rcases hrows r hr with hold | ⟨hkey, hmine⟩
    · rcases h.recorded r hold with hsettled | ⟨d', hd', howns, hkey⟩
      · exact .inl (settled_place hsettled)
      · rcases mem_set_or hi hd' with rfl | hother
        · rw [← hkey]
          exact hkeep (hkept howns r hr hkey.symm)
        · exact .inr ⟨d', hother, howns, hkey⟩
    · rw [hkey]
      exact hkeep hmine
  replied := by
    intro d' hd' complete hstage
    rcases List.mem_or_eq_of_mem_set hd' with hold | rfl
    · exact settled_place (h.replied d' hold complete hstage)
    · exact hreplied complete hstage
  framed := by
    intro d' hd'
    rcases List.mem_or_eq_of_mem_set hd' with hold | rfl
    · exact h.framed d' hold
    · exact hframed
  acknowledged := fun k hk => settled_place (h.acknowledged k hk)

theorem tick_dedupFirstSeen (eventId origin : String) (s : AppState) :
    (Federation.dedupFirstSeen eventId origin).attempt.tick s =
      some ((Federation.dedupInsert eventId origin s.now).attempt, s) := rfl

theorem tick_dedupInsert (eventId origin now : String) (s : AppState) :
    (Federation.dedupInsert eventId origin now).attempt.tick s =
      some (.ret (.ok (!Table.has Federation.dedupKey (eventId, origin) (dedupRows s))),
        s.withDb { s.db with
          federationInboxDedup := Table.insertNew Federation.dedupKey
            { eventId := eventId, origin := origin, receivedAt := now } (dedupRows s) }) := rfl

theorem tick_dedupRemove (eventId origin : String) (s : AppState) :
    (Federation.dedupRemove eventId origin).attempt.tick s =
      some (.ret (.ok ()), s.withDb { s.db with
        federationInboxDedup := Table.delete Federation.dedupKey (eventId, origin)
          (dedupRows s) }) := rfl

theorem settled_of_recorded {s : System} (h : s.Acknowledging) {k : EventKey}
    (hunowned : s.owned k = false)
    (hrecorded : Table.has Federation.dedupKey k (dedupRows s.app) = true) : k ∈ s.settled := by
  obtain ⟨r, hr, rfl⟩ := Table.has_iff.mp hrecorded
  rcases h.recorded r hr with hsettled | ⟨d, hd, howns, hkey⟩
  · exact hsettled
  · have howned : s.owned (Federation.dedupKey r) = true := by
      simp only [owned, List.any_eq_true]
      exact ⟨d, hd, by simp [howns, hkey]⟩
    rw [hunowned] at howned
    cases howned

section

variable {s : System} (h : s.Acknowledging) {i : Nat} {d : Delivery}

include h

theorem Acknowledging.insert {now : String} (hi : s.inflight[i]? = some d)
    (hstage : d.stage = .checking (Federation.dedupInsert d.env.eventId d.env.origin now).attempt)
    (hunowned : s.owned d.key = false) {r : Stage × AppState}
    (hwork : d.stage.work d.peer d.env s.app = some r) :
    (s.place i d r.1 r.2).Acknowledging := by
  have hidle : d.owns = false := by simp [Delivery.owns, hstage, Stage.owns]
  rw [hstage, Stage.work, tick_dedupInsert, Option.map_some] at hwork
  cases hwork
  cases hrecorded : Table.has Federation.dedupKey (d.env.eventId, d.env.origin)
      (dedupRows s.app) with
  | true =>
    apply h.place hi
    · trivial
    · intro r hr
      left
      have hsame := @Table.insertNew_of_has _ _ _ Federation.dedupKey
        { eventId := d.env.eventId, origin := d.env.origin, receivedAt := now } _ hrecorded
      rw [← hsame]
      exact hr
    · simp [hidle]
    · intro _ _
      exact settled_place (settled_of_recorded h hunowned hrecorded)
  | false =>
    obtain ⟨hframed, hmine⟩ := Stage.beginApply_framed d.peer d.env
    apply h.place hi
    · exact hframed
    · intro r hr
      rcases @Table.mem_insertNew _ _ _ Federation.dedupKey _ _ _ hr with hold | hnew
      · exact .inl hold
      · refine .inr ⟨by rw [hnew]; rfl, ?_⟩
        exact hmine.imp id (fun heq => by simp [Stage.afterCheck, heq, Stage.finished])
    · simp [hidle]
    · intro complete heq
      have hfinished : (Stage.beginApply d.peer d.env).finished = true := by
        rcases hmine with howns | hdone
        · rw [show Stage.beginApply d.peer d.env = _ from heq] at howns
          cases howns
        · rw [hdone]
          rfl
      simp [System.place, Stage.afterCheck, hfinished]

theorem Acknowledging.check {rest : App (Except AppError Bool)} (hi : s.inflight[i]? = some d)
    (hstage : d.stage = .checking rest) (hsound : d.stage.inserting = true → s.owned d.key = false)
    {r : Stage × AppState} (hwork : d.stage.work d.peer d.env s.app = some r) :
    (s.place i d r.1 r.2).Acknowledging := by
  have hframed := h.framed d (List.mem_of_getElem? hi)
  rw [hstage] at hframed
  rcases hframed with rfl | ⟨now, rfl⟩
  · rw [hstage, Stage.work, tick_dedupFirstSeen, Option.map_some] at hwork
    cases hwork
    apply h.place hi
    · exact .inr ⟨s.app.now, rfl⟩
    · exact fun r hr => .inl hr
    · intro howns
      simp [Delivery.owns, hstage, Stage.owns] at howns
    · intro complete heq
      cases heq
  · exact h.insert hi hstage (hsound (by rw [hstage]; rfl)) hwork

theorem Acknowledging.apply {rest : App Applied} {complete : Bool} (hi : s.inflight[i]? = some d)
    (hstage : d.stage = .applying rest complete) {r : Stage × AppState}
    (hwork : d.stage.work d.peer d.env s.app = some r) :
    (s.place i d r.1 r.2).Acknowledging := by
  have hframed := h.framed d (List.mem_of_getElem? hi)
  rw [hstage] at hframed
  obtain ⟨hpreserves, rfl⟩ := hframed
  rw [hstage, Stage.work] at hwork
  obtain ⟨⟨q, app⟩, htick, rfl⟩ := Option.map_eq_some_iff.mp hwork
  obtain ⟨hrows, hq⟩ := hpreserves.tick htick
  obtain ⟨hnext, hmine⟩ := Stage.afterApply_framed d.env hq
  apply h.place hi
  · exact hnext
  · intro r hr
    left
    rw [← hrows]
    exact hr
  · intro _ r _ _
    exact hmine.imp id (fun heq => by simp [heq, Stage.finished])
  · intro complete heq
    have hfinished : (Stage.afterApply d.env true q).finished = true := by
      rcases hmine with howns | hdone
      · rw [show Stage.afterApply d.env true q = _ from heq] at howns
        cases howns
      · rw [hdone]
        rfl
    simp [System.place, hfinished]

theorem Acknowledging.rollback {rest : App (Except AppError Unit)} {reply : Reply}
    (hi : s.inflight[i]? = some d) (hstage : d.stage = .rollingBack rest reply)
    {r : Stage × AppState} (hwork : d.stage.work d.peer d.env s.app = some r) :
    (s.place i d r.1 r.2).Acknowledging := by
  have hframed := h.framed d (List.mem_of_getElem? hi)
  rw [hstage] at hframed
  obtain ⟨rfl, hreply⟩ := hframed
  rw [hstage, Stage.work, tick_dedupRemove, Option.map_some] at hwork
  cases hwork
  have hremaining : ∀ r ∈ Table.delete Federation.dedupKey d.key (dedupRows s.app),
      r ∈ dedupRows s.app ∧ Federation.dedupKey r ≠ d.key := by
    intro r hr
    simpa [Table.delete] using hr
  apply h.place hi
  · trivial
  · exact fun r hr => .inl (hremaining r hr).1
  · intro _ r hr hkey
    exact absurd hkey (hremaining r hr).2
  · intro complete heq
    cases heq
    exact absurd rfl hreply

theorem Acknowledging.work (hi : s.inflight[i]? = some d)
    (hsound : d.stage.inserting = true → s.owned d.key = false) {r : Stage × AppState}
    (hwork : d.stage.work d.peer d.env s.app = some r) :
    (s.place i d r.1 r.2).Acknowledging := by
  cases hstage : d.stage with
  | checking rest => exact h.check hi hstage hsound hwork
  | applying rest complete => exact h.apply hi hstage hwork
  | rollingBack rest reply => exact h.rollback hi hstage hwork
  | answered reply complete =>
    rw [hstage] at hwork
    cases hwork

theorem Acknowledging.fault (hi : s.inflight[i]? = some d) (hsound : d.stage.faultPropagates = true)
    {stage : Stage} (hfault : d.stage.fault d.peer d.env = some stage) :
    (s.place i d stage s.app).Acknowledging := by
  cases hstage : d.stage with
  | checking rest =>
    have hframed := h.framed d (List.mem_of_getElem? hi)
    rw [hstage] at hframed hfault
    rcases hframed with rfl | ⟨now, rfl⟩
    · cases hfault
    · cases hfault
      apply h.place hi
      · trivial
      · exact fun r hr => .inl hr
      · intro howns
        simp [Delivery.owns, hstage, Stage.owns] at howns
      · intro complete heq
        cases heq
  | applying rest complete =>
    rw [hstage] at hsound hfault
    obtain ⟨q, hq, rfl⟩ := Option.map_eq_some_iff.mp hfault
    simp only [Stage.faultPropagates, hq, Option.all_some] at hsound
    cases q with
    | fail e =>
      apply h.place hi
      · exact ⟨rfl, by simp⟩
      · exact fun r hr => .inl hr
      · exact fun _ _ _ _ => .inl rfl
      · intro complete heq
        cases heq
    | ret a => cases hsound
    | step u n => cases hsound
    | stmt u n q => cases hsound
  | rollingBack rest reply =>
    rw [hstage] at hsound
    cases hsound
  | answered reply complete =>
    rw [hstage] at hfault
    cases hfault

end

section

variable {s : System} (h : s.Acknowledging)

include h

theorem Acknowledging.receive (peer : String) (env : FederationEnvelope) :
    Acknowledging { s with inflight := s.inflight ++ [⟨peer, env, Stage.start env⟩] } where
  recorded := by
    intro r hr
    rcases h.recorded r hr with hsettled | ⟨d, hd, howned⟩
    · exact .inl hsettled
    · exact .inr ⟨d, List.mem_append_left _ hd, howned⟩
  replied := by
    intro d hd complete hstage
    rcases List.mem_append.mp hd with hold | hnew
    · exact h.replied d hold complete hstage
    · rw [List.mem_singleton.mp hnew] at hstage
      cases hstage
  framed := by
    intro d hd
    rcases List.mem_append.mp hd with hold | hnew
    · exact h.framed d hold
    · rw [List.mem_singleton.mp hnew]
      exact .inl rfl
  acknowledged := h.acknowledged

theorem Acknowledging.answer {i : Nat} {d : Delivery} {reply : Reply} {complete : Bool}
    (hi : s.inflight[i]? = some d) (hstage : d.stage = .answered reply complete) :
    (s.reply i d reply).Acknowledging where
  recorded := by
    intro r hr
    rcases h.recorded r hr with hsettled | ⟨d', hd', howns, hkey⟩
    · exact .inl hsettled
    · rcases mem_eraseIdx_or hi hd' with rfl | hother
      · simp [Delivery.owns, hstage, Stage.owns] at howns
      · exact .inr ⟨d', hother, howns, hkey⟩
  replied := fun d' hd' => h.replied d' (List.mem_of_mem_eraseIdx hd')
  framed := fun d' hd' => h.framed d' (List.mem_of_mem_eraseIdx hd')
  acknowledged := by
    intro k hk
    by_cases hok : reply = .ok
    · subst hok
      simp only [System.reply, if_true, List.mem_cons] at hk
      rcases hk with rfl | hold
      · exact h.replied d (List.mem_of_getElem? hi) complete hstage
      · exact h.acknowledged k hold
    · simp only [System.reply, hok, if_false] at hk
      exact h.acknowledged k hk

theorem Acknowledging.crash (hidle : ∀ d ∈ s.inflight, d.owns = false) :
    Acknowledging { s with inflight := [] } where
  recorded := by
    intro r hr
    rcases h.recorded r hr with hsettled | ⟨d, hd, howns, _⟩
    · exact .inl hsettled
    · rw [hidle d hd] at howns
      cases howns
  replied := by simp
  framed := by simp
  acknowledged := h.acknowledged

theorem Acknowledging.background {app : AppState} (hrows : ∀ r ∈ dedupRows app, r ∈ dedupRows s.app) :
    Acknowledging { s with app := app } where
  recorded := fun r hr => h.recorded r (hrows r hr)
  replied := h.replied
  framed := h.framed
  acknowledged := h.acknowledged

end

theorem Acknowledging.step {s t : System} {a : InboxAction} (h : s.Acknowledging)
    (hsound : s.sound a = true) (hstep : s.step a = some t) : t.Acknowledging := by
  cases a with
  | receive peer env =>
    simp only [System.step] at hstep
    split at hstep
    · cases hstep
      exact h.receive peer env
    · cases hstep
      exact h
  | work i =>
    obtain ⟨d, hi, hrest⟩ := Option.bind_eq_some_iff.mp hstep
    obtain ⟨r, hwork, hplace⟩ := Option.bind_eq_some_iff.mp hrest
    cases hplace
    refine h.work hi ?_ hwork
    intro hinserting
    simpa [sound, hi, hinserting] using hsound
  | fault i =>
    obtain ⟨d, hi, hrest⟩ := Option.bind_eq_some_iff.mp hstep
    obtain ⟨stage, hfault, hplace⟩ := Option.bind_eq_some_iff.mp hrest
    cases hplace
    exact h.fault hi (by simpa [sound, hi] using hsound) hfault
  | answer i =>
    obtain ⟨d, hi, hrest⟩ := Option.bind_eq_some_iff.mp hstep
    cases hstage : d.stage with
    | answered reply complete =>
      rw [hstage] at hrest
      cases hrest
      exact h.answer hi hstage
    | _ =>
      rw [hstage] at hrest
      cases hrest
  | crash =>
    cases hstep
    exact h.crash (by simpa [sound] using hsound)
  | background app =>
    simp only [System.step] at hstep
    split at hstep
    · rename_i hrows
      cases hstep
      exact h.background hrows
    · cases hstep

theorem acknowledging_boot (app : AppState) : (boot app).Acknowledging where
  recorded := fun r hr => .inl (List.mem_map_of_mem hr)
  replied := by simp [boot]
  framed := by simp [boot]
  acknowledged := by simp [boot]

theorem acknowledged_events_applied {app : AppState} {acts : List InboxAction} {s : System}
    (hrun : runFrom step (boot app) acts = some s)
    (hsound : meets step sound (boot app) acts = true) : ∀ k ∈ s.acknowledged, k ∈ s.settled := by
  have hinv : s.Acknowledging :=
    @run_induction_of_meets _ _ step sound Acknowledging (fun _ _ _ h hc hs => h.step hc hs)
      _ _ _ (acknowledging_boot app) hsound hrun
  exact hinv.acknowledged

def replicaServer : AppState :=
  { db :=
      { users := [{ id := "1@a.example", username := "ann@a.example", origin := some "a.example" }]
        spaces :=
          [{ id := "10@a.example"
             name := "home"
             ownerId := "1@a.example"
             origin := some "a.example" }]
        channels :=
          [{ id := "20@a.example", spaceId := some "10@a.example", origin := some "a.example" }] }
    federation := some { domain := "b.example", publicUrl := "https://b.example" }
    ext := Externals.fixed "2025-01-01 00:00:00"
    snowflake := 100 }

def annPosts : FederationEnvelope :=
  { eventId := "900"
    origin := "a.example"
    spaceId := some "10@a.example"
    eventType := "m.message.create"
    payload :=
      .obj [("id", .str "50@a.example"), ("channel_id", .str "20@a.example"),
        ("space_id", .str "10@a.example"), ("author", .obj [("id", .str "1@a.example")]),
        ("content", .str "hi"), ("created_at", .str "2025-01-01 00:00:00")] }

def arrives : InboxAction := .receive "a.example" annPosts

def duplicateRun : List InboxAction :=
  [arrives, arrives, .work 0, .work 0, .work 1, .work 1, .answer 1]

def crashRun : List InboxAction :=
  [arrives, .work 0, .work 0, .crash, arrives, .work 0, .work 0, .answer 0]

def redeliveredRun : List InboxAction :=
  arrives :: List.replicate 10 (.work 0) ++ [.answer 0, arrives, .work 0, .work 0, .answer 0]

def reached (acts : List InboxAction) : System :=
  (runFrom step (boot replicaServer) acts).getD (boot replicaServer)

theorem unapplied_event_acknowledged :
    (runFrom step (boot replicaServer) duplicateRun).isSome = true ∧
      (runFrom step (boot replicaServer) crashRun).isSome = true ∧
      eventKey annPosts ∈ (reached duplicateRun).acknowledged ∧
      eventKey annPosts ∉ (reached duplicateRun).settled ∧
      (reached duplicateRun).app.db.messages = [] ∧
      eventKey annPosts ∈ (reached crashRun).acknowledged ∧
      eventKey annPosts ∉ (reached crashRun).settled ∧
      (reached crashRun).app.db.messages = [] := by
  decide +kernel

theorem redelivery_acknowledged_after_apply :
    eventKey annPosts ∈ (reached redeliveredRun).settled :=
  @acknowledged_events_applied replicaServer redeliveredRun (reached redeliveredRun)
    (runFrom_getD (by decide +kernel)) (by decide +kernel) (eventKey annPosts) (by decide +kernel)

end System

theorem handleInbox_stages {peer : String} {env : FederationEnvelope} {s t : AppState}
    {q : App Reply} (hcheck : Authority.check peer env = .ok ())
    (hrun : Relation.ReflTransGen Prog.Step (handleInbox peer env, s) (q, t)) :
    ∃ st : Stage, st.program peer env = q ∧ ∀ q' t', Prog.Step (q, t) (q', t') ↔
      ∃ st' : Stage, st'.program peer env = q' ∧
        (st.work peer env t = some (st', t') ∨ st.fault peer env = some st' ∧ t' = t) := by
  obtain ⟨st, hst, rfl⟩ := Stage.residual_has_stage peer env hcheck hrun
  exact ⟨st, rfl, fun _ _ =>
    Prog.step_iff_of_moves (Stage.program_tick peer env hst _) (Stage.program_faulted peer env hst)⟩

open System

theorem handleInbox_stages_annPosts :
    ∃ st : Stage, st.program "a.example" annPosts = handleInbox "a.example" annPosts ∧
      ∀ q t, Prog.Step (handleInbox "a.example" annPosts, replicaServer) (q, t) ↔
        ∃ st' : Stage, st'.program "a.example" annPosts = q ∧
          (st.work "a.example" annPosts replicaServer = some (st', t) ∨
            st.fault "a.example" annPosts = some st' ∧ t = replicaServer) :=
  handleInbox_stages (by decide +kernel) .refl

end Vokusz.Federation.Inbox
