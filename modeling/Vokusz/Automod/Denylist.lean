import Vokusz.Automod.Rulings

namespace Vokusz.Automod

open Db Permissions
open Lib (Prog Task Table.lookup)

abbrev uploadsOf (s : AppState) : List AutomodUpload := s.db.automodUploads

def statusOf (id : String) (rows : List AutomodUpload) : Option String :=
  (Lib.Table.lookup AutomodUpload.id id rows).map AutomodUpload.status

theorem preserves_uploads {slots : List Slot} {α : Type} {p : App α} (h : App.Touches slots p)
    (hn : Slot.automodUploads ∉ slots) : p.Preserves uploadsOf :=
  h .automodUploads hn

section

variable {m : Originals} {s : AppState} {upload : AutomodUpload} {r : Rule}
  {result : Option ScanResult}

theorem lookup_effect (c : Commit) (db : Tables) (id : String) :
    Lib.Table.lookup AutomodUpload.id id (c.effect db).automodUploads =
      (Lib.Table.lookup AutomodUpload.id id db.automodUploads).map
        (fun u => if c.current u then c.decides u else u) := by
  change Lib.Table.lookup AutomodUpload.id id (db.automodUploads.map _) = _
  apply Lib.Table.lookup_map
  intro u
  split <;> rfl

theorem statusOf_effect (c : Commit) {db : Tables}
    (hrow : Lib.Table.lookup AutomodUpload.id c.upload.id db.automodUploads = some c.upload) :
    statusOf c.upload.id (c.effect db).automodUploads = some c.status := by
  rw [statusOf, lookup_effect, hrow]
  simp [Commit.current, Commit.decides]

theorem status_of_write {c : Commit}
    (hrow : Lib.Table.lookup AutomodUpload.id c.upload.id (uploadsOf s) = some c.upload) :
    statusOf c.upload.id (uploadsOf (c.write.exec s).2) =
      if c.refusal s.db = none then some c.status else some c.upload.status := by
  rw [Commit.write, App.exec_write]
  cases hrefusal : c.refusal s.db with
  | none =>
    rw [if_pos rfl]
    exact statusOf_effect c hrow
  | some e =>
    rw [if_neg (by simp)]
    simp [statusOf, hrow]

theorem exec_newExpiry (s : AppState) (upload : AutomodUpload) :
    ∃ expiresAt, (newExpiry upload).exec s = (.ok expiresAt, s) := by
  unfold newExpiry
  split
  · exact ⟨_, rfl⟩
  · exact ⟨_, rfl⟩

theorem exec_flagged (s : AppState) (actor : String) (upload : AutomodUpload) (status : String)
    (rule : Option Rule) :
    ∃ report t, (flagged actor upload status rule).exec s = (.ok report, t) := by
  cases rule with
  | none => exact ⟨_, _, rfl⟩
  | some rule =>
    unfold flagged
    dsimp only
    split
    · exact ⟨_, _, rfl⟩
    · exact ⟨_, _, rfl⟩

theorem exec_timeoutEnd (s : AppState) (rule : Option Rule) :
    ∃ timedOutUntil, (timeoutEnd rule).exec s = (.ok timedOutUntil, s) := by
  unfold timeoutEnd
  split
  · exact ⟨_, rfl⟩
  · exact ⟨_, rfl⟩

theorem exec_store (s : AppState) (upload : AutomodUpload) (actor status reason : String)
    (file : Option PublicFile) (decision : Decision) :
    ∃ (c : Commit) (t : AppState), c.upload = upload ∧ c.status = status ∧ c.file = file ∧
      (flagged actor upload status decision.rule).exec s = (.ok c.report, t) ∧
      (store upload actor status reason file decision).exec s = c.write.exec t := by
  obtain ⟨expiresAt, hexpiry⟩ := exec_newExpiry s upload
  obtain ⟨report, t, hreport⟩ := exec_flagged s actor upload status decision.rule
  obtain ⟨timedOutUntil, htimeout⟩ := exec_timeoutEnd t decision.rule
  refine ⟨⟨upload, status, reason, expiresAt, decision, file, report, timedOutUntil⟩, t,
    rfl, rfl, rfl, hreport, ?_⟩
  unfold store
  rw [Prog.exec_bind_of_ok hexpiry, Prog.exec_bind_of_ok hreport, Prog.exec_bind_of_ok htimeout]

def heldBy (upload : AutomodUpload) (s : AppState) : Prop :=
  Lib.Table.lookup AutomodUpload.id upload.id (uploadsOf s) = some upload

theorem heldBy_exec {slots : List Slot} {α : Type} {p : App α} (h : App.Touches slots p)
    (hn : Slot.automodUploads ∉ slots) (hrow : heldBy upload s) : heldBy upload (p.exec s).2 := by
  unfold heldBy
  rw [(preserves_uploads h hn).exec s]
  exact hrow

theorem status_of_heldBy (hrow : heldBy upload s) :
    statusOf upload.id (uploadsOf s) = some upload.status := by
  simp [statusOf, show Lib.Table.lookup AutomodUpload.id upload.id (uploadsOf s) = some upload
    from hrow]

structure ReportedBy (actor : String) (upload : AutomodUpload) (u : AppState) (row : ReportRow) :
    Prop where
  id : row.id = toString u.snowflake
  space : row.spaceId = upload.spaceId
  reporter : row.reporterId = actor

structure Releasable (m : Originals) (s : AppState) (upload : AutomodUpload)
    (actor : String) (file : PublicFile) (t u : AppState) : Prop where
  acts : Users.getOrCreateSystemUser.exec s = (.ok actor, t)
  copied : (publicCopy m upload).exec t = (.ok (some file), u)
  accepted : ∀ (c : Commit) row, c.upload = upload → c.file = some file → c.report = some row →
    ReportedBy actor upload u row → c.refusal u.db = none

def CanRelease (m : Originals) (s : AppState) (upload : AutomodUpload) : Prop :=
  ∃ actor file t u, Releasable m s upload actor file t u

theorem status_of_store (actor status reason : String) (file : Option PublicFile)
    (decision : Decision) (hrow : heldBy upload s) :
    statusOf upload.id (uploadsOf ((store upload actor status reason file decision).exec s).2) =
        some upload.status ∨
      statusOf upload.id (uploadsOf ((store upload actor status reason file decision).exec s).2) =
        some status := by
  obtain ⟨c, t, hupload, hstatus, hfile, hreport, hexec⟩ :=
    exec_store s upload actor status reason file decision
  have hrow' : heldBy upload t := by
    have hheld := heldBy_exec (touches_flagged actor upload status decision.rule) (by decide) hrow
    rwa [hreport] at hheld
  subst hupload hstatus
  rw [hexec, status_of_write hrow']
  split
  · exact .inr rfl
  · exact .inl rfl

theorem exec_finish (s : AppState) (m : Originals) (upload : AutomodUpload)
    (status reason : String) (decision : Decision) :
    (finish m upload status reason decision).exec s =
      (finishLocked m upload status reason decision).exec s := by
  rw [finish, Task.exec_locked]
  exact Task.exec_monadLift _ _

inductive Finished (m : Originals) (upload : AutomodUpload) (status reason : String)
    (decision : Decision) (s : AppState) (rows : List AutomodUpload) : Prop
  | noActor {e t} (h : (actorOf decision).exec s = (.error e, t)) (hrows : rows = uploadsOf s)
  | noCopy {actor e t u} (h : (actorOf decision).exec s = (.ok actor, t))
      (hsettle : (settle m upload status reason).exec t = (.error e, u))
      (hrows : rows = uploadsOf s)
  | stored {actor status' reason' file t u} (h : (actorOf decision).exec s = (.ok actor, t))
      (hsettle : (settle m upload status reason).exec t = (.ok (status', reason', file), u))
      (hrows : rows =
        uploadsOf ((store upload actor status' reason' file decision).exec u).2)

theorem finished (s : AppState) (m : Originals) (upload : AutomodUpload) (status reason : String)
    (decision : Decision) :
    Finished m upload status reason decision s
      (uploadsOf ((finish m upload status reason decision).exec s).2) := by
  have hactor := (preserves_uploads (touches_actorOf decision) (by decide)).exec s
  rw [exec_finish, finishLocked]
  rcases Prog.exec_bind_cases (actorOf decision) _ s with ⟨e, t, h, hexec⟩ | ⟨actor, t, h, hexec⟩
  · rw [hexec]
    rw [h] at hactor
    exact .noActor h hactor
  · rw [h] at hactor
    have hcopy := (preserves_uploads (touches_settle m upload status reason) (by decide)).exec t
    rcases Prog.exec_bind_cases (settle m upload status reason) _ t with
      ⟨e, u, hsettle, hexec'⟩ | ⟨⟨status', reason', file⟩, u, hsettle, hexec'⟩
    · rw [hsettle] at hcopy
      rw [hexec, hexec']
      exact .noCopy h hsettle (hcopy.trans hactor)
    · refine .stored h hsettle ?_
      rw [hexec, hexec']
      exact Prog.Preserves.exec_bind
        (fun _ => preserves_uploads (touches_announce upload status') (by decide)) _ u

theorem finish_withholds {status reason : String} {decision : Decision} (hrow : heldBy upload s)
    (hpending : upload.status ≠ "published") (hstatus : status ≠ "published") :
    statusOf upload.id (uploadsOf ((finish m upload status reason decision).exec s).2) ≠
      some "published" := by
  cases finished s m upload status reason decision with
  | noActor h hrows =>
    rw [hrows, status_of_heldBy hrow]
    simpa using hpending
  | noCopy h hsettle hrows =>
    rw [hrows, status_of_heldBy hrow]
    simpa using hpending
  | @stored actor status' reason' file t u h hsettle hrows =>
    unfold settle at hsettle
    rw [if_neg hstatus] at hsettle
    cases hsettle
    have hheld : heldBy upload t := by
      have hheld := heldBy_exec (touches_actorOf decision) (by decide) hrow
      rwa [h] at hheld
    rw [hrows]
    rcases status_of_store actor status reason none decision hheld with hkept | hstored
    · rw [hkept]
      simpa using hpending
    · rw [hstored]
      simpa using hstatus

theorem exec_settle (s : AppState) (m : Originals) (upload : AutomodUpload) (reason : String) :
    (settle m upload "published" reason).exec s =
      match (publicCopy m upload).exec s with
      | (.ok (some file), t) => (.ok ("published", reason, some file), t)
      | (.ok none, t) =>
        (.ok ("quarantined", "original message was deleted; cannot release", none), t)
      | (.error e, t) => (.error e, t) := by
  unfold settle
  rw [if_pos rfl, Prog.exec_bind]
  rcases (publicCopy m upload).exec s with ⟨r, t⟩
  cases r with
  | error e => rfl
  | ok file => cases file <;> rfl

theorem refusal_congr {c c' : Commit} {row row' : ReportRow} (hupload : c.upload = c'.upload)
    (hfile : c.file = c'.file) (hreport : c.report = some row) (hreport' : c'.report = some row')
    (hrow : row.id = row'.id ∧ row.spaceId = row'.spaceId ∧ row.reporterId = row'.reporterId)
    (db : Tables) : c.refusal db = c'.refusal db := by
  unfold Commit.refusal Commit.current Commit.hasOriginalMessage
  rw [hupload, hfile, hreport, hreport', Option.bind_some, Option.bind_some]
  unfold Db.Reports.insertRefusal
  rw [hrow.1, hrow.2.1, hrow.2.2]

theorem exec_flagged_flag (upload : AutomodUpload) (hflag : r.action = .flag) (actor : String)
    (u : AppState) :
    ∃ row v, (flagged actor upload "published" (some r)).exec u = (.ok (some row), v) ∧
      v.db = u.db ∧ ReportedBy actor upload u row := by
  unfold flagged
  dsimp only
  rw [if_pos ⟨hflag, rfl⟩]
  exact ⟨_, _, rfl, rfl, ⟨rfl, rfl, rfl⟩⟩

theorem store_publishes_iff {actor reason : String} {file : PublicFile} {u : AppState}
    (hrow : heldBy upload u) (hpending : upload.status ≠ "published") (hflag : r.action = .flag) :
    statusOf upload.id (uploadsOf ((store upload actor "published" reason (some file)
        { rule := some r, result := result }).exec u).2) = some "published" ↔
      ∀ (c : Commit) row, c.upload = upload → c.file = some file → c.report = some row →
        ReportedBy actor upload u row → c.refusal u.db = none := by
  obtain ⟨c, v, hupload, hstatus, hfile, hreport, hexec⟩ :=
    exec_store u upload actor "published" reason (some file) { rule := some r, result := result }
  obtain ⟨row, v', hflagged, hdb, hreported⟩ := exec_flagged_flag upload hflag actor u
  have hheld : heldBy upload v := by
    have hheld := heldBy_exec (touches_flagged actor upload "published" (some r)) (by decide) hrow
    rwa [hreport] at hheld
  obtain ⟨hrowEq, hvEq⟩ := Prod.mk.inj (hreport.symm.trans hflagged)
  have hrowEq := Except.ok.inj hrowEq
  subst hupload hvEq
  rw [hexec, status_of_write hheld, hstatus, hdb]
  constructor
  · intro h c' row' hupload' hfile' hreport' hreported'
    rw [refusal_congr hupload' (hfile'.trans hfile.symm) hreport' hrowEq
      ⟨hreported'.id.trans hreported.id.symm, hreported'.space.trans hreported.space.symm,
        hreported'.reporter.trans hreported.reporter.symm⟩]
    by_contra hrefused
    rw [if_neg hrefused] at h
    exact hpending (Option.some.inj h)
  · intro haccepted
    rw [if_pos (haccepted c row rfl hfile hrowEq hreported)]

theorem finish_publishes_iff {reason : String} (hrow : heldBy upload s)
    (hpending : upload.status ≠ "published") (hflag : r.action = .flag) :
    statusOf upload.id (uploadsOf ((finish m upload "published" reason
        { rule := some r, result := result }).exec s).2) = some "published" ↔
      CanRelease m s upload := by
  cases finished s m upload "published" reason { rule := some r, result := result } with
  | @noActor e t h hrows =>
    rw [hrows, status_of_heldBy hrow]
    refine iff_of_false (by simpa using hpending) ?_
    rintro ⟨actor, file, t', u, hrel⟩
    cases h.symm.trans hrel.acts
  | @noCopy actor e t u h hsettle hrows =>
    rw [hrows, status_of_heldBy hrow]
    refine iff_of_false (by simpa using hpending) ?_
    rintro ⟨actor', file, t', u', hrel⟩
    cases h.symm.trans hrel.acts
    rw [exec_settle, hrel.copied] at hsettle
    cases hsettle
  | @stored actor status' reason' file t u h hsettle hrows =>
    have hheld : heldBy upload t := by
      have hheld := heldBy_exec (touches_actorOf { rule := some r, result := result })
        (by decide) hrow
      rwa [h] at hheld
    have hheld' : heldBy upload u := by
      have hheld' := heldBy_exec (touches_settle m upload "published" reason) (by decide) hheld
      rwa [hsettle] at hheld'
    rw [exec_settle] at hsettle
    rcases hcopy : (publicCopy m upload).exec t with ⟨copied, u'⟩
    rw [hcopy] at hsettle
    cases copied with
    | error e => cases hsettle
    | ok copied =>
      cases copied with
      | none =>
        cases hsettle
        refine iff_of_false ?_ ?_
        · rw [hrows]
          rcases status_of_store actor "quarantined" _ none _ hheld' with hkept | hstored
          · rw [hkept]
            simpa using hpending
          · rw [hstored]
            simp
        · rintro ⟨actor', file, t', u', hrel⟩
          cases h.symm.trans hrel.acts
          cases hcopy.symm.trans hrel.copied
      | some copied =>
        cases hsettle
        rw [hrows, store_publishes_iff hheld' hpending hflag]
        constructor
        · intro haccepted
          exact ⟨actor, copied, t, u, h, hcopy, haccepted⟩
        · rintro ⟨actor', file, t', u', hrel⟩
          cases h.symm.trans hrel.acts
          cases hcopy.symm.trans hrel.copied
          exact hrel.accepted

end

section

variable {m : Originals} {scan : AutomodUpload → Except String ScanResult} {s : AppState}
  {upload : AutomodUpload} {channel : ChannelRow}

structure NextUp (s : AppState) (upload : AutomodUpload) (channel : ChannelRow) : Prop where
  chosen : (candidate.exec s).1 = .ok (some upload.id)
  row : heldBy upload s
  pending : upload.status = "pending"
  channel : Channels.getChannelRow upload.channelId s.db = .ok channel

abbrev policyFor (s : AppState) (upload : AutomodUpload) : Policy :=
  Policy.inForce s.db upload.spaceId

abbrev ruleList (s : AppState) (upload : AutomodUpload) (channel : ChannelRow) : List Rule :=
  (policyFor s upload).rules.filter (fun r => r.applies channel)

def Stopped (s : AppState) (upload : AutomodUpload) (channel : ChannelRow) : Prop :=
  upload.expiresAt ≤ s.clock / 1000 ∨
    ((hold upload channel (policyFor s upload)).exec s).1 ≠ .ok none

def verdictOn (s : AppState) (upload : AutomodUpload) (channel : ChannelRow)
    (result : Option ScanResult) : Except AppError Verdict :=
  ((ruleList s upload channel).findSome? (answerTo s upload channel result)).getD (.ok .unmatched)

theorem exec_rule (result : Option ScanResult) :
    (rule upload channel (policyFor s upload) result).exec s =
      ((verdictOn s upload channel result).map (fun v => v.turn upload result), s) := by
  unfold rule
  rw [Prog.exec_bind, exec_evaluate]
  unfold verdictOn
  cases (List.findSome? (answerTo s upload channel result)
    (ruleList s upload channel)).getD (.ok .unmatched) <;> rfl

theorem exec_turn (h : NextUp s upload channel) (result : Option ScanResult) :
    (turn upload.id result).exec s =
      if upload.expiresAt ≤ s.clock / 1000 then
        (.ok (.decided upload "removed" "retention window expired" {}), s)
      else (judge upload channel (policyFor s upload) result).exec s := by
  unfold turn
  have hrow : pendingUpload upload.id s.db = .ok (some upload) := by
    unfold pendingUpload
    rw [show Lib.Table.lookup AutomodUpload.id upload.id s.db.automodUploads = some upload
      from h.row]
    simp [h.pending]
  have hchannel : originalChannel upload s.db = .ok (some channel) := by
    rw [originalChannel, h.channel]
  rw [Prog.exec_bind, App.exec_lift, hrow]
  dsimp only
  rw [Prog.exec_bind, App.exec_lift, hchannel]
  dsimp only
  rw [Prog.exec_bind, App.exec_lift]
  dsimp only [Policy.load]
  rw [Prog.exec_bind, App.exec_nowSeconds]
  dsimp only
  split <;> rfl

theorem exec_judge (policy : Policy) (result : Option ScanResult) :
    (judge upload channel policy result).exec s =
      match ((hold upload channel policy).exec s).1 with
      | .ok none => (rule upload channel policy result).exec s
      | .ok (some reason) => (.ok (.decided upload "quarantined" reason {}), s)
      | .error e => (.error e, s) := by
  unfold judge
  rw [Prog.exec_bind, exec_quiet (preserves_hold upload channel policy)]
  cases ((hold upload channel policy).exec s).1 with
  | error e => rfl
  | ok held => cases held <;> rfl

theorem turn_of_stopped (h : NextUp s upload channel) (hstop : Stopped s upload channel)
    (result : Option ScanResult) :
    (∃ e, (turn upload.id result).exec s = (.error e, s)) ∨
      ∃ status reason, status ≠ "published" ∧
        (turn upload.id result).exec s = (.ok (.decided upload status reason {}), s) := by
  rw [exec_turn h]
  by_cases hexpired : upload.expiresAt ≤ s.clock / 1000
  · rw [if_pos hexpired]
    exact .inr ⟨_, _, by decide, rfl⟩
  · rw [if_neg hexpired, exec_judge]
    rcases hstop with hnow | hheld
    · exact absurd hnow hexpired
    · cases hresult : ((hold upload channel (policyFor s upload)).exec s).1 with
      | error e => exact .inl ⟨e, rfl⟩
      | ok held =>
        cases held with
        | none => exact absurd hresult hheld
        | some reason => exact .inr ⟨_, _, by decide, rfl⟩

theorem turn_of_ruled (h : NextUp s upload channel) (hstop : ¬ Stopped s upload channel)
    (result : Option ScanResult) :
    (turn upload.id result).exec s =
      ((verdictOn s upload channel result).map (fun v => v.turn upload result), s) := by
  obtain ⟨hnow, hheld⟩ := not_or.mp hstop
  rw [exec_turn h, if_neg hnow, exec_judge, not_not.mp hheld]
  exact exec_rule result

section

variable {id status reason : String} {result : Option ScanResult} {decision : Decision}
  {e : AppError} (claims : Nat)

theorem exec_claim_error (h : (turn id result).exec s = (.error e, s)) :
    ((claim m scan id (claims + 1) result).exec s).2 = s := by
  have honce : (claimOnce m id result).exec s = (.error e, s) := by
    unfold claimOnce
    rw [Task.exec_locked]
    exact Task.exec_bind_of_error ((Task.exec_monadLift _ _).trans h)
  rw [claim, Task.exec_bind_of_error honce]

theorem exec_claim_decided
    (h : (turn id result).exec s = (.ok (.decided upload status reason decision), s)) :
    ((claim m scan id (claims + 1) result).exec s).2 =
      ((finish m upload status reason decision).exec s).2 := by
  have honce : (claimOnce m id result).exec s =
      (settled m (.decided upload status reason decision)).exec s := by
    unfold claimOnce
    rw [Task.exec_locked]
    exact Task.exec_bind_of_ok ((Task.exec_monadLift _ _).trans h)
  rw [claim, Task.exec_bind, honce, settled, Task.exec_bind]
  rcases (finish m upload status reason decision).exec s with ⟨r, t⟩
  cases r <;> rfl

theorem exec_claim_scan (h : (turn id result).exec s = (.ok (.scan upload), s)) :
    ((claim m scan id (claims + 1) result).exec s).2 =
      match scan upload with
      | .error text => ((scanFailed upload text).exec s).2
      | .ok found => ((claim m scan id claims (some found)).exec s).2 := by
  have honce : (claimOnce m id result).exec s = (.ok (some upload), s) := by
    unfold claimOnce
    rw [Task.exec_locked]
    exact Task.exec_bind_of_ok ((Task.exec_monadLift _ _).trans h)
  rw [claim, Task.exec_bind_of_ok honce]
  dsimp only
  cases scan upload with
  | ok found => rfl
  | error text =>
    dsimp only
    rw [Task.exec_bind, Task.exec_monadLift]
    rcases (scanFailed upload text).exec s with ⟨r, t⟩
    cases r <;> rfl

end

theorem exec_processOne (h : NextUp s upload channel) (claims : Nat) :
    (processOne m scan claims).exec s = (claim m scan upload.id claims none).exec s := by
  unfold processOne
  have hfound : (Task.locked Mutex.processing (Task.locked Mutex.admission
      (liftM candidate : Work (Option String)))).exec s = (.ok (some upload.id), s) := by
    rw [Task.exec_locked, Task.exec_locked, Task.exec_monadLift,
      exec_quiet preserves_candidate, h.chosen]
  rw [Task.exec_bind_of_ok hfound]

inductive Stance where
  | passes
  | publishes
  | withholds
  deriving DecidableEq, Repr

def stance (s : AppState) (upload : AutomodUpload) (channel : ChannelRow)
    (scanned : Except String ScanResult) (r : Rule) : Stance :=
  match answerTo s upload channel scanned.toOption r with
  | none => .passes
  | some (.ok (.matched r)) => if r.action = .flag then .publishes else .withholds
  | some _ => .withholds

theorem answer_none_of_passes {scanned : Except String ScanResult} {r : Rule}
    (h : stance s upload channel scanned r = .passes) :
    answerTo s upload channel scanned.toOption r = none := by
  unfold stance at h
  split at h
  · assumption
  · split at h <;> cases h
  · cases h

theorem answer_unscanned {rules : List Rule}
    (h : rules.findSome? (answerTo s upload channel none) ≠ some (.ok .needsScan))
    (result : Option ScanResult) :
    rules.findSome? (answerTo s upload channel result) =
      rules.findSome? (answerTo s upload channel none) := by
  induction rules with
  | nil => rfl
  | cons r rules ih =>
    rw [List.findSome?_cons] at h
    rw [List.findSome?_cons, List.findSome?_cons]
    unfold answerTo answer at h ih ⊢
    cases htrigger : r.trigger with
    | media categories threshold => simp [htrigger] at h
    | _ =>
      rw [htrigger] at h
      dsimp only at h ⊢
      cases hfires : fires s channel upload.authorId upload.hash r with
      | error e => rfl
      | ok b =>
        cases b with
        | true => rfl
        | false =>
          rw [hfires] at h
          exact ih h

def resolved (m : Originals) (scan : AutomodUpload → Except String ScanResult) (s : AppState)
    (upload : AutomodUpload) : Except AppError Turn → AppState
  | .ok (.decided upload status reason decision) =>
    ((finish m upload status reason decision).exec s).2
  | .ok (.scan _) =>
    match scan upload with
    | .error text => ((scanFailed upload text).exec s).2
    | .ok _ => s
  | _ => s

theorem exec_claim_of_ruled {id : String} {result : Option ScanResult} {r : Except AppError Turn}
    (h : (turn id result).exec s = (r, s)) (hscan : ∀ u, r ≠ .ok (.scan u))
    (hgone : r ≠ .ok .gone) (claims : Nat) :
    ((claim m scan id (claims + 1) result).exec s).2 = resolved m scan s upload r := by
  cases r with
  | error e => exact exec_claim_error claims h
  | ok t =>
    cases t with
    | gone => exact absurd rfl hgone
    | scan u => exact absurd rfl (hscan u)
    | decided u status reason decision => exact exec_claim_decided claims h

theorem map_turn_ne_gone (r : Except AppError Verdict) (result : Option ScanResult) :
    r.map (fun v => v.turn upload result) ≠ .ok .gone := by
  cases r with
  | error e => simp [Except.map]
  | ok v => cases v <;> simp [Except.map, Verdict.turn]

theorem map_turn_ne_scan {r : Except AppError Verdict} (hr : r ≠ .ok .needsScan)
    (result : Option ScanResult) (u : AutomodUpload) :
    r.map (fun v => v.turn upload result) ≠ .ok (.scan u) := by
  cases r with
  | error e => simp [Except.map]
  | ok v => cases v <;> simp [Except.map, Verdict.turn] at hr ⊢

theorem verdictOn_some_ne (sc : ScanResult) :
    verdictOn s upload channel (some sc) ≠ .ok .needsScan := by
  unfold verdictOn
  cases hfound : (ruleList s upload channel).findSome? (answerTo s upload channel (some sc)) with
  | none => simp
  | some r =>
    obtain ⟨_, q, _, _, hanswer, _⟩ := List.findSome?_eq_some_iff.mp hfound
    rintro rfl
    unfold answerTo answer at hanswer
    split at hanswer
    · dsimp only at hanswer
      split at hanswer
      · cases hanswer
      · split at hanswer <;> cases hanswer
    · split at hanswer <;> cases hanswer

theorem exec_processOne_ruled (h : NextUp s upload channel) (hstop : ¬ Stopped s upload channel)
    (claims : Nat) :
    ∃ result, ((processOne m scan (claims + 2)).exec s).2 =
      resolved m scan s upload ((verdictOn s upload channel (scan upload).toOption).map
        (fun v => v.turn upload result)) := by
  rw [exec_processOne h]
  have hfirst := turn_of_ruled h hstop none
  by_cases hneeds : (ruleList s upload channel).findSome? (answerTo s upload channel none) =
      some (.ok .needsScan)
  · have hverdict : verdictOn s upload channel none = .ok .needsScan := by
      rw [verdictOn, hneeds]
      rfl
    rw [hverdict] at hfirst
    rw [exec_claim_scan (claims + 1) hfirst]
    cases hscan : scan upload with
    | error text =>
      refine ⟨none, ?_⟩
      rw [show (Except.error text : Except String ScanResult).toOption = none from rfl, hverdict]
      simp [resolved, Except.map, Verdict.turn, hscan]
    | ok found =>
      refine ⟨some found, ?_⟩
      exact exec_claim_of_ruled (turn_of_ruled h hstop (some found))
        (map_turn_ne_scan (verdictOn_some_ne found) _) (map_turn_ne_gone _ _) claims
  · have hverdict : verdictOn s upload channel none ≠ .ok .needsScan := by
      unfold verdictOn
      cases hfound : (ruleList s upload channel).findSome? (answerTo s upload channel none) with
      | none => simp
      | some r =>
        rintro rfl
        exact hneeds hfound
    have hsame : verdictOn s upload channel (scan upload).toOption =
        verdictOn s upload channel none := by
      rw [verdictOn, answer_unscanned hneeds, verdictOn]
    refine ⟨none, ?_⟩
    rw [hsame]
    exact exec_claim_of_ruled hfirst (map_turn_ne_scan hverdict _) (map_turn_ne_gone _ _)
      (claims + 1)

theorem hashRule_of_ruled (hstop : ¬ Stopped s upload channel)
    (hblocked : hashBlockedInScope s.db channel.spaceId upload.hash = true) :
    (policyFor s upload).hasHashRule channel = true := by
  by_contra hrule
  obtain ⟨_, hheld⟩ := not_or.mp hstop
  apply hheld
  unfold hold
  split
  · rw [Prog.exec_bind, App.exec_lift]
    simp only [hashBlocked, hblocked]
    rw [if_pos (by simpa using hrule)]
    simp
  · simp

theorem not_passes_hashRule {r : Rule} {scanned : Except String ScanResult}
    (htrigger : r.trigger = .hashDenylist) (happlies : r.applies channel = true)
    (hblocked : hashBlockedInScope s.db channel.spaceId upload.hash = true) :
    stance s upload channel scanned r ≠ .passes := by
  have hfires : fires s channel upload.authorId upload.hash r = .ok true := by
    unfold fires nonMediaMatch
    rw [if_pos happlies, htrigger]
    dsimp only
    rw [App.exec_lift, hashBlocked, hblocked]
  unfold stance answerTo answer
  rw [htrigger]
  dsimp only
  rw [hfires]
  dsimp only
  split <;> simp

theorem answer_of_publishes {r : Rule} {scanned : Except String ScanResult}
    (h : stance s upload channel scanned r = .publishes) :
    answerTo s upload channel scanned.toOption r = some (.ok (.matched r)) ∧ r.action = .flag := by
  have hmatched : ∀ r', answerTo s upload channel scanned.toOption r = some (.ok (.matched r')) →
      r' = r := by
    intro r' hr'
    unfold answerTo answer at hr'
    split at hr'
    · split at hr'
      · cases hr'
      · split at hr'
        · cases hr'
        · split at hr'
          · cases hr'
            rfl
          · cases hr'
    · split at hr' <;> cases hr'
      rfl
  unfold stance at h
  split at h
  · cases h
  · rename_i r' hr'
    obtain rfl := hmatched r' hr'
    refine ⟨hr', ?_⟩
    by_contra hflag
    rw [if_neg hflag] at h
    cases h
  · cases h

theorem answer_ne_unmatched {r : Rule} {result : Option ScanResult} :
    answerTo s upload channel result r ≠ some (.ok .unmatched) := by
  unfold answerTo answer
  split
  · split
    · simp
    · split
      · simp
      · split <;> simp
  · split <;> simp

theorem statusOf_map {f : AutomodUpload → AutomodUpload} {id : String}
    (hf : ∀ u, (f u).id = u.id ∧ (f u).status = u.status) (rows : List AutomodUpload) :
    statusOf id (rows.map f) = statusOf id rows := by
  unfold statusOf
  have hstatus : AutomodUpload.status ∘ f = AutomodUpload.status := funext (fun u => (hf u).2)
  rw [Lib.Table.lookup_map (fun u => (hf u).1), Option.map_map, hstatus]

theorem status_of_scanFailed (id text : String) :
    statusOf id (uploadsOf ((scanFailed upload text).exec s).2) = statusOf id (uploadsOf s) := by
  unfold scanFailed
  rw [Prog.exec_bind, App.exec_nowSeconds]
  dsimp only
  rw [Prog.exec_bind, App.exec_update]
  dsimp only
  have hquiet : (whenever (upload.reason ≠ text) (notify upload "pending")).Preserves uploadsOf :=
    Prog.preserves_ite (preserves_uploads (touches_notify _ _) (by decide))
      (Prog.preserves_pure _)
  rw [hquiet.exec]
  apply statusOf_map
  intro u
  split <;> exact ⟨rfl, rfl⟩

theorem resolved_of_withholds {r : Rule} {result : Option ScanResult}
    {answered : Except AppError Verdict} (h : NextUp s upload channel)
    (hstance : stance s upload channel (scan upload) r = .withholds)
    (hanswer : answerTo s upload channel (scan upload).toOption r = some answered) :
    statusOf upload.id (uploadsOf (resolved m scan s upload
      (answered.map (fun v => v.turn upload result)))) ≠ some "published" := by
  have hpending : upload.status ≠ "published" := by
    rw [h.pending]
    decide
  have hkept : statusOf upload.id (uploadsOf s) ≠ some "published" := by
    rw [status_of_heldBy h.row]
    simpa using hpending
  cases answered with
  | error e => exact hkept
  | ok v =>
    cases v with
    | unmatched => exact absurd hanswer answer_ne_unmatched
    | needsScan =>
      cases hscan : scan upload with
      | error text =>
        simp only [Except.map, Verdict.turn, resolved, hscan, status_of_scanFailed]
        exact hkept
      | ok found =>
        simp only [Except.map, Verdict.turn, resolved, hscan]
        exact hkept
    | unsupported q => exact finish_withholds h.row hpending (by decide)
    | matched q =>
      refine finish_withholds h.row hpending ?_
      intro hpublished
      unfold stance at hstance
      rw [hanswer] at hstance
      dsimp only at hstance
      cases haction : q.action with
      | flag => simp [haction] at hstance
      | _ => simp [haction, Action.status] at hpublished

def FlagsOutranked (s : AppState) (upload : AutomodUpload) (channel : ChannelRow)
    (scanned : Except String ScanResult) : Prop :=
  ∀ before r after, ruleList s upload channel = before ++ r :: after →
    stance s upload channel scanned r = .publishes →
      ∃ q ∈ before, stance s upload channel scanned q = .withholds

theorem blocked_upload_withheld_iff (h : NextUp s upload channel)
    (hblocked : hashBlockedInScope s.db channel.spaceId upload.hash = true)
    (hrule : (policyFor s upload).hasHashRule channel = true →
      ∃ r ∈ (policyFor s upload).rules, r.trigger = .hashDenylist ∧ r.applies channel = true ∧
        r.action ≠ .flag) (claims : Nat) :
    statusOf upload.id (uploadsOf ((processOne m scan (claims + 2)).exec s).2) ≠
        some "published" ↔
      Stopped s upload channel ∨ ¬ CanRelease m s upload ∨
        FlagsOutranked s upload channel (scan upload) := by
  have hpending : upload.status ≠ "published" := by
    rw [h.pending]
    decide
  by_cases hstop : Stopped s upload channel
  · refine iff_of_true ?_ (.inl hstop)
    rw [exec_processOne h]
    rcases turn_of_stopped h hstop none with ⟨e, he⟩ | ⟨status, reason, hstatus, hdecided⟩
    · rw [exec_claim_error (claims + 1) he, status_of_heldBy h.row]
      simpa using hpending
    · rw [exec_claim_decided (claims + 1) hdecided]
      exact finish_withholds h.row hpending hstatus
  · obtain ⟨result, hfinal⟩ : ∃ result, ((processOne m scan (claims + 2)).exec s).2 =
        resolved m scan s upload ((verdictOn s upload channel (scan upload).toOption).map
          (fun v => v.turn upload result)) := exec_processOne_ruled h hstop claims
    obtain ⟨r₀, hmem, htrigger, happlies, _⟩ := hrule (hashRule_of_ruled hstop hblocked)
    obtain ⟨as, q, bs, hsplit, has, hq⟩ :
        ∃ as q bs, ruleList s upload channel = as ++ q :: bs ∧
          (∀ a ∈ as, stance s upload channel (scan upload) a = .passes) ∧
          ¬ stance s upload channel (scan upload) q = .passes := by
      apply first_failing
      intro hall
      exact not_passes_hashRule htrigger happlies hblocked
        (hall r₀ (List.mem_filter.mpr ⟨hmem, happlies⟩))
    obtain ⟨answered, hanswer⟩ :
        ∃ answered, answerTo s upload channel (scan upload).toOption q = some answered := by
      rw [← Option.isSome_iff_exists, ← Option.ne_none_iff_isSome]
      intro hnone
      apply hq
      unfold stance
      rw [hnone]
    have hverdict : verdictOn s upload channel (scan upload).toOption = answered := by
      have hnone : as.findSome? (answerTo s upload channel (scan upload).toOption) = none := by
        rw [List.findSome?_eq_none_iff]
        exact fun a ha => answer_none_of_passes (has a ha)
      rw [verdictOn, hsplit, List.findSome?_append, hnone, Option.none_or, List.findSome?_cons,
        hanswer]
      rfl
    rw [hfinal, hverdict]
    cases hstance : stance s upload channel (scan upload) q with
    | passes => exact absurd hstance hq
    | publishes =>
      obtain ⟨hmatched, hflag⟩ := answer_of_publishes hstance
      cases hanswer.symm.trans hmatched
      simp only [Except.map, Verdict.turn, resolved, hflag, Action.status, ne_eq]
      rw [finish_publishes_iff h.row hpending hflag]
      constructor
      · exact fun hnot => .inr (.inl hnot)
      · rintro (hstopped | hnot | hout)
        · exact absurd hstopped hstop
        · exact hnot
        · obtain ⟨q', hq', hwithholds⟩ := hout as q bs hsplit hstance
          rw [has q' hq'] at hwithholds
          cases hwithholds
    | withholds =>
      refine iff_of_true (resolved_of_withholds h hstance hanswer) (.inr (.inr ?_))
      intro before r after hsplit' hpublishes
      refine ⟨q, ?_, hstance⟩
      rcases List.append_eq_append_iff.mp (hsplit.symm.trans hsplit') with
        ⟨c, rfl, hc⟩ | ⟨c, rfl, hc⟩
      · cases c with
        | nil =>
          cases hc
          rw [hstance] at hpublishes
          cases hpublishes
        | cons x xs =>
          cases hc
          simp
      · cases c with
        | nil =>
          cases hc
          rw [hstance] at hpublishes
          cases hpublishes
        | cons x xs =>
          cases hc
          rw [has r (by simp)] at hpublishes
          cases hpublishes

end

def blockedFile : Rule :=
  { id := "blocked-file", trigger := .hashDenylist, scope := .all, action := .quarantine }

def denied (rules : List Rule) : AppState :=
  (chatUnder rules).withDb
    { (chatUnder rules).db with automodHashes := [{ scopeId := "*", hash := "h", reason := "leak" }] }

def storedPicture : Originals :=
  { digest := fun _ => "h"
    length := fun _ => 1
    dimensions := fun _ => (none, none)
    isAlphanumeric := Char.isAlphanum }

def noScanner : AutomodUpload → Except String ScanResult := fun _ => .error "scanner disabled"

theorem denied_nextUp (rules : List Rule) : NextUp (denied rules) pendingPicture privateChat :=
  ⟨rfl, rfl, rfl, rfl⟩

theorem blocked_upload_withheld_iff_hash_first :
    statusOf "1" (uploadsOf
        ((processOne storedPicture noScanner 2).exec (denied [blockedFile, flagAll])).2) ≠
        some "published" ↔
      Stopped (denied [blockedFile, flagAll]) pendingPicture privateChat ∨
        ¬ CanRelease storedPicture (denied [blockedFile, flagAll]) pendingPicture ∨
        FlagsOutranked (denied [blockedFile, flagAll]) pendingPicture privateChat
          (noScanner pendingPicture) :=
  blocked_upload_withheld_iff (denied_nextUp _) (by decide +kernel)
    (fun _ => ⟨blockedFile, List.mem_cons_self, rfl, rfl, by decide⟩) 0

theorem denied_file_published :
    (policyFor (denied [flagAll, blockedFile]) pendingPicture).enabled = true ∧
      (policyFor (denied [flagAll, blockedFile]) pendingPicture).validate = .ok () ∧
      hashBlockedInScope (denied [flagAll, blockedFile]).db none pendingPicture.hash = true ∧
      blockedFile ∈ (policyFor (denied [flagAll, blockedFile]) pendingPicture).rules ∧
      blockedFile.applies privateChat = true ∧ blockedFile.action ≠ .flag ∧
      statusOf "1" (uploadsOf
        ((processOne storedPicture noScanner 2).exec (denied [flagAll, blockedFile])).2) =
        some "published" := by
  decide +kernel

end Vokusz.Automod
