import Mathlib.Algebra.Order.Ring.Rat
import Mathlib.Algebra.BigOperators.Group.List.Basic
import Vokusz.Lib.Tally
import Vokusz.Plugins

namespace Vokusz.Plugins

open Lib Handler

structure RecordKey where
  pluginId : String
  spaceId : String
  boardId : String
  userId : String
  period : String := "current"
  deriving DecidableEq, Repr

def LeaderboardRow.key (r : LeaderboardRow) : RecordKey :=
  { pluginId := r.pluginId, spaceId := r.spaceId, boardId := r.boardId, userId := r.userId
    period := r.period }

def findRecord (key : RecordKey) : Handler (Option LeaderboardRow) :=
  read (fun s => .ok (Table.lookup LeaderboardRow.key key s.leaderboard))

def isBetter (sort : String) (score existing : Rat) : Bool :=
  if sort = "ascending" then score < existing else existing < score

def applyOperator (operator sort : String) (score existing : Rat) : Option Rat :=
  if operator = "set" then some score
  else if operator = "increment" then some (existing + score)
  else if operator = "best" then (if isBetter sort score existing then some score else none)
  else some score

theorem eq_of_not_better {sort : String} {a b : Rat} (h : isBetter sort a b = false)
    (h' : isBetter sort b a = false) : a = b := by
  unfold isBetter at h h'
  split at h
  · rename_i hsort
    rw [if_pos hsort] at h'
    exact le_antisymm (not_lt.mp (of_decide_eq_false h')) (not_lt.mp (of_decide_eq_false h))
  · rename_i hsort
    rw [if_neg hsort] at h'
    exact le_antisymm (not_lt.mp (of_decide_eq_false h)) (not_lt.mp (of_decide_eq_false h'))

def writeScore (id : String) (score : Rat) (metadata : Option String) : Handler Unit :=
  Handler.write (fun _ => none) (fun s =>
    { s with
      leaderboard := Table.update LeaderboardRow.id id
        (fun r => { r with score := score, metadata := metadata, updatedAt := s.app.now })
        s.leaderboard })

def insertRecord (id : String) (key : RecordKey) (score : Rat) (metadata : Option String) :
    Handler Unit :=
  Handler.write
    (fun s => App.unique (!Table.has LeaderboardRow.id id s.leaderboard &&
      !Table.has LeaderboardRow.key key s.leaderboard))
    (fun s =>
      { s with
        leaderboard := s.leaderboard ++
          [{ id := id
             pluginId := key.pluginId
             spaceId := key.spaceId
             boardId := key.boardId
             userId := key.userId
             score := score
             metadata := metadata
             period := key.period
             updatedAt := s.app.now }] })

def updateExisting (row : LeaderboardRow) (score : Rat) (metadata : Option String)
    (operator sort : String) : Handler Rat :=
  match applyOperator operator sort score row.score with
  | some newScore => do
    writeScore row.id newScore metadata
    return newScore
  | none => return row.score

def insertFirst (key : RecordKey) (score : Rat) (metadata : Option String) : Handler Rat := do
  let id ← generateId
  insertRecord id key score metadata
  return score

def upsertRecord (key : RecordKey) (score : Rat) (metadata : Option String)
    (operator sort : String) : Handler Rat := do
  let existing ← findRecord key
  match existing with
  | some row => updateExisting row score metadata operator sort
  | none => insertFirst key score metadata

def stored (key : RecordKey) (s : Server) : Option Rat :=
  (Table.lookup LeaderboardRow.key key s.leaderboard).map LeaderboardRow.score

def tally (operator sort : String) (scores : List Rat) : Option Rat :=
  if operator = "increment" then (if scores = [] then none else some scores.sum)
  else if sort = "ascending" then scores.min? else scores.max?

section

variable {operator sort : String} {scores : List Rat} {score existing : Rat}

theorem tally_nil : tally operator sort [] = none := by
  unfold tally
  split
  · rfl
  · split <;> rfl

theorem tally_singleton : tally operator sort [score] = some score := by
  unfold tally
  split
  · simp
  · split <;> rfl

theorem min?_concat (h : scores.min? = some existing) :
    (scores ++ [score]).min? = some (min existing score) := by
  cases scores with
  | nil => cases h
  | cons x xs =>
    rw [List.min?_cons'] at h
    rw [List.cons_append, List.min?_cons', List.foldl_append, Option.some_inj.mp h]
    rfl

theorem max?_concat (h : scores.max? = some existing) :
    (scores ++ [score]).max? = some (max existing score) := by
  cases scores with
  | nil => cases h
  | cons x xs =>
    rw [List.max?_cons'] at h
    rw [List.cons_append, List.max?_cons', List.foldl_append, Option.some_inj.mp h]
    rfl

theorem tally_increment_concat (h : tally "increment" sort scores = some existing) :
    tally "increment" sort (scores ++ [score]) = some (existing + score) := by
  unfold tally at h ⊢
  rw [if_pos rfl] at h ⊢
  split at h
  · cases h
  · cases h
    rw [if_neg (List.append_ne_nil_of_right_ne_nil _ (List.cons_ne_nil _ _)), List.sum_append,
      List.sum_singleton]

theorem tally_best_concat (h : tally "best" sort scores = some existing) :
    tally "best" sort (scores ++ [score]) =
      some (if isBetter sort score existing then score else existing) := by
  have hbest : "best" ≠ "increment" := by decide
  unfold tally isBetter at *
  rw [if_neg hbest] at h ⊢
  split
  · rename_i hsort
    rw [if_pos hsort] at h
    rw [min?_concat h]
    rcases lt_or_ge score existing with hlt | hge
    · rw [min_eq_right hlt.le, if_pos (decide_eq_true hlt)]
    · rw [min_eq_left hge, if_neg (fun hlt => hge.not_gt (of_decide_eq_true hlt))]
  · rename_i hsort
    rw [if_neg hsort] at h
    rw [max?_concat h]
    rcases lt_or_ge existing score with hlt | hge
    · rw [max_eq_right hlt.le, if_pos (decide_eq_true hlt)]
    · rw [max_eq_left hge, if_neg (fun hlt => hge.not_gt (of_decide_eq_true hlt))]

theorem tally_concat (hop : operator = "increment" ∨ operator = "best")
    (h : tally operator sort scores = some existing) :
    tally operator sort (scores ++ [score]) =
      some ((applyOperator operator sort score existing).getD existing) := by
  rcases hop with rfl | rfl
  · exact tally_increment_concat h
  · have hset : "best" ≠ "set" := by decide
    have hincrement : "best" ≠ "increment" := by decide
    rw [tally_best_concat h, applyOperator, if_neg hset, if_neg hincrement, if_pos rfl]
    split <;> rfl

end

structure Submission where
  score : Rat
  metadata : Option String := none

section

variable {key : RecordKey} {operator sort : String} {s : Server} {row : LeaderboardRow}
  {sub : Submission} {id : String} {score : Rat} {metadata : Option String}

def record (key : RecordKey) (s : Server) : Option (String × Rat) :=
  (Table.lookup LeaderboardRow.key key s.leaderboard).map (fun r => (r.id, r.score))

theorem stored_eq : stored key s = (record key s).map Prod.snd := by
  simp [stored, record, Function.comp_def]

def Submission.serve (key : RecordKey) (operator sort : String) (sub : Submission) : Handler Rat :=
  upsertRecord key sub.score sub.metadata operator sort

def Submission.found (operator sort : String) (sub : Submission) (row : LeaderboardRow) :
    Handler Rat :=
  updateExisting row sub.score sub.metadata operator sort

def Submission.insert (key : RecordKey) (sub : Submission) (id : String) : Handler Rat := do
  insertRecord id key sub.score sub.metadata
  return sub.score

def Submits (operator sort : String) (v : Option (String × Rat)) (sub : Submission)
    (w : Option (String × Rat)) : Prop :=
  (v = none ∧ ∃ id, w = some (id, sub.score)) ∨
    ∃ id e, v = some (id, e) ∧
      w = some (id, (applyOperator operator sort sub.score e).getD e)

inductive Pending (key : RecordKey) (operator sort : String) (sub : Submission) :
    Option (String × Rat) → Handler Rat → Prop
  | asked (v) : Pending key operator sort sub v (sub.serve key operator sort)
  | found (e : Rat) (row : LeaderboardRow) (newScore : Rat)
      (h : applyOperator operator sort sub.score row.score = some newScore) :
      Pending key operator sort sub (some (row.id, e)) (sub.found operator sort row)
  | missed (v) : Pending key operator sort sub v (insertFirst key sub.score sub.metadata)
  | named (v) (id : String) : Pending key operator sort sub v (sub.insert key id)
  | failed (v) (e : AppError) : Pending key operator sort sub v (.fail e)

def UpToDate (operator sort : String) (sub : Submission) (row : LeaderboardRow) (e : Rat) : Prop :=
  if operator = "increment" then e = row.score else isBetter sort e sub.score = false

theorem record_write : record key { s with
      leaderboard := Table.update LeaderboardRow.id id
        (fun r => { r with score := score, metadata := metadata, updatedAt := s.app.now })
        s.leaderboard } =
      (record key s).map (fun r => if r.1 = id then (r.1, score) else r) := by
  have hlookup : Table.lookup LeaderboardRow.key key (s.leaderboard.map (fun r =>
      if r.id = id then
        { r with score := score, metadata := metadata, updatedAt := s.app.now } else r)) = _ :=
    Table.lookup_map (fun r => by split <;> rfl)
  change (Table.lookup LeaderboardRow.key key (s.leaderboard.map _)).map _ = _
  rw [hlookup, record, Option.map_map, Option.map_map]
  congr 1
  funext r
  by_cases hr : r.id = id <;> simp [hr]

theorem record_insert (hnew : Table.has LeaderboardRow.key key s.leaderboard = false)
    (new : LeaderboardRow) (hkey : new.key = key) :
    record key { s with leaderboard := s.leaderboard ++ [new] } = some (new.id, new.score) := by
  have hnone := Table.lookup_none_of_not_has hnew
  have hlookup : Table.lookup LeaderboardRow.key key (s.leaderboard ++ [new]) = some new := by
    rw [Table.lookup_append, hnone, if_pos hkey]
    rfl
  simp only [record, hlookup, Option.map_some]

theorem pending_found {e : Rat} (hid : record key s = some (row.id, e)) :
    sub.found operator sort row = .ret row.score ∧
        applyOperator operator sort sub.score row.score = none ∨
      Pending key operator sort sub (record key s) (sub.found operator sort row) := by
  cases hnew : applyOperator operator sort sub.score row.score with
  | none =>
    refine .inl ⟨?_, rfl⟩
    rw [Submission.found, updateExisting, hnew]
    rfl
  | some newScore =>
    rw [hid]
    exact .inr (.found e row newScore hnew)

theorem step_asked {q : Handler Rat} {t : Server}
    (hstep : Prog.Step (sub.serve key operator sort, s) (q, t)) :
    (record key t = record key s ∧ Pending key operator sort sub (record key t) q) ∨
      Submits operator sort (record key s) sub (record key t) ∧ ∃ a, q = .ret a := by
  obtain ⟨rfl, ⟨e, rfl⟩ | ⟨existing, hfound, rfl⟩⟩ := Prog.step_query_bind hstep
  · exact .inl ⟨rfl, .failed _ e⟩
  · cases existing with
    | none => exact .inl ⟨rfl, .missed _⟩
    | some row =>
      have hlookup : Table.lookup LeaderboardRow.key key t.leaderboard = some row :=
        Except.ok.inj hfound
      have hrecord : record key t = some (row.id, row.score) := by
        rw [record, hlookup, Option.map_some]
      rcases pending_found hrecord with ⟨hret, hnone⟩ | hpending
      · refine .inr ⟨.inr ⟨row.id, row.score, hrecord, ?_⟩, row.score, hret⟩
        rw [hrecord, hnone, Option.getD_none]
      · exact .inl ⟨rfl, hpending⟩

theorem applyOperator_current {e newScore : Rat}
    (hop : operator = "increment" ∨ operator = "best")
    (hcurrent : UpToDate operator sort sub row e)
    (hnew : applyOperator operator sort sub.score row.score = some newScore) :
    (applyOperator operator sort sub.score e).getD e = newScore := by
  rcases hop with rfl | rfl
  · rw [UpToDate, if_pos rfl] at hcurrent
    rw [hcurrent, hnew, Option.getD_some]
  · have hset : "best" ≠ "set" := by decide
    have hincrement : "best" ≠ "increment" := by decide
    rw [UpToDate, if_neg hincrement] at hcurrent
    rw [applyOperator, if_neg hset, if_neg hincrement, if_pos rfl] at hnew ⊢
    split at hnew
    · cases hnew
      split
      · rfl
      · rename_i hbetter
        exact eq_of_not_better hcurrent (Bool.eq_false_iff.mpr hbetter)
    · cases hnew

theorem step_found {q : Handler Rat} {t : Server} {e newScore : Rat}
    (hop : operator = "increment" ∨ operator = "best")
    (hnew : applyOperator operator sort sub.score row.score = some newScore)
    (hrecord : record key s = some (row.id, e)) (hcurrent : UpToDate operator sort sub row e)
    (hstep : Prog.Step (sub.found operator sort row, s) (q, t)) :
    (record key t = record key s ∧ Pending key operator sort sub (record key t) q) ∨
      Submits operator sort (record key s) sub (record key t) ∧ ∃ a, q = .ret a := by
  have hprog : sub.found operator sort row =
      writeScore row.id newScore sub.metadata >>= fun _ => pure newScore := by
    rw [Submission.found, updateExisting, hnew]
  rw [hprog] at hstep
  obtain ⟨rfl, rfl⟩ | ⟨e', he', -⟩ | ⟨_, -, rfl, rfl⟩ := Prog.step_statement_bind hstep
  · exact .inl ⟨rfl, .failed _ _⟩
  · cases he'
  · refine .inr ⟨.inr ⟨row.id, e, hrecord, ?_⟩, newScore, rfl⟩
    rw [applyOperator_current hop hcurrent hnew]
    refine record_write.trans ?_
    rw [hrecord, Option.map_some, if_pos rfl]

theorem step_missed {q : Handler Rat} {t : Server}
    (hstep : Prog.Step (insertFirst key sub.score sub.metadata, s) (q, t)) :
    record key t = record key s ∧ Pending key operator sort sub (record key t) q := by
  cases hstep with
  | step u n s => exact ⟨rfl, .named _ _⟩

theorem step_named {q : Handler Rat} {t : Server}
    (hstep : Prog.Step (sub.insert key id, s) (q, t)) :
    (record key t = record key s ∧ Pending key operator sort sub (record key t) q) ∨
      Submits operator sort (record key s) sub (record key t) ∧ ∃ a, q = .ret a := by
  obtain ⟨rfl, rfl⟩ | ⟨e, he, rfl, rfl⟩ | ⟨_, hok, rfl, rfl⟩ := Prog.step_statement_bind hstep
  · exact .inl ⟨rfl, .failed _ _⟩
  · dsimp only at he ⊢
    split at he
    · exact .inl ⟨rfl, .failed _ _⟩
    · cases he
  · dsimp only at hok ⊢
    split at hok
    · cases hok
    · rename_i hcheck
      have hfree : Table.has LeaderboardRow.key key s.leaderboard = false := by
        cases hhas : Table.has LeaderboardRow.key key s.leaderboard with
        | false => rfl
        | true =>
          rw [hhas, Bool.not_true, Bool.and_false] at hcheck
          cases hcheck
      have hnone : record key s = none := by
        rw [record, Table.lookup_none_of_not_has hfree, Option.map_none]
      exact .inr ⟨.inl ⟨hnone, id, record_insert hfree _ rfl⟩, sub.score, rfl⟩

theorem not_pending_ret {v : Option (String × Rat)} {a : Rat} :
    ¬ Pending key operator sort sub v (.ret a) := by
  intro h
  generalize hp : (Prog.ret a : Handler Rat) = p at h
  cases h with
  | asked _ => cases hp
  | missed _ => cases hp
  | named _ id => cases hp
  | failed _ e => cases hp
  | found e row newScore hnew =>
    rw [Submission.found, updateExisting, hnew] at hp
    cases hp

end

section

variable {ι : Type} [DecidableEq ι] {subs : ι → Submission} {key : RecordKey}
  {operator sort : String} {env : Server → Server → Prop} {c d : Crowd ι Server AppError Rat}

def Undisputed (key : RecordKey) (operator sort : String) (subs : ι → Submission)
    (x : Crowd ι Server AppError Rat) (i : ι) (_ : Server) : Prop :=
  ∀ row e, x.threads i = (subs i).found operator sort row → stored key x.state = some e →
    UpToDate operator sort (subs i) row e

omit [DecidableEq ι] in
theorem settles_submissions (hop : operator = "increment" ∨ operator = "best") :
    Crowd.Settles (record key) (fun v i w => Submits operator sort v (subs i) w)
      (fun i => Pending key operator sort (subs i)) (Undisputed key operator sort subs) where
  step := by
    intro x i p t hpending hcurrent hstep
    generalize hthread : x.threads i = thread at *
    generalize hv : record key x.state = v at *
    cases hpending with
    | asked _ =>
      rw [← hv]
      exact step_asked hstep
    | found e row newScore h =>
      have hstored : stored key x.state = some e := by
        rw [stored_eq, hv, Option.map_some]
      rw [← hv]
      exact step_found hop h hv (hcurrent row e hthread hstored) hstep
    | missed _ =>
      rw [← hv]
      exact .inl (step_missed hstep)
    | named _ id =>
      rw [← hv]
      exact step_named hstep
    | failed _ e => cases hstep
  stable := by
    intro i j v w p hact hpending
    cases hpending with
    | asked _ => exact .asked _
    | missed _ => exact .missed _
    | named _ id => exact .named _ id
    | failed _ e => exact .failed _ e
    | found e row newScore h =>
      rcases hact with ⟨hnone, -⟩ | ⟨id, e', hv, hw⟩
      · cases hnone
      · cases hv
        rw [hw]
        exact .found _ row newScore h
  result := not_pending_ret

theorem submits_tally {scores : List Rat} {v w : Option (String × Rat)} {sub : Submission}
    (hop : operator = "increment" ∨ operator = "best")
    (hv : v.map Prod.snd = tally operator sort scores) (hw : Submits operator sort v sub w)
    (hnil : v = none → scores = []) :
    w.map Prod.snd = tally operator sort (scores ++ [sub.score]) ∧ w ≠ none := by
  rcases hw with ⟨rfl, id, rfl⟩ | ⟨id, e, rfl, rfl⟩
  · rw [hnil rfl, List.nil_append, tally_singleton]
    exact ⟨rfl, Option.some_ne_none _⟩
  · rw [tally_concat hop hv.symm]
    exact ⟨rfl, Option.some_ne_none _⟩

omit [DecidableEq ι] in
theorem runs_tally {scores : List Rat} {v w : Option (String × Rat)} {done : List ι}
    (hop : operator = "increment" ∨ operator = "best")
    (hv : v.map Prod.snd = tally operator sort scores) (hnil : v = none → scores = [])
    (hruns : Runs (fun v i w => Submits operator sort v (subs i) w) v done w) :
    w.map Prod.snd = tally operator sort (scores ++ done.map (fun i => (subs i).score)) := by
  induction hruns generalizing scores with
  | nil v =>
    rw [List.map_nil, List.append_nil]
    exact hv
  | cons hstep _ ih =>
    obtain ⟨hu, hsome⟩ := submits_tally hop hv hstep hnil
    have hrest := ih hu (fun hnone => absurd hnone hsome)
    rw [List.map_cons]
    rwa [List.append_assoc, List.singleton_append] at hrest

theorem stored_is_tally (hop : operator = "increment" ∨ operator = "best")
    (hfirst : stored key c.state = none) (henv : ∀ s t, env s t → record key t = record key s)
    (hstart : ∀ i, c.threads i = (subs i).serve key operator sort)
    (hrun : Crowd.RunWhere env (Undisputed key operator sort subs) c d) :
    ∃ done : List ι, done.Nodup ∧ (∀ i, i ∈ done ↔ ∃ a, d.threads i = .ret a) ∧
      stored key d.state = tally operator sort (done.map (fun i => (subs i).score)) := by
  have hnone : record key c.state = none := by
    rw [stored_eq, Option.map_eq_none_iff] at hfirst
    exact hfirst
  have hpending : ∀ i, Pending key operator sort (subs i) (record key c.state) (c.threads i) := by
    intro i
    rw [hstart i]
    exact .asked _
  obtain ⟨done, h⟩ := Crowd.tallied_run (settles_submissions hop) henv hpending hrun
  refine ⟨done, h.once, h.mem_iff (settles_submissions hop), ?_⟩
  rw [stored_eq]
  rw [hnone] at h
  have hempty : (none : Option (String × Rat)).map Prod.snd = tally operator sort [] :=
    tally_nil.symm
  exact runs_tally hop hempty (fun _ => rfl) h.runs

def weekly : RecordKey := { pluginId := "40", spaceId := "20", boardId := "weekly", userId := "1" }

def scoreboard : Server :=
  { app := { db := {}, ext := Externals.fixed "2025-01-01 00:00:00" } }

def points (n : Fin 3) : Submission := { score := (2 : Rat) ^ n.val }

theorem found_increments {sub : Submission} {row : LeaderboardRow} (s : Server) :
    ((sub.found "increment" sort row).exec s).1 = .ok (row.score + sub.score) := by
  have hset : "increment" ≠ "set" := by decide
  rw [Submission.found, updateExisting, applyOperator, if_neg hset, if_pos rfl]
  rfl

omit [DecidableEq ι] in
theorem undisputed_alone {x : Crowd ι Server AppError Rat} {i : ι} {t : Server} {e a : Rat}
    (hstored : stored key x.state = some e) (ha : a = e + (subs i).score)
    (hexec : ((x.threads i).exec x.state).1 = .ok a) :
    Undisputed key "increment" sort subs x i t := by
  intro row e' hfound he'
  rw [hfound, found_increments, ha] at hexec
  rw [hstored] at he'
  cases he'
  rw [UpToDate, if_pos rfl]
  exact (add_right_cancel (Except.ok.inj hexec)).symm

def submitted : Server :=
  (Prog.ticks 3 ((points 0).serve weekly "increment" "descending", scoreboard)).2

theorem two_submissions_add_up :
    ∃ d, Crowd.RunWhere (fun s t => t = s) (Undisputed weekly "increment" "descending" points)
        { state := scoreboard
          threads := fun i => (points i).serve weekly "increment" "descending" } d ∧
      stored weekly d.state = some 3 ∧
      ∃ done : List (Fin 3), done.Nodup ∧ (∀ i, i ∈ done ↔ ∃ a, d.threads i = .ret a) ∧
        stored weekly d.state =
          tally "increment" "descending" (done.map (fun i => (points i).score)) := by
  let start : Crowd (Fin 3) Server AppError Rat :=
    { state := scoreboard, threads := fun i => (points i).serve weekly "increment" "descending" }
  have hempty : ∀ k < 3, stored weekly
      (Prog.ticks k ((points 0).serve weekly "increment" "descending", scoreboard)).2 = none := by
    decide +kernel
  have hstored : ∀ k < 2, stored weekly
      (Prog.ticks k ((points 1).serve weekly "increment" "descending", submitted)).2 = some 1 := by
    decide +kernel
  have hresult : ∀ k < 2, ((Prog.ticks k
      ((points 1).serve weekly "increment" "descending", submitted)).1.exec (Prog.ticks k
      ((points 1).serve weekly "increment" "descending", submitted)).2).1.toOption = some 3 := by
    decide +kernel
  let returned := (Prog.ticks 3 ((points 0).serve weekly "increment" "descending", scoreboard)).1
  let first : Crowd (Fin 3) Server AppError Rat :=
    { state := submitted, threads := Function.update start.threads 0 returned }
  have hfirst : Crowd.RunWhere (fun s t => t = s)
      (Undisputed weekly "increment" "descending" points) start first := by
    refine Crowd.runWhere_ticks (i := 0) rfl 3 (fun k hk x t _ hat row e _ he => ?_)
    have hstate : x.state =
        (Prog.ticks k ((points 0).serve weekly "increment" "descending", scoreboard)).2 :=
      congrArg Prod.snd hat
    rw [hstate, hempty k hk] at he
    cases he
  have hnext : first.threads 1 = (points 1).serve weekly "increment" "descending" :=
    Function.update_of_ne Fin.zero_ne_one.symm returned start.threads
  let second : Crowd (Fin 3) Server AppError Rat :=
    { state := (Prog.ticks 2 ((points 1).serve weekly "increment" "descending", submitted)).2
      threads := Function.update first.threads 1
        (Prog.ticks 2 ((points 1).serve weekly "increment" "descending", submitted)).1 }
  have hsecond : Crowd.RunWhere (fun s t => t = s)
      (Undisputed weekly "increment" "descending" points) first second := by
    refine Crowd.runWhere_ticks hnext 2 (fun k hk x t _ hat => ?_)
    have hthread : (x.threads 1, x.state) =
        Prog.ticks k ((points 1).serve weekly "increment" "descending", submitted) := hat
    have hone : stored weekly x.state = some 1 := by
      have hoption := hstored k hk
      rw [← hthread] at hoption
      exact hoption
    have hthree : ((x.threads 1).exec x.state).1 = .ok 3 := by
      have hoption := hresult k hk
      rw [← hthread] at hoption
      exact congrArg Prod.fst (Prog.exec_of_toOption hoption)
    exact undisputed_alone hone (by decide +kernel) hthree
  have hlast : stored weekly second.state = some 3 := by decide +kernel
  have hrun := hfirst.trans hsecond
  exact ⟨second, hrun, hlast, stored_is_tally (.inl rfl) (by decide) (fun s t h => by rw [h])
    (fun _ => rfl) hrun⟩

theorem submission_lost :
    ∃ d, Crowd.Run (fun s t => t = s)
        { state := scoreboard
          threads := fun i => (points i).serve weekly "increment" "descending" } d ∧
      (d.threads 0 = .ret 1 ∧ d.threads 1 = .ret 3 ∧ d.threads 2 = .ret 5) ∧
      stored weekly d.state = some 3 := by
  let start : Crowd (Fin 3) Server AppError Rat :=
    { state := scoreboard, threads := fun i => (points i).serve weekly "increment" "descending" }
  let asking (i : Fin 3) : Handler Rat := (points i).serve weekly "increment" "descending"
  let s₀ := ((asking 0).exec scoreboard).2
  let holding := (Prog.ticks 1 (asking 1, s₀)).1
  let s₁ := (Prog.ticks 1 (asking 1, s₀)).2
  let s₂ := ((asking 2).exec s₁).2
  have hzero : (asking 0).exec scoreboard = (.ok 1, s₀) :=
    Prog.exec_of_toOption (by decide +kernel)
  have htwo : (asking 2).exec s₁ = (.ok 5, s₂) := Prog.exec_of_toOption (by decide +kernel)
  have hone : holding.exec s₂ = (.ok 3, (holding.exec s₂).2) :=
    Prog.exec_of_toOption (by decide +kernel)
  have hlast : stored weekly (holding.exec s₂).2 = some 3 := by decide +kernel
  generalize (holding.exec s₂).2 = s₃ at hone hlast
  let first : Crowd (Fin 3) Server AppError Rat :=
    { state := s₀, threads := Function.update start.threads 0 (.ret 1) }
  have hfirst : Crowd.Run (fun s t => t = s) start first := Crowd.run_alone hzero
  have hasked : first.threads 1 = asking 1 :=
    Function.update_of_ne Fin.zero_ne_one.symm (.ret 1) start.threads
  let second : Crowd (Fin 3) Server AppError Rat :=
    { state := s₁, threads := Function.update first.threads 1 holding }
  have hsecond : Crowd.Run (fun s t => t = s) first second := by
    refine Crowd.run_thread ?_
    rw [hasked]
    exact Prog.ticks_steps 1 (asking 1, s₀)
  have hother : second.threads 2 = asking 2 := by simp [second, first, start, asking]
  let third : Crowd (Fin 3) Server AppError Rat :=
    { state := s₂, threads := Function.update second.threads 2 (.ret 5) }
  have hthird : Crowd.Run (fun s t => t = s) second third := by
    refine Crowd.run_alone ?_
    rw [hother]
    exact htwo
  have hholding : third.threads 1 = holding := by simp [third, second]
  have hfourth : Crowd.Run (fun s t => t = s) third
      { state := s₃, threads := Function.update third.threads 1 (.ret 3) } := by
    refine Crowd.run_alone ?_
    rw [hholding]
    exact hone
  refine ⟨_, ((hfirst.trans hsecond).trans hthird).trans hfourth, ⟨?_, ?_, ?_⟩, hlast⟩
  · simp [third, second, first]
  · simp
  · simp [third]

end

end Vokusz.Plugins
