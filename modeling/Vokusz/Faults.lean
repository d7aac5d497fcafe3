import Vokusz.Lib.Faults
import Vokusz.State

namespace Vokusz.App

open Lib (Prog)

variable {s : AppState}

theorem runs_write {check : Db.Tables → Option AppError} {f : Db.Tables → Db.Tables}
    (h : check s.db = none) : (write check f).Runs s () (s.withDb (f s.db)) 1 :=
  Prog.runs_statement (by dsimp only; rw [h])

theorem runs_lift {α : Type} {q : Query α} {a : α} (h : q s.db = .ok a) :
    (MonadLiftT.monadLift q : App α).Runs s a s 1 :=
  Prog.runs_query h

variable {α β : Type} {b : β} {u : AppState} {n : Nat}

theorem runs_generated {f : String → App β}
    (h : (f (toString s.snowflake)).Runs { s with snowflake := s.snowflake + 1 } b u n) :
    (generateId >>= f).Runs s b u n := h

theorem runs_read {q : Query α} {f : α → App β} {a : α} (hq : q s.db = .ok a)
    (h : (f a).Runs s b u n) : ((MonadLiftT.monadLift q : App α) >>= f).Runs s b u (n + 1) := by
  have hrun := (runs_lift hq).bind h
  rwa [Nat.add_comm] at hrun

theorem runs_written {check : Db.Tables → Option AppError} {g : Db.Tables → Db.Tables}
    {f : Unit → App β} (hcheck : check s.db = none) (h : (f ()).Runs (s.withDb (g s.db)) b u n) :
    (write check g >>= f).Runs s b u (n + 1) := by
  have hrun := (runs_write hcheck).bind h
  rwa [Nat.add_comm] at hrun

variable {k : Nat}

theorem faultAt_generated {f : String → App β} : (generateId >>= f).faultAt k s =
    (f (toString s.snowflake)).faultAt k { s with snowflake := s.snowflake + 1 } := rfl

theorem faultAt_read {q : Query α} {f : α → App β} :
    ((MonadLiftT.monadLift q : App α) >>= f).faultAt 0 s = (.error databaseFault, s) := rfl

theorem faultAt_read_error {q : Query α} {f : α → App β} {e : AppError} (h : q s.db = .error e) :
    ((MonadLiftT.monadLift q : App α) >>= f).faultAt (k + 1) s = (.error e, s) :=
  Prog.faultAt_query_error h

theorem faultAt_read_ok {q : Query α} {f : α → App β} {a : α} (h : q s.db = .ok a) :
    ((MonadLiftT.monadLift q : App α) >>= f).faultAt (k + 1) s = (f a).faultAt k s :=
  Prog.faultAt_query_ok h

variable {check : Db.Tables → Option AppError} {g : Db.Tables → Db.Tables} {f : Unit → App β}

theorem faultAt_write : (write check g >>= f).faultAt 0 s = (.error databaseFault, s) := rfl

theorem faultAt_write_refused {e : AppError} (h : check s.db = some e) :
    (write check g >>= f).faultAt (k + 1) s = (.error e, s) :=
  Prog.faultAt_statement_error (by dsimp only; rw [h]; rfl)

theorem faultAt_write_ok (h : check s.db = none) :
    (write check g >>= f).faultAt (k + 1) s = (f ()).faultAt k (s.withDb (g s.db)) :=
  Prog.faultAt_statement_ok (by dsimp only; rw [h])

theorem failing_update {fault : Option Nat} (hfault : fault ≠ some 0) :
    (update g >>= f).failing fault s = (f ()).failing (Prog.passed fault) (s.withDb (g s.db)) :=
  @Prog.failing_statement_ok AppState AppError Unit β f s (s.withDb (g s.db)) () databaseFault
    (fun s => (.ok (), s.withDb (g s.db))) fault hfault rfl

theorem strict_write (check : Db.Tables → Option AppError) (f : Db.Tables → Db.Tables) :
    (write check f).Strict := Prog.strict_statement _ _

theorem strict_lift {α : Type} (q : Query α) : (MonadLiftT.monadLift q : App α).Strict :=
  Prog.strict_query _ _

theorem strict_generateId : generateId.Strict := fun _ => trivial

end Vokusz.App
