import IndexTuning.Error
import IndexTuning.Sql.Statement

namespace IndexTuning

structure Executor (m : Type → Type) where
  execute : String → String → ExceptT AdvisorError m Unit

structure StatementFailure where
  statement : String
  message : String
  deriving DecidableEq, Repr

structure ApplyReport where
  applied : Nat
  failures : List StatementFailure
  deriving DecidableEq, Repr

namespace ApplyReport

def add (report : ApplyReport) (statement : String) : Except AdvisorError Unit → ApplyReport
  | .ok () => { report with applied := report.applied + 1 }
  | .error e => { report with failures := report.failures ++ [⟨statement, e.message⟩] }

end ApplyReport

namespace Executor

variable {m : Type → Type} [Monad m]

/-- Runs a statement that drops something; that there was nothing to drop is no failure. -/
def executeDrop (x : Executor m) (database sql : String) : ExceptT AdvisorError m Unit :=
  tryCatch (x.execute database sql) fun e => if e.isMissingObject then pure () else throw e

def applyScript (x : Executor m) (database script : String) : m ApplyReport :=
  (Sql.Statement.split script).foldlM
    (fun report statement => report.add statement <$> (x.execute database statement).run) ⟨0, []⟩

end Executor

structure Recording where
  executed : List (String × String) := []
  failures : List (String × String) := []

namespace Recording

def failOn (r : Recording) (pattern message : String) : Recording :=
  { r with failures := r.failures ++ [(pattern, message)] }

def execute (r : Recording) (database sql : String) : Except AdvisorError Unit × Recording :=
  match r.failures.find? fun f => Text.occursIn f.1.toList sql.toList with
  | some (_, message) => (.error (.statement database sql message), r)
  | none => (.ok (), { r with executed := r.executed ++ [(database, sql)] })

end Recording

end IndexTuning
