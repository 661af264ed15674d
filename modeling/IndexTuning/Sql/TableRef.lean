import IndexTuning.Sql.Identifier

namespace IndexTuning.Sql

def defaultSchema : String := "dbo"

structure TableRef where
  /-- Absent while no database was available to resolve a partial name. -/
  database : Option String
  schema : String
  table : String
  deriving DecidableEq, Repr, Ord

namespace TableRef

def dotted (t : TableRef) : String :=
  let tail := t.schema ++ "." ++ t.table
  match t.database with
  | some database => database ++ "." ++ tail
  | none => tail

def bracketed (t : TableRef) : String :=
  let tail := Identifier.quote t.schema ++ "." ++ Identifier.quote t.table
  match t.database with
  | some database => Identifier.quote database ++ "." ++ tail
  | none => tail

def withDefaultDatabase (t : TableRef) (database : String) : TableRef :=
  { t with database := some (t.database.getD database) }

def insert (t : TableRef) : List TableRef → List TableRef
  | [] => [t]
  | u :: us =>
    match compare t u with
    | .lt => t :: u :: us
    | .eq => u :: us
    | .gt => u :: insert t us

/-- The references in ascending order, each once: first those without a database, then by database,
schema and table. -/
def toSet (ts : List TableRef) : List TableRef := ts.foldr insert []

end TableRef

end IndexTuning.Sql
