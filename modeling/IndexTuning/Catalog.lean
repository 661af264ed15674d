import IndexTuning.Error
import IndexTuning.MissingIndex
import IndexTuning.Sql.ColumnUsage
import IndexTuning.Sql.TableRef
import IndexTuning.UnusedIndex

namespace IndexTuning

open Sql

structure ProcedureInfo where
  database : String
  schema : String
  name : String
  isEncrypted : Bool
  deriving DecidableEq, Repr

def ProcedureInfo.qualifiedName (p : ProcedureInfo) : String := p.schema ++ "." ++ p.name

structure ExistingIndex where
  schema : String
  table : String
  name : String
  kind : String
  isUnique : Bool
  isPrimaryKey : Bool
  keyColumns : List String
  includedColumns : List String
  deriving DecidableEq, Repr

def ExistingIndex.describe (i : ExistingIndex) : String :=
  i.schema ++ "." ++ i.table ++ ": " ++ i.name ++ " " ++ i.kind ++
    (if i.isPrimaryKey then " PRIMARY KEY" else if i.isUnique then " UNIQUE" else "") ++
    " (" ++ ", ".intercalate i.keyColumns ++ ")" ++
    (if i.includedColumns = [] then "" else " INCLUDE (" ++ ", ".intercalate i.includedColumns ++ ")")

/-- What is known about the databases of a server. Rows come in the order of the source. -/
structure Catalog (m : Type → Type) where
  databases : ExceptT AdvisorError m (List String)
  /-- The indexes of a database with more pages than a given count. -/
  physicalStats : String → Int → ExceptT AdvisorError m (List PhysicalStat)
  usageStats : String → ExceptT AdvisorError m (List UsageStat)
  missingStats : String → ExceptT AdvisorError m (List MissingStat)
  tables : String → ExceptT AdvisorError m (List TableRef)
  /-- The columns of a table, given by database, schema and name. -/
  columns : String → String → String → ExceptT AdvisorError m (List Column)
  procedures : String → ExceptT AdvisorError m (List ProcedureInfo)
  definition : String → String → String → ExceptT AdvisorError m (Option String)
  indexes : String → String → String → ExceptT AdvisorError m (List ExistingIndex)

namespace Catalog

variable {m : Type → Type} [Monad m]

def targets (c : Catalog m) (database : String) (all : Bool) :
    ExceptT AdvisorError m (List String) :=
  if all then c.databases else pure [database]

def inNameOrder (p q : ProcedureInfo) : Bool :=
  match compare p.schema q.schema with
  | .lt => true
  | .gt => false
  | .eq => (compare p.name q.name).isLE

def readableProcedures (c : Catalog m) (database : String) :
    ExceptT AdvisorError m (List ProcedureInfo) := do
  let procedures ← c.procedures database
  return (procedures.filter (!·.isEncrypted)).mergeSort inNameOrder

end Catalog

end IndexTuning
