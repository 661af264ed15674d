import IndexTuning.Double
import IndexTuning.Sql.Identifier
import IndexTuning.Thresholds

namespace IndexTuning

open Sql Text

structure PhysicalStat where
  database : String
  schema : String
  table : String
  index : Option String
  fragmentation : Option Double
  pageCount : Int

inductive MaintenanceAction
  | rebuild
  | reorganize
  deriving DecidableEq, Repr

def MaintenanceAction.keyword : MaintenanceAction → String
  | rebuild => "REBUILD"
  | reorganize => "REORGANIZE"

structure Maintenance where
  database : String
  schema : String
  table : String
  index : String
  fragmentation : Double
  pageCount : Int
  action : MaintenanceAction

def usableName (name : Option String) : Option String :=
  name.filter fun n => trim n.toList ≠ []

namespace Maintenance

def statement (m : Maintenance) : String :=
  "ALTER INDEX " ++ Identifier.quote m.index ++ " ON " ++ Identifier.quote m.database ++ "." ++
    Identifier.quote m.schema ++ "." ++ Identifier.quote m.table ++ " " ++ m.action.keyword ++ ";"

def actionFor (t : Thresholds) (percent : Double) : Option MaintenanceAction :=
  if percent.toFloat ≥ t.rebuildPercent then some .rebuild
  else if percent.toFloat ≥ t.reorganizePercent then some .reorganize
  else none

def classify? (t : Thresholds) (row : PhysicalStat) : Option Maintenance := do
  let index ← usableName row.index
  let percent ← row.fragmentation.filter Double.isFinite
  let action ← actionFor t percent
  some ⟨row.database, row.schema, row.table, index, percent, row.pageCount, action⟩

def inOrder (a b : Maintenance) : Bool := b.fragmentation.orderKey ≤ a.fragmentation.orderKey

def analyze (t : Thresholds) (rows : List PhysicalStat) : List Maintenance :=
  ((rows.filter (t.minPageCount < ·.pageCount)).filterMap (classify? t)).mergeSort inOrder

def script (ms : List Maintenance) : String := "\n".intercalate (ms.map statement)

end Maintenance

end IndexTuning
