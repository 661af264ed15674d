import IndexTuning.Double
import IndexTuning.Sql.Identifier
import IndexTuning.Thresholds

namespace IndexTuning

open Sql

/-- An index that the server missed while it ran queries. Column groups are lists of bracketed
names. -/
structure MissingStat where
  database : String
  schema : String
  table : String
  equalityColumns : Option String
  inequalityColumns : Option String
  includedColumns : Option String
  uniqueCompiles : Int
  seeks : Int
  scans : Int
  averageCost : Double
  averageImpact : Double

inductive MissingAction
  | create
  | optional
  deriving DecidableEq, Repr

namespace MissingAction

def label : MissingAction → String
  | create => "YES"
  | optional => "OPTIONAL"

def severity : MissingAction → Nat
  | create => 0
  | optional => 1

def forCounts (t : Thresholds) (seeks : Int) (impact : Double) : MissingAction :=
  if t.missingMinSeeks < seeks ∧ impact.toFloat > t.missingMinImpact then create else optional

end MissingAction

structure MissingIndex where
  database : String
  schema : String
  table : String
  name : String
  seeks : Int
  averageCost : Double
  averageImpact : Double
  estimatedSizeKb : Int
  action : MissingAction
  suggestion : String

namespace MissingIndex

def columns (group : Option String) : List String := Identifier.ofGroup (group.getD "")

def indexName (table : String) (equality inequality : List String) : String :=
  let named (columns : List String) : String :=
    if columns = [] then "" else "_" ++ "_".intercalate columns
  Identifier.fit ("IX_" ++ table ++ named equality ++ named inequality)

def quoted (columns : List String) : String :=
  ", ".intercalate (columns.map Identifier.quote)

def createStatement (name database schema table : String) (keys included : List String) : String :=
  "CREATE NONCLUSTERED INDEX " ++ Identifier.quote name ++ " ON " ++ Identifier.quote database ++
    "." ++ Identifier.quote schema ++ "." ++ Identifier.quote table ++ " (" ++ quoted keys ++ ")" ++
    (if included = [] then "" else " INCLUDE (" ++ quoted included ++ ")") ++ ";"

/-- A rough size, cut to an integer and held within 64 bits. -/
def estimateSizeKb (seeks : Int) (averageCost : Double) : Int :=
  (Float.ofInt seeks * averageCost.toFloat * 8.0).toInt64.toInt

def classify? (t : Thresholds) (row : MissingStat) : Option MissingIndex :=
  let equality := columns row.equalityColumns
  let inequality := columns row.inequalityColumns
  if equality = [] ∧ inequality = [] then none
  else
    let name := indexName row.table equality inequality
    some {
      database := row.database
      schema := row.schema
      table := row.table
      name
      seeks := row.seeks
      averageCost := row.averageCost
      averageImpact := row.averageImpact
      estimatedSizeKb := estimateSizeKb row.seeks row.averageCost
      action := .forCounts t row.seeks row.averageImpact
      suggestion :=
        createStatement name row.database row.schema row.table (equality ++ inequality)
          (columns row.includedColumns) }

def inOrder (a b : MissingIndex) : Bool :=
  let impactOfA := a.averageImpact.orderKey
  let impactOfB := b.averageImpact.orderKey
  a.action.severity < b.action.severity ||
    (a.action.severity == b.action.severity &&
      (impactOfB < impactOfA || (impactOfA == impactOfB && b.seeks ≤ a.seeks)))

def analyze (t : Thresholds) (rows : List MissingStat) : List MissingIndex :=
  (rows.filterMap (classify? t)).mergeSort inOrder

def script (ms : List MissingIndex) (advisory : Bool) : String :=
  "\n".intercalate ((ms.filter fun m => m.action == .create || advisory).map suggestion)

end MissingIndex

end IndexTuning
