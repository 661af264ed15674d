import IndexTuning.Fragmentation

namespace IndexTuning

open Sql

structure UsageStat where
  database : String
  schema : String
  table : String
  index : Option String
  seeks : Int
  scans : Int
  lookups : Int
  updates : Int
  sizeKb : Int

/-- The counters are added in 64 bits, and the sum wraps around. -/
def UsageStat.reads (row : UsageStat) : Int :=
  (row.seeks.toInt64 + row.scans.toInt64 + row.lookups.toInt64).toInt

inductive UnusedAction
  | drop
  | lowRead
  | keep
  deriving DecidableEq, Repr

namespace UnusedAction

def label : UnusedAction → String
  | drop => "DROP"
  | lowRead => "LOW_READ"
  | keep => "KEEP"

def severity : UnusedAction → Nat
  | drop => 0
  | lowRead => 1
  | keep => 2

def forCounts (t : Thresholds) (reads updates : Int) : UnusedAction :=
  if reads = 0 ∧ 0 < updates then drop
  else if reads < t.lowRead ∧ 0 < updates then lowRead
  else keep

end UnusedAction

/-- What to do with an index that is maintained on every write. -/
structure UnusedIndex where
  database : String
  schema : String
  table : String
  index : String
  reads : Int
  updates : Int
  sizeKb : Int
  action : UnusedAction
  suggestion : Option String

namespace UnusedIndex

def dropStatement (schema table index : String) : String :=
  "DROP INDEX " ++ Identifier.quote index ++ " ON " ++ Identifier.quote schema ++ "." ++
    Identifier.quote table ++ ";"

def classify? (t : Thresholds) (row : UsageStat) : Option UnusedIndex :=
  (usableName row.index).map fun index =>
    let action := UnusedAction.forCounts t row.reads row.updates
    { database := row.database
      schema := row.schema
      table := row.table
      index
      reads := row.reads
      updates := row.updates
      sizeKb := row.sizeKb
      action
      suggestion :=
        if action = .keep then none else some (dropStatement row.schema row.table index) }

def inOrder (a b : UnusedIndex) : Bool :=
  a.action.severity < b.action.severity ||
    (a.action.severity == b.action.severity && b.sizeKb ≤ a.sizeKb)

def analyze (t : Thresholds) (rows : List UsageStat) : List UnusedIndex :=
  (rows.filterMap (classify? t)).mergeSort inOrder

def isListed (advisory : Bool) (u : UnusedIndex) : Bool :=
  match u.action with
  | .drop => true
  | .lowRead => advisory
  | .keep => false

/-- The drops, one a line, with those that are only advised if `advisory` holds. -/
def script (us : List UnusedIndex) (advisory : Bool) : String :=
  "\n".intercalate ((us.filter (isListed advisory)).filterMap suggestion)

end UnusedIndex

end IndexTuning
