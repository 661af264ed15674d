import IndexTuning.Catalog
import IndexTuning.Executor
import IndexTuning.Server
import IndexTuning.Server.Query

namespace IndexTuning

open Sql

/-- One column of an index, together with the index it belongs to. -/
structure IndexRow where
  index : ExistingIndex
  column : String
  isIncluded : Bool

def ExistingIndex.addColumn (i : ExistingIndex) (column : String) (isIncluded : Bool) :
    ExistingIndex :=
  if isIncluded then { i with includedColumns := i.includedColumns ++ [column] }
  else { i with keyColumns := i.keyColumns ++ [column] }

namespace IndexRow

def ofIndex (i : ExistingIndex) : List IndexRow :=
  let bare := { i with keyColumns := [], includedColumns := [] }
  i.keyColumns.map (⟨bare, ·, false⟩) ++ i.includedColumns.map (⟨bare, ·, true⟩)

/-- Adds a row to the indexes gathered so far, the latest of them first. It opens a new index when
the latest one has another name. -/
def gather (indexes : List ExistingIndex) (row : IndexRow) : List ExistingIndex :=
  match indexes with
  | [] => [row.index.addColumn row.column row.isIncluded]
  | latest :: earlier =>
    if latest.name = row.index.name then latest.addColumn row.column row.isIncluded :: earlier
    else row.index.addColumn row.column row.isIncluded :: latest :: earlier

def toIndexes (rows : List IndexRow) : List ExistingIndex := (rows.foldl gather []).reverse

end IndexRow

structure Client (m : Type → Type) where
  server : Server m
  settings : Settings

namespace Client

variable {m : Type → Type} [Monad m]

def connect (server : Server m) (settings : Settings) : Except AdvisorError (Client m) :=
  match settings.authentication with
  | .windows => .error (.configuration
      "Windows authentication is not supported; set SQL_USER and SQL_PASSWORD")
  | .login _ _ => .ok ⟨server, settings⟩

/-- Asks for rows and reads them. The first row that cannot be read fails the query. -/
def query {α : Type} (c : Client m) (database sql : String) (parameters : List Parameter)
    (read : Row → Except CellFault α) : ExceptT AdvisorError m (List α) := ExceptT.mk do
  match ← c.server.ask c.settings database (.query sql parameters) with
  | .error fault => return .error (.metadataQuery database fault.message)
  | .ok rows =>
    return (rows.mapM read).mapError fun fault => .metadataQuery database fault.message

def readPhysical (row : Row) : Except CellFault PhysicalStat := do
  return {
    database := ← row.text "database_name"
    schema := ← row.text "schema_name"
    table := ← row.text "table_name"
    index := ← row.text? "index_name"
    fragmentation := ← row.real? "fragmentation"
    pageCount := ← row.integer "page_count" }

def readUsage (row : Row) : Except CellFault UsageStat := do
  return {
    database := ← row.text "database_name"
    schema := ← row.text "schema_name"
    table := ← row.text "table_name"
    index := ← row.text? "index_name"
    seeks := ← row.integer "user_seeks"
    scans := ← row.integer "user_scans"
    lookups := ← row.integer "user_lookups"
    updates := ← row.integer "user_updates"
    sizeKb := ← row.integer "index_size_kb" }

def readMissing (row : Row) : Except CellFault MissingStat := do
  return {
    database := ← row.text "database_name"
    schema := ← row.text "schema_name"
    table := ← row.text "table_name"
    equalityColumns := ← row.text? "equality_columns"
    inequalityColumns := ← row.text? "inequality_columns"
    includedColumns := ← row.text? "included_columns"
    uniqueCompiles := ← row.integer "unique_compiles"
    seeks := ← row.integer "user_seeks"
    scans := ← row.integer "user_scans"
    averageCost := (← row.real? "avg_total_user_cost").getD 0
    averageImpact := (← row.real? "avg_user_impact").getD 0 }

def readTable (database : String) (row : Row) : Except CellFault TableRef := do
  return {
    database := some database
    schema := ← row.text "TABLE_SCHEMA"
    table := ← row.text "TABLE_NAME" }

def readColumn (row : Row) : Except CellFault Column := do
  return { name := ← row.text "COLUMN_NAME", dataType := ← row.text "DATA_TYPE" }

def readProcedure (database : String) (row : Row) : Except CellFault ProcedureInfo := do
  return {
    database
    schema := ← row.text "schema_name"
    name := ← row.text "name"
    isEncrypted := ← row.flag "is_encrypted" }

def readIndexRow (row : Row) : Except CellFault IndexRow := do
  let index : ExistingIndex := {
    schema := ← row.text "schema_name"
    table := ← row.text "table_name"
    name := ← row.text "index_name"
    kind := ← row.text "type_desc"
    isUnique := ← row.flag "is_unique"
    isPrimaryKey := ← row.flag "is_primary_key"
    keyColumns := []
    includedColumns := [] }
  return { index, column := ← row.text "column_name", isIncluded := ← row.flag "is_included" }

def masterDatabase : String := "master"

def toCatalog (c : Client m) : Catalog m where
  databases := c.query masterDatabase Server.Query.databases [] (·.text "name")
  physicalStats database minPageCount :=
    c.query database Server.Query.physicalStats [.integer minPageCount] readPhysical
  usageStats database := c.query database Server.Query.usageStats [] readUsage
  missingStats database := c.query database Server.Query.missingStats [] readMissing
  tables database := c.query database Server.Query.tables [] (readTable database)
  columns database schema table :=
    c.query database Server.Query.columns [.text schema, .text table] readColumn
  procedures database := c.query database Server.Query.procedures [] (readProcedure database)
  definition database schema name := do
    let texts ← c.query database Server.Query.definition [.text schema, .text name]
      (·.text? "definition")
    return (texts.filterMap id).head?
  indexes database schema table := do
    let rows ← c.query database Server.Query.indexes [.text schema, .text table] readIndexRow
    return IndexRow.toIndexes rows

def toExecutor (c : Client m) : Executor m where
  execute database sql := ExceptT.mk do
    match ← c.server.ask c.settings database (.batch sql) with
    | .error fault => return .error (.statement database sql fault.message)
    | .ok _ => return .ok ()

end Client

end IndexTuning
