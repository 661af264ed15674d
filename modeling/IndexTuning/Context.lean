import IndexTuning.Answer
import IndexTuning.Catalog
import IndexTuning.Generator
import IndexTuning.Prompt
import IndexTuning.Sql.IndexDdl
import IndexTuning.Sql.TableScan

namespace IndexTuning

open Sql

structure Context where
  database : String
  definition : String
  tables : List TableRef
  tableInfo : List String
  existingIndexes : List String
  failures : List String
  deriving DecidableEq, Repr

structure TableNotes where
  info : List String := []
  indexes : List String := []
  failures : List String := []
  deriving DecidableEq, Repr

namespace TableNotes

def failed (t : TableRef) (e : AdvisorError) : String := t.dotted ++ ": " ++ e.message

def lookUp {m : Type → Type} [Monad m] (c : Catalog m) (database sql : String) (t : TableRef) :
    m TableNotes := do
  let home := t.database.getD database
  match ← (c.columns home t.schema t.table).run with
  | .error e => return { failures := [failed t e] }
  | .ok [] => return {}
  | .ok columns =>
    let info := [ColumnUsage.tableLine t.schema t.table (ColumnUsage.filter columns sql t.table)]
    match ← (c.indexes home t.schema t.table).run with
    | .error e => return { info, failures := [failed t e] }
    | .ok indexes => return { info, indexes := indexes.map (·.describe) }

end TableNotes

namespace Context

def ofNotes (database sql : String) (tables : List TableRef) (notes : List TableNotes) :
    Context where
  database
  definition := sql
  tables
  tableInfo := notes.flatMap (·.info)
  existingIndexes := notes.flatMap (·.indexes)
  failures := notes.flatMap (·.failures)

variable {m : Type → Type} [Monad m]

def ofSql (c : Catalog m) (database sql : String) : m Context := do
  let tables := TableScan.extract sql (some database)
  return ofNotes database sql tables (← tables.mapM (TableNotes.lookUp c database sql))

def definitionOf (c : Catalog m) (database schema name : String) :
    ExceptT AdvisorError m String := do
  match ← c.definition database schema name with
  | some sql => return sql
  | none => throw (.procedureNotFound database schema name)

def ofProcedure (c : Catalog m) (database schema name : String) :
    ExceptT AdvisorError m Context := do
  let sql ← definitionOf c database schema name
  ExceptT.lift (ofSql c database sql)

def tableText (x : Context) : String :=
  let info := "\n".intercalate x.tableInfo
  if x.existingIndexes = [] then info
  else
    info ++ (if info = "" then "" else "\n\n") ++ "Existing indexes:\n" ++
      "\n".intercalate x.existingIndexes

def indexPrompt (x : Context) : String := Prompt.forIndexes x.definition x.tableText

def revisionPrompt (x : Context) : String := Prompt.forRevision x.definition x.tableText

def suggestIndexes (g : Generator m) (x : Context) : ExceptT AdvisorError m String :=
  IndexDdl.extract <$> g.generate x.indexPrompt

def suggestRevision (g : Generator m) (x : Context) : ExceptT AdvisorError m String :=
  Answer.procedure <$> g.generate x.revisionPrompt

end Context

end IndexTuning
