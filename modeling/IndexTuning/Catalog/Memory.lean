import IndexTuning.Catalog
import IndexTuning.Text.Fold

namespace IndexTuning

open Sql Text

structure DatabaseContent where
  physicalStats : List PhysicalStat := []
  usageStats : List UsageStat := []
  missingStats : List MissingStat := []
  tables : List (TableRef × List Column) := []
  procedures : List (ProcedureInfo × String) := []
  indexes : List ExistingIndex := []

/-- A catalog held in memory. Databases are kept in the order in which they were first named; one
with a failure answers every query with it. -/
structure MemoryCatalog where
  contents : List (String × DatabaseContent) := []
  failures : List (String × String) := []

namespace MemoryCatalog

def updateIn (database : String) (f : DatabaseContent → DatabaseContent) :
    List (String × DatabaseContent) → List (String × DatabaseContent)
  | [] => [(database, f {})]
  | (name, content) :: rest =>
    if name = database then (name, f content) :: rest
    else (name, content) :: updateIn database f rest

def update (c : MemoryCatalog) (database : String) (f : DatabaseContent → DatabaseContent) :
    MemoryCatalog :=
  { c with contents := updateIn database f c.contents }

def addDatabase (c : MemoryCatalog) (database : String) : MemoryCatalog := c.update database id

/-- A later failure of a database replaces an earlier one. -/
def addFailing (c : MemoryCatalog) (database message : String) : MemoryCatalog :=
  { c.addDatabase database with failures := (database, message) :: c.failures }

def addPhysical (c : MemoryCatalog) (row : PhysicalStat) : MemoryCatalog :=
  c.update row.database fun d => { d with physicalStats := d.physicalStats ++ [row] }

def addUsage (c : MemoryCatalog) (row : UsageStat) : MemoryCatalog :=
  c.update row.database fun d => { d with usageStats := d.usageStats ++ [row] }

def addMissing (c : MemoryCatalog) (row : MissingStat) : MemoryCatalog :=
  c.update row.database fun d => { d with missingStats := d.missingStats ++ [row] }

def addTable (c : MemoryCatalog) (database schema table : String) (columns : List Column) :
    MemoryCatalog :=
  c.update database fun d =>
    { d with tables := d.tables ++ [(⟨some database, schema, table⟩, columns)] }

def addProcedure (c : MemoryCatalog) (p : ProcedureInfo) (definition : String) : MemoryCatalog :=
  c.update p.database fun d => { d with procedures := d.procedures ++ [(p, definition)] }

def addIndex (c : MemoryCatalog) (database : String) (index : ExistingIndex) : MemoryCatalog :=
  c.update database fun d => { d with indexes := d.indexes ++ [index] }

def databases (c : MemoryCatalog) : List String := c.contents.map Prod.fst

def content (c : MemoryCatalog) (database : String) : Except AdvisorError DatabaseContent :=
  match c.failures.lookup database with
  | some message => .error (.metadataQuery database message)
  | none => .ok ((c.contents.lookup database).getD {})

def isNamed (schema name ownSchema ownName : String) : Bool :=
  sameIgnoringCase ownSchema schema && sameIgnoringCase ownName name

/-- Of the physical rows, those of named indexes with enough pages are given. -/
def toCatalog {m : Type → Type} [Monad m] (c : MemoryCatalog) : Catalog m :=
  let within {α : Type} (database : String) (f : DatabaseContent → α) : ExceptT AdvisorError m α :=
    ExceptT.mk (pure ((c.content database).map f))
  { databases := pure c.databases
    physicalStats := fun database minPageCount => within database fun d =>
      d.physicalStats.filter fun row => minPageCount < row.pageCount && row.index.isSome
    usageStats := fun database => within database (·.usageStats)
    missingStats := fun database => within database (·.missingStats)
    tables := fun database => within database (·.tables.map Prod.fst)
    columns := fun database schema table => within database fun d =>
      ((d.tables.find? fun t => isNamed schema table t.1.schema t.1.table).map Prod.snd).getD []
    procedures := fun database => within database (·.procedures.map Prod.fst)
    definition := fun database schema name => within database fun d =>
      (d.procedures.find? fun p => isNamed schema name p.1.schema p.1.name).map Prod.snd
    indexes := fun database schema table => within database fun d =>
      d.indexes.filter fun i => isNamed schema table i.schema i.table }

end MemoryCatalog

end IndexTuning
