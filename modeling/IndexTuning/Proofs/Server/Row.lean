import IndexTuning.Server.Client
import Mathlib.Data.List.Forall2

namespace IndexTuning

def Cell.ofText? : Option String → Cell
  | none => .null
  | some value => .text value

def Cell.ofReal? : Option Double → Cell
  | none => .null
  | some value => .real value

def Cell.ofFlag (value : Bool) : Cell := .integer (if value then 1 else 0)

namespace Row

variable {row : Row} {name : String}

/-- The row has these cells under these names. -/
def Shows (row : Row) (cells : List (String × Cell)) : Prop :=
  ∀ c ∈ cells, row.lookup c.1 = some c.2

theorem text?_of_lookup {value : Option String} (h : row.lookup name = some (.ofText? value)) :
    row.text? name = .ok value := by
  rw [text?, cell, h]
  cases value <;> rfl

theorem text_of_lookup {value : String} (h : row.lookup name = some (.text value)) :
    row.text name = .ok value := by
  have htext : row.text? name = .ok (some value) := text?_of_lookup h
  rw [text, htext]
  rfl

theorem integer_of_lookup {value : Int} (h : row.lookup name = some (.integer value)) :
    row.integer name = .ok value := by
  rw [integer, cell, h]
  rfl

theorem flag_of_lookup {value : Bool} (h : row.lookup name = some (.ofFlag value)) :
    row.flag name = .ok value := by
  rw [flag, integer_of_lookup h]
  cases value <;> rfl

theorem real?_of_lookup (value : Option Double) (h : row.lookup name = some (.ofReal? value)) :
    row.real? name = .ok value := by
  rw [real?, cell, h]
  cases value <;> rfl

end Row

def PhysicalStat.cells (x : PhysicalStat) : List (String × Cell) :=
  [("database_name", .text x.database), ("schema_name", .text x.schema),
    ("table_name", .text x.table), ("index_name", .ofText? x.index),
    ("fragmentation", .ofReal? x.fragmentation), ("page_count", .integer x.pageCount)]

def UsageStat.cells (x : UsageStat) : List (String × Cell) :=
  [("database_name", .text x.database), ("schema_name", .text x.schema),
    ("table_name", .text x.table), ("index_name", .ofText? x.index),
    ("user_seeks", .integer x.seeks), ("user_scans", .integer x.scans),
    ("user_lookups", .integer x.lookups), ("user_updates", .integer x.updates),
    ("index_size_kb", .integer x.sizeKb)]

def MissingStat.cells (x : MissingStat) : List (String × Cell) :=
  [("database_name", .text x.database), ("schema_name", .text x.schema),
    ("table_name", .text x.table), ("equality_columns", .ofText? x.equalityColumns),
    ("inequality_columns", .ofText? x.inequalityColumns),
    ("included_columns", .ofText? x.includedColumns),
    ("unique_compiles", .integer x.uniqueCompiles), ("user_seeks", .integer x.seeks),
    ("user_scans", .integer x.scans), ("avg_total_user_cost", .real x.averageCost),
    ("avg_user_impact", .real x.averageImpact)]

def IndexRow.IsBare (r : IndexRow) : Prop :=
  r.index.keyColumns = [] ∧ r.index.includedColumns = []

def IndexRow.cells (r : IndexRow) : List (String × Cell) :=
  [("schema_name", .text r.index.schema), ("table_name", .text r.index.table),
    ("index_name", .text r.index.name), ("type_desc", .text r.index.kind),
    ("is_unique", .ofFlag r.index.isUnique), ("is_primary_key", .ofFlag r.index.isPrimaryKey),
    ("column_name", .text r.column), ("is_included", .ofFlag r.isIncluded)]

namespace Client

variable {row : Row}

theorem readPhysical_of_shows {x : PhysicalStat} (h : row.Shows x.cells) :
    readPhysical row = .ok x := by
  simp only [Row.Shows, PhysicalStat.cells, List.forall_mem_cons] at h
  obtain ⟨database, schema, table, index, fragmentation, pageCount, -⟩ := h
  rw [readPhysical, Row.text_of_lookup database, Row.text_of_lookup schema,
    Row.text_of_lookup table, Row.text?_of_lookup index, Row.real?_of_lookup _ fragmentation,
    Row.integer_of_lookup pageCount]
  rfl

theorem readUsage_of_shows {x : UsageStat} (h : row.Shows x.cells) :
    readUsage row = .ok x := by
  simp only [Row.Shows, UsageStat.cells, List.forall_mem_cons] at h
  obtain ⟨database, schema, table, index, seeks, scans, lookups, updates, size, -⟩ := h
  rw [readUsage, Row.text_of_lookup database, Row.text_of_lookup schema,
    Row.text_of_lookup table, Row.text?_of_lookup index, Row.integer_of_lookup seeks,
    Row.integer_of_lookup scans, Row.integer_of_lookup lookups, Row.integer_of_lookup updates,
    Row.integer_of_lookup size]
  rfl

theorem readMissing_of_shows {x : MissingStat} (h : row.Shows x.cells) :
    readMissing row = .ok x := by
  simp only [Row.Shows, MissingStat.cells, List.forall_mem_cons] at h
  obtain ⟨database, schema, table, equality, inequality, included, compiles, seeks, scans, cost,
    impact, -⟩ := h
  rw [readMissing, Row.text_of_lookup database, Row.text_of_lookup schema,
    Row.text_of_lookup table, Row.text?_of_lookup equality, Row.text?_of_lookup inequality,
    Row.text?_of_lookup included, Row.integer_of_lookup compiles, Row.integer_of_lookup seeks,
    Row.integer_of_lookup scans, Row.real?_of_lookup (some x.averageCost) cost,
    Row.real?_of_lookup (some x.averageImpact) impact]
  rfl

theorem readIndexRow_of_shows {r : IndexRow} (hbare : r.IsBare) (h : row.Shows r.cells) :
    readIndexRow row = .ok r := by
  simp only [Row.Shows, IndexRow.cells, List.forall_mem_cons] at h
  obtain ⟨schema, table, index, kind, unique, primary, column, included, -⟩ := h
  rw [readIndexRow, Row.text_of_lookup schema, Row.text_of_lookup table, Row.text_of_lookup index,
    Row.text_of_lookup kind, Row.flag_of_lookup unique, Row.flag_of_lookup primary,
    Row.text_of_lookup column, Row.flag_of_lookup included]
  obtain ⟨⟨schema, table, index, kind, unique, primary, keys, includes⟩, column, included⟩ := r
  obtain ⟨rfl, rfl⟩ := hbare
  rfl

end Client

end IndexTuning
