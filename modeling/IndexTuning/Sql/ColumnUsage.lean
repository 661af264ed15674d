import IndexTuning.Text.Scan
import IndexTuning.Text.Word

namespace IndexTuning.Sql

open Text

structure Column where
  name : String
  dataType : String
  deriving DecidableEq, Repr

def Column.describe (c : Column) : String := c.name ++ " (" ++ c.dataType ++ ")"

namespace ColumnUsage

def startsWith (word : List Char) (before : Option Char) (s : List Char) : Bool :=
  isWordBoundary before s.head? &&
    match dropFolded? word s with
    | some rest => isWordBoundary (Scanner.consumed s rest).getLast? rest.head?
    | none => false

def mentionedAfter (word : List Char) (before : Option Char) : List Char → Bool
  | [] => startsWith word before []
  | c :: s => startsWith word before (c :: s) || mentionedAfter word (some c) s

def mentioned (word sql : List Char) : Bool := mentionedAfter word none sql

def isUsed (sql table column : List Char) : Bool :=
  column ≠ [] && (mentioned (table ++ '.' :: column) sql || mentioned column sql)

/-- The columns that `sql` seems to use. When it uses none, dynamic text may hide its columns, so
all of them are given. -/
def filter (columns : List Column) (sql table : String) : List String :=
  match columns.filter fun c => isUsed sql.toList table.toList c.name.toList with
  | [] => columns.map Column.describe
  | used => used.map Column.describe

def tableLine (schema table : String) (columns : List String) : String :=
  schema ++ "." ++ table ++ " (" ++ ", ".intercalate columns ++ ")"

end ColumnUsage

end IndexTuning.Sql
