import IndexTuning.Sql.Identifier
import IndexTuning.Sql.Literal
import IndexTuning.Text.Line

namespace IndexTuning

open Sql Text

/-- A stored procedure that carries out the recommendations, ready to be deployed. -/
structure Artifact where
  combinedSql : String
  guardSql : String
  createSql : String
  deriving DecidableEq, Repr

namespace Artifact

def procedureName : String := "dbo.recommendation_index"

def executeSql : String := "EXEC " ++ procedureName ++ ";"

def generatedMarker : String := "-- AI Suggested Indexes --"

def script (a : Artifact) (database : Option String) : String :=
  let use := match database with
    | some name => "USE " ++ Identifier.quote name ++ ";\n\n"
    | none => ""
  use ++ a.guardSql ++ "\n\n" ++ a.createSql ++ "\n"

def dropGuard : String :=
  "IF OBJECT_ID('" ++ procedureName ++ "', 'P') IS NOT NULL DROP PROCEDURE " ++ procedureName ++ ";"

def indentLine (line : List Char) : List Char :=
  if isAllBlank line then [] else "    ".toList ++ line

def indent (sql : List Char) : List Char := joinLines ((lines sql).map indentLine)

def body (combined : String) : String :=
  "\nCREATE PROCEDURE " ++ procedureName ++ "\nAS\nBEGIN\n    SET NOCOUNT ON;\n\n" ++
    String.ofList (indent combined.toList) ++ "\nEND\n"

def ofCombined (combined : String) : Artifact :=
  ⟨combined, dropGuard, Literal.exec (body combined)⟩

/-- The sections that are not blank, in order; generated statements come last, behind their
marker. -/
def sections (maintenance unused missing : String) (generated : Option String) : List String :=
  ([maintenance, unused, missing].map trimmed).filter (· ≠ "") ++
    (((generated.map trimmed).filter (· ≠ "")).map fun g => generatedMarker ++ "\n" ++ g).toList

def assemble? (maintenance unused missing : String) (generated : Option String) :
    Option Artifact :=
  match sections maintenance unused missing generated with
  | [] => none
  | parts => some (ofCombined ("\n\n".intercalate parts))

end Artifact

end IndexTuning
