import IndexTuning.Error
import IndexTuning.Sql.Identifier
import IndexTuning.Sql.Literal
import IndexTuning.Sql.TableRef
import IndexTuning.Text.Scan
import IndexTuning.Text.Template
import IndexTuning.Text.Word
import IndexTuning.Timestamp

namespace IndexTuning.Sql.Procedure

open Text Scanner

def createProcedure : Scanner :=
  keyword "CREATE" >=> blanks >=> optional (keyword "OR" >=> blanks >=> keyword "ALTER" >=> blanks)
    >=> keyword "PROC" >=> optional (keyword "EDURE")

/-- A header as a word of its own. -/
def headerWord : Reader Unit := fun before s =>
  if before.any isWord then none
  else do
    let rest ← createProcedure s
    if rest.head?.any isWord then none else some ((), rest)

def holdsHeader (line : List Char) : Bool := (headerWord.first? line).isSome

def isNameChar (c : Char) : Bool := !isBlank c && c != '('

/-- The first place where a procedure is created: the text before it, the keywords with the blanks
behind them, the name as written, and the text after it. -/
structure Header where
  before : List Char
  keywords : List Char
  name : List Char
  after : List Char

def headerName : Reader (List Char × List Char) := fun _ s => do
  let name ← (createProcedure >=> blanks) s
  let rest ← many1 isNameChar name
  some ((consumed s name, consumed name rest), rest)

def header? (sql : List Char) : Option Header :=
  (headerName.first? sql).map fun (before, (keywords, name), after) =>
    ⟨before, keywords, name, after⟩

structure Name where
  schema : Option String
  name : String
  deriving DecidableEq, Repr

def nameParts (name : List Char) : List (List Char) :=
  (splitAtChar '.' name).map (trimWhere isBracket)

def Name.ofParts? (parts : List (List Char)) : Option Name :=
  match parts.reverse with
  | [] => none
  | [] :: _ => none
  | name :: qualifiers => some ⟨qualifiers.head?.map String.ofList, String.ofList name⟩

def name? (sql : String) : Option Name :=
  (header? sql.toList).bind fun h => Name.ofParts? (nameParts h.name)

def freshName (name : String) (now : Timestamp) : String := name ++ "_Opt_" ++ now.compact

/-- Puts a name in the place of the one in the header. Dollar references in it are expanded: group 1
is the keywords, group 2 the name as written, and group 0 both. -/
def Header.rename (h : Header) (name : String) : List Char :=
  let groups := [h.keywords ++ h.name, h.keywords, h.name]
  h.before ++ h.keywords ++ "dbo.".toList ++
    Template.expand groups (Identifier.quote name).toList ++ h.after

def rename? (sql : String) (now : Timestamp) : Option (String × String) := do
  let h ← header? sql.toList
  let current ← Name.ofParts? (nameParts h.name)
  let name := freshName current.name now
  some (String.ofList (h.rename name), name)

def snippetLength : Nat := 80

def rename (sql : String) (now : Timestamp) : Except AdvisorError (String × String) :=
  match rename? sql now with
  | some renamed => .ok renamed
  | none => .error (.noProcedureName (String.ofList (sql.toList.take snippetLength)))

def dropGuard? (sql : String) : Option String :=
  (name? sql).map fun n =>
    let schema := n.schema.getD defaultSchema
    "IF OBJECT_ID('" ++ Literal.escaped schema ++ "." ++ Literal.escaped n.name ++
      "', 'P') IS NOT NULL DROP PROCEDURE " ++ Identifier.quote schema ++ "." ++
      Identifier.quote n.name ++ ";"

def splitQualified (qualified : String) : String × String :=
  match cutAt? ['.'] (trim qualified.toList) with
  | some (schema, name) =>
    (Identifier.withoutBrackets (String.ofList schema),
      Identifier.withoutBrackets (String.ofList name))
  | none => (defaultSchema, Identifier.withoutBrackets (trimmed qualified))

end IndexTuning.Sql.Procedure
