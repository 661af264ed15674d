import IndexTuning.Sql.Comment
import IndexTuning.Sql.TableRef
import IndexTuning.Text.Scan
import IndexTuning.Text.Word

namespace IndexTuning.Sql.TableScan

open Text Scanner

def keywordBeforeTable : Scanner := fun s =>
  (keyword "DELETE" >=> blanks >=> keyword "FROM") s <|> keyword "FROM" s <|> keyword "JOIN" s <|>
    keyword "INTO" s <|> keyword "UPDATE" s

def isInsideBrackets (c : Char) : Bool := c != ']' && c != '\r' && c != '\n'

def bracketedPart : Scanner := Scanner.char '[' >=> many1 isInsideBrackets >=> Scanner.char ']'

def startsPlainPart (c : Char) : Bool := c == '#' || c == '_' || isLatinLetter c

def continuesPlainPart (c : Char) : Bool := c == '#' || c == '$' || isWord c

def plainPart : Scanner
  | [] => none
  | c :: s => if startsPlainPart c then some (s.dropWhile continuesPlainPart) else none

def part : Scanner := fun s => bracketedPart s <|> plainPart s

def chain : Scanner :=
  part >=> optional (Scanner.char '.' >=> part) >=> optional (Scanner.char '.' >=> part)

def reference : Reader (List Char) := fun before s =>
  if before.any isWord then none
  else do
    let start ← (keywordBeforeTable >=> blanks) s
    let rest ← chain start
    some (consumed start rest, rest)

def chains (sql : List Char) : List (List Char) := Reader.all reference sql

def chainPart : Reader (List Char) := fun _ s => do
  let rest ← (Scanner.char '[' >=> many1 (· != ']') >=> Scanner.char ']') s <|>
    many1 (fun c => c != '.' && !isBracket c) s
  some (consumed s rest, rest)

def chainParts (chain : List Char) : List (List Char) :=
  (Reader.all chainPart chain).map fun p => trim (trimWhere isBracket p)

/-- The table that a chain names. Temporary tables are left out. -/
def resolve (defaultDatabase : Option String) (chain : List Char) : Option TableRef :=
  let named (database : Option String) (schema table : List Char) : Option TableRef :=
    if table = [] ∨ table.head? = some '#' ∨ schema = [] then none
    else some ⟨database, String.ofList schema, String.ofList table⟩
  match chainParts chain with
  | [table] => named defaultDatabase defaultSchema.toList table
  | [schema, table] => named defaultDatabase schema table
  | [database, schema, table] => named (some (String.ofList database)) schema table
  | _ => none

/-- A default database counts only when it is not blank. -/
def usableDatabase (database : Option String) : Option String :=
  (database.map trimmed).filter (· ≠ "")

def tablesIn (sql : List Char) (defaultDatabase : Option String) : List TableRef :=
  (chains (Comment.strip sql)).filterMap (resolve (usableDatabase defaultDatabase))

def extract (sql : String) (defaultDatabase : Option String) : List TableRef :=
  TableRef.toSet (tablesIn sql.toList defaultDatabase)

end IndexTuning.Sql.TableScan
