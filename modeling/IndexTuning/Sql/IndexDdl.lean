import IndexTuning.Text.Line
import IndexTuning.Text.Scan

namespace IndexTuning.Sql.IndexDdl

open Text Scanner

def isIndexNameChar (c : Char) : Bool :=
  c == '[' || c == ']' || c == '_' || c.isDigit || isLatinLetter c

def isObjectChar (c : Char) : Bool := c == '.' || isIndexNameChar c

def createIndex : Scanner :=
  keyword "CREATE" >=> blanks >=> optional (keyword "UNIQUE" >=> blanks) >=>
    optional (keyword "NONCLUSTERED" >=> blanks) >=> keyword "INDEX" >=> blanks

def target : Scanner :=
  keyword "ON" >=> blanks >=> many1 isObjectChar >=> many isBlank >=> Scanner.char '(' >=>
    many1 (· != ')') >=> Scanner.char ')' >=> many (· != ';') >=> Scanner.char ';'

def firstTarget? : List Char → Option (List Char)
  | [] => none
  | c :: s => target (c :: s) <|> firstTarget? s

/-- A statement that creates an index, from its first keyword to a semicolon. Any text may stand
between the name and the target. A name that ends in `ON` may give these letters up to the target
when no later one is found. -/
def statement : Scanner := fun s => do
  let name ← createIndex s
  let rest ← many1 isIndexNameChar name
  let length := (consumed name rest).length
  firstTarget? rest <|> if 3 ≤ length then target (name.drop (length - 2)) else none

def statementText : Reader (List Char) := fun _ s =>
  (statement s).map fun rest => (consumed s rest, rest)

def statements (text : List Char) : List (List Char) := Reader.all statementText text

def extract (text : String) : String := String.ofList (joinLines (statements text.toList))

end IndexTuning.Sql.IndexDdl
