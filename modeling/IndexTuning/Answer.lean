import IndexTuning.Sql.Procedure
import IndexTuning.Text.Bytes
import IndexTuning.Text.Line

namespace IndexTuning.Answer

open Text

def startMarker : String := "=== SP_OPTIMIZED ==="

def endMarker : String := "=== END SP_OPTIMIZED ==="

def startNeedle : Needle := ⟨utf8 startMarker.toList, by decide⟩

def backtick : Char := Char.ofNat 96

def fence : List Char := List.replicate 3 backtick

def withoutMarkers (s : List Char) : List Char :=
  replaceAll startMarker.toList [] (replaceAll endMarker.toList [] s)

def fenceStart : Scanner := fun s => (dropWord? fence s).bind (Scanner.keyword "sql")

def fenced? : List Char → Option (List Char)
  | [] => none
  | c :: s =>
    match fenceStart (c :: s) with
    | some rest => (cutAt? fence rest).map Prod.fst
    | none => fenced? s

def isIndent (c : Char) : Bool := c == ' ' || c == '\t'

open Scanner in
def listMarker : Scanner :=
  many isIndent >=> many1 isDecimalDigit >=> Scanner.char '.' >=> many isIndent

def cleanLine (line : List Char) : List Char :=
  let plain := line.filter (· ≠ backtick)
  (listMarker plain).getD plain

def fromHeader (ls : List (List Char)) : List (List Char) :=
  match ls.dropWhile fun l => !Sql.Procedure.holdsHeader l with
  | [] => ls
  | body => body

/-- The procedure in a generated text: a fenced block if there is one, else the lines from the
header on, without backticks and list numbers. Markers are removed in both. -/
def clean (text : List Char) : List Char :=
  match fenced? text with
  | some block => trim (withoutMarkers block)
  | none => trim (withoutMarkers (joinLines ((fromHeader (lines (trim text))).map cleanLine)))

def cleaned (text : String) : String := String.ofList (clean text.toList)

def sectionAfter? (marker : Needle) (text : List Char) : Option (List Char) := do
  let start ← marker.find? text
  let rest ← dropBytes? (start + marker.bytes.length) text
  match cutAt? "===".toList rest with
  | some (body, _) => some (trim body)
  | none => some (trim rest)

def procedure (answer : String) : String :=
  let text := answer.toList
  String.ofList (clean ((sectionAfter? startNeedle text).getD text))

end IndexTuning.Answer
