import IndexTuning.Digest
import IndexTuning.Text.Blank
import IndexTuning.Text.Bytes
import IndexTuning.Text.Search

namespace IndexTuning.Sql

open Text

def isBracket (c : Char) : Bool := c == '[' || c == ']'

namespace Identifier

/-- An identifier without surrounding blanks and without one enclosing pair of brackets. -/
def bare (s : List Char) : List Char :=
  match trim s with
  | '[' :: r => if r.getLast? = some ']' then r.dropLast else '[' :: r
  | t => t

def doubleClosing : List Char → List Char
  | [] => []
  | c :: s => if c = ']' then ']' :: ']' :: doubleClosing s else c :: doubleClosing s

/-- The bracketed form of a name: a closing bracket inside it is written twice. -/
def bracket (name : List Char) : List Char := '[' :: (doubleClosing name ++ [']'])

def readClosing : List Char → Option (List Char × List Char)
  | [] => none
  | c :: s =>
    if c = ']' then
      match s with
      | ']' :: r => (readClosing r).map fun p => (']' :: p.1, p.2)
      | _ => some ([], s)
    else (readClosing s).map fun p => (c :: p.1, p.2)

def readBracketed : List Char → Option (List Char × List Char)
  | '[' :: s => readClosing s
  | _ => none

theorem readClosing_doubleClosing (name rest : List Char) (h : rest.head? ≠ some ']') :
    readClosing (doubleClosing name ++ ']' :: rest) = some (name, rest) := by
  induction name with
  | nil => cases rest <;> simp_all [doubleClosing, readClosing]
  | cons c s ih =>
    by_cases hc : c = ']'
    · simp [doubleClosing, readClosing, hc, ih]
    · rw [doubleClosing, if_neg hc, List.cons_append, readClosing.eq_def]
      simp [hc, ih]

theorem readBracketed_bracket (name rest : List Char) (h : rest.head? ≠ some ']') :
    readBracketed (bracket name ++ rest) = some (name, rest) := by
  simpa [bracket, readBracketed] using readClosing_doubleClosing name rest h

def quote (s : String) : String := String.ofList (bracket (bare s.toList))

def withoutBrackets (s : String) : String :=
  String.ofList (s.toList.filter fun c => !isBracket c)

def maxLength : Nat := 128

/-- A name of at most `maxLength` characters: a longer one keeps its beginning and ends in eight
digits of its digest, so that names with a common beginning stay apart. -/
def fit (name : String) : String :=
  if name.length ≤ maxLength then name
  else
    let mark := Digest.hex ((Digest.sha256 (utf8 name.toList)).take 4)
    String.ofList (name.toList.take (maxLength - mark.length - 1) ++ '_' :: mark)

def ofGroup (group : String) : List String :=
  let bare := group.toList.filter fun c => !isBracket c
  ((splitAtChar ',' bare).map trim).filter (· ≠ []) |>.map String.ofList

end Identifier

end IndexTuning.Sql
