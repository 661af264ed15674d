import IndexTuning.Text.Blank
import IndexTuning.Text.Fold

namespace IndexTuning.Text

/-- Reads a piece from the front of a text and gives the text after it, or refuses. -/
abbrev Scanner := List Char → Option (List Char)

namespace Scanner

def keyword (word : String) : Scanner := dropFolded? word.toList

def char (c : Char) : Scanner
  | [] => none
  | d :: s => if d = c then some s else none

def many1 (p : Char → Bool) : Scanner
  | [] => none
  | c :: s => if p c then some (s.dropWhile p) else none

def many (p : Char → Bool) : Scanner := fun s => some (s.dropWhile p)

def blanks : Scanner := many1 isBlank

def optional (scan : Scanner) : Scanner := fun s => some ((scan s).getD s)

def consumed (s rest : List Char) : List Char := s.take (s.length - rest.length)

end Scanner

/-- A scanner that also yields a value and may look at the character before it. -/
abbrev Reader (α : Type) := Option Char → List Char → Option (α × List Char)

namespace Reader

variable {α : Type}

/-- The values read at the leftmost places where `read` succeeds, each search going on after the
text just read; `skip` characters of that text are still ahead. -/
def allFrom (read : Reader α) (skip : Nat) (before : Option Char) : List Char → List α
  | [] => []
  | c :: s =>
    match skip with
    | k + 1 => allFrom read k (some c) s
    | 0 =>
      match read before (c :: s) with
      | some (a, rest) => a :: allFrom read (s.length - rest.length) (some c) s
      | none => allFrom read 0 (some c) s

def all (read : Reader α) (s : List Char) : List α := allFrom read 0 none s

def firstFrom? (read : Reader α) (before : Option Char) :
    List Char → Option (List Char × α × List Char)
  | [] => none
  | c :: s =>
    match read before (c :: s) with
    | some (a, rest) => some ([], a, rest)
    | none => (firstFrom? read (some c) s).map fun p => (c :: p.1, p.2)

def first? (read : Reader α) (s : List Char) : Option (List Char × α × List Char) :=
  firstFrom? read none s

end Reader

end IndexTuning.Text
