import IndexTuning.Sql.Lexer
import IndexTuning.Text.Blank
import IndexTuning.Text.Line

namespace IndexTuning.Sql.Statement

open Text

/-- A line that separates batches: the word GO, which a count may follow. -/
def isSeparator (line : List Char) : Bool :=
  match trim line with
  | g :: o :: rest => g.toLower == 'g' && o.toLower == 'o' && (trim rest).all Char.isDigit
  | _ => false

/-- The lines between the separators, put together again; there is always at least one batch. -/
def batchesOfLines : List (List Char) → List (List Char)
  | [] => [[]]
  | l :: ls =>
    if isSeparator l then [] :: batchesOfLines ls
    else
      match batchesOfLines ls with
      | [] => [l]
      | b :: bs => (l ++ b) :: bs

def segments (m : Mode) : List Char → List (List Char)
  | [] => [[]]
  | c :: s =>
    if c = ';' ∧ m.inCode then [c] :: segments (m.step c) s
    else
      match segments (m.step c) s with
      | [] => [[c]]
      | p :: ps => (c :: p) :: ps

theorem flatten_segments (m : Mode) (s : List Char) : (segments m s).flatten = s := by
  induction s generalizing m with
  | nil => rfl
  | cons c s ih =>
    by_cases h : c = ';' ∧ m.inCode
    · simp [segments, h, ih]
    · cases hs : segments (m.step c) s with
      | nil => simpa [segments, h, hs] using (ih (m.step c)).symm.trans (by simp [hs])
      | cons p ps => simpa [segments, h, hs] using (by simp [hs] : p ++ ps.flatten =
          (segments (m.step c) s).flatten).trans (ih (m.step c))

def ofPiece? (piece : List Char) : Option (List Char) :=
  let t := trim piece
  if trim (dropEndWhile (· == ';') t) = [] then none else some t

def batches (sql : List Char) : List (List Char) :=
  (batchesOfLines (linesWithBreaks sql)).filterMap ofPiece?

def ofBatch (batch : List Char) : List (List Char) :=
  (segments .code batch).filterMap ofPiece?

/-- The statements of a script. Separator lines are found first, whatever surrounds them. -/
def ofScript (sql : List Char) : List (List Char) := (batches sql).flatMap ofBatch

def split (sql : String) : List String := (ofScript sql.toList).map String.ofList

end IndexTuning.Sql.Statement
