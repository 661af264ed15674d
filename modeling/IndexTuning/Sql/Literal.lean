import IndexTuning.Text.Search

namespace IndexTuning.Sql.Literal

open Text

/-- Writes every quote twice, so that the text can stand in a string literal. -/
def escape : List Char → List Char
  | [] => []
  | c :: s => if c = '\'' then '\'' :: '\'' :: escape s else c :: escape s

def unescape : List Char → List Char
  | '\'' :: '\'' :: s => '\'' :: unescape s
  | c :: s => c :: unescape s
  | [] => []

def readBody : List Char → Option (List Char × List Char)
  | [] => none
  | c :: s =>
    if c = '\'' then
      match s with
      | '\'' :: r => (readBody r).map fun p => ('\'' :: p.1, p.2)
      | _ => some ([], s)
    else (readBody s).map fun p => (c :: p.1, p.2)

theorem readBody_escape (s rest : List Char) (h : rest.head? ≠ some '\'') :
    readBody (escape s ++ '\'' :: rest) = some (s, rest) := by
  induction s with
  | nil => cases rest <;> simp_all [escape, readBody]
  | cons c s ih =>
    by_cases hc : c = '\''
    · simp [escape, readBody, hc, ih]
    · rw [escape, if_neg hc, List.cons_append, readBody.eq_def]
      simp [hc, ih]

def escaped (s : String) : String := String.ofList (escape s.toList)

def unescaped (s : String) : String := String.ofList (unescape s.toList)

/-- A batch that runs `sql` as dynamic text. -/
def exec (sql : String) : String := "EXEC('" ++ escaped sql ++ "');"

end IndexTuning.Sql.Literal
