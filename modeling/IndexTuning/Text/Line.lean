namespace IndexTuning.Text

def linesWithBreaks : List Char → List (List Char)
  | [] => []
  | c :: s =>
    if c = '\n' then [c] :: linesWithBreaks s
    else
      match linesWithBreaks s with
      | [] => [[c]]
      | l :: ls => (c :: l) :: ls

theorem flatten_linesWithBreaks (s : List Char) : (linesWithBreaks s).flatten = s := by
  induction s with
  | nil => rfl
  | cons c s ih =>
    by_cases h : c = '\n'
    · simp [linesWithBreaks, h, ih]
    · cases hs : linesWithBreaks s with
      | nil => simp_all [linesWithBreaks]
      | cons l ls => simp_all [linesWithBreaks]

def dropBreak (line : List Char) : List Char :=
  match line.reverse with
  | '\n' :: '\r' :: r => r.reverse
  | '\n' :: r => r.reverse
  | _ => line

def lines (s : List Char) : List (List Char) := (linesWithBreaks s).map dropBreak

def joinLines (ls : List (List Char)) : List Char := ['\n'].intercalate ls

end IndexTuning.Text
