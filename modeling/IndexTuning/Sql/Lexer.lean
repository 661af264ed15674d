namespace IndexTuning.Sql

/-- Where a left-to-right reading of SQL text stands. The four modes `dash`, `slash`,
`bracketEnd` and `blockStar` wait for the character that decides what the last one was. -/
inductive Mode
  | code
  | dash
  | slash
  | literal
  | quotedName
  | bracketName
  | bracketEnd
  | lineComment
  | blockComment
  | blockStar
  deriving DecidableEq, Repr

namespace Mode

def ofCode : Char → Mode
  | '\'' => literal
  | '"' => quotedName
  | '[' => bracketName
  | '-' => dash
  | '/' => slash
  | _ => code

def step : Mode → Char → Mode
  | code, c => ofCode c
  | dash, c => if c = '-' then lineComment else ofCode c
  | slash, c => if c = '*' then blockComment else ofCode c
  | literal, c => if c = '\'' then code else literal
  | quotedName, c => if c = '"' then code else quotedName
  | bracketName, c => if c = ']' then bracketEnd else bracketName
  | bracketEnd, c => if c = ']' then bracketName else ofCode c
  | lineComment, c => if c = '\n' then code else lineComment
  | blockComment, c => if c = '*' then blockStar else blockComment
  | blockStar, c => if c = '/' then code else if c = '*' then blockStar else blockComment

def inCode : Mode → Bool
  | code | dash | slash | bracketEnd => true
  | _ => false

def after (m : Mode) (s : List Char) : Mode := s.foldl step m

@[simp] theorem after_nil (m : Mode) : m.after [] = m := rfl

@[simp] theorem after_cons (m : Mode) (c : Char) (s : List Char) :
    m.after (c :: s) = (m.step c).after s := rfl

theorem after_append (m : Mode) (s t : List Char) : m.after (s ++ t) = (m.after s).after t := by
  simp [after, List.foldl_append]

end Mode

end IndexTuning.Sql
