namespace IndexTuning.Sql.Comment

/-- Puts a blank in place of each block comment. Comments do not nest, and one that is not closed
runs to the end. `inside` holds while a comment is open. -/
def dropBlocks (inside : Bool) : List Char → List Char
  | [] => []
  | [c] => if inside then [] else [c]
  | c :: d :: s =>
    if inside then
      if c = '*' ∧ d = '/' then dropBlocks false s else dropBlocks true (d :: s)
    else if c = '/' ∧ d = '*' then ' ' :: dropBlocks true s
    else c :: dropBlocks false (d :: s)

def isLineBreak (c : Char) : Bool := c == '\r' || c == '\n'

def dropLines (inside : Bool) : List Char → List Char
  | [] => []
  | c :: s =>
    if inside then
      if isLineBreak c then c :: dropLines false s else dropLines true s
    else if c = '-' ∧ s.head? = some '-' then dropLines true s
    else c :: dropLines false s

/-- Block comments go first, so a line comment may be opened by what they leave. -/
def strip (sql : List Char) : List Char := dropLines false (dropBlocks false sql)

def stripped (sql : String) : String := String.ofList (strip sql.toList)

end IndexTuning.Sql.Comment
