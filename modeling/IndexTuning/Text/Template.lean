namespace IndexTuning.Text.Template

def isReferenceChar (c : Char) : Bool := c.isAlphanum || c == '_'

/-- The name that a dollar sign refers to and the number of characters that spell it, read behind
the sign. A name stands in braces or runs as far as letters, digits and underscores go. -/
def reference? : List Char → Option (List Char × Nat)
  | '{' :: s =>
    if '}' ∈ s then some (s.takeWhile (· ≠ '}'), (s.takeWhile (· ≠ '}')).length + 2) else none
  | s =>
    match s.takeWhile isReferenceChar with
    | [] => none
    | name => some (name, name.length)

def number? (name : List Char) : Option Nat :=
  let digits := match name with
    | '+' :: r => r
    | r => r
  if digits ≠ [] ∧ digits.all Char.isDigit then
    some (digits.foldl (fun n d => 10 * n + (d.toNat - '0'.toNat)) 0)
  else none

def lookup (groups : List (List Char)) (name : List Char) : List Char :=
  match number? name with
  | some n => groups.getD n []
  | none => []

/-- Expands the references of a template, two dollar signs being one, after passing over `skip`
characters of a reference. -/
def expandFrom (groups : List (List Char)) (skip : Nat) : List Char → List Char
  | [] => []
  | c :: s =>
    match skip with
    | k + 1 => expandFrom groups k s
    | 0 =>
      if c ≠ '$' then c :: expandFrom groups 0 s
      else if s.head? = some '$' then '$' :: expandFrom groups 1 s
      else
        match reference? s with
        | some (name, length) => lookup groups name ++ expandFrom groups length s
        | none => '$' :: expandFrom groups 0 s

def expand (groups : List (List Char)) (template : List Char) : List Char :=
  expandFrom groups 0 template

end IndexTuning.Text.Template
