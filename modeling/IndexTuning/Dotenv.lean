import IndexTuning.Text.Blank
import IndexTuning.Text.Line
import IndexTuning.Text.Word

/-!
Files that set environment variables: one assignment a line, quotes that may span lines, comments,
and references to variables set before.
-/

namespace IndexTuning.Dotenv

open Text

abbrev Variables := List (String × String)

inductive LineMode
  | complete
  | blank
  | escape
  | single
  | singleEscape
  | double
  | doubleEscape
  deriving DecidableEq, Repr

def LineMode.step (m : LineMode) (c : Char) : LineMode :=
  let opened :=
    if c = '\\' then escape else if c = '"' then double else if c = '\'' then single else complete
  match m with
  | complete => if isBlank c && c != '\n' && c != '\r' then blank else opened
  | blank => opened
  | escape => complete
  | single => if c = '\\' then singleEscape else if c = '\'' then complete else single
  | singleEscape => single
  | double => if c = '\\' then doubleEscape else if c = '"' then complete else double
  | doubleEscape => double

def scanLine (m : LineMode) (before : List Char) : List Char → LineMode ⊕ List Char
  | [] => .inl m
  | c :: s =>
    if m = .blank ∧ c = '#' then .inr before.reverse else scanLine (m.step c) (c :: before) s

/-- Joins the lines over which a quote is open. A text that does not end in the mode `complete` loses
its last line: a quote is open there, or a blank or a backslash has nothing behind it. -/
def logicalLines (m : LineMode) (buffer : List Char) : List (List Char) → List (List Char)
  | [] => []
  | line :: rest =>
    let whole := buffer ++ line
    if (whole.dropWhile isBlank).head? = some '#' then [] :: logicalLines .complete [] rest
    else
      match scanLine m [] line with
      | .inr start => (buffer ++ start) :: logicalLines .complete [] rest
      | .inl .complete => dropBreak whole :: logicalLines .complete [] rest
      | .inl open' => logicalLines open' whole rest

inductive ValueMode
  | plain
  | single
  | escape
  | ended
  | name
  | bracedName
  deriving DecidableEq, Repr

structure Value where
  mode : ValueMode := .plain
  quoted : Bool := false
  name : List Char := []
  text : List Char := []

namespace Value

def escapable (c : Char) : Bool := c == '\\' || c == '\'' || c == '"' || c == '$' || c == ' '

def substitute (lookup : String → Option String) (v : Value) : Value :=
  let value := (lookup (String.ofList v.name.reverse)).getD ""
  { v with mode := .plain, name := [], text := value.toList.reverse ++ v.text }

def push (v : Value) (c : Char) : Value := { v with text := c :: v.text }

def step (lookup : String → Option String) (v : Value) (c : Char) : Option Value :=
  match v.mode with
  | .ended => if c = ' ' ∨ c = '\t' then some v else none
  | .escape =>
    if escapable c then some { v.push c with mode := .plain }
    else if c = 'n' then some { v.push '\n' with mode := .plain }
    else none
  | .single => some (if c = '\'' then { v with mode := .plain } else v.push c)
  | .bracedName => some (if c = '\x7d' then v.substitute lookup else { v with name := c :: v.name })
  | .name =>
    some (
      if isAlphanumeric c then { v with name := c :: v.name }
      else if c = '\x7b' ∧ v.name = [] then { v with mode := .bracedName }
      else if c = '$' then { v.substitute lookup with mode := .name }
      else (v.substitute lookup).push c)
  | .plain =>
    if c = '$' then some { v with mode := .name }
    else if c = '\\' then some { v with mode := .escape }
    else if c = '"' then some { v with quoted := !v.quoted }
    else if v.quoted then some (v.push c)
    else if c = '\'' then some { v with mode := .single }
    else if c = ' ' ∨ c = '\t' then some { v with mode := .ended }
    else some (v.push c)

def finish? (lookup : String → Option String) (v : Value) : Option String :=
  if v.quoted || v.mode == .bracedName || v.mode == .single then none
  else some (String.ofList (v.substitute lookup).text.reverse)

def read? (lookup : String → Option String) (v : Value) : List Char → Option String
  | [] => v.finish? lookup
  | c :: s =>
    if v.mode = .ended ∧ c = '#' then v.finish? lookup
    else (v.step lookup c).bind fun w => read? lookup w s

end Value

def isKeyStart (c : Char) : Bool := c.isAlpha || c == '_'

def isKeyChar (c : Char) : Bool := c.isAlphanum || c == '_' || c == '.'

def readKey? (s : List Char) : Option (String × List Char) :=
  if s.head?.any isKeyStart then
    some (String.ofList (s.takeWhile isKeyChar), (s.dropWhile isKeyChar).dropWhile isBlank)
  else none

def readAssignment? (s : List Char) : Option (String × List Char) := do
  let afterEquals : List Char → Option (List Char)
    | '=' :: r => some (r.dropWhile isBlank)
    | _ => none
  let (key, rest) ← readKey? s
  match afterEquals rest with
  | some value => some (key, value)
  | none =>
    if key = "export" then do
      let (key, rest) ← readKey? rest
      let value ← afterEquals rest
      some (key, value)
    else none

/-- Reads the assignments of the lines, up to the first line that is none. What the environment has
is not set again, and of several assignments of a variable the first counts. -/
def readLines (environment : String → Option String) (done : Variables) :
    List (List Char) → Variables
  | [] => done
  | line :: rest =>
    let lookup (key : String) : Option String := environment key <|> done.lookup key
    let s := trim line
    if s = [] ∨ s.head? = some '#' then readLines environment done rest
    else
      let assignment := do
        let (key, text) ← readAssignment? s
        let value ← if text.head? = some '#' then some "" else Value.read? lookup {} text
        some (key, value)
      match assignment with
      | none => done
      | some (key, value) =>
        if (lookup key).isSome then readLines environment done rest
        else readLines environment (done ++ [(key, value)]) rest

def textLines (text : List Char) : List (List Char) :=
  logicalLines .complete [] (linesWithBreaks text)

def read (environment : String → Option String) (text : List Char) : Variables :=
  readLines environment [] (textLines text)

def referredNames : List Char → List String
  | [] => []
  | c :: s =>
    if c = '$' then
      String.ofList (s.takeWhile isAlphanumeric) ::
        String.ofList ((s.drop 1).takeWhile (· ≠ '\x7d')) :: referredNames s
    else referredNames s

def names (text : List Char) : List String :=
  (textLines text).filterMap (fun line => (readAssignment? (trim line)).map Prod.fst) ++
    referredNames text

end IndexTuning.Dotenv
