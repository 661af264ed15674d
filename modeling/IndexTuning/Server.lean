import IndexTuning.Double
import IndexTuning.Settings

namespace IndexTuning

inductive Parameter
  | text (value : String)
  | integer (value : Int)
  deriving DecidableEq, Repr

inductive Request
  | query (sql : String) (parameters : List Parameter)
  | batch (sql : String)
  deriving DecidableEq, Repr

inductive Cell
  | null
  | text (value : String)
  | integer (value : Int)
  | real (value : Double)

abbrev Row := List (String × Cell)

inductive ServerFault
  | raised (message server procedure : String) (line code state severity : Int)
  | unreachable (message : String)

def ServerFault.message : ServerFault → String
  | raised message server procedure line code state severity =>
    "Token error: '" ++ message ++ "' on server " ++ server ++ " executing " ++ procedure ++
      " on line " ++ toString line ++ " (code: " ++ toString code ++ ", state: " ++ toString state ++
      ", class: " ++ toString severity ++ ")"
  | unreachable message => message

/-- A server: every request opens a connection with the given settings to the database named and
is answered with rows. -/
structure Server (m : Type → Type) where
  ask : Settings → String → Request → m (Except ServerFault (List Row))

inductive CellFault
  | noColumn (name : String)
  | otherType (name : String)
  deriving DecidableEq, Repr

def CellFault.message : CellFault → String
  | noColumn name => "Conversion error: Could not find column with index " ++ name
  | otherType name => "Conversion error: cannot interpret column " ++ name

namespace Row

def cell (row : Row) (name : String) : Except CellFault Cell :=
  match row.lookup name with
  | some c => .ok c
  | none => .error (.noColumn name)

def text? (row : Row) (name : String) : Except CellFault (Option String) := do
  match ← row.cell name with
  | .null => return none
  | .text value => return some value
  | _ => throw (.otherType name)

def text (row : Row) (name : String) : Except CellFault String :=
  return (← row.text? name).getD ""

def integer (row : Row) (name : String) : Except CellFault Int := do
  match ← row.cell name with
  | .null => return 0
  | .integer value => return value
  | _ => throw (.otherType name)

def real? (row : Row) (name : String) : Except CellFault (Option Double) := do
  match ← row.cell name with
  | .null => return none
  | .real value => return some value
  | _ => throw (.otherType name)

def flag (row : Row) (name : String) : Except CellFault Bool :=
  return (← row.integer name) ≠ 0

end Row

end IndexTuning
