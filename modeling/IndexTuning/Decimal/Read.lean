import IndexTuning.Decimal.Binary

namespace IndexTuning.Decimal

def naturalOf (digits : List Char) : Nat :=
  digits.foldl (fun n d => 10 * n + (d.toNat - '0'.toNat)) 0

def readSign : List Char → Bool × List Char
  | '-' :: s => (true, s)
  | '+' :: s => (false, s)
  | s => (false, s)

def readNatural? (s : List Char) : Option Nat :=
  if s ≠ [] ∧ s.all Char.isDigit then some (naturalOf s) else none

def readInteger? (s : List Char) : Option Int :=
  let (negative, digits) := readSign s
  (readNatural? digits).map fun n => if negative then -n else n

def readInt64? (s : String) : Option Int :=
  (readInteger? s.toList).filter fun n =>
    Int64.minValue.toInt ≤ n && n ≤ Int64.maxValue.toInt

def readUInt16? (s : List Char) : Option Nat :=
  let digits := match s with
    | '+' :: r => r
    | r => r
  (readNatural? digits).filter (· < UInt16.size)

def readExponent? : List Char → Option Int
  | [] => some 0
  | e :: s => if e = 'e' ∨ e = 'E' then readInteger? s else none

/-- A decimal numeral: digits with a point anywhere among them, at least one digit, and possibly a
power of ten. -/
def readUnsigned? (negative : Bool) (s : List Char) : Option Float :=
  let whole := s.takeWhile Char.isDigit
  let rest := s.dropWhile Char.isDigit
  let (places, tail) := match rest with
    | '.' :: r => (r.takeWhile Char.isDigit, r.dropWhile Char.isDigit)
    | r => ([], r)
  if whole = [] ∧ places = [] then none
  else (readExponent? tail).map fun e =>
    toFloat negative (naturalOf (whole ++ places)) (e - places.length)

/-- A floating-point number: a numeral, an infinity or NaN, in any case and possibly signed. -/
def readFloat? (s : String) : Option Float :=
  let (negative, body) := readSign s.toList
  let word := String.ofList (body.map Char.toLower)
  if word = "inf" ∨ word = "infinity" then some (if negative then -(1.0 / 0.0) else 1.0 / 0.0)
  else if word = "nan" then some (0.0 / 0.0)
  else readUnsigned? negative body

end IndexTuning.Decimal
