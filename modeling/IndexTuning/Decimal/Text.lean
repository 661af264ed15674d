import IndexTuning.Decimal.Binary

namespace IndexTuning.Decimal

def signText (negative : Bool) : String := if negative then "-" else ""

def pointed (places digits : Nat) : String :=
  let whole := toString (digits / tenTo places)
  if places = 0 then whole
  else
    let rest := toString (digits % tenTo places)
    whole ++ "." ++ String.ofList (List.replicate (places - rest.length) '0') ++ rest

/-- The number with a fixed count of places. It is rounded from its exact value. -/
def fixed (places : Nat) (x : Float) : String :=
  match Binary.ofFloat x with
  | .notANumber .. => "NaN"
  | .infinite negative => signText negative ++ "inf"
  | .finite negative mantissa exponent =>
    let (num, den) := fraction mantissa exponent
    signText negative ++ pointed places (roundDiv (num * tenTo places) den)

def magnitude (num den : Nat) : Int :=
  let guess : Int := ((toString num).length : Int) - (toString den).length
  if num * tenTo (-guess).toNat < den * tenTo guess.toNat then guess else guess + 1

/-- The interval of the numbers that round to `mantissa · 2 ^ exponent`, its ends in quarters of the
last binary place. It reaches less far down where the places below are finer. -/
def quarterBounds (mantissa : Nat) (exponent : Int) : Nat × Nat :=
  let down := if mantissa = twoTo 52 ∧ -1074 < exponent then 1 else 2
  (4 * mantissa - down, 4 * mantissa + 2)

/-- A number of at most `n` digits in units of `10 ^ (k - n)` that reads back as the given one, the
nearest of its neighbours on that grid, the upper of two equally near. -/
def gridDigits? (mantissa : Nat) (exponent : Int) (k : Int) (n : Nat) : Option Nat :=
  let (low, high) := quarterBounds mantissa exponent
  let unit := k - n
  -- quarters and grid points in a common measure
  let quarter := twoTo (exponent - 2).toNat * tenTo (-unit).toNat
  let point := tenTo unit.toNat * twoTo (2 - exponent).toNat
  let value := 4 * mantissa * quarter
  let fits (d : Nat) : Bool :=
    if mantissa % 2 = 0 then low * quarter ≤ d * point && d * point ≤ high * quarter
    else low * quarter < d * point && d * point < high * quarter
  let floor := value / point
  let ceil := floor + 1
  match fits floor, fits ceil with
  | true, true => some (if value - floor * point < ceil * point - value then floor else ceil)
  | true, false => some floor
  | false, true => some ceil
  | false, false => none

def shortestFrom (mantissa : Nat) (exponent : Int) (k : Int) (n : Nat) : Nat → Nat × Int
  | 0 => (((gridDigits? mantissa exponent k n).getD 0), k - n)
  | fuel + 1 =>
    match gridDigits? mantissa exponent k n with
    | some d => (d, k - n)
    | none => shortestFrom mantissa exponent k (n + 1) fuel

def positional (digits : Nat) (unit : Int) : String :=
  if 0 ≤ unit then toString (digits * tenTo unit.toNat) else pointed (-unit).toNat digits

def shortest (x : Float) : String :=
  match Binary.ofFloat x with
  | .notANumber .. => "NaN"
  | .infinite negative => signText negative ++ "inf"
  | .finite negative 0 _ => signText negative ++ "0"
  | .finite negative mantissa exponent =>
    let (num, den) := fraction mantissa exponent
    let (digits, unit) := shortestFrom mantissa exponent (magnitude num den) 1 16
    signText negative ++ positional digits unit

end IndexTuning.Decimal
