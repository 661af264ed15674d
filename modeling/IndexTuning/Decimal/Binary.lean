namespace IndexTuning.Decimal

def twoTo (n : Nat) : Nat := Nat.pow 2 n

def tenTo (n : Nat) : Nat := Nat.pow 10 n

/-- A binary floating-point number as it is stored: a finite one has the value
`mantissa · 2 ^ exponent` up to its sign. -/
inductive Binary
  | notANumber (negative : Bool) (payload : Nat)
  | infinite (negative : Bool)
  | finite (negative : Bool) (mantissa : Nat) (exponent : Int)

namespace Binary

def ofBits (bits : UInt64) : Binary :=
  let negative := bits >>> 63 == 1
  let biased := ((bits >>> 52) &&& 0x7FF).toNat
  let fraction := (bits &&& 0xFFFFFFFFFFFFF).toNat
  if biased = 0x7FF then if fraction = 0 then infinite negative else notANumber negative fraction
  else if biased = 0 then finite negative fraction (-1074)
  else finite negative (twoTo 52 + fraction) (biased - 1075)

def ofFloat (x : Float) : Binary := ofBits x.toBits

end Binary

def roundDiv (num den : Nat) : Nat :=
  let q := num / den
  let r := num % den
  if 2 * r < den then q else if den < 2 * r then q + 1 else q + q % 2

def fraction (mantissa : Nat) (exponent : Int) : Nat × Nat :=
  (mantissa * twoTo exponent.toNat, twoTo (-exponent).toNat)

def nearestBits (num den : Nat) : Nat :=
  if num = 0 then 0
  else
    let guess : Int := (num.log2 : Int) - den.log2 - 52
    let scaled (e : Int) : Nat × Nat := (num * twoTo (-e).toNat, den * twoTo e.toNat)
    let tight := if (scaled guess).1 < twoTo 52 * (scaled guess).2 then guess - 1 else guess
    let e := max tight (-1074)
    let q := roundDiv (scaled e).1 (scaled e).2
    min ((e + 1074).toNat * twoTo 52 + q) (0x7FF * twoTo 52)

def toFloat (negative : Bool) (digits : Nat) (exponent : Int) : Float :=
  let size : Int := (toString digits).length + exponent
  let magnitude :=
    if digits = 0 ∨ size < -400 then 0
    else if 400 < size then 0x7FF * twoTo 52
    else nearestBits (digits * tenTo exponent.toNat) (tenTo (-exponent).toNat)
  Float.ofBits (UInt64.ofNat (if negative then twoTo 63 + magnitude else magnitude))

end IndexTuning.Decimal
