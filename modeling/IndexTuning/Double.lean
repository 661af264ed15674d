import IndexTuning.Decimal.Binary

namespace IndexTuning

/-- A floating-point number by its bits. A `Float` does not tell apart what is not a number, and the
order does. -/
structure Double where
  bits : UInt64
  deriving DecidableEq, Repr

namespace Double

def toFloat (x : Double) : Float := Float.ofBits x.bits

def ofFloat (x : Float) : Double := ⟨x.toBits⟩

def ofInt (n : Int) : Double := ofFloat (Float.ofInt n)

instance (n : Nat) : OfNat Double n := ⟨ofInt n⟩

def toBinary (x : Double) : Decimal.Binary := .ofBits x.bits

def isFinite (x : Double) : Bool :=
  match x.toBinary with
  | .finite .. => true
  | _ => false

/-- What the order compares: the bits as a signed number, where those of a negative number count
downwards. -/
def orderKey (x : Double) : Int :=
  let bits := x.bits.toNat
  if bits < Decimal.twoTo 63 then bits else (Decimal.twoTo 63 : Int) - bits - 1

end Double

end IndexTuning
