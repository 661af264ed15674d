namespace IndexTuning.Text

def utf8 (s : List Char) : List UInt8 := s.flatMap String.utf8EncodeChar

/-- Folds the bytes of ASCII capitals and leaves every other byte alone. -/
def lowerByte (b : UInt8) : UInt8 := if 65 ≤ b ∧ b ≤ 90 then b + 32 else b

def beginsWithBytes : List UInt8 → List UInt8 → Bool
  | [], _ => true
  | _ :: _, [] => false
  | w :: word, b :: s => lowerByte w == lowerByte b && beginsWithBytes word s

def findBytes? (word : List UInt8) : List UInt8 → Option Nat
  | [] => none
  | b :: s =>
    if beginsWithBytes word (b :: s) then some 0 else (findBytes? word s).map (· + 1)

/-- Text to search for. Nothing can be searched for with an empty one. -/
structure Needle where
  bytes : List UInt8
  bytes_ne_nil : bytes ≠ []

def Needle.ofString? (s : String) : Option Needle :=
  if h : utf8 s.toList ≠ [] then some ⟨utf8 s.toList, h⟩ else none

def Needle.find? (needle : Needle) (s : List Char) : Option Nat :=
  findBytes? needle.bytes (utf8 s)

def Needle.occursIn (needle : Needle) (s : List Char) : Bool := (needle.find? s).isSome

def beginsWith (word s : String) : Bool :=
  beginsWithBytes (utf8 word.toList) (utf8 s.toList)

def dropBytes? : Nat → List Char → Option (List Char)
  | 0, s => some s
  | _ + 1, [] => none
  | n + 1, c :: s => if c.utf8Size ≤ n + 1 then dropBytes? (n + 1 - c.utf8Size) s else none

end IndexTuning.Text
