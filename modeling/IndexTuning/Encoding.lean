namespace IndexTuning.Encoding

inductive ByteOrderMark
  | utf8
  | utf16Little
  | utf16Big
  deriving DecidableEq, Repr

namespace ByteOrderMark

def bytes : ByteOrderMark → List UInt8
  | utf8 => [0xEF, 0xBB, 0xBF]
  | utf16Little => [0xFF, 0xFE]
  | utf16Big => [0xFE, 0xFF]

def read? (bs : List UInt8) : Option (ByteOrderMark × List UInt8) :=
  [utf8, utf16Little, utf16Big].findSome? fun mark =>
    if mark.bytes.isPrefixOf bs then some (mark, bs.drop mark.bytes.length) else none

end ByteOrderMark

def isHighSurrogate (u : UInt16) : Bool := 0xD800 ≤ u && u < 0xDC00

def isLowSurrogate (u : UInt16) : Bool := 0xDC00 ≤ u && u < 0xE000

def charOfPair (high low : UInt16) : Char :=
  Char.ofNat (0x10000 + (high.toNat - 0xD800) * 0x400 + (low.toNat - 0xDC00))

def charsOfUnits? : List UInt16 → Option (List Char)
  | [] => some []
  | [u] =>
    if isHighSurrogate u || isLowSurrogate u then none else some [Char.ofNat u.toNat]
  | u :: v :: s =>
    if isHighSurrogate u then
      if isLowSurrogate v then (charsOfUnits? s).map (charOfPair u v :: ·) else none
    else if isLowSurrogate u then none
    else (charsOfUnits? (v :: s)).map (Char.ofNat u.toNat :: ·)

def unitsOfChar (c : Char) : List UInt16 :=
  let n := c.toNat
  if n < 0x10000 then [UInt16.ofNat n]
  else
    [UInt16.ofNat (0xD800 + (n - 0x10000) / 0x400), UInt16.ofNat (0xDC00 + (n - 0x10000) % 0x400)]

/-- Joins bytes in pairs; `join` takes them in file order. An odd byte at the end is refused. -/
def unitsOfBytes? (join : UInt8 → UInt8 → UInt16) : List UInt8 → Option (List UInt16)
  | [] => some []
  | [_] => none
  | a :: b :: s => (unitsOfBytes? join s).map (join a b :: ·)

def unitOfBytes (low high : UInt8) : UInt16 := high.toUInt16 <<< 8 ||| low.toUInt16

def bytesOfUnit (u : UInt16) : UInt8 × UInt8 := (u.toUInt8, (u >>> 8).toUInt8)

def utf8? (bs : List UInt8) : Option (List Char) :=
  (String.fromUTF8? bs.toByteArray).map String.toList

def ByteOrderMark.decode? : ByteOrderMark → List UInt8 → Option (List Char)
  | utf8, bs => utf8? bs
  | utf16Little, bs => (unitsOfBytes? unitOfBytes bs).bind charsOfUnits?
  | utf16Big, bs => (unitsOfBytes? (fun high low => unitOfBytes low high) bs).bind charsOfUnits?

def ByteOrderMark.encode : ByteOrderMark → List Char → List UInt8
  | utf8, s => s.flatMap String.utf8EncodeChar
  | utf16Little, s => (s.flatMap unitsOfChar).flatMap fun u =>
    [(bytesOfUnit u).1, (bytesOfUnit u).2]
  | utf16Big, s => (s.flatMap unitsOfChar).flatMap fun u =>
    [(bytesOfUnit u).2, (bytesOfUnit u).1]

def windowsPoints : List Nat :=
  [0x20AC, 0x81, 0x201A, 0x0192, 0x201E, 0x2026, 0x2020, 0x2021,
   0x02C6, 0x2030, 0x0160, 0x2039, 0x0152, 0x8D, 0x017D, 0x8F,
   0x90, 0x2018, 0x2019, 0x201C, 0x201D, 0x2022, 0x2013, 0x2014,
   0x02DC, 0x2122, 0x0161, 0x203A, 0x0153, 0x9D, 0x017E, 0x0178]

/-- Windows-1252 agrees with Latin-1 outside 0x80 to 0x9F and leaves no byte undefined. -/
def windowsChar (b : UInt8) : Char :=
  if 0x80 ≤ b.toNat ∧ b.toNat < 0xA0 then
    Char.ofNat (windowsPoints.getD (b.toNat - 0x80) b.toNat)
  else Char.ofNat b.toNat

def byteLines : List UInt8 → List (List UInt8)
  | [] => []
  | b :: bs =>
    if b = 0x0A then [b] :: byteLines bs
    else
      match byteLines bs with
      | [] => [[b]]
      | l :: ls => (b :: l) :: ls

def validLines (bs : List UInt8) : List Char :=
  (((byteLines bs).map utf8?).takeWhile Option.isSome).flatMap (·.getD [])

def byteOrderMark : Char := '\uFEFF'

/-- The text of a file: UTF-8 without byte order marks at its start; failing that, the encoding a
mark names; and Windows-1252 when there is no mark. -/
def decode? (bs : List UInt8) : Option (List Char) :=
  match utf8? bs with
  | some s => some (s.dropWhile (· == byteOrderMark))
  | none =>
    match ByteOrderMark.read? bs with
    | some (mark, rest) => mark.decode? rest
    | none => some (bs.map windowsChar)

end IndexTuning.Encoding
