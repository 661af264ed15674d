namespace IndexTuning

structure Timestamp where
  year : Int
  month : Nat
  day : Nat
  hour : Nat
  minute : Nat
  second : Nat
  deriving DecidableEq, Repr

namespace Timestamp

def padded (width n : Nat) : String :=
  let digits := toString n
  String.ofList (List.replicate (width - digits.length) '0') ++ digits

def yearText (year : Int) : String :=
  let digits := padded 4 year.natAbs
  if year < 0 then "-" ++ digits else if 9999 < year then "+" ++ digits else digits

def dateText (t : Timestamp) : String :=
  yearText t.year ++ padded 2 t.month ++ padded 2 t.day

def timeText (t : Timestamp) : String :=
  padded 2 t.hour ++ padded 2 t.minute ++ padded 2 t.second

def compact (t : Timestamp) : String := t.dateText ++ t.timeText

def scriptName (stem : String) (t : Timestamp) : String :=
  stem ++ "_" ++ t.dateText ++ "_" ++ t.timeText ++ ".sql"

end Timestamp

end IndexTuning
