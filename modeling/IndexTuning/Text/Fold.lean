import IndexTuning.Text.CaseRules

namespace IndexTuning.Text

/-- Simple case folding: two characters differ only in case when their folds agree. -/
def fold (c : Char) : Char :=
  if c.toNat < 128 then c.toLower else mapCase foldRules c

/-- An ASCII letter up to case folding, so the long s and the Kelvin sign count. -/
def isLatinLetter (c : Char) : Bool := (fold c).isLower

def dropFolded? : List Char → List Char → Option (List Char)
  | [], s => some s
  | _ :: _, [] => none
  | w :: word, c :: s => if fold w = fold c then dropFolded? word s else none

def sameIgnoringCase (s t : String) : Bool :=
  s.toList.map Char.toLower == t.toList.map Char.toLower

end IndexTuning.Text
