import IndexTuning.Text.AlphanumericRanges
import IndexTuning.Text.WordRanges

namespace IndexTuning.Text

def inRanges (ranges : List (Nat × Nat)) (c : Char) : Bool :=
  ranges.any fun r => r.1 ≤ c.toNat && c.toNat ≤ r.2

def isWord (c : Char) : Bool :=
  if c.toNat < 128 then c.isAlphanum || c == '_' else inRanges wordRanges c

def isDecimalDigit (c : Char) : Bool :=
  if c.toNat < 128 then c.isDigit else inRanges digitRanges c

def isAlphanumeric (c : Char) : Bool :=
  if c.toNat < 128 then c.isAlphanum else inRanges alphanumericRanges c

/-- A word starts or ends between two neighbours of which exactly one is a word character; an end
of the text counts as none. -/
def isWordBoundary (before after : Option Char) : Bool :=
  before.any isWord != after.any isWord

end IndexTuning.Text
