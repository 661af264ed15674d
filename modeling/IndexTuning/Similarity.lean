import IndexTuning.Similarity.BlockFinder
import IndexTuning.Text.Blank
import IndexTuning.Text.Lowercase

namespace IndexTuning.Similarity

def precedes : List Char → List Char → Bool
  | [], _ => true
  | _ :: _, [] => false
  | a :: s, b :: t => a < b || (a == b && precedes s t)

/-- The number of matching characters of two texts in lower case. Which blocks are found depends on
which text comes first, so the one earlier in the dictionary does. -/
def matching (a b : List Char) : Nat :=
  if precedes a b then BlockFinder.count a b else BlockFinder.count b a

/-- Twice the matching characters over all characters, ignoring case, in an arithmetic into which
`ofNat` takes numbers; two empty texts are equal. -/
def ratioIn {α : Type} [Mul α] [Div α] (ofNat : Nat → α) (a b : String) : α :=
  let s := Text.lowercase a.toList
  let t := Text.lowercase b.toList
  let total := s.length + t.length
  if total = 0 then ofNat 1 else ofNat 2 * ofNat (matching s t) / ofNat total

def ratio (a b : String) : Float := ratioIn Nat.toFloat a b

def exactRatio (a b : String) : Rat := ratioIn Nat.cast a b

structure Verdict where
  ratio : Float
  isSimilar : Bool

def compare (current revised : String) (threshold : Float) : Verdict :=
  let r := ratio current revised
  ⟨r, r ≥ threshold⟩

inductive Review
  | accept
  | unchanged
  | tooDifferent
  deriving DecidableEq, Repr

def review (current revised : String) (verdict : Verdict) : Review :=
  if Text.lowercase (Text.trim current.toList) = Text.lowercase (Text.trim revised.toList) then
    .unchanged
  else if verdict.isSimilar then .accept
  else .tooDifferent

end IndexTuning.Similarity
