import IndexTuning.MissingIndex
import IndexTuning.UnusedIndex

namespace IndexTuning

inductive Recommendation
  | unused (index : UnusedIndex)
  | missing (index : MissingIndex)

namespace Recommendation

def severity : Recommendation → Nat
  | unused u => u.action.severity
  | missing m => m.action.severity

def weight : Recommendation → Double
  | unused u => .ofInt u.sizeKb
  | missing m => m.averageImpact

def suggestion : Recommendation → Option String
  | unused u => u.suggestion
  | missing m => some m.suggestion

def label : Recommendation → String
  | unused u => u.action.label
  | missing m => m.action.label

def inOrder (a b : Recommendation) : Bool :=
  a.severity < b.severity ||
    (a.severity == b.severity && b.weight.orderKey ≤ a.weight.orderKey)

def prioritize (rs : List Recommendation) : List Recommendation := rs.mergeSort inOrder

end Recommendation

end IndexTuning
