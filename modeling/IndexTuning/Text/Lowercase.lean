import IndexTuning.Text.CaseRules
import IndexTuning.Text.Word

namespace IndexTuning.Text

def isCased (c : Char) : Bool :=
  if c.toNat < 128 then c.isAlpha else inRanges casedRanges c

def isCaseIgnorable (c : Char) : Bool :=
  if c.toNat < 128 then c == '\'' || c == '.' || c == ':' || c == '^' || c.toNat == 0x60
  else inRanges caseIgnorableRanges c

def lowerChar (c : Char) : Char :=
  if c.toNat < 128 then c.toLower else mapCase lowerRules c

def reachesCased (s : List Char) : Bool :=
  (s.dropWhile isCaseIgnorable).head?.any isCased

/-- Lower case of `c` between the reversed text `before` it and the text `after` it. A capital sigma
that ends a word becomes a final one, and a dotted capital I keeps its dot as a mark. -/
def lowerInContext (before : List Char) (c : Char) (after : List Char) : List Char :=
  if c = 'Σ' then [if reachesCased before && !reachesCased after then 'ς' else 'σ']
  else if c = 'İ' then ['i', '\u0307']
  else [lowerChar c]

def lowercaseAfter (before : List Char) : List Char → List Char
  | [] => []
  | c :: s => lowerInContext before c s ++ lowercaseAfter (c :: before) s

def lowercase (s : List Char) : List Char := lowercaseAfter [] s

end IndexTuning.Text
