import IndexTuning.Proofs.Similarity.MatchedBlocks
import IndexTuning.Proofs.Similarity.Ratio
import Mathlib.Data.List.Sublists

namespace IndexTuning.Similarity

open Text BlockFinder

variable {s t u : List Char}

end IndexTuning.Similarity
