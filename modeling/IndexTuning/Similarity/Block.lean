namespace IndexTuning.Similarity

/-- A block that two texts have in common: where it starts in each, and its length. -/
structure Block where
  left : Nat
  right : Nat
  length : Nat
  deriving DecidableEq, Repr

/-- The length of the longest common beginning. -/
def commonStart : List Char → List Char → Nat
  | a :: s, b :: t => if a = b then commonStart s t + 1 else 0
  | _, _ => 0

theorem commonStart_le (s t : List Char) : commonStart s t ≤ s.length := by
  fun_induction commonStart s t <;> simp_all

/-- For every pair of starting points, the longest common block there, ordered by the first point
and then by the second. -/
def blocks (a b : List Char) : List Block :=
  (List.range a.length).flatMap fun i =>
    (List.range b.length).map fun j => ⟨i, j, commonStart (a.drop i) (b.drop j)⟩

def longer (best block : Block) : Block := if best.length < block.length then block else best

def longestBlock (a b : List Char) : Block := (blocks a b).foldl longer ⟨0, 0, 0⟩

theorem fits_of_mem_blocks {a b : List Char} {block : Block} (h : block ∈ blocks a b) :
    block.left + block.length ≤ a.length := by
  simp only [blocks, List.mem_flatMap, List.mem_range, List.mem_map] at h
  obtain ⟨i, hi, j, _, rfl⟩ := h
  have := commonStart_le (a.drop i) (b.drop j)
  simp only [List.length_drop] at this
  dsimp only
  omega

theorem longestBlock_fits (a b : List Char) :
    (longestBlock a b).left + (longestBlock a b).length ≤ a.length := by
  have key : ∀ (bs : List Block) (best : Block), (∀ c ∈ bs, c.left + c.length ≤ a.length) →
      best.left + best.length ≤ a.length →
      (bs.foldl longer best).left + (bs.foldl longer best).length ≤ a.length := by
    intro bs
    induction bs with
    | nil => exact fun _ _ hb => hb
    | cons c bs ih =>
      intro best hbs hb
      refine ih _ (fun d hd => hbs d (List.mem_cons_of_mem _ hd)) ?_
      unfold longer
      split
      · exact hbs c List.mem_cons_self
      · exact hb
  exact key _ _ (fun _ h => fits_of_mem_blocks h) (Nat.zero_le _)

/-- The number of characters in the longest common block and, found in the same way, in the blocks
on either side of it. -/
def matchCount (a b : List Char) : Nat :=
  let block := longestBlock a b
  if block.length = 0 then 0
  else
    block.length + matchCount (a.take block.left) (b.take block.right) +
      matchCount (a.drop (block.left + block.length)) (b.drop (block.right + block.length))
termination_by a.length
decreasing_by
  all_goals
    have := longestBlock_fits a b
    have : (longestBlock a b).length ≠ 0 := by assumption
    simp only [List.length_take, List.length_drop]
    omega

end IndexTuning.Similarity
