import IndexTuning.Proofs.Similarity.LongestBlock

namespace IndexTuning.Similarity

variable {a b : List Char} {w : Window}

/-- The length of the longest run on which the texts agree that ends before place `i` of the first
and place `j` of the second and does not leave the window. -/
def runBefore (a b : List Char) (w : Window) (i j : Nat) : Nat :=
  commonStart ((a.take i).drop w.leftStart).reverse ((b.take j).drop w.rightStart).reverse

theorem runBefore_leftStart (a b : List Char) (w : Window) (j : Nat) :
    runBefore a b w w.leftStart j = 0 := by
  have : (a.take w.leftStart).drop w.leftStart = [] :=
    List.drop_eq_nil_of_le (List.length_take_le _ _)
  rw [runBefore, this]
  rfl

theorem runBefore_rightStart (a b : List Char) (w : Window) (i : Nat) :
    runBefore a b w i w.rightStart = 0 := by
  have : (b.take w.rightStart).drop w.rightStart = [] :=
    List.drop_eq_nil_of_le (List.length_take_le _ _)
  rw [runBefore, this]
  cases ((a.take i).drop w.leftStart).reverse <;> rfl

theorem reverse_slice_succ (s : List Char) (start i : Nat) (hs : start ≤ i) (hi : i < s.length) :
    ((s.take (i + 1)).drop start).reverse = s[i] :: ((s.take i).drop start).reverse := by
  rw [List.take_succ_eq_append_getElem hi, List.drop_append_of_le_length
    (by rw [List.length_take]; omega), List.reverse_append]
  rfl

theorem runBefore_succ (i j : Nat) (hi : w.leftStart ≤ i) (hj : w.rightStart ≤ j)
    (ha : i < a.length) (hb : j < b.length) :
    runBefore a b w (i + 1) (j + 1) = if a[i] = b[j] then runBefore a b w i j + 1 else 0 := by
  rw [runBefore, reverse_slice_succ a _ i hi ha, reverse_slice_succ b _ j hj hb, commonStart,
    runBefore]

theorem runBefore_le_left (a b : List Char) (w : Window) (i j : Nat) :
    runBefore a b w i j ≤ i - w.leftStart := by
  refine (commonStart_le _ _).trans ?_
  simp only [List.length_reverse, List.length_drop, List.length_take]
  omega

theorem runBefore_le_right (a b : List Char) (w : Window) (i j : Nat) :
    runBefore a b w i j ≤ j - w.rightStart := by
  refine (commonStart_le_right _ _).trans ?_
  simp only [List.length_reverse, List.length_drop, List.length_take]
  omega

theorem getElem?_reverse_slice (s : List Char) (start i n : Nat) (hi : i ≤ s.length)
    (hn : n < i - start) : ((s.take i).drop start).reverse[n]? = s[i - 1 - n]? := by
  rw [List.getElem?_reverse (by simp only [List.length_drop, List.length_take]; omega),
    List.getElem?_drop, List.length_drop, List.length_take, List.getElem?_take_of_lt (by omega)]
  congr 1
  omega

theorem agree_runBefore (i j : Nat) (hi : i ≤ a.length) (hj : j ≤ b.length) (n : Nat)
    (hn : n < runBefore a b w i j) :
    a[i - runBefore a b w i j + n]? = b[j - runBefore a b w i j + n]? := by
  have hl := runBefore_le_left a b w i j
  have hr := runBefore_le_right a b w i j
  have h := agree_of_lt_commonStart _ _ (runBefore a b w i j - 1 - n)
    (show _ < runBefore a b w i j by omega)
  rw [getElem?_reverse_slice a _ i _ hi (by omega), getElem?_reverse_slice b _ j _ hj (by omega)]
    at h
  convert h using 2 <;> omega

def runBlock (a b : List Char) (w : Window) (i j : Nat) : Block :=
  ⟨i + 1 - runBefore a b w (i + 1) (j + 1), j + 1 - runBefore a b w (i + 1) (j + 1),
    runBefore a b w (i + 1) (j + 1)⟩

theorem runBlock_isCommon (i j : Nat) (hi : w.leftStart ≤ i) (hi' : i < w.leftEnd)
    (hj : w.rightStart ≤ j) (hj' : j < w.rightEnd) (hw : w.Fits a b) :
    (runBlock a b w i j).IsCommon a b w := by
  have hl := runBefore_le_left a b w (i + 1) (j + 1)
  have hr := runBefore_le_right a b w (i + 1) (j + 1)
  have ha := hw.left_end
  have hb := hw.right_end
  refine ⟨?_, ?_, ?_, ?_, agree_runBefore _ _ (by omega) (by omega)⟩ <;>
    simp only [runBlock] <;> omega

theorem le_runBlock {d : Block} (hw : w.Fits a b) (hd : d.IsCommon a b w) (hpos : 0 < d.length) :
    d.length ≤
      (runBlock a b w (d.left + d.length - 1) (d.right + d.length - 1)).length := by
  have h₁ := hd.left_ge
  have h₂ := hd.left_le
  have h₃ := hd.right_ge
  have h₄ := hd.right_le
  have ha := hw.left_end
  have hb := hw.right_end
  refine le_commonStart _ _ _ ?_ ?_ ?_
  · simp only [List.length_reverse, List.length_drop, List.length_take]; omega
  · simp only [List.length_reverse, List.length_drop, List.length_take]; omega
  · intro n hn
    rw [getElem?_reverse_slice a _ _ _ (by omega) (by omega),
      getElem?_reverse_slice b _ _ _ (by omega) (by omega)]
    have h := hd.agree (d.length - 1 - n) (by omega)
    convert h using 2 <;> omega

def placesLike (a b : List Char) (w : Window) (i : Nat) : List Nat :=
  (List.range b.length).filter fun j =>
    decide (w.rightStart ≤ j) && decide (j < w.rightEnd) && decide (b[j]? = a[i]?)

theorem mem_placesLike {i j : Nat} : j ∈ placesLike a b w i ↔
    j < b.length ∧ w.rightStart ≤ j ∧ j < w.rightEnd ∧ b[j]? = a[i]? := by
  simp only [placesLike, List.mem_filter, List.mem_range, Bool.and_eq_true, decide_eq_true_eq,
    and_assoc]

def blocksFrom (a b : List Char) (w : Window) (i : Nat) : List Block :=
  (List.range' i (w.leftEnd - i)).flatMap fun i => (placesLike a b w i).map (runBlock a b w i)

theorem blocksFrom_leftEnd (a b : List Char) (w : Window) : blocksFrom a b w w.leftEnd = [] := by
  simp [blocksFrom]

theorem blocksFrom_of_lt {i : Nat} (h : i < w.leftEnd) : blocksFrom a b w i =
    (placesLike a b w i).map (runBlock a b w i) ++ blocksFrom a b w (i + 1) := by
  rw [blocksFrom, show w.leftEnd - i = w.leftEnd - (i + 1) + 1 by omega, List.range'_succ,
    List.flatMap_cons]
  rfl

theorem mem_blocksFrom {c : Block} : c ∈ blocksFrom a b w w.leftStart ↔
    ∃ i j, w.leftStart ≤ i ∧ i < w.leftEnd ∧ j ∈ placesLike a b w i ∧ runBlock a b w i j = c := by
  simp only [blocksFrom, List.mem_flatMap, List.mem_range'_1, List.mem_map]
  constructor
  · rintro ⟨i, ⟨hi, hi'⟩, j, hj, rfl⟩
    exact ⟨i, j, hi, by omega, hj, rfl⟩
  · rintro ⟨i, j, hi, hi', hj, rfl⟩
    exact ⟨i, ⟨hi, by omega⟩, j, hj, rfl⟩

/-- Blocks of one length that end row by row also start in that order. -/
theorem pairwise_blocksFrom (a b : List Char) (w : Window) (i : Nat) :
    (blocksFrom a b w i).Pairwise Block.MetBefore := by
  rw [blocksFrom, List.pairwise_flatMap]
  constructor
  · intro i _
    rw [List.pairwise_map]
    refine (List.pairwise_lt_range.filter _).imp ?_
    intro j k hjk hl
    have h₁ := runBefore_le_right a b w (i + 1) (j + 1)
    simp only [runBlock, Block.StartsBy] at hl ⊢
    omega
  · refine (List.pairwise_lt_range' 1).imp ?_
    intro i k hik c hc d hd hl
    obtain ⟨j, _, rfl⟩ := List.mem_map.mp hc
    obtain ⟨m, _, rfl⟩ := List.mem_map.mp hd
    have h₁ := runBefore_le_left a b w (i + 1) (j + 1)
    simp only [runBlock, Block.StartsBy] at hl ⊢
    omega

theorem isLongest_blocksFrom (hw : w.Fits a b) :
    ((blocksFrom a b w w.leftStart).foldl longer w.origin).IsLongest a b w := by
  refine isLongest_foldl_longer hw _ ?_ (pairwise_blocksFrom a b w _) ?_
  · intro c hc
    obtain ⟨i, j, hi, hi', hj, rfl⟩ := mem_blocksFrom.mp hc
    obtain ⟨_, hj₁, hj₂, _⟩ := mem_placesLike.mp hj
    exact runBlock_isCommon i j hi hi' hj₁ hj₂ hw
  · intro d hd hpos
    have h₁ := hd.left_ge
    have h₂ := hd.left_le
    have h₃ := hd.right_ge
    have h₄ := hd.right_le
    have hb := hw.right_end
    refine ⟨runBlock a b w (d.left + d.length - 1) (d.right + d.length - 1), ?_,
      le_runBlock hw hd hpos, ?_⟩
    · refine mem_blocksFrom.mpr ⟨_, _, by omega, by omega, ?_, rfl⟩
      refine mem_placesLike.mpr ⟨by omega, by omega, by omega, ?_⟩
      have h := hd.agree (d.length - 1) (by omega)
      rw [← Nat.add_sub_assoc (by omega), ← Nat.add_sub_assoc (by omega)] at h
      exact h.symm
    · intro he
      cases d
      simp only [runBlock, Block.mk.injEq] at he h₂ hpos ⊢
      omega

end IndexTuning.Similarity
