import IndexTuning.Proofs.Similarity.RunRows

namespace IndexTuning.Similarity.BlockFinder

variable {a b : List Char} {w : Window} {f : BlockFinder}

structure Sound (f : BlockFinder) (b : List Char) : Prop where
  places : ∀ c : Char, f.places.getD c.val [] =
    (List.range b.length).filter fun j => decide (b[j]? = some c)
  previous_size : f.previous.size = b.length + 1
  current_size : f.current.size = b.length + 1
  previous_untouched : ∀ k, k ∉ f.previousTouched → f.previous.getD k 0 = 0
  current_zero : ∀ k, f.current.getD k 0 = 0
  current_touched : f.currentTouched = []

/-- What holds before and after the search of a window: both rows are zero and no slot is touched. -/
structure Ready (f : BlockFinder) (b : List Char) : Prop extends Sound f b where
  previous_zero : ∀ k, f.previous.getD k 0 = 0
  previous_touched : f.previousTouched = []

/-- The search of a window stands before place `i` of the first text: the previous row holds the
runs that end there. -/
structure AtRow (f : BlockFinder) (a b : List Char) (w : Window) (i : Nat) : Prop
    extends Sound f b where
  previous_runs : ∀ k, f.previous.getD k 0 =
    if w.rightStart < k ∧ k ≤ w.rightEnd then runBefore a b w i k else 0

def write (row : Array Nat) (slots : List Nat) (value : Nat → Nat) : Array Nat :=
  slots.foldl (fun row k => row.setIfInBounds k (value k)) row

theorem write_size (row : Array Nat) (slots : List Nat) (value : Nat → Nat) :
    (write row slots value).size = row.size := by
  induction slots generalizing row with
  | nil => rfl
  | cons k slots ih => rw [write, List.foldl_cons, ← write, ih, Array.size_setIfInBounds]

theorem getD_write (row : Array Nat) (slots : List Nat) (value : Nat → Nat) (k : Nat) :
    (write row slots value).getD k 0 =
      if k ∈ slots ∧ k < row.size then value k else row.getD k 0 := by
  induction slots generalizing row with
  | nil => simp [write]
  | cons j slots ih =>
      rw [write, List.foldl_cons, ← write, ih]
      simp only [Array.getD_eq_getD_getElem?, Array.getElem?_setIfInBounds,
        Array.size_setIfInBounds, List.mem_cons]
      by_cases hk : k < row.size
      · by_cases hj : j = k
        · subst hj; simp [hk]
        · simp [hk, hj, Ne.symm hj]
      · simp only [hk, and_false, if_false]
        by_cases hj : j = k
        · subst hj; simp [hk]
        · simp [hj]

theorem clear_eq_write (row : Array Nat) (touched : List Nat) :
    clear row touched = write row touched fun _ => 0 := rfl

theorem clear_zero {row : Array Nat} {touched : List Nat}
    (h : ∀ k, k ∉ touched → row.getD k 0 = 0) (k : Nat) : (clear row touched).getD k 0 = 0 := by
  rw [clear_eq_write, getD_write]
  split
  · rfl
  · rename_i hk
    by_cases hm : k ∈ touched
    · rw [Array.getD_eq_getD_getElem?, Array.getElem?_eq_none (Nat.le_of_not_lt fun hlt => hk ⟨hm, hlt⟩)]
      rfl
    · exact h k hm

theorem getD_placesFrom (b : List Char) (n : Nat) (c : Char) :
    ((b.zipIdx n).foldr (fun p places => places.insert p.1.val (p.2 :: places.getD p.1.val []))
      (∅ : Std.HashMap UInt32 (List Nat))).getD c.val [] =
      (List.range' n b.length).filter fun j => decide (b[j - n]? = some c) := by
  induction b generalizing n with
  | nil => simp
  | cons d b ih =>
      have htail : (List.range' (n + 1) b.length).filter (fun j => decide ((d :: b)[j - n]? = some c)) =
          (List.range' (n + 1) b.length).filter fun j => decide (b[j - (n + 1)]? = some c) := by
        refine List.filter_congr fun j hj => ?_
        obtain ⟨h, _⟩ := List.mem_range'_1.mp hj
        rw [show j - n = j - (n + 1) + 1 by omega, List.getElem?_cons_succ]
      rw [List.zipIdx_cons, List.foldr_cons, Std.HashMap.getD_insert, List.length_cons,
        List.range'_succ, List.filter_cons, htail]
      by_cases hd : d = c
      · simp [hd, ih]
      · have : ¬ d.val = c.val := fun h => hd (Char.ext h)
        simp [hd, this, ih]

theorem ofText_ready (b : List Char) : (ofText b).Ready b := by
  have hzero (k : Nat) : (Array.replicate (b.length + 1) 0).getD k 0 = 0 := by
    rw [Array.getD_eq_getD_getElem?, Array.getElem?_replicate]
    split <;> rfl
  refine ⟨⟨?_, Array.size_replicate, Array.size_replicate, fun k _ => hzero k, hzero, rfl⟩, hzero,
    rfl⟩
  intro c
  have h := getD_placesFrom b 0 c
  simpa only [ofText, placesOf, List.range_eq_range', Nat.sub_zero] using h

theorem Ready.atRow (h : f.Ready b) (a : List Char) (w : Window) : f.AtRow a b w w.leftStart := by
  refine ⟨h.toSound, fun k => ?_⟩
  rw [h.previous_zero, runBefore_leftStart, ite_self]

theorem takeWhile_lt_eq_filter {l : List Nat} (h : l.Pairwise (· < ·)) (high : Nat) :
    l.takeWhile (fun j => decide (j < high)) = l.filter fun j => decide (j < high) := by
  induction l with
  | nil => rfl
  | cons i l ih =>
      obtain ⟨hi, hl⟩ := List.pairwise_cons.mp h
      by_cases hlt : i < high
      · simp [hlt, ih hl]
      · have : l.filter (fun j => decide (j < high)) = [] := by
          refine List.filter_eq_nil_iff.mpr fun j hj => ?_
          have := hi j hj
          simp only [decide_eq_true_eq]
          omega
        simp [hlt, this]

theorem dropWhile_lt_eq_filter {l : List Nat} (h : l.Pairwise (· < ·)) (low : Nat) :
    l.dropWhile (fun j => decide (j < low)) = l.filter fun j => decide (low ≤ j) := by
  induction l with
  | nil => rfl
  | cons i l ih =>
      obtain ⟨hi, hl⟩ := List.pairwise_cons.mp h
      by_cases hlt : i < low
      · simp [hlt, ih hl, Nat.not_le.mpr hlt]
      · have : l.filter (fun j => decide (low ≤ j)) = l := by
          refine List.filter_eq_self.mpr fun j hj => ?_
          have := hi j hj
          simp only [decide_eq_true_eq]
          omega
        simp [hlt, this, Nat.le_of_not_lt hlt]

theorem candidates_eq (h : f.Sound b) (w : Window) {i : Nat} {c : Char} (hc : a[i]? = some c) :
    candidates f w c = placesLike a b w i := by
  have hsorted := (List.pairwise_lt_range (n := b.length)).filter fun j => decide (b[j]? = some c)
  rw [candidates, h.places, dropWhile_lt_eq_filter hsorted,
    takeWhile_lt_eq_filter (hsorted.filter _), List.filter_filter, List.filter_filter, placesLike, hc]
  refine List.filter_congr fun j _ => ?_
  rw [Bool.and_comm (decide (j < w.rightEnd))]

def foundRun (f : BlockFinder) (i j : Nat) : Block :=
  ⟨i + 1 - (f.previous.getD j 0 + 1), j + 1 - (f.previous.getD j 0 + 1), f.previous.getD j 0 + 1⟩

theorem foldl_extendRun (i : Nat) (js : List Nat) (f : BlockFinder) (best : Block) :
    js.foldl (extendRun i) (f, best) =
      ({ f with
          current := write f.current (js.map (· + 1)) fun k => f.previous.getD (k - 1) 0 + 1
          currentTouched := (js.map (· + 1)).reverse ++ f.currentTouched },
        (js.map (foundRun f i)).foldl longer best) := by
  induction js generalizing f best with
  | nil => rfl
  | cons j js ih =>
      rw [List.foldl_cons, extendRun, ih]
      exact Prod.ext (by simp [write]) rfl

theorem AtRow.foundRun_eq {i j : Nat} (h : f.AtRow a b w i) (hw : w.Fits a b)
    (hi : w.leftStart ≤ i) (hi' : i < w.leftEnd) (hj : j ∈ placesLike a b w i) :
    f.foundRun i j = runBlock a b w i j := by
  obtain ⟨hjb, hj₁, hj₂, he⟩ := mem_placesLike.mp hj
  have ha : i < a.length := Nat.lt_of_lt_of_le hi' hw.left_end
  have hrun : f.previous.getD j 0 = runBefore a b w i j := by
    rw [h.previous_runs]
    split
    · rfl
    · rw [show j = w.rightStart by omega, runBefore_rightStart]
  have hagree : a[i] = b[j] := by
    rw [List.getElem?_eq_getElem hjb, List.getElem?_eq_getElem ha] at he
    exact (Option.some.inj he).symm
  rw [foundRun, runBlock, runBefore_succ i j hi hj₁ ha hjb, if_pos hagree, hrun]

/-- One row: the finder moves on to the next, and the blocks of the row are offered in order. -/
theorem AtRow.succ {i : Nat} {c : Char} (h : f.AtRow a b w i) (hw : w.Fits a b)
    (hi : w.leftStart ≤ i) (hi' : i < w.leftEnd) (hc : a[i]? = some c) (best : Block) :
    ((candidates f w c).foldl (extendRun i) (f, best)).1.turnRow.AtRow a b w (i + 1) ∧
      ((candidates f w c).foldl (extendRun i) (f, best)).2 =
        ((placesLike a b w i).map (runBlock a b w i)).foldl longer best := by
  have ha : i < a.length := Nat.lt_of_lt_of_le hi' hw.left_end
  have hbound := hw.right_end
  rw [candidates_eq h.toSound w hc, foldl_extendRun]
  refine ⟨⟨⟨h.places, ?_, ?_, ?_, clear_zero h.previous_untouched, rfl⟩, ?_⟩, ?_⟩
  · exact (write_size _ _ _).trans h.current_size
  · exact (write_size _ _ _).trans h.previous_size
  · intro k hk
    simp only [turnRow, h.current_touched, List.append_nil, List.mem_reverse] at hk ⊢
    rw [getD_write, if_neg fun hm => hk hm.1, h.current_zero]
  · intro k
    simp only [turnRow]
    rw [getD_write, h.current_zero, h.current_size]
    by_cases hk : w.rightStart < k ∧ k ≤ w.rightEnd
    · obtain ⟨j, rfl⟩ : ∃ j, k = j + 1 := ⟨k - 1, by omega⟩
      have hjb : j < b.length := by omega
      rw [if_pos hk, runBefore_succ i j hi (by omega) ha hjb]
      have hmem : (j + 1 ∈ (placesLike a b w i).map (· + 1) ∧ j + 1 < b.length + 1) ↔
          a[i] = b[j] := by
        rw [List.mem_map]
        constructor
        · rintro ⟨⟨m, hm, he⟩, _⟩
          obtain rfl : m = j := by omega
          have he := (mem_placesLike.mp hm).2.2.2
          rw [List.getElem?_eq_getElem hjb, List.getElem?_eq_getElem ha] at he
          exact (Option.some.inj he).symm
        · intro he
          refine ⟨⟨j, mem_placesLike.mpr ⟨hjb, by omega, by omega, ?_⟩, rfl⟩, by omega⟩
          rw [List.getElem?_eq_getElem hjb, List.getElem?_eq_getElem ha, he]
      by_cases he : a[i] = b[j]
      · rw [if_pos (hmem.mpr he), if_pos he, Nat.add_sub_cancel, h.previous_runs]
        split
        · rfl
        · rw [show j = w.rightStart by omega, runBefore_rightStart]
      · rw [if_neg fun hm => he (hmem.mp hm), if_neg he]
    · rw [if_neg hk, if_neg]
      rintro ⟨hm, _⟩
      obtain ⟨j, hj, rfl⟩ := List.mem_map.mp hm
      obtain ⟨_, _, _, _⟩ := mem_placesLike.mp hj
      omega
  · rw [List.map_congr_left fun j hj => h.foundRun_eq hw hi hi' hj]

/-- All rows from one on: at the end the finder stands behind the window, and the blocks of these
rows were offered in order. -/
theorem AtRow.atEnd (hw : w.Fits a b) (rest : List Char) {i : Nat} (h : f.AtRow a b w i)
    (hi : w.leftStart ≤ i) (hi' : i ≤ w.leftEnd)
    (hrest : rest = (a.drop i).take (w.leftEnd - i)) (best : Block) :
    (searchRows w i rest (f, best)).1.AtRow a b w w.leftEnd ∧
      (searchRows w i rest (f, best)).2 = (blocksFrom a b w i).foldl longer best := by
  have hend := hw.left_end
  induction rest generalizing f i best with
  | nil =>
      have hl := congrArg List.length hrest
      simp only [List.length_nil, List.length_take, List.length_drop] at hl
      obtain rfl : i = w.leftEnd := by omega
      rw [blocksFrom_leftEnd]
      exact ⟨h, rfl⟩
  | cons c rest ih =>
      have hl := congrArg List.length hrest
      simp only [List.length_cons, List.length_take, List.length_drop] at hl
      have hlt : i < w.leftEnd := by omega
      rw [List.drop_eq_getElem_cons (show i < a.length by omega),
        show w.leftEnd - i = w.leftEnd - (i + 1) + 1 by omega, List.take_succ_cons] at hrest
      obtain ⟨rfl, hrest'⟩ := List.cons.inj hrest
      obtain ⟨hrow, hbest⟩ := h.succ hw hi hlt (List.getElem?_eq_getElem (by omega)) best
      rw [searchRows, blocksFrom_of_lt hlt, List.foldl_append, ← hbest]
      exact ih hrow (by omega) (by omega) hrest' _

theorem AtRow.ready_reset {i : Nat} (h : f.AtRow a b w i) : f.reset.Ready b :=
  ⟨⟨h.places, (write_size _ _ _).trans h.previous_size, h.current_size,
    fun k _ => clear_zero h.previous_untouched k, h.current_zero, h.current_touched⟩,
    clear_zero h.previous_untouched, rfl⟩

theorem Ready.longest (h : f.Ready b) (hw : w.Fits a b) :
    (f.longest a w).1.IsLongest a b w ∧ (f.longest a w).2.Ready b := by
  obtain ⟨hrow, hbest⟩ := (h.atRow a w).atEnd hw _ le_rfl hw.left rfl w.origin
  refine ⟨?_, hrow.ready_reset⟩
  have hfound := isLongest_blocksFrom hw
  rw [← hbest] at hfound
  exact hfound

end IndexTuning.Similarity.BlockFinder
