import IndexTuning.Proofs.Similarity.MatchedBlocks

namespace IndexTuning.Similarity

variable {a b : List Char} {w : Window} {c : Char} {i : Nat} {best block : Block}

theorem Window.Fits.origin_isLongest (hw : w.Fits a b)
    (h : ∀ d : Block, d.IsCommon a b w → d.length = 0) : w.origin.IsLongest a b w where
  common := hw.origin_isCommon
  longest d hd := (h d hd).le
  first d hd _ := by
    have hleft := hd.left_ge
    have hright := hd.right_ge
    simp only [Block.StartsBy, Window.origin]
    omega

namespace BlockFinder

variable {f : BlockFinder}

def store? (row : Array Nat) (slot value : Nat) : Option (Array Nat) :=
  if slot < row.size then some (row.setIfInBounds slot value) else none

def clear? (row : Array Nat) (touched : List Nat) : Option (Array Nat) :=
  touched.foldlM (fun row slot => store? row slot 0) row

/-- A place cannot lie before the beginning of a text. -/
def back? (place length : Nat) : Option Nat :=
  if length ≤ place then some (place - length) else none

def candidates? (f : BlockFinder) (w : Window) (c : Char) : Option (List Nat) :=
  let places := f.places.getD c.val []
  let first := places.countP (· < w.rightStart)
  if first ≤ places.length then some ((places.drop first).takeWhile (· < w.rightEnd)) else none

def extendRun? (i : Nat) (s : BlockFinder × Block) (j : Nat) : Option (BlockFinder × Block) := do
  let (f, best) := s
  let before ← f.previous[j]?
  let run := before + 1
  let current ← store? f.current (j + 1) run
  let left ← back? (i + 1) run
  let right ← back? (j + 1) run
  some ({ f with current := current, currentTouched := (j + 1) :: f.currentTouched },
    longer best ⟨left, right, run⟩)

def turnRow? (f : BlockFinder) : Option BlockFinder := do
  let row ← clear? f.previous f.previousTouched
  some { f with
    previous := f.current
    current := row
    previousTouched := f.currentTouched
    currentTouched := [] }

def searchRow? (a : List Char) (w : Window) (s : BlockFinder × Block) (i : Nat) :
    Option (BlockFinder × Block) := do
  let c ← a[i]?
  let js ← candidates? s.1 w c
  let (f, best) ← js.foldlM (extendRun? i) s
  let f ← f.turnRow?
  some (f, best)

def reset? (f : BlockFinder) : Option BlockFinder := do
  let row ← clear? f.previous f.previousTouched
  some { f with previous := row, previousTouched := [] }

/-- The search of a window that gives up at the first index out of bounds. -/
def longest? (f : BlockFinder) (a : List Char) (w : Window) : Option (Block × BlockFinder) := do
  let (f, best) ← (List.range' w.leftStart (w.leftEnd - w.leftStart)).foldlM (searchRow? a w)
    (f, w.origin)
  let f ← f.reset?
  some (best, f)

theorem store?_eq {row : Array Nat} {slot : Nat} (h : slot < row.size) (value : Nat) :
    store? row slot value = some (row.setIfInBounds slot value) := if_pos h

theorem back?_eq {place length : Nat} (h : length ≤ place) :
    back? place length = some (place - length) := if_pos h

theorem clear?_eq {row : Array Nat} {touched : List Nat} (h : ∀ k ∈ touched, k < row.size) :
    clear? row touched = some (clear row touched) := by
  induction touched generalizing row with
  | nil => rfl
  | cons k touched ih =>
      obtain ⟨hk, htouched⟩ := List.forall_mem_cons.1 h
      rw [clear?, List.foldlM_cons, store?_eq hk]
      apply ih
      rwa [Array.size_setIfInBounds]

theorem drop_countP_lt {l : List Nat} (h : l.Pairwise (· < ·)) (low : Nat) :
    l.drop (l.countP (· < low)) = l.dropWhile (· < low) := by
  rw [List.countP_eq_length_filter, ← takeWhile_lt_eq_filter h]
  nth_rewrite 2 [← List.takeWhile_append_dropWhile (p := fun j => decide (j < low)) (l := l)]
  exact List.drop_left

theorem Sound.candidates?_eq (h : f.Sound b) (w : Window) (c : Char) :
    candidates? f w c = some (candidates f w c) := by
  have hsorted : (f.places.getD c.val []).Pairwise (· < ·) := by
    rw [h.places]
    exact List.pairwise_lt_range.filter _
  rw [candidates?, if_pos List.countP_le_length, drop_countP_lt hsorted]
  rfl

theorem extendRun?_eq {j : Nat} (hprevious : j < f.previous.size)
    (hcurrent : j + 1 < f.current.size) (hi : f.previous.getD j 0 ≤ i)
    (hj : f.previous.getD j 0 ≤ j) (best : Block) :
    extendRun? i (f, best) j = some (extendRun i (f, best) j) := by
  have hget : f.previous[j]? = some (f.previous.getD j 0) := by
    rw [Array.getD_eq_getD_getElem?, Array.getElem?_eq_getElem hprevious, Option.getD_some]
  simp only [extendRun?, hget, Option.bind_eq_bind, Option.bind_some, store?_eq hcurrent,
    back?_eq (Nat.succ_le_succ hi), back?_eq (Nat.succ_le_succ hj)]
  rfl

/-- A row of agreements is gone through in bounds when both rows have a slot for each and no run
on the previous row is longer than the texts before it. -/
theorem foldlM_extendRun? {js : List Nat} (hprevious : ∀ j ∈ js, j < f.previous.size)
    (hcurrent : ∀ j ∈ js, j + 1 < f.current.size)
    (hruns : ∀ j ∈ js, f.previous.getD j 0 ≤ i ∧ f.previous.getD j 0 ≤ j) (best : Block) :
    js.foldlM (extendRun? i) (f, best) = some (js.foldl (extendRun i) (f, best)) := by
  induction js generalizing f best with
  | nil => rfl
  | cons j js ih =>
      obtain ⟨hp, hprevious⟩ := List.forall_mem_cons.1 hprevious
      obtain ⟨hc, hcurrent⟩ := List.forall_mem_cons.1 hcurrent
      obtain ⟨⟨hi, hj⟩, hruns⟩ := List.forall_mem_cons.1 hruns
      have hsize : (extendRun i (f, best) j).1.current.size = f.current.size :=
        Array.size_setIfInBounds
      rw [← hsize] at hcurrent
      rw [List.foldlM_cons, extendRun?_eq hp hc hi hj]
      exact ih (f := (extendRun i (f, best) j).1) hprevious hcurrent hruns _

/-- The search stands before place `i` of the first text, and every slot that is listed as touched
is one of the row. -/
structure Bounded (f : BlockFinder) (a b : List Char) (w : Window) (i : Nat) : Prop
    extends AtRow f a b w i where
  touched_lt : ∀ k ∈ f.previousTouched, k < f.previous.size

theorem Ready.bounded (h : f.Ready b) (a : List Char) (w : Window) :
    f.Bounded a b w w.leftStart := by
  refine ⟨h.atRow a w, fun k hk => ?_⟩
  rw [h.previous_touched] at hk
  exact absurd hk List.not_mem_nil

theorem AtRow.previous_le (h : f.AtRow a b w i) (j : Nat) :
    f.previous.getD j 0 ≤ i ∧ f.previous.getD j 0 ≤ j := by
  have hleft := runBefore_le_left a b w i j
  have hright := runBefore_le_right a b w i j
  rw [h.previous_runs]
  split <;> omega

theorem Bounded.searchRow?_eq (h : f.Bounded a b w i) (hw : w.Fits a b) (hi : w.leftStart ≤ i)
    (hi' : i < w.leftEnd) (hc : a[i]? = some c) (best : Block) :
    searchRow? a w (f, best) i =
        some (((candidates f w c).foldl (extendRun i) (f, best)).1.turnRow,
          ((candidates f w c).foldl (extendRun i) (f, best)).2) ∧
      ((candidates f w c).foldl (extendRun i) (f, best)).1.turnRow.Bounded a b w (i + 1) := by
  have hplaces : ∀ j ∈ candidates f w c, j < b.length := by
    intro j hj
    rw [candidates_eq h.toSound w hc] at hj
    exact (mem_placesLike.1 hj).1
  have hrow : (candidates f w c).foldlM (extendRun? i) (f, best) =
      some ((candidates f w c).foldl (extendRun i) (f, best)) := by
    apply foldlM_extendRun?
    · intro j hj
      have := hplaces j hj
      rw [h.previous_size]
      omega
    · intro j hj
      have := hplaces j hj
      rw [h.current_size]
      omega
    · exact fun j _ => h.previous_le j
  have hnext := (h.succ hw hi hi' hc best).1
  rw [foldl_extendRun] at hrow hnext ⊢
  constructor
  · simp only [searchRow?, hc, h.candidates?_eq, hrow, turnRow?, clear?_eq h.touched_lt,
      Option.bind_eq_bind, Option.bind_some]
    rfl
  · refine ⟨hnext, fun k hk => ?_⟩
    simp only [turnRow, h.current_touched, List.append_nil, List.mem_reverse, List.mem_map] at hk
    obtain ⟨j, hj, rfl⟩ := hk
    have := hplaces j hj
    rw [hnext.previous_size]
    omega

theorem Bounded.searchRows?_eq (hw : w.Fits a b) (rest : List Char) (h : f.Bounded a b w i)
    (hi : w.leftStart ≤ i) (hi' : i ≤ w.leftEnd)
    (hrest : rest = (a.drop i).take (w.leftEnd - i)) (best : Block) :
    (List.range' i (w.leftEnd - i)).foldlM (searchRow? a w) (f, best) =
        some (searchRows w i rest (f, best)) ∧
      (searchRows w i rest (f, best)).1.Bounded a b w w.leftEnd := by
  have hend := hw.left_end
  induction rest generalizing f i best with
  | nil =>
      have hl := congrArg List.length hrest
      simp only [List.length_nil, List.length_take, List.length_drop] at hl
      obtain rfl : i = w.leftEnd := by omega
      rw [Nat.sub_self]
      exact ⟨rfl, h⟩
  | cons c rest ih =>
      have hl := congrArg List.length hrest
      simp only [List.length_cons, List.length_take, List.length_drop] at hl
      have hlt : i < w.leftEnd := by omega
      have hn : w.leftEnd - i = w.leftEnd - (i + 1) + 1 := by omega
      rw [List.drop_eq_getElem_cons (show i < a.length by omega), hn, List.take_succ_cons] at hrest
      obtain ⟨rfl, hrest'⟩ := List.cons.inj hrest
      obtain ⟨hrow, hbounded⟩ := h.searchRow?_eq hw hi hlt (List.getElem?_eq_getElem (by omega)) best
      rw [hn, List.range'_succ, List.foldlM_cons, hrow, searchRows]
      exact ih hbounded (by omega) (by omega) hrest' _

theorem Ready.longest?_eq (h : f.Ready b) (hw : w.Fits a b) :
    f.longest? a w = some (f.longest a w) := by
  obtain ⟨hrows, hbounded⟩ := (h.bounded a w).searchRows?_eq hw _ le_rfl hw.left rfl w.origin
  simp only [longest?, hrows, reset?, clear?_eq hbounded.touched_lt, Option.bind_eq_bind,
    Option.bind_some]
  rfl

theorem places_searchRows (w : Window) (rest : List Char) (i : Nat) (s : BlockFinder × Block) :
    (searchRows w i rest s).1.places = s.1.places := by
  induction rest generalizing i s with
  | nil => rfl
  | cons c rest ih =>
      rw [searchRows, ih, foldl_extendRun]
      rfl

theorem eq_replicate_of_zero {row : Array Nat} (h : ∀ k, row.getD k 0 = 0) :
    row = Array.replicate row.size 0 := by
  rw [Array.eq_replicate_iff]
  refine ⟨rfl, fun n hn => ?_⟩
  obtain ⟨k, hk, rfl⟩ := Array.mem_iff_getElem.1 hn
  have hzero := h k
  rwa [Array.getD_eq_getD_getElem?, Array.getElem?_eq_getElem hk, Option.getD_some] at hzero

theorem Ready.eq_ofText (h : f.Ready b) (hplaces : f.places = placesOf b) : f = ofText b := by
  have hprevious := eq_replicate_of_zero h.previous_zero
  have hcurrent := eq_replicate_of_zero h.current_zero
  rw [h.previous_size] at hprevious
  rw [h.current_size] at hcurrent
  have hptouched := h.previous_touched
  have hctouched := h.current_touched
  cases f
  simp only at hplaces hprevious hcurrent hptouched hctouched
  rw [ofText, hplaces, hprevious, hcurrent, hptouched, hctouched]

theorem longest_ofText (hw : w.Fits a b) : ((ofText b).longest a w).2 = ofText b :=
  ((ofText_ready b).longest hw).2.eq_ofText (places_searchRows w _ _ _)

/-- A window that lies in some first text. -/
structure Search where
  text : List Char
  window : Window

/-- The answers to one search after another, each with the finder that it leaves to the next. -/
def answers (f : BlockFinder) : List Search → List (Block × BlockFinder)
  | [] => []
  | s :: searches =>
    let answer := f.longest s.text s.window
    answer :: answer.2.answers searches

def answers? (f : BlockFinder) : List Search → Option (List (Block × BlockFinder))
  | [] => some []
  | s :: searches => do
    let answer ← f.longest? s.text s.window
    let later ← answer.2.answers? searches
    some (answer :: later)

/-- What a search in the text `b` comes to: the first longest block, which is a text common to both,
the empty block at the window's beginning if there is no other, and a finder as good as new. -/
structure Search.IsAnsweredBy (b : List Char) (s : Search) (answer : Block × BlockFinder) :
    Prop where
  isLongest : answer.1.IsLongest s.text b s.window
  leftText_eq : answer.1.leftText s.text = answer.1.rightText b
  length_leftText : (answer.1.leftText s.text).length = answer.1.length
  eq_origin : (∀ d : Block, d.IsCommon s.text b s.window → d.length = 0) →
    answer.1 = s.window.origin
  finder_eq : answer.2 = ofText b
  previous_zero : ∀ n ∈ answer.2.previous, n = 0
  current_zero : ∀ n ∈ answer.2.current, n = 0
  previous_touched : answer.2.previousTouched = []
  current_touched : answer.2.currentTouched = []

theorem Search.isAnsweredBy_longest {s : Search} (hw : s.window.Fits s.text b) :
    s.IsAnsweredBy b ((ofText b).longest s.text s.window) := by
  have hlongest := ((ofText_ready b).longest hw).1
  have hfinder := longest_ofText hw
  have hzero : ∀ n ∈ Array.replicate (b.length + 1) 0, n = 0 :=
    fun n hn => Array.eq_of_mem_replicate hn
  refine ⟨hlongest, hlongest.common.leftText_eq, hlongest.common.length_leftText hw, ?_, hfinder,
    ?_, ?_, ?_, ?_⟩
  · exact fun hnone => hlongest.unique (hw.origin_isLongest hnone)
  · rwa [hfinder]
  · rwa [hfinder]
  · rw [hfinder]
    rfl
  · rw [hfinder]
    rfl

theorem map_fst_of_isAnsweredBy {searches : List Search} {answers : List (Block × BlockFinder)}
    (h : ∀ s ∈ searches, s.window.Fits s.text b)
    (hanswers : List.Forall₂ (Search.IsAnsweredBy b) searches answers) :
    answers.map Prod.fst = searches.map fun s => s.window.longestIn s.text b := by
  induction hanswers with
  | nil => rfl
  | cons hanswer _ ih =>
      obtain ⟨hs, hsearches⟩ := List.forall_mem_cons.1 h
      rw [List.map_cons, List.map_cons, ih hsearches,
        hanswer.isLongest.unique hs.place_longestBlock, Window.longestIn]

/-- However many windows a finder has searched, its next answer is right, and no search reads or
writes a slot or a place out of bounds. -/
theorem answers_areLongest {b : List Char} {searches : List Search}
    (h : ∀ s ∈ searches, s.window.Fits s.text b) :
    (ofText b).answers? searches = some ((ofText b).answers searches) ∧
      List.Forall₂ (Search.IsAnsweredBy b) searches ((ofText b).answers searches) := by
  induction searches with
  | nil => exact ⟨rfl, List.Forall₂.nil⟩
  | cons s searches ih =>
      obtain ⟨hs, hsearches⟩ := List.forall_mem_cons.1 h
      obtain ⟨hchecked, hanswers⟩ := ih hsearches
      have hfinder := longest_ofText hs
      rw [← hfinder] at hchecked hanswers
      constructor
      · simp only [answers?, (ofText_ready b).longest?_eq hs, hchecked, Option.bind_eq_bind,
          Option.bind_some]
        rfl
      · apply List.Forall₂.cons (Search.isAnsweredBy_longest hs)
        rwa [hfinder] at hanswers ⊢

/-- A whole text, a part of it that overlaps the block found, and a text with nothing in common. -/
def threeSearches : List Search :=
  [⟨"xabdab".toList, ⟨0, 6, 0, 6⟩⟩, ⟨"xabdab".toList, ⟨0, 3, 0, 3⟩⟩, ⟨"qq".toList, ⟨1, 2, 2, 6⟩⟩]

theorem answers_areLongest_threeSearches :
    (∀ s ∈ threeSearches, s.window.Fits s.text "abcabd".toList) ∧
      (ofText "abcabd".toList).answers? threeSearches =
        some ((ofText "abcabd".toList).answers threeSearches) ∧
      ((ofText "abcabd".toList).answers threeSearches).map Prod.fst =
        [⟨1, 3, 3⟩, ⟨1, 0, 2⟩, ⟨1, 2, 0⟩] := by
  have h : ∀ s ∈ threeSearches, s.window.Fits s.text "abcabd".toList := by
    simp only [threeSearches, List.forall_mem_cons]
    refine ⟨?_, ?_, ?_, List.forall_mem_nil _⟩ <;> constructor <;> decide
  obtain ⟨hchecked, hanswers⟩ := answers_areLongest h
  refine ⟨h, hchecked, ?_⟩
  rw [map_fst_of_isAnsweredBy h hanswers]
  decide +kernel

end BlockFinder

end IndexTuning.Similarity
