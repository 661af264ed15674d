import IndexTuning.Proofs.Similarity.BlockCount

namespace IndexTuning.Similarity

variable {a b : List Char} {w : Window} {c d : Block} {cs : List Block}

namespace Window

def before (w : Window) (c : Block) : Window := ⟨w.leftStart, c.left, w.rightStart, c.right⟩

def behind (w : Window) (c : Block) : Window :=
  ⟨c.left + c.length, w.leftEnd, c.right + c.length, w.rightEnd⟩

def longestIn (a b : List Char) (w : Window) : Block :=
  w.place (longestBlock (w.leftText a) (w.rightText b))

theorem longestIn_left_le (a b : List Char) (w : Window) :
    (w.longestIn a b).left + (w.longestIn a b).length ≤
      w.leftStart + (w.leftEnd - w.leftStart) := by
  have h := longestBlock_fits (w.leftText a) (w.rightText b)
  have hlength : (w.leftText a).length ≤ w.leftEnd - w.leftStart := List.length_take_le _ _
  simp only [longestIn, place]
  omega

/-- The longest common block of a window and, found in the same way, those on either side of it,
in the order in which they stand in the texts. -/
def matched (a b : List Char) (w : Window) : List Block :=
  let c := w.longestIn a b
  if c.length = 0 then []
  else matched a b (w.before c) ++ c :: matched a b (w.behind c)
termination_by w.leftEnd - w.leftStart
decreasing_by
  all_goals
    have hle := longestIn_left_le a b w
    have hstart : w.leftStart ≤ (w.longestIn a b).left := Nat.le_add_right _ _
    have hne : (w.longestIn a b).length ≠ 0 := by assumption
    simp only [before, behind]
    omega

end Window

theorem Window.Fits.before (hw : w.Fits a b) (hc : c.IsCommon a b w) : (w.before c).Fits a b where
  left := hc.left_ge
  left_end := (Nat.le_add_right _ _).trans (hc.left_le.trans hw.left_end)
  right := hc.right_ge
  right_end := (Nat.le_add_right _ _).trans (hc.right_le.trans hw.right_end)

theorem Window.Fits.behind (hw : w.Fits a b) (hc : c.IsCommon a b w) : (w.behind c).Fits a b where
  left := hc.left_le
  left_end := hw.left_end
  right := hc.right_le
  right_end := hw.right_end

def Block.leftText (a : List Char) (c : Block) : List Char := (a.drop c.left).take c.length

def Block.rightText (b : List Char) (c : Block) : List Char := (b.drop c.right).take c.length

theorem Block.IsCommon.leftText_eq (hc : c.IsCommon a b w) : c.leftText a = c.rightText b := by
  apply List.ext_getElem?
  intro n
  by_cases hn : n < c.length
  · rw [Block.leftText, Block.rightText, List.getElem?_take_of_lt hn, List.getElem?_take_of_lt hn,
      List.getElem?_drop, List.getElem?_drop, hc.agree n hn]
  · rw [Block.leftText, Block.rightText, List.getElem?_take_eq_none (by omega),
      List.getElem?_take_eq_none (by omega)]

theorem Block.IsCommon.length_leftText (hw : w.Fits a b) (hc : c.IsCommon a b w) :
    (c.leftText a).length = c.length := by
  have hle := hc.left_le.trans hw.left_end
  rw [Block.leftText, List.length_take, List.length_drop]
  omega

namespace AreCommon

def text (a : List Char) (cs : List Block) : List Char := cs.flatMap (Block.leftText a)

end AreCommon

namespace BlockFinder.Loop

def found (a : List Char) (l : Loop) : List Block :=
  match l.windows with
  | [] => []
  | w :: _ =>
    let (block, _) := l.finder.longest a w
    if block.length = 0 then [] else [block]

def pending (a b : List Char) (l : Loop) : List Block := l.windows.flatMap (Window.matched a b)

end BlockFinder.Loop

end IndexTuning.Similarity
