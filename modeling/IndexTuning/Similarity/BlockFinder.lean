import Std.Data.HashMap
import IndexTuning.Similarity.Block

namespace IndexTuning.Similarity

/-- A range of each of two texts, ends excluded. -/
structure Window where
  leftStart : Nat
  leftEnd : Nat
  rightStart : Nat
  rightEnd : Nat
  deriving DecidableEq, Repr

def Window.weight (w : Window) : Nat := 2 * (w.leftEnd - w.leftStart) + 1

def totalWeight : List Window → Nat
  | [] => 0
  | w :: ws => w.weight + totalWeight ws

theorem totalWeight_append (ws vs : List Window) :
    totalWeight (ws ++ vs) = totalWeight ws + totalWeight vs := by
  induction ws with
  | nil => simp [totalWeight]
  | cons w ws ih => simp only [List.cons_append, totalWeight, ih, Nat.add_assoc]

def Window.around (w : Window) (block : Block) : List Window :=
  let later :=
    if block.left + block.length < w.leftEnd ∧ block.right + block.length < w.rightEnd then
      [⟨block.left + block.length, w.leftEnd, block.right + block.length, w.rightEnd⟩]
    else []
  let earlier :=
    if w.leftStart < block.left ∧ w.rightStart < block.right then
      [⟨w.leftStart, block.left, w.rightStart, block.right⟩]
    else []
  later ++ earlier

theorem Window.weight_around_lt (w : Window) (block : Block) (hpos : 0 < block.length)
    (hstart : w.leftStart ≤ block.left) (hend : block.left + block.length ≤ w.leftEnd) :
    totalWeight (w.around block) < w.weight := by
  unfold Window.around
  split <;> split <;> simp [totalWeight, Window.weight] <;> omega

/-- A search for common blocks that looks only at the places where characters agree. Slot `j + 1` of
a row holds the length of the run of agreement that ends at place `j` of the second text. A row is
zero outside the slots listed as touched, so that clearing these makes it fresh for the next use. -/
structure BlockFinder where
  /-- The places of each character in the second text, in ascending order, by code point. -/
  places : Std.HashMap UInt32 (List Nat)
  previous : Array Nat
  current : Array Nat
  previousTouched : List Nat
  currentTouched : List Nat

namespace BlockFinder

def placesOf (b : List Char) : Std.HashMap UInt32 (List Nat) :=
  b.zipIdx.foldr (fun p places => places.insert p.1.val (p.2 :: places.getD p.1.val [])) ∅

def ofText (b : List Char) : BlockFinder where
  places := placesOf b
  previous := Array.replicate (b.length + 1) 0
  current := Array.replicate (b.length + 1) 0
  previousTouched := []
  currentTouched := []

def clear (row : Array Nat) (touched : List Nat) : Array Nat :=
  touched.foldl (fun row slot => row.setIfInBounds slot 0) row

def extendRun (i : Nat) (s : BlockFinder × Block) (j : Nat) : BlockFinder × Block :=
  let (f, best) := s
  let run := f.previous.getD j 0 + 1
  ({ f with
      current := f.current.setIfInBounds (j + 1) run
      currentTouched := (j + 1) :: f.currentTouched },
    longer best ⟨i + 1 - run, j + 1 - run, run⟩)

def turnRow (f : BlockFinder) : BlockFinder :=
  { f with
    previous := f.current
    current := clear f.previous f.previousTouched
    previousTouched := f.currentTouched
    currentTouched := [] }

def candidates (f : BlockFinder) (w : Window) (c : Char) : List Nat :=
  ((f.places.getD c.val []).dropWhile (· < w.rightStart)).takeWhile (· < w.rightEnd)

def searchRows (w : Window) (i : Nat) : List Char → BlockFinder × Block → BlockFinder × Block
  | [], s => s
  | c :: rest, s =>
    let (f, best) := (candidates s.1 w c).foldl (extendRun i) s
    searchRows w (i + 1) rest (f.turnRow, best)

def reset (f : BlockFinder) : BlockFinder :=
  { f with previous := clear f.previous f.previousTouched, previousTouched := [] }

/-- The longest common block in a window, the first of several, and the search made ready for the
next window. -/
def longest (f : BlockFinder) (a : List Char) (w : Window) : Block × BlockFinder :=
  let rows := (a.drop w.leftStart).take (w.leftEnd - w.leftStart)
  let (f, best) := searchRows w w.leftStart rows (f, ⟨w.leftStart, w.rightStart, 0⟩)
  (best, f.reset)

def countIn (a : List Char) (f : BlockFinder) : List Window → Nat
  | [] => 0
  | w :: ws =>
    let (block, g) := f.longest a w
    if 0 < block.length ∧ w.leftStart ≤ block.left ∧ block.left + block.length ≤ w.leftEnd then
      block.length + countIn a g (w.around block ++ ws)
    else countIn a g ws
termination_by ws => totalWeight ws
decreasing_by
  · next h =>
    have := w.weight_around_lt block h.1 h.2.1 h.2.2
    simp only [totalWeight_append, totalWeight]
    omega
  · simp only [totalWeight, Window.weight]
    omega

def count (a b : List Char) : Nat :=
  countIn a (ofText b) [⟨0, a.length, 0, b.length⟩]

end BlockFinder

end IndexTuning.Similarity
