import IndexTuning.Proofs.Similarity.RowSearch
import IndexTuning.Similarity
import Mathlib

namespace IndexTuning.Similarity

variable {a b : List Char} {w : Window}

def Window.matchCount (a b : List Char) (w : Window) : Nat :=
  Similarity.matchCount (w.leftText a) (w.rightText b)

theorem longestBlock_fits_right (a b : List Char) :
    (longestBlock a b).right + (longestBlock a b).length ≤ b.length :=
  (longestBlock_isLongest a b).common.right_le

theorem matchCount_nil_left (b : List Char) : matchCount [] b = 0 := by
  have h := longestBlock_fits [] b
  rw [matchCount, if_pos (by simp only [List.length_nil] at h; omega)]

theorem matchCount_nil_right (a : List Char) : matchCount a [] = 0 := by
  have h := longestBlock_fits_right a []
  rw [matchCount, if_pos (by simp only [List.length_nil] at h; omega)]

def totalCount (a b : List Char) (ws : List Window) : Nat := (ws.map (Window.matchCount a b)).sum

theorem totalCount_cons (a b : List Char) (w : Window) (ws : List Window) :
    totalCount a b (w :: ws) = w.matchCount a b + totalCount a b ws := by
  simp [totalCount]

theorem totalCount_append (a b : List Char) (ws vs : List Window) :
    totalCount a b (ws ++ vs) = totalCount a b ws + totalCount a b vs := by
  simp [totalCount]

theorem totalCount_single (a b : List Char) (w : Window) :
    totalCount a b [w] = w.matchCount a b := by
  simp [totalCount]

theorem matchCount_before (w : Window) {i j : Nat} (hi : i ≤ w.leftEnd - w.leftStart)
    (hj : j ≤ w.rightEnd - w.rightStart) :
    (Window.mk w.leftStart (w.leftStart + i) w.rightStart (w.rightStart + j)).matchCount a b =
      matchCount ((w.leftText a).take i) ((w.rightText b).take j) := by
  simp only [Window.matchCount, Window.leftText, Window.rightText, List.take_take,
    Nat.add_sub_cancel_left, Nat.min_eq_left hi, Nat.min_eq_left hj]

theorem matchCount_behind (w : Window) (i j : Nat) :
    (Window.mk (w.leftStart + i) w.leftEnd (w.rightStart + j) w.rightEnd).matchCount a b =
      matchCount ((w.leftText a).drop i) ((w.rightText b).drop j) := by
  simp only [Window.matchCount, Window.leftText, Window.rightText, List.drop_take,
    List.drop_drop, Nat.sub_sub]

/-- The windows around a block count what the texts before and behind it do: a part that is left
out is empty in one of the texts. -/
theorem totalCount_around (hw : w.Fits a b) (c : Block)
    (hl : c.left + c.length ≤ (w.leftText a).length)
    (hr : c.right + c.length ≤ (w.rightText b).length) :
    totalCount a b (w.around (w.place c)) =
      matchCount ((w.leftText a).take c.left) ((w.rightText b).take c.right) +
        matchCount ((w.leftText a).drop (c.left + c.length))
          ((w.rightText b).drop (c.right + c.length)) := by
  have hwl := hw.length_leftText
  have hwr := hw.length_rightText
  rw [Window.around, totalCount_append, Nat.add_comm]
  congr 1
  · split
    · rw [totalCount_single]
      exact matchCount_before w (by omega) (by omega)
    · rename_i h
      simp only [Window.place] at h
      rcases Nat.eq_zero_or_pos c.left with hz | hp
      · rw [hz, List.take_zero, matchCount_nil_left]; rfl
      · rw [show c.right = 0 by omega, List.take_zero, matchCount_nil_right]; rfl
  · simp only [Window.place, Nat.add_assoc]
    split
    · rw [totalCount_single, matchCount_behind]
    · rename_i h
      by_cases hz : (w.leftText a).length ≤ c.left + c.length
      · rw [List.drop_eq_nil_of_le hz, matchCount_nil_left]; rfl
      · rw [List.drop_eq_nil_of_le (show (w.rightText b).length ≤ _ by omega), matchCount_nil_right]; rfl

theorem Window.Fits.around (hw : w.Fits a b) {c : Block} (hc : c.IsCommon a b w) :
    ∀ v ∈ w.around c, v.Fits a b := by
  have h₁ := hw.left_end
  have h₂ := hw.right_end
  obtain ⟨h₃, h₄, h₅, h₆, _⟩ := hc
  intro v hv
  rw [Window.around, List.mem_append] at hv
  rcases hv with hv | hv
  · split at hv
    · obtain rfl := List.mem_singleton.mp hv
      exact ⟨h₄, h₁, h₆, h₂⟩
    · exact absurd hv List.not_mem_nil
  · split at hv
    · obtain rfl := List.mem_singleton.mp hv
      constructor <;> dsimp only <;> omega
    · exact absurd hv List.not_mem_nil

namespace BlockFinder

/-- The loop over the windows that are still to be searched, between two turns. -/
structure Loop where
  finder : BlockFinder
  counted : Nat
  windows : List Window

namespace Loop

def start (a b : List Char) : Loop := ⟨ofText b, 0, [Window.whole a b]⟩

def next (a : List Char) (l : Loop) : Loop :=
  match l.windows with
  | [] => l
  | w :: ws =>
    let (block, finder) := l.finder.longest a w
    if block.length = 0 then ⟨finder, l.counted, ws⟩
    else ⟨finder, l.counted + block.length, w.around block ++ ws⟩

structure Valid (l : Loop) (a b : List Char) : Prop where
  ready : l.finder.Ready b
  fits : ∀ w ∈ l.windows, w.Fits a b

def total (l : Loop) (a b : List Char) : Nat := l.counted + totalCount a b l.windows

theorem start_valid (a b : List Char) : (start a b).Valid a b :=
  ⟨ofText_ready b, fun _ hw => List.mem_singleton.mp hw ▸ Window.whole_fits a b⟩

theorem start_total (a b : List Char) : (start a b).total a b = matchCount a b := by
  simp [start, total, totalCount, Window.matchCount, Window.leftText, Window.rightText,
    Window.whole]

/-- One turn searches one window, counts its longest block and keeps the rest of its count in the
windows around the block. -/
theorem Valid.turn {l : Loop} (h : l.Valid a b) : (l.next a).Valid a b ∧
    (l.next a).total a b = l.total a b ∧
      (l.windows ≠ [] → totalWeight (l.next a).windows < totalWeight l.windows) := by
  rcases l with ⟨f, counted, _ | ⟨w, ws⟩⟩
  · exact ⟨h, rfl, fun hne => absurd rfl hne⟩
  · have hw : w.Fits a b := h.fits w List.mem_cons_self
    have hws : ∀ v ∈ ws, v.Fits a b := fun v hv => h.fits v (List.mem_cons_of_mem _ hv)
    obtain ⟨hlong, hready⟩ := h.ready.longest hw
    have hfound := hlong.unique hw.place_longestBlock
    have hcommon := hlong.common
    have hcount : w.matchCount a b = (f.longest a w).1.length +
        if (f.longest a w).1.length = 0 then 0
        else totalCount a b (w.around (f.longest a w).1) := by
      rw [hfound, Window.matchCount, matchCount]
      split
      · rename_i hz
        simp [Window.place, hz]
      · rename_i hz
        rw [if_neg (by simpa only [Window.place] using hz),
          totalCount_around hw _ (longestBlock_fits _ _) (longestBlock_fits_right _ _),
          Window.place, Nat.add_assoc]
    by_cases hz : (f.longest a w).1.length = 0
    · have hstep : (Loop.mk f counted (w :: ws)).next a = ⟨(f.longest a w).2, counted, ws⟩ := by
        simp [Loop.next, hz]
      rw [hstep]
      refine ⟨⟨hready, hws⟩, ?_, fun _ => ?_⟩
      · simp only [total, totalCount_cons, hcount, hz, if_true]
        omega
      · simp only [totalWeight, Window.weight]
        omega
    · have hstep : (Loop.mk f counted (w :: ws)).next a = ⟨(f.longest a w).2,
          counted + (f.longest a w).1.length, w.around (f.longest a w).1 ++ ws⟩ := by
        simp [Loop.next, hz]
      rw [hstep]
      refine ⟨⟨hready, fun v hv => ?_⟩, ?_, fun _ => ?_⟩
      · rcases List.mem_append.mp hv with hv | hv
        · exact hw.around hcommon v hv
        · exact hws v hv
      · simp only [total, totalCount_cons, totalCount_append, hcount, hz, if_false]
        omega
      · have := w.weight_around_lt _ (Nat.pos_of_ne_zero hz) hcommon.left_ge hcommon.left_le
        simp only [totalWeight_append, totalWeight]
        omega

theorem Valid.ends {l : Loop} (h : l.Valid a b) (n : Nat) (hn : totalWeight l.windows ≤ n) :
    ((next a)^[n] l).windows = [] ∧ ((next a)^[n] l).counted = l.total a b := by
  induction n generalizing l with
  | zero =>
      rcases l with ⟨f, counted, _ | ⟨w, ws⟩⟩
      · exact ⟨rfl, rfl⟩
      · simp only [totalWeight, Window.weight] at hn
        omega
  | succ n ih =>
      obtain ⟨hvalid, htotal, hless⟩ := h.turn
      rw [Function.iterate_succ_apply, ← htotal]
      refine ih hvalid ?_
      by_cases hne : l.windows = []
      · have : l.next a = l := by rw [Loop.next, hne]
        rw [this, hne]
        exact Nat.zero_le _
      · have := hless hne
        omega

/-- The recursion over the windows is this loop: the check it makes on a block never fails. -/
theorem Valid.countIn_next {l : Loop} (h : l.Valid a b) :
    (l.next a).counted + countIn a (l.next a).finder (l.next a).windows =
      l.counted + countIn a l.finder l.windows := by
  rcases l with ⟨f, counted, _ | ⟨w, ws⟩⟩
  · rfl
  · have hcommon := (h.ready.longest (h.fits w List.mem_cons_self)).1.common
    have hguard : (0 < (f.longest a w).1.length ∧ w.leftStart ≤ (f.longest a w).1.left ∧
        (f.longest a w).1.left + (f.longest a w).1.length ≤ w.leftEnd) ↔
        (f.longest a w).1.length ≠ 0 :=
      ⟨fun hg => Nat.ne_of_gt hg.1,
        fun hz => ⟨Nat.pos_of_ne_zero hz, hcommon.left_ge, hcommon.left_le⟩⟩
    rw [Loop.next, countIn]
    by_cases hz : (f.longest a w).1.length = 0
    · simp [hz]
    · simp only [hguard.mpr hz, hz, if_false]
      rw [if_pos ⟨trivial, trivial, trivial⟩]
      exact Nat.add_assoc _ _ _

theorem Valid.countIn_iterate {l : Loop} (h : l.Valid a b) (n : Nat) :
    ((next a)^[n] l).counted + countIn a ((next a)^[n] l).finder ((next a)^[n] l).windows =
      l.counted + countIn a l.finder l.windows := by
  induction n generalizing l with
  | zero => rfl
  | succ n ih => rw [Function.iterate_succ_apply, ih h.turn.1, h.countIn_next]

end Loop

theorem count_eq_matchCount (a b : List Char) : count a b = matchCount a b := by
  have hvalid := Loop.start_valid a b
  obtain ⟨hempty, hcounted⟩ := hvalid.ends _ le_rfl
  have h := hvalid.countIn_iterate (totalWeight (Loop.start a b).windows)
  rw [hempty, hcounted, Loop.start_total, countIn, Nat.add_zero] at h
  rw [h]
  exact (Nat.zero_add _).symm

end BlockFinder

end IndexTuning.Similarity
