import IndexTuning.Similarity.BlockFinder
import Mathlib.Data.Nat.Basic
import Mathlib.Order.Basic

namespace IndexTuning.Similarity

variable {a b : List Char} {w : Window}

structure Window.Fits (w : Window) (a b : List Char) : Prop where
  left : w.leftStart ≤ w.leftEnd
  left_end : w.leftEnd ≤ a.length
  right : w.rightStart ≤ w.rightEnd
  right_end : w.rightEnd ≤ b.length

/-- A block inside a window on whose characters two texts agree. -/
structure Block.IsCommon (a b : List Char) (w : Window) (c : Block) : Prop where
  left_ge : w.leftStart ≤ c.left
  left_le : c.left + c.length ≤ w.leftEnd
  right_ge : w.rightStart ≤ c.right
  right_le : c.right + c.length ≤ w.rightEnd
  agree : ∀ n < c.length, a[c.left + n]? = b[c.right + n]?

def Block.StartsBy (c d : Block) : Prop := c.left < d.left ∨ c.left = d.left ∧ c.right ≤ d.right

/-- A longest common block of a window, the first of several. -/
structure Block.IsLongest (a b : List Char) (w : Window) (c : Block) : Prop where
  common : c.IsCommon a b w
  longest : ∀ d : Block, d.IsCommon a b w → d.length ≤ c.length
  first : ∀ d : Block, d.IsCommon a b w → d.length = c.length → c.StartsBy d

theorem Block.StartsBy.refl (c : Block) : c.StartsBy c := .inr ⟨rfl, le_rfl⟩

theorem Block.StartsBy.trans {c d e : Block} (h : c.StartsBy d) (k : d.StartsBy e) :
    c.StartsBy e := by
  unfold Block.StartsBy at *
  omega

theorem Block.IsLongest.unique {c d : Block} (hc : c.IsLongest a b w) (hd : d.IsLongest a b w) :
    c = d := by
  have hl : c.length = d.length :=
    le_antisymm (hd.longest c hc.common) (hc.longest d hd.common)
  have h := hc.first d hd.common hl.symm
  have k := hd.first c hc.common hl
  unfold Block.StartsBy at h k
  cases c; cases d
  simp only [Block.mk.injEq] at *
  omega

def Window.origin (w : Window) : Block := ⟨w.leftStart, w.rightStart, 0⟩

theorem Window.Fits.origin_isCommon (hw : w.Fits a b) : w.origin.IsCommon a b w :=
  ⟨le_rfl, hw.left, le_rfl, hw.right, fun _ h => absurd h (Nat.not_lt_zero _)⟩

def Block.MetBefore (c d : Block) : Prop := c.length = d.length → c.StartsBy d

theorem foldl_longer (bs : List Block) (best : Block) (h : (best :: bs).Pairwise Block.MetBefore) :
    bs.foldl longer best ∈ best :: bs ∧ ∀ c ∈ best :: bs, c.length ≤ (bs.foldl longer best).length ∧
      (c.length = (bs.foldl longer best).length → (bs.foldl longer best).StartsBy c) := by
  induction bs generalizing best with
  | nil => simp [Block.StartsBy.refl]
  | cons c bs ih =>
      obtain ⟨hbest, hc, hbs⟩ : (∀ d ∈ c :: bs, best.MetBefore d) ∧ (∀ d ∈ bs, c.MetBefore d) ∧
          bs.Pairwise Block.MetBefore := by simpa only [List.pairwise_cons] using h
      rw [List.foldl_cons]
      by_cases hlt : best.length < c.length
      · rw [longer, if_pos hlt]
        obtain ⟨hmem, hall⟩ := ih c (List.pairwise_cons.mpr ⟨hc, hbs⟩)
        refine ⟨List.mem_cons_of_mem _ hmem, ?_⟩
        intro d hd
        rcases List.mem_cons.mp hd with rfl | hd
        · have := (hall c List.mem_cons_self).1
          exact ⟨by omega, fun he => by omega⟩
        · exact hall d hd
      · rw [longer, if_neg hlt]
        obtain ⟨hmem, hall⟩ :=
          ih best (List.pairwise_cons.mpr ⟨fun d hd => hbest d (List.mem_cons_of_mem _ hd), hbs⟩)
        refine ⟨?_, ?_⟩
        · rcases List.mem_cons.mp hmem with he | hm
          · rw [he]; exact List.mem_cons_self
          · exact List.mem_cons_of_mem _ (List.mem_cons_of_mem _ hm)
        · intro d hd
          have hb := hall best List.mem_cons_self
          rcases List.mem_cons.mp hd with rfl | hd
          · exact hb
          · rcases List.mem_cons.mp hd with rfl | hd
            · refine ⟨by omega, fun he => ?_⟩
              exact (hb.2 (by omega)).trans (hbest d List.mem_cons_self (by omega))
            · exact hall d (List.mem_cons_of_mem _ hd)

/-- A list of common blocks in which every other one is extended or met at its very place yields the
longest. -/
theorem isLongest_foldl_longer (hw : w.Fits a b) (bs : List Block)
    (hcommon : ∀ c ∈ bs, c.IsCommon a b w) (hmet : bs.Pairwise Block.MetBefore)
    (hcover : ∀ d : Block, d.IsCommon a b w → 0 < d.length → ∃ c ∈ bs, d.length ≤ c.length ∧
      (c.length = d.length → c = d)) :
    (bs.foldl longer w.origin).IsLongest a b w := by
  have horigin : ∀ c ∈ bs, w.origin.MetBefore c := by
    intro c hc _
    have hc' := hcommon c hc
    have h₁ := hc'.left_ge
    have h₂ := hc'.right_ge
    simp only [Block.StartsBy, Window.origin]
    omega
  obtain ⟨hmem, hall⟩ := foldl_longer bs w.origin (List.pairwise_cons.mpr ⟨horigin, hmet⟩)
  have hlongest : ∀ d : Block, d.IsCommon a b w → d.length ≤ (bs.foldl longer w.origin).length ∧
      (d.length = (bs.foldl longer w.origin).length → (bs.foldl longer w.origin).StartsBy d) := by
    intro d hd
    rcases Nat.eq_zero_or_pos d.length with hz | hp
    · have horig : w.origin.length = 0 := rfl
      refine ⟨by omega, fun he => ?_⟩
      refine ((hall _ List.mem_cons_self).2 (by omega)).trans ?_
      have h₁ := hd.left_ge
      have h₂ := hd.right_ge
      simp only [Block.StartsBy, Window.origin]
      omega
    · obtain ⟨c, hc, hle, heq⟩ := hcover d hd hp
      obtain ⟨h₁, h₂⟩ := hall c (List.mem_cons_of_mem _ hc)
      refine ⟨hle.trans h₁, fun he => ?_⟩
      have hcd : c.length = d.length := by omega
      rw [← heq hcd]
      exact h₂ (by omega)
  refine ⟨?_, fun d hd => (hlongest d hd).1, fun d hd => (hlongest d hd).2⟩
  rcases List.mem_cons.mp hmem with he | hm
  · rw [he]; exact hw.origin_isCommon
  · exact hcommon _ hm

theorem agree_of_lt_commonStart (s t : List Char) (n : Nat) (h : n < commonStart s t) :
    s[n]? = t[n]? := by
  induction s generalizing t n with
  | nil => simp [commonStart] at h
  | cons c s ih =>
      cases t with
      | nil => simp [commonStart] at h
      | cons d t =>
          by_cases hc : c = d
          · rw [commonStart, if_pos hc] at h
            cases n with
            | zero => simp [hc]
            | succ n => simpa using ih t n (by omega)
          · simp [commonStart, hc] at h

theorem commonStart_le_right (s t : List Char) : commonStart s t ≤ t.length := by
  fun_induction commonStart s t <;> simp_all

theorem le_commonStart (s t : List Char) (k : Nat) (hs : k ≤ s.length) (ht : k ≤ t.length)
    (h : ∀ n < k, s[n]? = t[n]?) : k ≤ commonStart s t := by
  induction s generalizing t k with
  | nil => exact hs.trans (Nat.zero_le _)
  | cons c s ih =>
      cases k with
      | zero => exact Nat.zero_le _
      | succ k =>
          cases t with
          | nil => simp at ht
          | cons d t =>
              have hc : c = d := by simpa using h 0 (Nat.succ_pos k)
              rw [commonStart, if_pos hc]
              have := ih t k (by simpa using hs) (by simpa using ht)
                (fun n hn => by simpa using h (n + 1) (by omega))
              omega

def Window.whole (a b : List Char) : Window := ⟨0, a.length, 0, b.length⟩

theorem Window.whole_fits (a b : List Char) : (Window.whole a b).Fits a b :=
  ⟨Nat.zero_le _, le_rfl, Nat.zero_le _, le_rfl⟩

theorem mem_blocks {a b : List Char} {c : Block} : c ∈ blocks a b ↔
    c.left < a.length ∧ c.right < b.length ∧
      c.length = commonStart (a.drop c.left) (b.drop c.right) := by
  simp only [blocks, List.mem_flatMap, List.mem_range, List.mem_map]
  constructor
  · rintro ⟨i, hi, j, hj, rfl⟩
    exact ⟨hi, hj, rfl⟩
  · rintro ⟨hi, hj, hl⟩
    exact ⟨c.left, hi, c.right, hj, by rw [← hl]⟩

theorem isCommon_of_mem_blocks {a b : List Char} {c : Block} (h : c ∈ blocks a b) :
    c.IsCommon a b (Window.whole a b) := by
  obtain ⟨hi, hj, hl⟩ := mem_blocks.mp h
  have hs := commonStart_le (a.drop c.left) (b.drop c.right)
  have ht := commonStart_le_right (a.drop c.left) (b.drop c.right)
  simp only [List.length_drop] at hs ht
  refine ⟨Nat.zero_le _, ?_, Nat.zero_le _, ?_, ?_⟩
  · simp only [Window.whole]; omega
  · simp only [Window.whole]; omega
  · intro n hn
    have h := agree_of_lt_commonStart _ _ n (hl ▸ hn)
    rwa [List.getElem?_drop, List.getElem?_drop] at h

theorem pairwise_blocks (a b : List Char) : (blocks a b).Pairwise Block.MetBefore := by
  rw [blocks, List.pairwise_flatMap]
  constructor
  · intro i _
    rw [List.pairwise_map]
    refine List.pairwise_lt_range.imp ?_
    intro j k hjk _
    exact .inr ⟨rfl, Nat.le_of_lt hjk⟩
  · refine List.pairwise_lt_range.imp ?_
    intro i k hik c hc d hd _
    obtain ⟨_, _, rfl⟩ := List.mem_map.mp hc
    obtain ⟨_, _, rfl⟩ := List.mem_map.mp hd
    exact .inl hik

theorem longestBlock_isLongest (a b : List Char) :
    (longestBlock a b).IsLongest a b (Window.whole a b) := by
  refine isLongest_foldl_longer (Window.whole_fits a b) (blocks a b)
    (fun c hc => isCommon_of_mem_blocks hc) (pairwise_blocks a b) ?_
  intro d hd hpos
  have hl := hd.left_le
  have hr := hd.right_le
  simp only [Window.whole] at hl hr
  refine ⟨⟨d.left, d.right, commonStart (a.drop d.left) (b.drop d.right)⟩, ?_, ?_, ?_⟩
  · exact mem_blocks.mpr ⟨by dsimp only; omega, by dsimp only; omega, rfl⟩
  · refine le_commonStart _ _ _ ?_ ?_ ?_
    · rw [List.length_drop]; omega
    · rw [List.length_drop]; omega
    · simpa only [List.getElem?_drop] using hd.agree
  · intro he
    simp only at he
    rw [he]

namespace Window

def leftText (w : Window) (a : List Char) : List Char :=
  (a.drop w.leftStart).take (w.leftEnd - w.leftStart)

def rightText (w : Window) (b : List Char) : List Char :=
  (b.drop w.rightStart).take (w.rightEnd - w.rightStart)

def place (w : Window) (c : Block) : Block :=
  ⟨w.leftStart + c.left, w.rightStart + c.right, c.length⟩

theorem Fits.length_leftText (hw : w.Fits a b) :
    (w.leftText a).length = w.leftEnd - w.leftStart := by
  have := hw.left_end
  simp only [leftText, List.length_take, List.length_drop]
  omega

theorem Fits.length_rightText (hw : w.Fits a b) :
    (w.rightText b).length = w.rightEnd - w.rightStart := by
  have := hw.right_end
  simp only [rightText, List.length_take, List.length_drop]
  omega

theorem getElem?_leftText (w : Window) (a : List Char) {n : Nat}
    (h : n < w.leftEnd - w.leftStart) : (w.leftText a)[n]? = a[w.leftStart + n]? := by
  rw [leftText, List.getElem?_take_of_lt h, List.getElem?_drop]

theorem getElem?_rightText (w : Window) (b : List Char) {n : Nat}
    (h : n < w.rightEnd - w.rightStart) : (w.rightText b)[n]? = b[w.rightStart + n]? := by
  rw [rightText, List.getElem?_take_of_lt h, List.getElem?_drop]

theorem Fits.place_isCommon_iff (hw : w.Fits a b) (c : Block) :
    (w.place c).IsCommon a b w ↔
      c.IsCommon (w.leftText a) (w.rightText b) (whole (w.leftText a) (w.rightText b)) := by
  have hl := hw.left
  have hr := hw.right
  have agree_iff (h₁ : c.left + c.length ≤ w.leftEnd - w.leftStart)
      (h₂ : c.right + c.length ≤ w.rightEnd - w.rightStart) :
      (∀ n < c.length, a[w.leftStart + c.left + n]? = b[w.rightStart + c.right + n]?) ↔
        ∀ n < c.length, (w.leftText a)[c.left + n]? = (w.rightText b)[c.right + n]? := by
    refine forall₂_congr fun n hn => ?_
    rw [getElem?_leftText w a (by omega), getElem?_rightText w b (by omega), Nat.add_assoc,
      Nat.add_assoc]
  constructor
  · rintro ⟨_, h₁, _, h₂, h⟩
    simp only [place] at h₁ h₂ h
    refine ⟨Nat.zero_le _, ?_, Nat.zero_le _, ?_, (agree_iff (by omega) (by omega)).mp h⟩
    · simp only [whole, hw.length_leftText]; omega
    · simp only [whole, hw.length_rightText]; omega
  · rintro ⟨_, h₁, _, h₂, h⟩
    simp only [whole, hw.length_leftText, hw.length_rightText] at h₁ h₂
    refine ⟨?_, ?_, ?_, ?_, (agree_iff h₁ h₂).mpr h⟩ <;> simp only [place] <;> omega

theorem Fits.place_longestBlock (hw : w.Fits a b) :
    (w.place (longestBlock (w.leftText a) (w.rightText b))).IsLongest a b w := by
  have h := longestBlock_isLongest (w.leftText a) (w.rightText b)
  have inside (d : Block) (hd : d.IsCommon a b w) : ∃ e : Block, w.place e = d ∧
      e.IsCommon (w.leftText a) (w.rightText b) (whole (w.leftText a) (w.rightText b)) := by
    have h₁ := hd.left_ge
    have h₂ := hd.right_ge
    have he : w.place ⟨d.left - w.leftStart, d.right - w.rightStart, d.length⟩ = d := by
      cases d
      simp only [place, Block.mk.injEq, and_true] at h₁ h₂ ⊢
      omega
    exact ⟨_, he, (hw.place_isCommon_iff _).mp (by rw [he]; exact hd)⟩
  refine ⟨(hw.place_isCommon_iff _).mpr h.common, ?_, ?_⟩
  · intro d hd
    obtain ⟨e, rfl, he⟩ := inside d hd
    exact h.longest e he
  · intro d hd hl
    obtain ⟨e, rfl, he⟩ := inside d hd
    have hs := h.first e he hl
    simp only [Block.StartsBy, place] at hs ⊢
    omega

end Window

end IndexTuning.Similarity
