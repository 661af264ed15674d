import IndexTuning.Proofs.Similarity.BlockCount
import Mathlib.Data.Rat.Cast.Defs
import Mathlib.Tactic.NormNum

namespace IndexTuning.Similarity

open Text BlockFinder

theorem precedes_iff (s t : List Char) : precedes s t = true ↔ s ≤ t := by
  induction s generalizing t with
  | nil =>
      have : ([] : List Char) ≤ t := not_lt.mp (List.not_lt_nil t)
      simp [precedes, this]
  | cons a s ih =>
      cases t with
      | nil =>
          have : ¬ a :: s ≤ [] := not_le.mpr (List.nil_lt_cons a s)
          simp [precedes, this]
      | cons b t =>
          rw [← not_lt, List.cons_lt_cons_iff, precedes, Bool.or_eq_true, decide_eq_true_eq,
            Bool.and_eq_true, beq_iff_eq, ih, ← not_lt]
          rcases lt_trichotomy a b with h | rfl | h
          · simp [h, not_lt_of_gt h, ne_of_gt h]
          · simp
          · simp [h, not_lt_of_gt h, ne_of_gt h]

theorem matching_eq (s t : List Char) : matching s t = matchCount (min s t) (max s t) := by
  rw [matching, count_eq_matchCount, count_eq_matchCount]
  by_cases h : s ≤ t
  · rw [if_pos ((precedes_iff s t).mpr h), min_eq_left h, max_eq_right h]
  · have h' := le_of_not_ge h
    rw [if_neg fun hp => h ((precedes_iff s t).mp hp), min_eq_right h', max_eq_left h']

def former (a b : String) : List Char := min (lowercase a.toList) (lowercase b.toList)

def latter (a b : String) : List Char := max (lowercase a.toList) (lowercase b.toList)

theorem ratioIn_eq {α : Type} [Mul α] [Div α] (ofNat : Nat → α) (a b : String)
    (h : ¬ (lowercase a.toList = [] ∧ lowercase b.toList = [])) :
    ratioIn ofNat a b = ofNat 2 * ofNat (matchCount (former a b) (latter a b)) /
      ofNat ((former a b).length + (latter a b).length) := by
  have hlen : (former a b).length + (latter a b).length =
      (lowercase a.toList).length + (lowercase b.toList).length := by
    rcases le_total (lowercase a.toList) (lowercase b.toList) with hle | hle
    · rw [former, latter, min_eq_left hle, max_eq_right hle]
    · rw [former, latter, min_eq_right hle, max_eq_left hle, Nat.add_comm]
  have htotal : ¬ (lowercase a.toList).length + (lowercase b.toList).length = 0 := by
    simpa only [Nat.add_eq_zero_iff, List.length_eq_zero_iff] using h
  rw [ratioIn, if_neg htotal, matching_eq, hlen]
  rfl

/-- The ratio is twice the characters of the blocks that exhaustive search finds over all
characters, and the loop that finds these blocks comes to an end. -/
theorem exactRatio_eq_exhaustive (a b : String) :
    (¬ (lowercase a.toList = [] ∧ lowercase b.toList = []) →
      exactRatio a b = 2 * matchCount (former a b) (latter a b) /
          ((former a b).length + (latter a b).length) ∧
        ratio a b = Nat.toFloat 2 * (matchCount (former a b) (latter a b)).toFloat /
          ((former a b).length + (latter a b).length).toFloat) ∧
      ∃ n, ((Loop.next (former a b))^[n] (Loop.start (former a b) (latter a b))).windows = [] ∧
        ((Loop.next (former a b))^[n] (Loop.start (former a b) (latter a b))).counted =
          matchCount (former a b) (latter a b) := by
  constructor
  · intro h
    refine ⟨?_, ratioIn_eq Nat.toFloat a b h⟩
    have hr := ratioIn_eq (Nat.cast : Nat → Rat) a b h
    rw [Nat.cast_add] at hr
    exact hr
  · obtain ⟨hempty, hcounted⟩ :=
      (Loop.start_valid (former a b) (latter a b)).ends _ le_rfl
    exact ⟨_, hempty, hcounted.trans (Loop.start_total _ _)⟩

theorem exactRatio_eq_exhaustive_abc :
    ¬ (lowercase "aBc".toList = [] ∧ lowercase "AxC".toList = []) ∧
      exactRatio "aBc" "AxC" = 2 / 3 := by
  have h : ¬ (lowercase "aBc".toList = [] ∧ lowercase "AxC".toList = []) := by decide
  have hcount : matchCount (former "aBc" "AxC") (latter "aBc" "AxC") = 2 := by decide +kernel
  have hformer : (former "aBc" "AxC").length = 3 := by decide
  have hlatter : (latter "aBc" "AxC").length = 3 := by decide
  refine ⟨h, ?_⟩
  rw [((exactRatio_eq_exhaustive "aBc" "AxC").1 h).1, hcount, hformer, hlatter]
  norm_num

end IndexTuning.Similarity
