import IndexTuning.MissingIndex
import IndexTuning.Proofs.Double
import IndexTuning.UnusedIndex
import Mathlib.Data.List.Basic

namespace IndexTuning

section Stable

variable {α : Type} {le : α → α → Bool}

variable (trans : ∀ a b c, le a b → le b c → le a c) (total : ∀ a b, (le a b || le b a) = true)

include trans total

end Stable

namespace Maintenance

theorem inOrder_iff {x y : Maintenance} : inOrder x y ↔
    y.fragmentation.orderKey ≤ x.fragmentation.orderKey := by
  rw [inOrder, decide_eq_true_eq]

theorem inOrder_trans (x y z : Maintenance) (hxy : inOrder x y) (hyz : inOrder y z) :
    inOrder x z := by
  rw [inOrder_iff] at hxy hyz ⊢
  exact Int.le_trans hyz hxy

theorem inOrder_total (x y : Maintenance) : (inOrder x y || inOrder y x) = true := by
  rw [Bool.or_eq_true, inOrder_iff, inOrder_iff]
  exact Int.le_total _ _

/-- The percentage of the first is at least that of the second. -/
def AtLeast (x y : Maintenance) : Prop :=
  ∃ p q, x.fragmentation.value? = some p ∧ y.fragmentation.value? = some q ∧ q ≤ p

theorem isFinite_of_classify? {t : Thresholds} {row : PhysicalStat} {x : Maintenance}
    (h : classify? t row = some x) : x.fragmentation.isFinite := by
  simp only [classify?, Option.bind_eq_bind, Option.bind_eq_some_iff, Option.some.injEq] at h
  obtain ⟨index, -, percent, hpercent, action, -, rfl⟩ := h
  exact (Option.filter_eq_some_iff.1 hpercent).2

theorem pairwise_analyze (t : Thresholds) (rows : List PhysicalStat) :
    (analyze t rows).Pairwise AtLeast := by
  have hfinite : ∀ x ∈ analyze t rows, x.fragmentation.isFinite := by
    intro x hx
    obtain ⟨row, -, hrow⟩ := List.mem_filterMap.1 (List.mem_mergeSort.1 hx)
    exact isFinite_of_classify? hrow
  apply (List.pairwise_mergeSort inOrder_trans inOrder_total _).imp_of_mem
  intro x y hx hy hxy
  obtain ⟨q, p, hq, hp, hle⟩ := Double.exists_value_le (hfinite y hy) (hfinite x hx)
    (inOrder_iff.1 hxy)
  exact ⟨p, q, hp, hq, hle⟩

end Maintenance

theorem UsageStat.reads_eq (row : UsageStat) :
    row.reads = (row.seeks + row.scans + row.lookups).bmod (2 ^ 64) := by
  have hsum : row.seeks.toInt64 + row.scans.toInt64 + row.lookups.toInt64 =
      Int64.ofInt (row.seeks + row.scans + row.lookups) := by
    rw [Int64.ofInt_add, Int64.ofInt_add]
  rw [reads, hsum, Int64.toInt_ofInt]
  rfl

/-- Counters so large that their sum comes round to nothing. -/
example : UnusedAction.forCounts {}
    (UsageStat.reads ⟨"Shop", "dbo", "Orders", some "IX", 2 ^ 63 - 1, 2 ^ 63 - 1, 2, 5, 8⟩) 5 =
      .drop := by decide

theorem UnusedIndex.inOrder_iff {x y : UnusedIndex} : inOrder x y ↔
    x.action.severity < y.action.severity ∨
      x.action.severity = y.action.severity ∧ y.sizeKb ≤ x.sizeKb := by
  simp [inOrder]

theorem UnusedIndex.inOrder_trans (x y z : UnusedIndex) (hxy : inOrder x y) (hyz : inOrder y z) :
    inOrder x z := by
  rw [inOrder_iff] at hxy hyz ⊢
  omega

theorem UnusedIndex.inOrder_total (x y : UnusedIndex) : (inOrder x y || inOrder y x) = true := by
  rw [Bool.or_eq_true, inOrder_iff, inOrder_iff]
  omega

theorem MissingIndex.inOrder_iff {x y : MissingIndex} : inOrder x y ↔
    x.action.severity < y.action.severity ∨ x.action.severity = y.action.severity ∧
      (y.averageImpact.orderKey < x.averageImpact.orderKey ∨
        x.averageImpact.orderKey = y.averageImpact.orderKey ∧
          y.seeks ≤ x.seeks) := by
  simp [inOrder]

theorem MissingIndex.inOrder_trans (x y z : MissingIndex) (hxy : inOrder x y) (hyz : inOrder y z) :
    inOrder x z := by
  rw [inOrder_iff] at hxy hyz ⊢
  omega

theorem MissingIndex.inOrder_total (x y : MissingIndex) :
    (inOrder x y || inOrder y x) = true := by
  rw [Bool.or_eq_true, inOrder_iff, inOrder_iff]
  omega

end IndexTuning
