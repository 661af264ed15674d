import IndexTuning.Proofs.Build
import IndexTuning.Proofs.Order
import Mathlib.Data.Prod.Lex

namespace IndexTuning

open OrderDual

section Keys

variable {α β κ : Type} [LinearOrder κ] {key : α → κ} {le : α → α → Bool} {inject : β → α}
  {part? : α → Option β}

end Keys

namespace Maintenance

/-- The most fragmented first. -/
def key (m : Maintenance) : (ℤ ×ₗ ℚ ×ₗ ℤ)ᵒᵈ := toDual m.fragmentation.place

end Maintenance

namespace UnusedIndex

/-- The most severe first, then the largest. -/
def key (u : UnusedIndex) : ℕ ×ₗ ℤᵒᵈ := toLex (u.action.severity, toDual u.sizeKb)

end UnusedIndex

namespace MissingIndex

/-- The most severe first, then the one with the greatest impact, then the most sought. -/
def key (m : MissingIndex) : ℕ ×ₗ (ℤ ×ₗ ℚ ×ₗ ℤ)ᵒᵈ ×ₗ ℤᵒᵈ :=
  toLex (m.action.severity, toLex (toDual m.averageImpact.place, toDual m.seeks))

end MissingIndex

/-- Larger sizes are not smaller numbers. -/
def Double.KeepsOrder (sizes : List Int) : Prop :=
  ∀ a ∈ sizes, ∀ b ∈ sizes, a ≤ b →
    (Double.ofInt a).place ≤ (Double.ofInt b).place

instance (sizes : List Int) : Decidable (Double.KeepsOrder sizes) :=
  decidable_of_iff (∀ a ∈ sizes, ∀ b ∈ sizes, a ≤ b →
    (Double.ofInt a).orderKey ≤ (Double.ofInt b).orderKey)
    (by simp only [Double.KeepsOrder, Double.orderKey_le_iff])

namespace Recommendation

/-- The most severe first, then the weightiest. -/
def key (r : Recommendation) : ℕ ×ₗ (ℤ ×ₗ ℚ ×ₗ ℤ)ᵒᵈ :=
  toLex (r.severity, toDual r.weight.place)

variable (us : List UnusedIndex) (ms : List MissingIndex)

end Recommendation

namespace Report

open Recommendation

variable {r : Report} {t : Thresholds} {m : Type → Type} [Monad m]

structure IsSorted (r : Report) : Prop where
  unused : r.unused.Pairwise (·.key ≤ ·.key)
  missing : r.missing.Pairwise (·.key ≤ ·.key)

theorem IsSorted.confineUnused (h : r.IsSorted) (database : String) :
    (r.confineUnused database).2.IsSorted where
  unused := h.unused.filter _
  missing := h.missing

end Report

end IndexTuning
