import IndexTuning.Double
import Mathlib.Algebra.Order.Field.Rat
import Mathlib.Algebra.Order.Field.Power
import Mathlib.Data.Prod.Lex
import Mathlib.Tactic.Linarith
import Mathlib.Tactic.NormNum
import Mathlib.Tactic.Ring

namespace IndexTuning

namespace Decimal.Binary

def sign : Binary → ℤ
  | notANumber negative _ | infinite negative | finite negative _ _ => if negative then -1 else 1

def kind : Binary → ℤ
  | finite .. => 0
  | infinite _ => 1
  | notANumber .. => 2

def size : Binary → ℚ
  | finite _ mantissa exponent => mantissa * 2 ^ exponent
  | infinite _ => 0
  | notANumber _ payload => payload

/-- The place of a number in the order of all: what is not a number at both ends, further out the
larger its payload, then the infinities, and the finite numbers by value, negative zero before
zero. -/
def place (b : Binary) : ℤ ×ₗ ℚ ×ₗ ℤ := toLex (b.sign * b.kind, toLex (b.sign * b.size, b.sign))

def value? (b : Binary) : Option ℚ := if b.kind = 0 then some (b.sign * b.size) else none

theorem kind_nonneg (b : Binary) : 0 ≤ b.kind := by
  cases b <;> simp [kind]

theorem size_nonneg (b : Binary) : 0 ≤ b.size := by
  cases b with
  | notANumber _ payload => exact Nat.cast_nonneg payload
  | infinite _ => exact le_refl 0
  | finite _ mantissa exponent => exact mul_nonneg (Nat.cast_nonneg mantissa) (by positivity)

end Decimal.Binary

namespace Double

open Decimal

def place (x : Double) : ℤ ×ₗ ℚ ×ₗ ℤ := x.toBinary.place

def value? (x : Double) : Option ℚ := x.toBinary.value?

def isNegative (x : Double) : Bool := 2 ^ 63 ≤ x.bits.toNat

def magnitude (x : Double) : ℕ := x.bits.toNat % 2 ^ 63

/-- The finite number with this magnitude, in units of the least number above zero. -/
def units (m : ℕ) : ℕ :=
  if m / 2 ^ 52 = 0 then m % 2 ^ 52 else (2 ^ 52 + m % 2 ^ 52) * 2 ^ (m / 2 ^ 52 - 1)

theorem strictMono_units : StrictMono units := by
  apply strictMono_nat_of_lt_succ
  intro m
  rw [units, units]
  by_cases hcarry : m % 2 ^ 52 = 2 ^ 52 - 1
  · -- the exponent goes up by one, and the fraction starts again
    have hexp : (m + 1) / 2 ^ 52 = m / 2 ^ 52 + 1 := by omega
    have hfrac : (m + 1) % 2 ^ 52 = 0 := by omega
    rw [hexp, hfrac, hcarry, if_neg (Nat.succ_ne_zero _), Nat.add_sub_cancel]
    split
    · rename_i hzero
      rw [hzero]
      norm_num
    · rename_i hpos
      obtain ⟨k, hk⟩ := Nat.exists_eq_succ_of_ne_zero hpos
      rw [hk, Nat.succ_sub_one, pow_succ]
      have := Nat.two_pow_pos k
      omega
  · have hexp : (m + 1) / 2 ^ 52 = m / 2 ^ 52 := by omega
    have hfrac : (m + 1) % 2 ^ 52 = m % 2 ^ 52 + 1 := by omega
    rw [hexp, hfrac]
    split
    · exact Nat.lt_succ_self _
    · exact Nat.mul_lt_mul_of_pos_right (by omega) (Nat.two_pow_pos _)

def infiniteMagnitude : ℕ := 0x7FF * 2 ^ 52

def rank (m : ℕ) : ℤ ×ₗ ℚ :=
  if m < infiniteMagnitude then toLex (0, units m * 2 ^ (-1074 : ℤ))
  else if m = infiniteMagnitude then toLex (1, 0)
  else toLex (2, ((m - infiniteMagnitude : ℕ) : ℚ))

theorem rank_lt {m n : ℕ} (h : m < n) : rank m < rank n := by
  have hunit : (0 : ℚ) < 2 ^ (-1074 : ℤ) := by positivity
  rw [rank, rank]
  split_ifs
  all_goals rw [Prod.Lex.toLex_lt_toLex]
  -- between numbers of two kinds there is nothing else to compare
  any_goals omega
  · exact Or.inr ⟨rfl, mul_lt_mul_of_pos_right (Nat.cast_lt.2 (strictMono_units h)) hunit⟩
  · have hpayload : m - infiniteMagnitude < n - infiniteMagnitude := by omega
    exact Or.inr ⟨rfl, Nat.cast_lt.2 hpayload⟩

variable (x y : Double)

theorem magnitude_lt : x.magnitude < 2 ^ 63 := Nat.mod_lt _ (Nat.two_pow_pos 63)

theorem toBinary_eq : x.toBinary =
    if x.magnitude / 2 ^ 52 = 0x7FF then
      if x.magnitude % 2 ^ 52 = 0 then .infinite x.isNegative
      else .notANumber x.isNegative (x.magnitude % 2 ^ 52)
    else if x.magnitude / 2 ^ 52 = 0 then .finite x.isNegative (x.magnitude % 2 ^ 52) (-1074)
    else .finite x.isNegative (2 ^ 52 + x.magnitude % 2 ^ 52)
      ((x.magnitude / 2 ^ 52 : ℕ) - 1075) := by
  have hlt : x.bits.toNat < 2 ^ 64 := x.bits.toNat_lt
  have hsign : (x.bits >>> 63 == 1) = x.isNegative := by
    have htoNat : (x.bits >>> 63).toNat = x.bits.toNat / 2 ^ 63 := by
      rw [UInt64.toNat_shiftRight, Nat.shiftRight_eq_div_pow]
      rfl
    rw [isNegative, Bool.beq_eq_decide_eq, decide_eq_decide, ← UInt64.toNat_inj, htoNat]
    change x.bits.toNat / 2 ^ 63 = 1 ↔ _
    omega
  have hexp : ((x.bits >>> 52) &&& 0x7FF).toNat = x.magnitude / 2 ^ 52 := by
    have hmask : (0x7FF : UInt64).toNat = 2 ^ 11 - 1 := rfl
    rw [UInt64.toNat_and, UInt64.toNat_shiftRight, Nat.shiftRight_eq_div_pow, hmask,
      Nat.and_two_pow_sub_one_eq_mod, magnitude]
    change x.bits.toNat / 2 ^ 52 % 2 ^ 11 = _
    omega
  have hfrac : (x.bits &&& 0xFFFFFFFFFFFFF).toNat = x.magnitude % 2 ^ 52 := by
    have hmask : (0xFFFFFFFFFFFFF : UInt64).toNat = 2 ^ 52 - 1 := rfl
    rw [UInt64.toNat_and, hmask, Nat.and_two_pow_sub_one_eq_mod, magnitude]
    omega
  simp only [toBinary, Binary.ofBits, hsign, hexp, hfrac]
  rfl

theorem sign_toBinary : x.toBinary.sign = if x.isNegative then -1 else 1 := by
  rw [toBinary_eq]
  split_ifs <;> simp_all [Binary.sign]

theorem rank_toBinary : toLex (x.toBinary.kind, x.toBinary.size) = rank x.magnitude := by
  have hlt := x.magnitude_lt
  rw [toBinary_eq, rank, infiniteMagnitude]
  split_ifs
  any_goals omega
  · rfl
  · have hpayload : x.magnitude - 0x7FF * 2 ^ 52 = x.magnitude % 2 ^ 52 := by omega
    rw [hpayload]
    rfl
  · rename_i _ hsubnormal _
    rw [units, if_pos hsubnormal]
    rfl
  · rename_i _ hnormal _
    have hexp : ((x.magnitude / 2 ^ 52 : ℕ) : ℤ) - 1075 =
        ((x.magnitude / 2 ^ 52 - 1 : ℕ) : ℤ) + -1074 := by omega
    rw [units, if_neg hnormal, hexp]
    simp only [Binary.kind, Binary.size]
    rw [zpow_add₀ two_ne_zero, zpow_natCast, ← mul_assoc, Nat.cast_mul, Nat.cast_pow, Nat.cast_two]

theorem orderKey_eq :
    x.orderKey = if x.isNegative then -1 - (x.magnitude : ℤ) else x.magnitude := by
  have hlt : x.bits.toNat < 2 ^ 64 := x.bits.toNat_lt
  have hkey : x.orderKey =
      if x.bits.toNat < 2 ^ 63 then (x.bits.toNat : ℤ) else 2 ^ 63 - x.bits.toNat - 1 := rfl
  simp only [hkey, magnitude, isNegative, decide_eq_true_eq]
  split_ifs <;> omega

variable {x y}

theorem place_lt (h : x.orderKey < y.orderKey) : x.place < y.place := by
  have hlt (x y : Double) (h : x.magnitude < y.magnitude) : x.toBinary.kind < y.toBinary.kind ∨
      x.toBinary.kind = y.toBinary.kind ∧ x.toBinary.size < y.toBinary.size := by
    have hrank := rank_lt h
    rwa [← rank_toBinary, ← rank_toBinary, Prod.Lex.toLex_lt_toLex] at hrank
  rw [orderKey_eq, orderKey_eq] at h
  rw [place, place, Binary.place, Binary.place, Prod.Lex.toLex_lt_toLex, Prod.Lex.toLex_lt_toLex,
    sign_toBinary, sign_toBinary]
  cases hx : x.isNegative <;> cases hy : y.isNegative <;>
    simp only [hx, hy, Bool.false_eq_true, if_true, if_false, Int.cast_neg,
      Int.cast_one, neg_one_mul, one_mul] at h ⊢
  · exact (hlt x y (by omega)).imp_right fun ⟨hkind, hsize⟩ => ⟨hkind, Or.inl hsize⟩
  · omega
  · have hkinds : -x.toBinary.kind ≤ y.toBinary.kind :=
      (neg_nonpos.2 x.toBinary.kind_nonneg).trans y.toBinary.kind_nonneg
    have hsizes : -x.toBinary.size ≤ y.toBinary.size :=
      (neg_nonpos.2 x.toBinary.size_nonneg).trans y.toBinary.size_nonneg
    refine hkinds.lt_or_eq.imp_right fun hkind => ⟨hkind, ?_⟩
    exact hsizes.lt_or_eq.imp_right fun hsize => ⟨hsize, by decide⟩
  · refine (hlt y x (by omega)).imp neg_lt_neg fun ⟨hkind, hsize⟩ => ⟨?_, Or.inl (neg_lt_neg hsize)⟩
    rw [hkind]

theorem eq_of_orderKey_eq (h : x.orderKey = y.orderKey) : x = y := by
  have hx : x.bits.toNat < 2 ^ 64 := x.bits.toNat_lt
  have hy : y.bits.toNat < 2 ^ 64 := y.bits.toNat_lt
  have hbits : x.bits.toNat = y.bits.toNat := by
    rw [orderKey_eq, orderKey_eq] at h
    simp only [magnitude, isNegative, decide_eq_true_eq] at h
    split_ifs at h <;> omega
  exact congrArg mk (UInt64.toNat_inj.1 hbits)

/-- The order is that of the places. -/
theorem orderKey_le_iff : x.orderKey ≤ y.orderKey ↔ x.place ≤ y.place := by
  constructor
  · intro h
    obtain hlt | heq := h.lt_or_eq
    · exact (place_lt hlt).le
    · rw [eq_of_orderKey_eq heq]
  · intro h
    by_contra hlt
    exact (place_lt (not_le.1 hlt)).not_ge h

example : orderKey ⟨0xFFF8000000000000⟩ < orderKey ⟨0xFFF0000000000000⟩ := by decide

theorem exists_value (h : x.isFinite) : ∃ q, x.value? = some q ∧
    x.place = toLex (0, toLex (q, x.toBinary.sign)) := by
  have hkind : x.toBinary.kind = 0 := by
    rw [isFinite] at h
    cases hbinary : x.toBinary <;> simp_all [Binary.kind]
  refine ⟨x.toBinary.sign * x.toBinary.size, ?_, ?_⟩
  · rw [value?, Binary.value?, if_pos hkind]
  · rw [place, Binary.place, hkind, mul_zero]

theorem exists_value_le (hx : x.isFinite) (hy : y.isFinite) (h : x.orderKey ≤ y.orderKey) :
    ∃ p q, x.value? = some p ∧ y.value? = some q ∧ p ≤ q := by
  obtain ⟨p, hp, hplace⟩ := exists_value hx
  obtain ⟨q, hq, hplace'⟩ := exists_value hy
  rw [orderKey_le_iff, hplace, hplace', Prod.Lex.toLex_le_toLex, Prod.Lex.toLex_le_toLex] at h
  refine ⟨p, q, hp, hq, ?_⟩
  obtain hlt | ⟨-, hle⟩ := h
  · exact absurd hlt (lt_irrefl _)
  · exact hle.elim le_of_lt fun heq => heq.1.le

end Double

end IndexTuning
