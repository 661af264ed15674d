import IndexTuning.Text.Blank
import IndexTuning.Text.Fold
import IndexTuning.Text.Word

namespace IndexTuning.Text

theorem toNat_ofNat_cases (n : Nat) : (Char.ofNat n).toNat = n ∨ (Char.ofNat n).toNat = 0 := by
  by_cases h : n.isValidChar
  · exact Or.inl (by rw [Char.ofNat, dif_pos h]; rfl)
  · exact Or.inr (by rw [Char.ofNat, dif_neg h]; rfl)

theorem mem_foldRules_of_target_lt : ∀ r ∈ foldRules, r.target < 128 →
    r.first = r.last ∧ (r.first = 383 ∨ r.first = 8490) := by decide +kernel

/-- Beyond ASCII only the long s and the Kelvin sign fold to an ASCII letter. -/
theorem toNat_of_fold_lt {c : Char} (h : 128 ≤ c.toNat) (hpos : 0 < (fold c).toNat)
    (hlt : (fold c).toNat < 128) : c.toNat = 383 ∨ c.toNat = 8490 := by
  rw [fold, if_neg (by omega), mapCase] at hpos hlt
  cases hr : foldRules.find? (·.covers c.toNat) with
  | none =>
      rw [hr] at hlt
      exact absurd hlt (Nat.not_lt_of_le h)
  | some r =>
      rw [hr] at hpos hlt
      dsimp only at hpos hlt
      have hcov := List.find?_some hr
      simp only [CaseRule.covers, Bool.and_eq_true, decide_eq_true_eq] at hcov
      rcases toNat_ofNat_cases (r.target + (c.toNat - r.first)) with he | he
      · rw [he] at hlt
        obtain ⟨hl, hf⟩ := mem_foldRules_of_target_lt r (List.mem_of_find?_eq_some hr) (by omega)
        omega
      · omega

theorem forall_ascii (P : Char → Prop) (h : ∀ n < 128, P (Char.ofNat n)) (c : Char)
    (hc : c.toNat < 128) : P c := by
  have hp := h c.toNat hc
  rwa [Char.ofNat_toNat] at hp

theorem toNat_lt_of_isAlphanum {c : Char} (h : c.isAlphanum) : c.toNat < 128 := by
  have hranges : (decide (c.val ≥ 'A'.val ∧ c.val ≤ 'Z'.val) ||
      decide (c.val ≥ 'a'.val) && decide (c.val ≤ 'z'.val) ||
      decide (c.val ≥ '0'.val) && decide (c.val ≤ '9'.val)) = true := h
  simp only [Bool.or_eq_true, Bool.and_eq_true, decide_eq_true_eq, UInt32.le_iff_toNat_le,
    ge_iff_le] at hranges
  have hz : 'z'.val.toNat = 122 := rfl
  have hZ : 'Z'.val.toNat = 90 := rfl
  have h9 : '9'.val.toNat = 57 := rfl
  change c.val.toNat < 128
  omega

theorem isLatinLetter_of_fold {c d : Char} (h : fold c = d) (hd : d.isLower) :
    isLatinLetter c := by
  rw [isLatinLetter, h]
  exact hd

/-- A property of Latin letters is checked on those of ASCII, the long s and the Kelvin sign. -/
theorem forall_isLatinLetter (P : Char → Prop)
    (hascii : ∀ n < 128, (Char.ofNat n).toLower.isLower → P (Char.ofNat n))
    (hlong : P (Char.ofNat 383)) (hkelvin : P (Char.ofNat 8490)) (c : Char)
    (h : isLatinLetter c) : P c := by
  have hl : 97 ≤ (fold c).toNat ∧ (fold c).toNat ≤ 122 := by
    have hrange : (decide ((fold c).val ≥ 'a'.val) && decide ((fold c).val ≤ 'z'.val)) = true := h
    rw [Bool.and_eq_true, decide_eq_true_eq, decide_eq_true_eq] at hrange
    exact ⟨UInt32.le_iff_toNat_le.1 hrange.1, UInt32.le_iff_toNat_le.1 hrange.2⟩
  by_cases hc : c.toNat < 128
  · rw [isLatinLetter, fold, if_pos hc] at h
    exact forall_ascii (fun c => c.toLower.isLower → P c) hascii c hc h
  · rcases toNat_of_fold_lt (Nat.le_of_not_lt hc) (by omega) (by omega) with hn | hn
    · rwa [← Char.ofNat_toNat c, hn]
    · rwa [← Char.ofNat_toNat c, hn]

theorem isWord_of_isLatinLetter {c : Char} (h : isLatinLetter c) : isWord c :=
  forall_isLatinLetter (fun c => isWord c) (by decide) (by decide) (by decide +kernel) c h

theorem isDecimalDigit_of_isLatinLetter {c : Char} (h : isLatinLetter c) :
    isDecimalDigit c = false :=
  forall_isLatinLetter (fun c => isDecimalDigit c = false) (by decide) (by decide)
    (by decide +kernel) c h

def blankCodes : List Nat :=
  [9, 10, 11, 12, 13, 0x20, 0x85, 0xA0, 0x1680, 0x2000, 0x2001, 0x2002, 0x2003, 0x2004, 0x2005,
    0x2006, 0x2007, 0x2008, 0x2009, 0x200A, 0x2028, 0x2029, 0x202F, 0x205F, 0x3000]

theorem forall_isBlank (P : Char → Prop) (h : ∀ n ∈ blankCodes, P (Char.ofNat n)) (c : Char)
    (hc : isBlank c) : P c := by
  have hn : c.toNat ∈ blankCodes := by
    simp only [isBlank, Bool.or_eq_true, Bool.and_eq_true, decide_eq_true_eq, beq_iff_eq] at hc
    simp only [blankCodes, List.mem_cons, List.not_mem_nil, or_false]
    omega
  have hp := h c.toNat hn
  rwa [Char.ofNat_toNat] at hp

theorem isWord_of_isBlank {c : Char} (h : isBlank c) : isWord c = false :=
  forall_isBlank (fun c => isWord c = false) (by decide +kernel) c h

end IndexTuning.Text
