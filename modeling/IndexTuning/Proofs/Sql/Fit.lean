import IndexTuning.Proofs.Text.Blank
import IndexTuning.Sql.Identifier

namespace IndexTuning

open Text

namespace Digest

theorem length_sha256 (message : List UInt8) : (sha256 message).length = 32 := by
  have hwords (ws : List UInt32) : (ws.flatMap bytesOfWord).length = 4 * ws.length := by
    induction ws with
    | nil => rfl
    | cons w ws ih =>
        rw [List.flatMap_cons, List.length_append, ih, List.length_cons, bytesOfWord]
        simp only [List.length_cons, List.length_nil]
        omega
  exact hwords (State.words _)

theorem length_hex (bytes : List UInt8) : (hex bytes).length = 2 * bytes.length := by
  induction bytes with
  | nil => rfl
  | cons b bytes ih =>
      rw [hex, List.flatMap_cons, List.length_append, ← hex, ih]
      simp only [List.length_cons, List.length_nil]
      omega

theorem hexDigit_mem (n : Nat) : hexDigit n ∈ "0123456789ABCDEF".toList := by
  have hdigits : ∀ i < 16, hexDigit i ∈ "0123456789ABCDEF".toList := by decide
  by_cases h : n < 16
  · exact hdigits n h
  · have hlength : "0123456789ABCDEF".toList.length = 16 := by decide
    rw [hexDigit, List.getD_eq_getElem?_getD, List.getElem?_eq_none (by omega)]
    decide

theorem mem_digits_of_mem_hex {c : Char} {bytes : List UInt8} (h : c ∈ hex bytes) :
    c ∈ "0123456789ABCDEF".toList := by
  obtain ⟨b, -, hc⟩ := List.mem_flatMap.1 h
  rcases List.mem_cons.1 hc with rfl | hc
  · exact hexDigit_mem _
  · rw [List.mem_singleton.1 hc]
    exact hexDigit_mem _

theorem not_isBlank_of_mem_hex {c : Char} {bytes : List UInt8} (h : c ∈ hex bytes) :
    isBlank c = false := by
  have hdigits : "0123456789ABCDEF".toList.all (!isBlank ·) := by decide
  simpa using List.all_eq_true.1 hdigits c (mem_digits_of_mem_hex h)

end Digest

namespace Sql.Identifier

variable {name other : String}

def mark (name : String) : List Char :=
  Digest.hex ((Digest.sha256 (utf8 name.toList)).take 4)

theorem length_mark (name : String) : (mark name).length = 8 := by
  rw [mark, Digest.length_hex, List.length_take, Digest.length_sha256]
  rfl

theorem fit_of_le (h : name.length ≤ maxLength) : fit name = name := if_pos h

theorem toList_fit_of_lt (h : maxLength < name.length) :
    (fit name).toList = name.toList.take 119 ++ '_' :: mark name := by
  rw [fit, if_neg (Nat.not_le.2 h), ← mark, String.toList_ofList]
  simp only [length_mark]
  rfl

theorem length_fit_of_lt (h : maxLength < name.length) : (fit name).length = maxLength := by
  rw [maxLength, ← String.length_toList] at h
  rw [← String.length_toList, toList_fit_of_lt h, List.length_append, List.length_cons,
    length_mark, List.length_take, maxLength]
  omega

theorem length_fit_le (name : String) : (fit name).length ≤ maxLength := by
  by_cases h : name.length ≤ maxLength
  · rw [fit_of_le h]
    exact h
  · exact Nat.le_of_eq (length_fit_of_lt (Nat.not_le.1 h))

/-- The digest of a long name ends the short form of another name as well: of one as long, or of one
that fits without being cut. -/
def Collides (name other : String) : Prop :=
  name ≠ other ∧ maxLength < name.length ∧
    (maxLength < other.length ∧ mark name = mark other ∨
      other.length = maxLength ∧ '_' :: mark name <:+ other.toList)

instance (name other : String) : Decidable (Collides name other) :=
  inferInstanceAs (Decidable (_ ∧ _ ∧ (_ ∨ _)))

theorem not_collides_of_mark_ne (hlong : maxLength < other.length)
    (hmark : mark name ≠ mark other) : ¬ Collides name other := by
  rintro ⟨-, -, ⟨-, heq⟩ | ⟨hlength, -⟩⟩
  · exact hmark heq
  · exact absurd hlength (Nat.ne_of_gt hlong)

/-- Nothing but the digests can make the forms of two names equal. -/
theorem eq_of_fit_eq (h : fit name = fit other) (hname : ¬ Collides name other)
    (hother : ¬ Collides other name) : name = other := by
  by_contra hne
  rcases Nat.lt_or_ge maxLength name.length with hlong | hshort
  · rcases Nat.lt_or_ge maxLength other.length with hlong' | hshort'
    · have hlists := congrArg String.toList h
      rw [toList_fit_of_lt hlong, toList_fit_of_lt hlong'] at hlists
      have hmark := List.append_inj_right' hlists (by simp [length_mark])
      exact hname ⟨hne, hlong, Or.inl ⟨hlong', (List.cons_eq_cons.1 hmark).2⟩⟩
    · rw [fit_of_le hshort'] at h
      refine hname ⟨hne, hlong, Or.inr ⟨by rw [← h, length_fit_of_lt hlong], ?_⟩⟩
      exact ⟨_, by rw [← h, toList_fit_of_lt hlong]⟩
  · rcases Nat.lt_or_ge maxLength other.length with hlong' | hshort'
    · rw [fit_of_le hshort] at h
      refine hother ⟨Ne.symm hne, hlong', Or.inr ⟨by rw [h, length_fit_of_lt hlong'], ?_⟩⟩
      exact ⟨_, by rw [h, toList_fit_of_lt hlong']⟩
    · exact hne (by rwa [fit_of_le hshort, fit_of_le hshort'] at h)

theorem head?_fit (name : String) : (fit name).toList.head? = name.toList.head? := by
  by_cases h : name.length ≤ maxLength
  · rw [fit_of_le h]
  · have hlong := Nat.not_le.1 h
    rw [maxLength, ← String.length_toList] at hlong
    rw [toList_fit_of_lt (Nat.not_le.1 h)]
    cases hname : name.toList with
    | nil => simp [hname] at hlong
    | cons c s => rfl

theorem tight_fit (h : Tight name.toList) : Tight (fit name).toList := by
  by_cases hle : name.length ≤ maxLength
  · rw [fit_of_le hle]
    exact h
  · have hlong := Nat.not_le.1 hle
    have hmark : Solid ('_' :: mark name).reverse := by
      apply solid_of_forall (by simp)
      intro c hc
      rcases List.mem_cons.1 (List.mem_reverse.1 hc) with rfl | hc
      · decide
      · exact Digest.not_isBlank_of_mem_hex hc
    rw [toList_fit_of_lt hlong]
    apply Tight.append _ hmark
    obtain ⟨c, r, hc, hblank⟩ := solid_iff.1 h.1
    rw [hc]
    exact solid_iff.2 ⟨c, r.take 118, rfl, hblank⟩

end Sql.Identifier

end IndexTuning
