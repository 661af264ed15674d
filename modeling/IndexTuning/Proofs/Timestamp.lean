import IndexTuning.Timestamp

namespace IndexTuning.Timestamp

def isStampChar (c : Char) : Bool := c.isDigit || c == '+' || c == '-'

theorem isStampChar_of_mem_toString {n : Nat} {c : Char} (h : c ∈ (toString n).toList) :
    isStampChar c := by
  have hd : c ∈ Nat.toDigits 10 n := by simpa using h
  simp [isStampChar, Nat.isDigit_of_mem_toDigits (by decide) (by decide) hd]

theorem isStampChar_of_mem_padded {width n : Nat} {c : Char} (h : c ∈ (padded width n).toList) :
    isStampChar c := by
  rw [padded, String.toList_append, String.toList_ofList] at h
  rcases List.mem_append.1 h with h | h
  · obtain ⟨-, rfl⟩ := List.mem_replicate.1 h
    decide
  · exact isStampChar_of_mem_toString h

theorem isStampChar_of_mem_yearText {year : Int} {c : Char} (h : c ∈ (yearText year).toList) :
    isStampChar c := by
  rw [yearText] at h
  split at h
  · rcases List.mem_append.1 (String.toList_append ▸ h) with h | h
    · obtain rfl := List.mem_singleton.1 h
      decide
    · exact isStampChar_of_mem_padded h
  · split at h
    · rcases List.mem_append.1 (String.toList_append ▸ h) with h | h
      · obtain rfl := List.mem_singleton.1 h
        decide
      · exact isStampChar_of_mem_padded h
    · exact isStampChar_of_mem_padded h

theorem isStampChar_of_mem_dateText {t : Timestamp} {c : Char} (h : c ∈ t.dateText.toList) :
    isStampChar c := by
  simp only [dateText, String.toList_append, List.mem_append] at h
  rcases h with (h | h) | h
  · exact isStampChar_of_mem_yearText h
  all_goals exact isStampChar_of_mem_padded h

theorem isStampChar_of_mem_timeText {t : Timestamp} {c : Char} (h : c ∈ t.timeText.toList) :
    isStampChar c := by
  simp only [timeText, String.toList_append, List.mem_append] at h
  rcases h with (h | h) | h
  all_goals exact isStampChar_of_mem_padded h

theorem isStampChar_of_mem_compact {t : Timestamp} {c : Char} (h : c ∈ t.compact.toList) :
    isStampChar c := by
  rw [compact, String.toList_append, List.mem_append] at h
  rcases h with h | h
  · exact isStampChar_of_mem_dateText h
  · exact isStampChar_of_mem_timeText h

end IndexTuning.Timestamp
