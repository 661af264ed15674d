import IndexTuning.Proofs.Text.Blank
import IndexTuning.Sql.Identifier

namespace IndexTuning.Sql.Identifier

open Text

variable {s : List Char} {c : Char}

theorem mem_of_mem_doubleClosing (h : c ∈ doubleClosing s) : c ∈ s := by
  induction s with
  | nil => exact h
  | cons d s ih =>
      rw [doubleClosing] at h
      split at h
      · rename_i hd
        subst hd
        simp only [List.mem_cons] at h ⊢
        rcases h with h | h | h
        · exact Or.inl h
        · exact Or.inl h
        · exact Or.inr (ih h)
      · rcases List.mem_cons.1 h with rfl | h
        · exact List.mem_cons_self
        · exact List.mem_cons_of_mem d (ih h)

theorem mem_of_mem_bare (h : c ∈ bare s) : c ∈ s := by
  rw [bare] at h
  split at h
  · rename_i r ht
    apply mem_of_mem_trimWhere (p := isBlank)
    rw [← trim, ht]
    split at h
    · exact List.mem_cons_of_mem _ (List.dropLast_subset r h)
    · exact h
  · exact mem_of_mem_trimWhere h

theorem eq_bracket_or_mem_of_mem_bracket (h : c ∈ bracket s) : c = '[' ∨ c = ']' ∨ c ∈ s := by
  rw [bracket, List.mem_cons, List.mem_append, List.mem_singleton] at h
  rcases h with h | h | h
  · exact Or.inl h
  · exact Or.inr (Or.inr (mem_of_mem_doubleClosing h))
  · exact Or.inr (Or.inl h)

theorem doubleClosing_of_not_mem (h : ']' ∉ s) : doubleClosing s = s := by
  induction s with
  | nil => rfl
  | cons d s ih =>
      obtain ⟨hd, hs⟩ := List.ne_and_not_mem_of_not_mem_cons h
      rw [doubleClosing, if_neg (Ne.symm hd), ih hs]

theorem doubleClosing_append (s t : List Char) :
    doubleClosing (s ++ t) = doubleClosing s ++ doubleClosing t := by
  induction s with
  | nil => rfl
  | cons d s ih =>
      rw [List.cons_append, doubleClosing, doubleClosing, ih]
      split <;> rfl

theorem length_le_doubleClosing (s : List Char) : s.length ≤ (doubleClosing s).length := by
  induction s with
  | nil => exact Nat.le_refl _
  | cons d s ih =>
      rw [doubleClosing]
      split <;> simp only [List.length_cons] <;> omega

theorem not_mem_of_doubleClosing_eq (h : doubleClosing s = s) : ']' ∉ s := by
  induction s with
  | nil => exact List.not_mem_nil
  | cons d s ih =>
      rw [doubleClosing] at h
      split at h
      · have hl := congrArg List.length h
        have := length_le_doubleClosing s
        simp only [List.length_cons] at hl
        omega
      · rename_i hd
        have hs := ih (List.cons_eq_cons.1 h).2
        simp [Ne.symm hd, hs]

theorem head?_doubleClosing (s : List Char) : (doubleClosing s).head? = s.head? := by
  cases s with
  | nil => rfl
  | cons d s =>
      rw [doubleClosing]
      split
      · rename_i hd
        rw [hd]
        rfl
      · rfl

theorem getLast?_doubleClosing (s : List Char) : (doubleClosing s).getLast? = s.getLast? := by
  induction s with
  | nil => rfl
  | cons d s ih =>
      have hnil : doubleClosing s = [] ↔ s = [] := by
        rw [← List.head?_eq_none_iff, head?_doubleClosing, List.head?_eq_none_iff]
      rw [doubleClosing]
      split
      · rename_i hd
        rw [hd, List.getLast?_cons_cons, List.getLast?_cons, List.getLast?_cons, ih]
      · rw [List.getLast?_cons, List.getLast?_cons, ih]

theorem bare_of_tight (hs : Tight s) (hh : s.head? ≠ some '[') : bare s = s := by
  rw [bare, hs.trim_eq]
  split
  · exact absurd rfl hh
  · rfl

theorem bare_of_enclosed {r : List Char} (h : trim s = '[' :: (r ++ [']'])) : bare s = r := by
  rw [bare, h]
  simp

theorem bare_of_not_enclosed (h : ∀ r, trim s ≠ '[' :: (r ++ [']'])) : bare s = trim s := by
  rw [bare]
  split
  · rename_i r hr
    split
    · rename_i hlast
      obtain ⟨inner, rfl⟩ := List.getLast?_eq_some_iff.1 hlast
      exact absurd hr (h inner)
    · exact hr.symm
  · rfl

/-- The second name is the first without blanks around it and without one pair of brackets around
the rest. -/
def Unwraps (name inner : List Char) : Prop :=
  trim name = '[' :: (inner ++ [']']) ∨
    inner = trim name ∧ ∀ r, trim name ≠ '[' :: (r ++ [']'])

theorem unwraps_bare (name : List Char) : Unwraps name (bare name) := by
  by_cases h : ∃ r, trim name = '[' :: (r ++ [']'])
  · obtain ⟨r, hr⟩ := h
    rw [bare_of_enclosed hr]
    exact Or.inl hr
  · rw [not_exists] at h
    exact Or.inr ⟨bare_of_not_enclosed h, h⟩

theorem bare_eq_nil_iff : bare s = [] ↔ trim s = [] ∨ trim s = ['[', ']'] := by
  by_cases h : ∃ r, trim s = '[' :: (r ++ [']'])
  · obtain ⟨r, hr⟩ := h
    rw [bare_of_enclosed hr, hr]
    simp
  · rw [not_exists] at h
    rw [bare_of_not_enclosed h]
    exact ⟨Or.inl, fun hs => hs.resolve_right (h [])⟩

theorem length_bare_le (s : List Char) : (bare s).length ≤ (trim s).length := by
  by_cases h : ∃ r, trim s = '[' :: (r ++ [']'])
  · obtain ⟨r, hr⟩ := h
    rw [bare_of_enclosed hr, hr, List.length_cons, List.length_append]
    omega
  · rw [not_exists] at h
    rw [bare_of_not_enclosed h]

theorem count_bare (hblank : isBlank c = false) (hbracket : isBracket c = false) (s : List Char) :
    (bare s).count c = s.count c := by
  have htrim := count_trim hblank s
  by_cases h : ∃ r, trim s = '[' :: (r ++ [']'])
  · obtain ⟨r, hr⟩ := h
    have hne : '[' ≠ c ∧ ']' ≠ c := by
      constructor <;>
        · rintro rfl
          exact absurd hbracket (by decide)
    rw [bare_of_enclosed hr, ← htrim, hr, List.count_cons_of_ne hne.1, List.count_append,
      List.count_singleton, if_neg (by simpa using hne.2), Nat.add_zero]
  · rw [bare_of_not_enclosed (not_exists.1 h), htrim]

theorem bare_eq_self_iff : bare s = s ↔ trim s = s ∧ ∀ r, s ≠ '[' :: (r ++ [']']) := by
  constructor
  · intro h
    have htrim : trim s = s := by
      obtain ⟨u, v, hs, -, -⟩ := exists_trim s
      have hbare := length_bare_le s
      have hlength := congrArg List.length hs
      rw [h] at hbare
      simp only [List.length_append] at hlength
      obtain rfl : u = [] := List.length_eq_zero_iff.1 (by omega)
      obtain rfl : v = [] := List.length_eq_zero_iff.1 (by omega)
      rw [List.nil_append, List.append_nil] at hs
      exact hs.symm
    refine ⟨htrim, fun r hr => ?_⟩
    have hinner := bare_of_enclosed (htrim.trans hr)
    rw [h, hr] at hinner
    have hlength := congrArg List.length hinner
    simp only [List.length_cons, List.length_append] at hlength
    omega
  · rintro ⟨htrim, hne⟩
    rw [bare_of_not_enclosed (by rwa [htrim]), htrim]

end IndexTuning.Sql.Identifier
