import IndexTuning.Text.Template
import Mathlib.Data.List.TakeWhile

namespace IndexTuning.Text.Template

variable {groups : List (List Char)} {s t : List Char}

theorem expand_of_not_mem (h : '$' ∉ s) : expand groups s = s := by
  rw [expand]
  induction s with
  | nil => rfl
  | cons c s ih =>
      obtain ⟨hc, hs⟩ := List.ne_and_not_mem_of_not_mem_cons h
      rw [expandFrom, if_pos (Ne.symm hc), ih hs]

theorem takeWhile_append_of_neg {p : Char → Bool} (h : ∃ c ∈ s ++ t.take 1, p c = false) :
    (s ++ t).takeWhile p = s.takeWhile p := by
  induction s with
  | nil =>
      cases t with
      | nil => rfl
      | cons d t =>
          obtain ⟨c, hc, hp⟩ := h
          obtain rfl : c = d := by simpa using hc
          rw [List.nil_append, List.takeWhile_cons_of_neg (by simp [hp])]
          rfl
  | cons d s ih =>
      rw [List.cons_append]
      by_cases hd : p d
      · rw [List.takeWhile_cons_of_pos hd, List.takeWhile_cons_of_pos hd, ih]
        obtain ⟨c, hc, hp⟩ := h
        rcases List.mem_cons.1 hc with rfl | hc
        · exact absurd hd (by simp [hp])
        · exact ⟨c, hc, hp⟩
      · rw [List.takeWhile_cons_of_neg hd, List.takeWhile_cons_of_neg hd]

theorem reference?_brace (s : List Char) : reference? ('{' :: s) =
    if '}' ∈ s then some (s.takeWhile (· ≠ '}'), (s.takeWhile (· ≠ '}')).length + 2) else none :=
  rfl

def regular? (s : List Char) : Option (List Char × Nat) :=
  if s.takeWhile isReferenceChar = [] then none
  else some (s.takeWhile isReferenceChar, (s.takeWhile isReferenceChar).length)

theorem reference?_of_head (h : s.head? ≠ some '{') : reference? s = regular? s := by
  unfold reference? regular?
  split
  · exact absurd rfl h
  · split
    · rename_i he
      rw [if_pos he]
    · rename_i hne
      rw [if_neg hne]

theorem reference?_concat (s : List Char) : reference? (s ++ [']']) = reference? s := by
  have hregular : regular? (s ++ [']']) = regular? s := by
    have ht : (s ++ [']']).takeWhile isReferenceChar = s.takeWhile isReferenceChar :=
      takeWhile_append_of_neg ⟨']', by simp, by decide⟩
    rw [regular?, regular?, ht]
  cases s with
  | nil => exact hregular
  | cons c s =>
      by_cases hc : c = '{'
      · subst hc
        rw [List.cons_append, reference?_brace, reference?_brace]
        by_cases hm : '}' ∈ s
        · have ht : (s ++ [']']).takeWhile (· ≠ '}') = s.takeWhile (· ≠ '}') :=
            takeWhile_append_of_neg ⟨'}', List.mem_append_left _ hm, by decide⟩
          rw [if_pos hm, if_pos (List.mem_append_left _ hm), ht]
        · have hm' : '}' ∉ s ++ [']'] := by simpa using hm
          rw [if_neg hm, if_neg hm']
      · rw [reference?_of_head (by simpa using hc), reference?_of_head (by simpa using hc)]
        exact hregular

theorem reference?_length {name : List Char} {n : Nat} (h : reference? s = some (name, n)) :
    n ≤ s.length := by
  cases s with
  | nil => exact absurd (show none = some (name, n) from h) (by simp)
  | cons c s =>
      by_cases hc : c = '{'
      · subst hc
        rw [reference?_brace] at h
        by_cases hm : '}' ∈ s
        · rw [if_pos hm] at h
          obtain ⟨-, rfl⟩ := Prod.mk.inj (Option.some.inj h)
          have hne : s.dropWhile (· ≠ '}') ≠ [] := by
            intro he
            have := List.dropWhile_eq_nil_iff.1 he '}' hm
            exact absurd this (by decide)
          have hl := congrArg List.length (List.takeWhile_append_dropWhile (p := (· ≠ '}')) (l := s))
          have hpos := List.length_pos_iff.2 hne
          rw [List.length_append] at hl
          rw [List.length_cons]
          omega
        · rw [if_neg hm] at h
          exact absurd h (by simp)
      · rw [reference?_of_head (by simpa using hc), regular?] at h
        split at h
        · exact absurd h (by simp)
        · obtain ⟨-, rfl⟩ := Prod.mk.inj (Option.some.inj h)
          exact ( List.takeWhile_prefix _).length_le

/-- The brackets around a name are kept, and what stands between them is expanded. -/
theorem expandFrom_concat {k : Nat} (hk : k ≤ s.length) :
    expandFrom groups k (s ++ [']']) = expandFrom groups k s ++ [']'] := by
  induction s generalizing k with
  | nil =>
      obtain rfl := Nat.le_zero.1 hk
      rfl
  | cons c s ih =>
      rw [List.cons_append]
      cases k with
      | succ k => exact ih (Nat.le_of_succ_le_succ hk)
      | zero =>
          rw [expandFrom, expandFrom]
          by_cases hc : c ≠ '$'
          · rw [if_pos hc, if_pos hc, ih (Nat.zero_le _), List.cons_append]
          · rw [if_neg hc, if_neg hc, reference?_concat]
            cases s with
            | nil => rfl
            | cons d s =>
                rw [List.cons_append, List.head?_cons, List.head?_cons]
                by_cases hd : some d = some '$'
                · rw [if_pos hd, if_pos hd, ← List.cons_append, ih (by simp), List.cons_append]
                · rw [if_neg hd, if_neg hd]
                  cases hr : reference? (d :: s) with
                  | none =>
                      dsimp only
                      rw [← List.cons_append, ih (Nat.zero_le _), List.cons_append]
                  | some p =>
                      dsimp only
                      rw [← List.cons_append, ih (reference?_length hr), List.append_assoc]

theorem mem_lookup {name : List Char} {c : Char} (h : c ∈ lookup groups name) :
    ∃ g ∈ groups, c ∈ g := by
  rw [lookup] at h
  split at h
  · rename_i i _
    rw [List.getD_eq_getElem?_getD] at h
    cases hg : groups[i]? with
    | none =>
        rw [hg] at h
        exact absurd h (by simp)
    | some g =>
        rw [hg] at h
        exact ⟨g, List.mem_of_getElem? hg, h⟩
  · exact absurd h (by simp)

theorem mem_expandFrom {k : Nat} {c : Char} (h : c ∈ expandFrom groups k s) :
    c ∈ s ∨ ∃ g ∈ groups, c ∈ g := by
  induction s generalizing k with
  | nil => exact absurd h (by simp [expandFrom])
  | cons d s ih =>
      have hrest {k : Nat} (h : c ∈ expandFrom groups k s) : c ∈ d :: s ∨ ∃ g ∈ groups, c ∈ g :=
        (ih h).imp_left (List.mem_cons_of_mem d)
      cases k with
      | succ k => exact hrest h
      | zero =>
          rw [expandFrom] at h
          split at h
          · rcases List.mem_cons.1 h with rfl | h
            · exact Or.inl List.mem_cons_self
            · exact hrest h
          · rename_i hd
            obtain rfl : d = '$' := by simpa using hd
            split at h
            · rcases List.mem_cons.1 h with rfl | h
              · exact Or.inl List.mem_cons_self
              · exact hrest h
            · split at h
              · rcases List.mem_append.1 h with h | h
                · exact Or.inr (mem_lookup h)
                · exact hrest h
              · rcases List.mem_cons.1 h with rfl | h
                · exact Or.inl List.mem_cons_self
                · exact hrest h

end IndexTuning.Text.Template
