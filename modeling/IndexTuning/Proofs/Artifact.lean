import IndexTuning.Artifact
import IndexTuning.Proofs.Text.Blank
import Mathlib.Tactic.ByContra
import Mathlib.Tactic.Tauto

namespace IndexTuning.Artifact

open Text

/-- The statements of each part one a line, parts and the generated statements apart by an empty
line, and the marker in front of the generated ones. Empty parts leave nothing. -/
def layout (parts : List (List String)) (generated : List String) : List String :=
  (parts.filter (· ≠ [])).map "\n".intercalate ++
    (if generated = [] then [] else [generatedMarker ++ "\n" ++ "\n".intercalate generated])

theorem toList_lines (ss : List String) :
    ("\n".intercalate ss).toList = joinLines (ss.map String.toList) :=
  String.toList_intercalate

theorem tight_lines {ss : List String} (hne : ss ≠ []) (h : ∀ s ∈ ss, Tight s.toList) :
    Tight ("\n".intercalate ss).toList := by
  rw [toList_lines]
  apply tight_joinLines
  · simpa using hne
  · intro l hl
    obtain ⟨s, hs, rfl⟩ := List.mem_map.1 hl
    exact h s hs

theorem trimmed_lines {ss : List String} (h : ∀ s ∈ ss, Tight s.toList) :
    trimmed ("\n".intercalate ss) = "\n".intercalate ss := by
  by_cases hne : ss = []
  · rw [hne]; rfl
  · rw [trimmed, (tight_lines hne h).trim_eq, String.ofList_toList]

theorem lines_eq_empty_iff {ss : List String} (h : ∀ s ∈ ss, Tight s.toList) :
    "\n".intercalate ss = "" ↔ ss = [] := by
  constructor
  · intro he
    by_contra hne
    exact (tight_lines hne h).ne_nil (by rw [he]; rfl)
  · rintro rfl
    rfl

theorem sections_lines (parts : List (List String)) (h : ∀ ss ∈ parts, ∀ s ∈ ss, Tight s.toList) :
    ((parts.map "\n".intercalate).map trimmed).filter (· ≠ "") =
      (parts.filter (· ≠ [])).map "\n".intercalate := by
  induction parts with
  | nil => rfl
  | cons ss parts ih =>
      have hss := h ss List.mem_cons_self
      have ih := ih fun ts hts => h ts (List.mem_cons_of_mem ss hts)
      rw [List.map_cons, List.map_cons, List.filter_cons, List.filter_cons, ih, trimmed_lines hss]
      by_cases hne : ss = []
      · subst hne; rfl
      · have := mt (lines_eq_empty_iff hss).1 hne
        simp [hne, this]

theorem sections_eq_layout {ms us cs gs : List String}
    (h : ∀ ss ∈ [ms, us, cs, gs], ∀ s ∈ ss, Tight s.toList) {generated : Option String}
    (hg : generated = some ("\n".intercalate gs) ∨ generated = none ∧ gs = []) :
    sections ("\n".intercalate ms) ("\n".intercalate us) ("\n".intercalate cs) generated =
      layout [ms, us, cs] gs := by
  have hparts := sections_lines [ms, us, cs] fun ss hss => h ss (by
    simp only [List.mem_cons, List.not_mem_nil, or_false] at hss ⊢
    tauto)
  have hgs := h gs (by simp)
  rw [sections, layout, ← hparts]
  congr 1
  rcases hg with rfl | ⟨rfl, rfl⟩
  · rw [Option.map_some, trimmed_lines hgs]
    by_cases hne : gs = []
    · subst hne; rfl
    · have := mt (lines_eq_empty_iff hgs).1 hne
      simp [hne, this]
  · rfl

theorem layout_eq_nil_iff {parts : List (List String)} {gs : List String} :
    layout parts gs = [] ↔ (∀ ss ∈ parts, ss = []) ∧ gs = [] := by
  rw [layout, List.append_eq_nil_iff, List.map_eq_nil_iff, List.filter_eq_nil_iff]
  by_cases hg : gs = [] <;> simp [hg]

theorem assemble?_eq (maintenance unused missing : String) (generated : Option String) :
    assemble? maintenance unused missing generated =
      if sections maintenance unused missing generated = [] then none
      else some (ofCombined
        ("\n\n".intercalate (sections maintenance unused missing generated))) := by
  rw [assemble?]
  split
  · rw [if_pos (by assumption)]
  · rename_i hne
    rw [if_neg hne]

end IndexTuning.Artifact
