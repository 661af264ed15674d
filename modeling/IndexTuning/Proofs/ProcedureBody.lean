import IndexTuning.Proofs.Deployment
import IndexTuning.Proofs.Indentation

namespace IndexTuning.Artifact

open Sql Text Token

theorem solid_reverse_intercalate {sep : List Char} {parts : List (List Char)} (hne : parts ≠ [])
    (h : ∀ part ∈ parts, Solid part.reverse) : Solid (sep.intercalate parts).reverse := by
  induction parts with
  | nil => exact absurd rfl hne
  | cons part parts ih =>
      by_cases hnil : parts = []
      · rw [hnil, List.intercalate_singleton]
        exact h part List.mem_cons_self
      · rw [List.intercalate_cons_of_ne_nil hnil, List.reverse_append]
        exact (ih hnil fun p hp => h p (List.mem_cons_of_mem part hp)).append

theorem solid_reverse_section {maintenance unused missing part : String}
    {generated : Option String} (h : part ∈ sections maintenance unused missing generated) :
    Solid part.toList.reverse := by
  have htrimmed (s : String) (hs : trimmed s ≠ "") : Solid (trimmed s).toList.reverse := by
    rw [toList_trimmed]
    apply solid_reverse_trim
    intro htrim
    exact hs (by rw [trimmed, htrim])
  rcases List.mem_append.1 h with h | h
  · obtain ⟨hpart, hne⟩ := List.mem_filter.1 h
    obtain ⟨s, -, rfl⟩ := List.mem_map.1 hpart
    exact htrimmed s (by simpa using hne)
  · obtain ⟨g, hg, rfl⟩ := Option.map_eq_some_iff.1 (Option.mem_toList.1 h)
    obtain ⟨hg, hne⟩ := Option.filter_eq_some_iff.1 hg
    obtain ⟨s, -, rfl⟩ := Option.map_eq_some_iff.1 hg
    rw [String.toList_append, List.reverse_append]
    exact (htrimmed s (by simpa using hne)).append

theorem solid_reverse_combined {maintenance unused missing : String} {generated : Option String}
    {a : Artifact} (h : assemble? maintenance unused missing generated = some a) :
    Solid a.combinedSql.toList.reverse := by
  rw [assemble?_eq] at h
  split at h
  · exact absurd h (by simp)
  · rename_i hne
    obtain rfl := Option.some.inj h
    rw [ofCombined, String.toList_intercalate]
    apply solid_reverse_intercalate (mt List.map_eq_nil_iff.1 hne)
    intro part hpart
    obtain ⟨p, hp, rfl⟩ := List.mem_map.1 hpart
    exact solid_reverse_section hp

def opening : List Token :=
  tokens "CREATE PROCEDURE dbo.recommendation_index AS BEGIN SET NOCOUNT ON;".toList

def closing : List Token := tokens "END".toList

def front : String :=
  "\nCREATE PROCEDURE " ++ procedureName ++ "\nAS\nBEGIN\n    SET NOCOUNT ON;\n"

theorem toList_body_front (combined : String) : (body combined).toList =
    front.toList ++ '\n' :: (indent combined.toList ++ '\n' :: "END\n".toList) := by
  have hstart : "\nCREATE PROCEDURE dbo.recommendation_index\nAS\nBEGIN\n    SET NOCOUNT ON;\n\n".toList =
      front.toList ++ ['\n'] := by
    decide
  have hend : "\nEND\n".toList = '\n' :: "END\n".toList := by decide
  rw [toList_body, hstart, hend, List.append_assoc]
  rfl

theorem tokens_body (combined : String) : tokens (body combined).toList =
    opening ++ tokens (indent combined.toList ++ '\n' :: "END\n".toList) := by
  have hcode : Mode.code.after front.toList = .code := by decide
  have hopening : tokensFrom .code front.toList = opening := by decide
  rw [toList_body_front, tokens, tokensFrom_append_blank (by rw [hcode]; rfl) isBlank_newline, hcode,
    hopening]
  rfl

section Closing

variable {s : List Char}

theorem tokens_indent_closing (h : Solid s.reverse) (hbreaks : BreaksOutside .code s)
    (hcode : (Mode.code.after s).step '\n' = .code) :
    tokens (indent s ++ '\n' :: "END\n".toList) = tokens s ++ closing := by
  obtain ⟨htokens, hafter⟩ := tokensFrom_indent (m := .code) h rfl rfl hbreaks
  have hq : (Mode.code.after s).isQuoted = false := by
    rw [← Mode.isQuoted_step_newline, hcode]
    rfl
  have hclosing : tokensFrom .code "END\n".toList = closing := by decide
  rw [tokens, tokensFrom_append_blank (by rw [hafter, hq]) isBlank_newline, htokens, hafter, hcode,
    hclosing]
  rfl

theorem visible_indent_closing
    (h : tokens (indent s ++ '\n' :: "END\n".toList) = tokens s ++ closing) :
    visible (marks .code (indent s ++ '\n' :: "END\n".toList)) =
      visible (marks .code s) ++ ['E', 'N', 'D'] := by
  have hclosing : closing.flatMap text = ['E', 'N', 'D'] := by decide
  rw [visible_marks, ← tokens, h, List.flatMap_append, hclosing, tokens, ← visible_marks]

theorem breaksOutside_of_closing (hs : Solid s.reverse)
    (h : tokens (indent s ++ '\n' :: "END\n".toList) = tokens s ++ closing) :
    BreaksOutside .code s := by
  by_contra hnot
  exact visible_indent_ne hs rfl rfl hnot _ _ (visible_indent_closing h)

theorem code_of_closing (hs : Solid s.reverse)
    (h : tokens (indent s ++ '\n' :: "END\n".toList) = tokens s ++ closing) :
    (Mode.code.after s).step '\n' = .code := by
  obtain ⟨htokens, hafter⟩ :=
    tokensFrom_indent (m := .code) hs rfl rfl (breaksOutside_of_closing hs h)
  cases hq : (Mode.code.after s).isQuoted with
  | true =>
      have hvisible := visible_indent_closing h
      rw [marks_append (by simp), visible_append, hafter, visible_marks _ (indent s), htokens,
        ← visible_marks, visible_quoted_cons hq] at hvisible
      have hend := List.append_cancel_left hvisible
      exact absurd (List.cons_eq_cons.1 hend).1 (by decide)
  | false =>
      rw [tokens, tokensFrom_append_blank (by rw [hafter, hq]) isBlank_newline, htokens,
        hafter] at h
      have hend := List.append_cancel_left h
      have hsteady := Mode.isSteady_step_newline (Mode.code.after s)
      have hquoted := (Mode.isQuoted_step_newline _).trans hq
      -- Of the modes that a line can begin in, only code and a block comment are left.
      generalize (Mode.code.after s).step '\n' = q at hend hsteady hquoted ⊢
      cases q with
      | code => rfl
      | blockComment => exact absurd hend (by decide)
      | literal | quotedName | bracketName => exact absurd hquoted (by decide)
      | _ => exact absurd hsteady (by decide)

end Closing

/-- The tokens of the sections stand between those of the heading and the end of the procedure
exactly when no line feed is read in a literal or name and nothing is left open at the end. -/
theorem tokens_body_iff {combined : String} (h : Solid combined.toList.reverse) :
    tokens (body combined).toList = opening ++ tokens combined.toList ++ closing ↔
      BreaksOutside .code combined.toList ∧
        (Mode.code.after combined.toList).step '\n' = .code := by
  rw [tokens_body, List.append_assoc, List.append_cancel_left_eq]
  constructor
  · intro htokens
    exact ⟨breaksOutside_of_closing h htokens, code_of_closing h htokens⟩
  · rintro ⟨hbreaks, hcode⟩
    exact tokens_indent_closing h hbreaks hcode

/-- The procedure runs the tokens of the combined statements exactly when none of their literals and
names spans lines and nothing is left open at the end. Then each of them stands in the procedure
character for character. -/
theorem assemble?_keepsTokens_iff {maintenance unused missing : String} {generated : Option String}
    {a : Artifact} (h : assemble? maintenance unused missing generated = some a) :
    ∃ text, readExec a.createSql.toList = some (text, ");".toList) ∧
      (tokens text = opening ++ tokens a.combinedSql.toList ++ closing ↔
        BreaksOutside .code a.combinedSql.toList ∧
          (Mode.code.after a.combinedSql.toList).step '\n' = .code) ∧
      (BreaksOutside .code a.combinedSql.toList →
        (Mode.code.after a.combinedSql.toList).step '\n' = .code →
        ∀ t ∈ tokens a.combinedSql.toList, t.text <:+: text) := by
  have hkeeps := tokens_body_iff (solid_reverse_combined h)
  have hread := readExec_exec (body a.combinedSql)
  refine ⟨(body a.combinedSql).toList, ?_, hkeeps, ?_⟩
  · rw [eq_ofCombined h]
    exact hread
  · intro hbreaks hend t ht
    have hbody := hkeeps.2 ⟨hbreaks, hend⟩
    apply infix_of_mem_tokensFrom (m := .code)
    rw [← tokens, hbody]
    exact List.mem_append_left _ (List.mem_append_right _ ht)

def twoStatements : String :=
  "ALTER INDEX [a'b] ON [S].[dbo].[T] REBUILD;\r\nPRINT 'it''s'; -- done"

theorem assemble?_keepsTokens_twoStatements : ∃ a text,
    assemble? twoStatements "" "" none = some a ∧
    readExec a.createSql.toList = some (text, ");".toList) ∧
    tokens text = opening ++ tokens twoStatements.toList ++ closing ∧
    "'it''s'".toList <:+: text := by
  have hs : sections twoStatements "" "" none = [twoStatements] := by decide +kernel
  have hlines : twoStatements.toList =
      "ALTER INDEX [a'b] ON [S].[dbo].[T] REBUILD;\r".toList ++
        '\n' :: "PRINT 'it''s'; -- done".toList := by decide +kernel
  have hbreaks : BreaksOutside .code twoStatements.toList := by
    rw [hlines, breaksOutside_append (by decide +kernel)]
    exact ⟨by decide +kernel, breaksOutside_of_not_mem (by decide +kernel)⟩
  have hend : (Mode.code.after twoStatements.toList).step '\n' = .code := by decide +kernel
  have hliteral : ⟨.quoted, "'it''s'".toList⟩ ∈ tokens twoStatements.toList := by decide +kernel
  have ha := assemble?_of_sections hs
  rw [String.intercalate_singleton] at ha
  obtain ⟨text, hread, hkeeps, hinfix⟩ := assemble?_keepsTokens_iff ha
  exact ⟨_, text, ha, hread, hkeeps.2 ⟨hbreaks, hend⟩, hinfix hbreaks hend _ hliteral⟩

def splitName : String := "ALTER INDEX [IX\nA] ON [S].[dbo].[T] REBUILD;"

/-- A name with a line feed is another name in the procedure. -/
theorem assemble?_splitName : ∃ a text, assemble? splitName "" "" none = some a ∧
    a.combinedSql = splitName ∧ readExec a.createSql.toList = some (text, ");".toList) ∧
    ⟨.quoted, "[IX\nA]".toList⟩ ∈ tokens splitName.toList ∧
    ⟨.quoted, "[IX\n    A]".toList⟩ ∈ tokens text ∧ ¬ "[IX\nA]".toList <:+: text ∧
    tokens text ≠ opening ++ tokens splitName.toList ++ closing := by
  have hs : sections splitName "" "" none = [splitName] := by decide +kernel
  have ha := assemble?_of_sections hs
  rw [String.intercalate_singleton] at ha
  refine ⟨_, _, ha, rfl, readExec_exec (body splitName), ?_, ?_, ?_, ?_⟩
  · decide +kernel
  · decide +kernel
  · decide +kernel
  · intro htokens
    have hlines : splitName.toList =
        "ALTER INDEX [IX".toList ++ '\n' :: "A] ON [S].[dbo].[T] REBUILD;".toList := by
      decide +kernel
    have hquoted : (Mode.code.after "ALTER INDEX [IX".toList).isQuoted := by decide +kernel
    have hbreaks := ((tokens_body_iff (solid_reverse_combined ha)).1 htokens).1 _ _ hlines
    rw [hquoted] at hbreaks
    exact absurd hbreaks (by decide)

end IndexTuning.Artifact
