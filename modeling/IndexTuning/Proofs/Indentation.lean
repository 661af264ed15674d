import IndexTuning.Artifact
import IndexTuning.Proofs.Sql.Token
import IndexTuning.Proofs.Text.Line

namespace IndexTuning.Artifact

open Sql Text Token

variable {m : Mode} {k l s t : List Char}

theorem indent_of_not_mem (h : '\n' ∉ l) (hne : l ≠ []) : indent l = indentLine l := by
  rw [indent, lines_of_not_mem h hne, List.map_singleton, joinLines_singleton]

theorem indent_append (h : '\n' ∉ l) (ht : t ≠ []) :
    indent (l ++ '\n' :: t) = indentLine (dropBreak (l ++ ['\n'])) ++ '\n' :: indent t := by
  rw [indent, lines_append h, List.map_cons, joinLines_cons, indent]
  exact mt List.map_eq_nil_iff.1 (lines_ne_nil ht)

theorem blank_spaces : ∀ c ∈ "    ".toList, isBlank c :=
  List.all_eq_true.1 (by decide)

theorem indentLine_of_blank (h : ∀ c ∈ k, isBlank c) : indentLine k = [] :=
  if_pos (List.all_eq_true.2 h)

theorem indentLine_of_solid {c : Char} (hc : c ∈ k) (hb : isBlank c = false) :
    indentLine k = "    ".toList ++ k := by
  apply if_neg
  intro h
  exact absurd (List.all_eq_true.1 h c hc) (by simp [hb])

theorem after_indentLine (hm : m.isSteady) (k : List Char) :
    m.after (indentLine k) = m.after k := by
  rcases blank_or_solid k with hk | ⟨w, c, u, rfl, -, hc⟩
  · rw [indentLine_of_blank hk, Mode.after_blanks hm hk, Mode.after_nil]
  · rw [indentLine_of_solid (by simp) hc, Mode.after_append, Mode.after_blanks hm blank_spaces]

theorem tokensFrom_indentLine (hm : m.isSteady) (hq : m.isQuoted = false) (k : List Char) :
    tokensFrom m (indentLine k) = tokensFrom m k := by
  rcases blank_or_solid k with hk | ⟨w, c, u, rfl, -, hc⟩
  · have hblank := tokensFrom_blanks (t := []) hm hq hk
    rw [List.append_nil] at hblank
    rw [indentLine_of_blank hk, hblank]
  · rw [indentLine_of_solid (by simp) hc, tokensFrom_blanks hm hq blank_spaces]

section Return

variable {r : List Char}

theorem isQuoted_after_return (hr : r = [] ∨ r = ['\r']) :
    (m.after (k ++ r)).isQuoted = (m.after k).isQuoted := by
  rcases hr with rfl | rfl
  · rw [List.append_nil]
  · rw [Mode.after_append]
    exact Mode.isQuoted_step_return _

theorem step_newline_after_return (hr : r = [] ∨ r = ['\r']) :
    (m.after (k ++ r)).step '\n' = (m.after k).step '\n' := by
  rcases hr with rfl | rfl
  · rw [List.append_nil]
  · rw [Mode.after_append]
    exact Mode.step_return_newline _

theorem tokensFrom_append_return (hr : r = [] ∨ r = ['\r']) (hq : (m.after k).isQuoted = false) :
    tokensFrom m (k ++ r) = tokensFrom m k := by
  rcases hr with rfl | rfl
  · rw [List.append_nil]
  · rw [tokensFrom_append_blank hq isBlank_return]
    exact List.append_nil _

theorem visible_return_break (hr : r = [] ∨ r = ['\r']) (hq : m.isQuoted = false)
    (t : List Char) :
    visible (marks m (r ++ '\n' :: t)) = visible (marks (m.step '\n') t) := by
  rcases hr with rfl | rfl
  · exact visible_blank_cons hq isBlank_newline t
  · rw [List.cons_append, visible_blank_cons hq isBlank_return, List.nil_append,
      visible_blank_cons ((m.isQuoted_step_return).trans hq) isBlank_newline,
      Mode.step_return_newline]

end Return

/-- Indentation keeps the tokens of a text whose line feeds are all read outside literals and
names. -/
theorem tokensFrom_indent (h : Solid s.reverse) (hm : m.isSteady) (hq : m.isQuoted = false)
    (hbreaks : BreaksOutside m s) :
    tokensFrom m (indent s) = tokensFrom m s ∧ m.after (indent s) = m.after s := by
  induction s, h using induct_lines generalizing m with
  | last l h hl =>
      rw [indent_of_not_mem hl h.ne_nil_of_reverse]
      exact ⟨tokensFrom_indentLine hm hq l, after_indentLine hm l⟩
  | line l t _ hsolid hl ih =>
      obtain ⟨r, hr, hlr⟩ := exists_dropBreak l
      obtain ⟨hlq, ht⟩ := (breaksOutside_append hl).1 hbreaks
      rw [indent_append hl hsolid.ne_nil_of_reverse]
      generalize dropBreak (l ++ ['\n']) = k at hlr ⊢
      have hkq : (m.after k).isQuoted = false := by
        rwa [hlr, isQuoted_after_return hr] at hlq
      have hstep : (m.after l).step '\n' = (m.after k).step '\n' := by
        rw [hlr, step_newline_after_return hr]
      have hline : tokensFrom m l = tokensFrom m k := by
        rw [hlr, tokensFrom_append_return hr hkq]
      obtain ⟨htokens, hafter⟩ := ih (Mode.isSteady_step_newline _)
        ((Mode.isQuoted_step_newline _).trans hlq) ht
      constructor
      · rw [tokensFrom_append_blank (by rw [after_indentLine hm, hkq]) isBlank_newline,
          tokensFrom_append_blank hlq isBlank_newline, tokensFrom_indentLine hm hq,
          after_indentLine hm, hline, ← hstep, htokens]
      · rw [Mode.after_append, Mode.after_append, after_indentLine hm, Mode.after_cons,
          Mode.after_cons, ← hstep, hafter]

theorem append_ne_of_blank {b w x y : List Char} {c : Char} (hb : ∀ d ∈ b, isBlank d)
    (hlen : w.length < b.length) (hc : isBlank c = false) : b ++ x ≠ w ++ c :: y := by
  intro h
  rcases List.append_eq_append_iff.1 h with ⟨as, rfl, -⟩ | ⟨bs, rfl, hbs⟩
  · rw [List.length_append] at hlen
    omega
  · cases bs with
    | nil =>
        rw [List.append_nil] at hlen
        omega
    | cons d bs =>
        obtain ⟨rfl, -⟩ := List.cons_eq_cons.1 hbs
        have hblank := hb c (List.mem_append_right w List.mem_cons_self)
        rw [hc] at hblank
        exact absurd hblank (by decide)

theorem visible_quoted_line (hm : m.isQuoted) {c : Char} (hc : c ∈ k) (hb : isBlank c = false)
    (x y z : List Char) :
    visible (marks m (indentLine k ++ x)) ≠ visible (marks m (k ++ y)) ++ z := by
  rcases blank_or_solid k with hk | ⟨w, d, u, rfl, hw, hd⟩
  · exact absurd (hk c hc) (by simp [hb])
  · have hfront : ∀ b ∈ "    ".toList ++ w, isBlank b := by
      intro b hb
      rcases List.mem_append.1 hb with hb | hb
      · exact blank_spaces b hb
      · exact hw b hb
    have hindented : visible (marks m (indentLine (w ++ d :: u) ++ x)) =
        ("    ".toList ++ w) ++ visible (marks m (d :: (u ++ x))) := by
      rw [indentLine_of_solid hc hb, ← visible_quoted_blanks hm hfront]
      simp only [List.append_assoc, List.cons_append]
    have hplain : visible (marks m (w ++ d :: u ++ y)) ++ z =
        w ++ d :: (visible (marks (m.step d) (u ++ y)) ++ z) := by
      rw [List.append_assoc, List.cons_append, visible_quoted_blanks hm hw, visible_quoted_cons hm,
        List.append_assoc, List.cons_append]
    rw [hindented, hplain]
    apply append_ne_of_blank hfront ?_ hd
    rw [List.length_append]
    exact Nat.lt_add_of_pos_left (by decide)

theorem visible_quoted_indent (h : Solid s.reverse) (hm : m.isQuoted) (x z : List Char) :
    visible (marks m (indent s ++ x)) ≠ visible (marks m s) ++ z := by
  induction s, h using induct_lines with
  | last l h hl =>
      obtain ⟨c, r, hr, hb⟩ := solid_iff.1 h
      have hc : c ∈ l := List.mem_reverse.1 (by rw [hr]; exact List.mem_cons_self)
      have hline := visible_quoted_line hm hc hb x [] z
      rwa [List.append_nil, ← indent_of_not_mem hl (List.ne_nil_of_mem hc)] at hline
  | line l t _ hsolid hl ih =>
      obtain ⟨r, hr, hlr⟩ := exists_dropBreak l
      have hstep := Mode.step_blank (Mode.isSteady_of_isQuoted hm) isBlank_newline
      rw [indent_append hl hsolid.ne_nil_of_reverse]
      generalize dropBreak (l ++ ['\n']) = k at hlr ⊢
      rcases blank_or_solid k with hk | ⟨w, c, u, hk, -, hc⟩
      · rw [indentLine_of_blank hk, List.nil_append, List.cons_append, visible_quoted_cons hm,
          hstep]
        cases l with
        | nil =>
            rw [List.nil_append, visible_quoted_cons hm, hstep, List.cons_append]
            intro heq
            exact ih (List.cons_eq_cons.1 heq).2
        | cons b l =>
            rw [List.cons_append, visible_quoted_cons hm, List.cons_append]
            intro heq
            rw [(List.cons_eq_cons.1 heq).1] at hl
            exact hl List.mem_cons_self
      · have hc : c ∈ k := by simp [hk]
        rw [hlr, List.append_assoc, List.append_assoc]
        exact visible_quoted_line hm hc ‹_› _ _ z

/-- Where a line feed is read in a literal or name, the tokens change, whatever follows. -/
theorem visible_indent_ne (h : Solid s.reverse) (hm : m.isSteady) (hq : m.isQuoted = false)
    (hbreaks : ¬ BreaksOutside m s) (x z : List Char) :
    visible (marks m (indent s ++ x)) ≠ visible (marks m s) ++ z := by
  induction s, h using induct_lines generalizing m with
  | last l _ hl => exact absurd (breaksOutside_of_not_mem hl) hbreaks
  | line l t _ hsolid hl ih =>
      obtain ⟨r, hr, hlr⟩ := exists_dropBreak l
      rw [breaksOutside_append hl] at hbreaks
      rw [indent_append hl hsolid.ne_nil_of_reverse]
      generalize dropBreak (l ++ ['\n']) = k at hlr ⊢
      have hstep : (m.after l).step '\n' = (m.after k).step '\n' := by
        rw [hlr, step_newline_after_return hr]
      have hkl : (m.after l).isQuoted = (m.after k).isQuoted := by
        rw [hlr, isQuoted_after_return hr]
      -- The line before the break: its tokens are the same in both texts.
      have hline : visible (marks m (indentLine k)) = visible (marks m k) := by
        rw [visible_marks, visible_marks, tokensFrom_indentLine hm hq]
      have hindented : visible (marks m (indentLine k ++ '\n' :: indent t ++ x)) =
          visible (marks m k) ++ visible (marks (m.after k) ('\n' :: (indent t ++ x))) := by
        rw [List.append_assoc, List.cons_append, marks_append (by simp), visible_append, hline,
          after_indentLine hm]
      have hplain : visible (marks m (l ++ '\n' :: t)) =
          visible (marks m k) ++ visible (marks (m.after k) (r ++ '\n' :: t)) := by
        rw [hlr, List.append_assoc, marks_append, visible_append]
        rcases hr with rfl | rfl <;> simp
      rw [hindented, hplain, List.append_assoc]
      intro heq
      have heq := List.append_cancel_left heq
      cases hkq : (m.after k).isQuoted with
      | false =>
          have hlq := hkl.trans hkq
          rw [visible_blank_cons hkq isBlank_newline, visible_return_break hr hkq, ← hstep] at heq
          exact ih (Mode.isSteady_step_newline _)
            ((Mode.isQuoted_step_newline _).trans hlq) (fun ht => hbreaks ⟨hlq, ht⟩) heq
      | true =>
          have hsteady := Mode.step_blank (Mode.isSteady_of_isQuoted hkq) isBlank_newline
          rw [visible_quoted_cons hkq, hsteady] at heq
          rcases hr with rfl | rfl
          · rw [List.nil_append, visible_quoted_cons hkq, hsteady, List.cons_append] at heq
            exact visible_quoted_indent hsolid hkq x z (List.cons_eq_cons.1 heq).2
          · rw [List.cons_append, visible_quoted_cons hkq, List.cons_append] at heq
            exact absurd (List.cons_eq_cons.1 heq).1 (by decide)

end IndexTuning.Artifact
