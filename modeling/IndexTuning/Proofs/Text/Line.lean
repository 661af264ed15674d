import IndexTuning.Proofs.Text.Blank
import IndexTuning.Proofs.Text.Search
import Mathlib.Data.List.Basic

namespace IndexTuning.Text

variable {l s t w : List Char} {ls : List (List Char)} {c : Char}

theorem linesWithBreaks_of_not_mem (h : '\n' ∉ s) (hne : s ≠ []) : linesWithBreaks s = [s] := by
  induction s with
  | nil => exact absurd rfl hne
  | cons c s ih =>
      obtain ⟨hc, hs⟩ := List.ne_and_not_mem_of_not_mem_cons h
      rw [linesWithBreaks, if_neg (Ne.symm hc)]
      by_cases hnil : s = []
      · rw [hnil]; rfl
      · rw [ih hs hnil]

theorem linesWithBreaks_append (h : '\n' ∉ s) :
    linesWithBreaks (s ++ '\n' :: t) = (s ++ ['\n']) :: linesWithBreaks t := by
  induction s with
  | nil => rw [List.nil_append, linesWithBreaks, if_pos rfl, List.nil_append]
  | cons c s ih =>
      obtain ⟨hc, hs⟩ := List.ne_and_not_mem_of_not_mem_cons h
      rw [List.cons_append, linesWithBreaks, if_neg (Ne.symm hc), ih hs, List.cons_append]

theorem joinLines_cons (h : ls ≠ []) : joinLines (l :: ls) = l ++ '\n' :: joinLines ls := by
  rw [joinLines, List.intercalate_cons_of_ne_nil h, List.append_assoc, List.singleton_append]
  rfl

theorem joinLines_singleton (l : List Char) : joinLines [l] = l := List.intercalate_singleton

theorem mem_linesWithBreaks_joinLines (hls : ∀ k ∈ ls, '\n' ∉ k)
    (h : l ∈ linesWithBreaks (joinLines ls)) : ∃ k ∈ ls, l = k ∨ l = k ++ ['\n'] := by
  induction ls with
  | nil => exact absurd h List.not_mem_nil
  | cons k ls ih =>
      have hk := hls k List.mem_cons_self
      by_cases hnil : ls = []
      · rw [hnil, joinLines_singleton] at h
        by_cases hkn : k = []
        · rw [hkn] at h
          exact absurd h List.not_mem_nil
        · rw [linesWithBreaks_of_not_mem hk hkn, List.mem_singleton] at h
          exact ⟨k, List.mem_cons_self, Or.inl h⟩
      · rw [joinLines_cons hnil, linesWithBreaks_append hk] at h
        rcases List.mem_cons.1 h with rfl | h
        · exact ⟨k, List.mem_cons_self, Or.inr rfl⟩
        · obtain ⟨k', hk', hl⟩ := ih (fun j hj => hls j (List.mem_cons_of_mem k hj)) h
          exact ⟨k', List.mem_cons_of_mem k hk', hl⟩

/-- A line feed takes one carriage return along. -/
theorem exists_dropBreak (l : List Char) :
    ∃ r, (r = [] ∨ r = ['\r']) ∧ l = dropBreak (l ++ ['\n']) ++ r := by
  rw [dropBreak, List.reverse_append, List.reverse_singleton, List.singleton_append]
  cases hl : l.reverse with
  | nil => exact ⟨[], Or.inl rfl, List.reverse_eq_nil_iff.1 hl⟩
  | cons c q =>
      have hq : l = q.reverse ++ [c] := by
        rw [← List.reverse_cons, ← hl, List.reverse_reverse]
      by_cases hc : c = '\r'
      · rw [hc] at hq ⊢
        exact ⟨['\r'], Or.inr rfl, hq⟩
      · refine ⟨[], Or.inl rfl, ?_⟩
        rw [List.append_nil]
        split
        · rename_i heq
          exact absurd (List.cons_eq_cons.1 (List.cons_eq_cons.1 heq).2).1 hc
        · rename_i heq
          obtain rfl := (List.cons_eq_cons.1 heq).2
          rw [hq, List.reverse_cons]
        · rename_i heq
          exact absurd rfl (heq _)

theorem dropBreak_of_not_mem (h : '\n' ∉ l) : dropBreak l = l := by
  have hrev : '\n' ∉ l.reverse := mt List.mem_reverse.1 h
  rw [dropBreak]
  split
  · rename_i heq
    exact absurd List.mem_cons_self (heq ▸ hrev)
  · rename_i heq
    exact absurd List.mem_cons_self (heq ▸ hrev)
  · rfl

theorem lines_of_not_mem (h : '\n' ∉ l) (hne : l ≠ []) : lines l = [l] := by
  rw [lines, linesWithBreaks_of_not_mem h hne, List.map_singleton, dropBreak_of_not_mem h]

theorem lines_append (h : '\n' ∉ l) :
    lines (l ++ '\n' :: t) = dropBreak (l ++ ['\n']) :: lines t := by
  rw [lines, linesWithBreaks_append h, List.map_cons, lines]

theorem exists_of_lines_eq_cons (h : lines s = l :: ls) : ∃ b t, s = l ++ (b ++ t) ∧
    lines t = ls ∧ (∀ c ∈ b, c = '\r' ∨ c = '\n') ∧ (b = [] → t = []) := by
  by_cases hmem : '\n' ∈ s
  · obtain ⟨k, t, rfl, hk⟩ := List.eq_append_cons_of_mem hmem
    rw [lines_append hk] at h
    obtain ⟨rfl, ht⟩ := List.cons_eq_cons.1 h
    obtain ⟨r, hr, hkr⟩ := exists_dropBreak k
    refine ⟨r ++ ['\n'], t, ?_, ht, ?_, by simp⟩
    · conv => lhs; rw [hkr]
      simp only [List.append_assoc, List.singleton_append]
    · rcases hr with rfl | rfl
      · simp
      · simp
  · have hne : s ≠ [] := by
      rintro rfl
      exact absurd h (List.cons_ne_nil l ls).symm
    rw [lines_of_not_mem hmem hne] at h
    obtain ⟨rfl, hls⟩ := List.cons_eq_cons.1 h
    exact ⟨[], [], by simp, hls, by simp, fun _ => rfl⟩

theorem lines_ne_nil (h : s ≠ []) : lines s ≠ [] := by
  obtain ⟨c, s, rfl⟩ := List.exists_cons_of_ne_nil h
  rw [lines, linesWithBreaks]
  split
  · exact List.cons_ne_nil _ _
  · split <;> exact List.cons_ne_nil _ _

theorem solid_reverse_of_append (h : Solid (l ++ '\n' :: t).reverse) : Solid t.reverse := by
  rw [List.reverse_append, List.reverse_cons, List.append_assoc] at h
  cases ht : t.reverse with
  | nil =>
      rw [ht] at h
      exact absurd h (by simp [Solid, isBlank])
  | cons c r =>
      rw [ht] at h
      exact h

theorem induct_lines {motive : (s : List Char) → Solid s.reverse → Prop}
    (last : ∀ l h, '\n' ∉ l → motive l h)
    (line : ∀ l t h ht, '\n' ∉ l → motive t ht → motive (l ++ '\n' :: t) h)
    (s : List Char) (h : Solid s.reverse) : motive s h := by
  by_cases hmem : '\n' ∈ s
  · obtain ⟨l, t, hs, hl⟩ := List.eq_append_cons_of_mem hmem
    have ht : Solid t.reverse := solid_reverse_of_append (hs ▸ h)
    have hrest := induct_lines last line t ht
    subst hs
    exact line l t h ht hl hrest
  · exact last s h hmem
termination_by s.length
decreasing_by
  rw [hs, List.length_append, List.length_cons]
  omega

theorem exists_of_dropBreak (l : List Char) :
    ∃ b, l = dropBreak l ++ b ∧ ∀ c ∈ b, c = '\r' ∨ c = '\n' := by
  rw [dropBreak]
  split
  · rename_i r h
    exact ⟨['\r', '\n'], by rw [← List.reverse_reverse l, h]; simp, by simp⟩
  · rename_i r _ h
    exact ⟨['\n'], by rw [← List.reverse_reverse l, h]; simp, by simp⟩
  · exact ⟨[], by rw [List.append_nil], by simp⟩

theorem infix_of_mem_lines (h : l ∈ lines s) : l <:+: s := by
  obtain ⟨k, hk, rfl⟩ := List.mem_map.1 h
  obtain ⟨b, hb, -⟩ := exists_of_dropBreak k
  have hprefix : dropBreak k <+: k := ⟨b, hb.symm⟩
  rw [← flatten_linesWithBreaks s]
  exact hprefix.isInfix.trans (List.infix_of_mem_flatten hk)

theorem exists_infix_of_joinLines (hw : '\n' ∉ w) (hne : w ≠ []) (h : w <:+: joinLines ls) :
    ∃ l ∈ ls, w <:+: l := by
  induction ls with
  | nil => exact absurd (List.infix_nil.1 h) hne
  | cons l ls ih =>
      by_cases hls : ls = []
      · rw [hls, joinLines_singleton] at h
        exact ⟨l, List.mem_cons_self, h⟩
      · rw [joinLines_cons hls] at h
        rcases infix_of_infix_append_cons hw h with h | h
        · exact ⟨l, List.mem_cons_self, h⟩
        · obtain ⟨k, hk, hwk⟩ := ih h
          exact ⟨k, List.mem_cons_of_mem l hk, hwk⟩

theorem replaceAll_crlf_append {a : List Char} (ha : '\n' ∉ a)
    (h : a.getLast? = some '\r' → t.head? ≠ some '\n') :
    replaceAll ['\r', '\n'] ['\n'] (a ++ t) = a ++ replaceAll ['\r', '\n'] ['\n'] t := by
  induction a with
  | nil => rfl
  | cons c a ih =>
      obtain ⟨-, ha'⟩ := List.ne_and_not_mem_of_not_mem_cons ha
      have hp : ¬ ['\r', '\n'].isPrefixOf (c :: (a ++ t)) := by
        intro hp
        obtain ⟨r, hr⟩ := List.isPrefixOf_iff_prefix.1 hp
        obtain ⟨rfl, ht⟩ := List.cons_eq_cons.1 hr
        cases a with
        | nil => exact h rfl (by rw [← List.nil_append t, ← ht]; rfl)
        | cons d a =>
            obtain ⟨rfl, -⟩ := List.cons_eq_cons.1 ht
            exact ha' List.mem_cons_self
      have ht : a.getLast? = some '\r' → t.head? ≠ some '\n' := by
        intro hl
        apply h
        rw [List.getLast?_cons, hl]
        rfl
      rw [List.cons_append, replaceAll, replaceFrom, if_neg hp, ← replaceAll, ih ha' ht]
      rfl

theorem dropBreak_of_getLast? (h : l.getLast? ≠ some '\r') : dropBreak (l ++ ['\n']) = l := by
  obtain ⟨r, hr, hl⟩ := exists_dropBreak l
  rcases hr with rfl | rfl
  · rw [List.append_nil] at hl
    exact hl.symm
  · exact absurd (by rw [hl, List.getLast?_append]; rfl) h

theorem dropBreak_return (l : List Char) : dropBreak (l ++ ['\r', '\n']) = l := by
  rw [dropBreak, List.reverse_append]
  exact List.reverse_reverse l

/-- Each line loses the break it has, and gets a line feed. -/
theorem replaceAll_crlf (h : '\n' ∉ l) : replaceAll ['\r', '\n'] ['\n'] (l ++ '\n' :: t) =
    dropBreak (l ++ ['\n']) ++ '\n' :: replaceAll ['\r', '\n'] ['\n'] t := by
  have hbreak : replaceAll ['\r', '\n'] ['\n'] ('\n' :: t) =
      '\n' :: replaceAll ['\r', '\n'] ['\n'] t := rfl
  by_cases hl : l.getLast? = some '\r'
  · obtain ⟨l, rfl⟩ := List.getLast?_eq_some_iff.1 hl
    have hnl : '\n' ∉ l := fun hm => h (List.mem_append_left _ hm)
    have hreturn : replaceAll ['\r', '\n'] ['\n'] ('\r' :: '\n' :: t) =
      '\n' :: replaceAll ['\r', '\n'] ['\n'] t := rfl
    rw [List.append_assoc, List.append_assoc, List.singleton_append, List.singleton_append,
      replaceAll_crlf_append hnl (by simp), hreturn, dropBreak_return]
  · rw [replaceAll_crlf_append h fun h => absurd h hl, hbreak, dropBreak_of_getLast? hl]

theorem joinLines_lines (h : Solid s.reverse) :
    joinLines (lines s) = replaceAll ['\r', '\n'] ['\n'] s := by
  induction s, h using induct_lines with
  | last l h hl =>
      have hcrlf : ¬ ['\r', '\n'] <:+: l := fun hi => hl (hi.subset (by simp))
      rw [lines_of_not_mem hl h.ne_nil_of_reverse, joinLines_singleton,
        replaceAll_of_absent hcrlf]
  | line l t h ht hl ih =>
      rw [lines_append hl, joinLines_cons (lines_ne_nil ht.ne_nil_of_reverse), ih,
        replaceAll_crlf hl]

theorem solid_reverse_joinLines (h : Solid s.reverse) : Solid (joinLines (lines s)).reverse := by
  induction s, h using induct_lines with
  | last l h hl =>
      rw [lines_of_not_mem hl h.ne_nil_of_reverse, joinLines_singleton]
      exact h
  | line l t h ht hl ih =>
      rw [lines_append hl, joinLines_cons (lines_ne_nil ht.ne_nil_of_reverse), List.reverse_append,
        List.reverse_cons, List.append_assoc]
      exact ih.append

theorem joinLines_lines_sublist (s : List Char) : (joinLines (lines (trim s))).Sublist s := by
  by_cases h : trim s = []
  · rw [h]
    exact List.nil_sublist s
  · rw [joinLines_lines (tight_trim h).2]
    exact (replaceAll_sublist (by decide) _).trans (trim_isInfix s).sublist

theorem joinLines_sublist_of_isSuffix {ks : List (List Char)} (h : ks <:+ ls) :
    (joinLines ks).Sublist (joinLines ls) := by
  induction ls with
  | nil => rw [List.suffix_nil.1 h]
  | cons l ls ih =>
      rcases List.suffix_cons_iff.1 h with rfl | h
      · exact List.Sublist.refl _
      · by_cases hls : ls = []
        · rw [hls] at h
          rw [List.suffix_nil.1 h]
          exact List.nil_sublist _
        · rw [joinLines_cons hls]
          exact ((ih h).cons '\n').trans (List.sublist_append_right l _)

theorem joinLines_map_sublist {f : List Char → List Char} (hf : ∀ l, (f l).Sublist l)
    (ls : List (List Char)) : (joinLines (ls.map f)).Sublist (joinLines ls) := by
  induction ls with
  | nil => exact List.nil_sublist _
  | cons l ls ih =>
      by_cases hls : ls = []
      · rw [hls, List.map_singleton, joinLines_singleton, joinLines_singleton]
        exact hf l
      · rw [List.map_cons, joinLines_cons (mt List.map_eq_nil_iff.1 hls), joinLines_cons hls]
        exact (hf l).append (ih.cons_cons '\n')

/-- Where lines only lose characters, the text stays the same just if every line does. -/
theorem joinLines_map_eq_iff {f : List Char → List Char} (hf : ∀ l, (f l).Sublist l) :
    joinLines (ls.map f) = joinLines ls ↔ ∀ l ∈ ls, f l = l := by
  constructor
  · induction ls with
    | nil => simp
    | cons l ls ih =>
        intro h
        by_cases hls : ls = []
        · rw [hls, List.map_singleton, joinLines_singleton, joinLines_singleton] at h
          rw [hls, List.forall_mem_singleton]
          exact h
        · have hnil : ls.map f ≠ [] := mt List.map_eq_nil_iff.1 hls
          rw [List.map_cons, joinLines_cons hnil, joinLines_cons hls] at h
          have hl := (hf l).length_le
          have hrest := (joinLines_map_sublist hf ls).length_le
          have hlength := congrArg List.length h
          simp only [List.length_append, List.length_cons] at hlength
          obtain ⟨hfl, hls⟩ := List.append_inj h (by omega)
          exact List.forall_mem_cons.2 ⟨hfl, ih (List.cons_eq_cons.1 hls).2⟩
  · intro h
    rw [List.map_congr_left h, List.map_id']

theorem count_joinLines (hc : c ≠ '\n') : (joinLines ls).count c = ls.flatten.count c := by
  induction ls with
  | nil => rfl
  | cons l ls ih =>
      rw [List.flatten_cons, List.count_append, ← ih]
      by_cases hls : ls = []
      · rw [hls, joinLines_singleton]
        rfl
      · rw [joinLines_cons hls, List.count_append, List.count_cons_of_ne (Ne.symm hc)]

theorem count_flatten_map {f : List Char → List Char}
    (h : ∀ l ∈ ls, (f l).count c = l.count c) : (ls.map f).flatten.count c = ls.flatten.count c := by
  induction ls with
  | nil => rfl
  | cons l ls ih =>
      obtain ⟨hl, hls⟩ := List.forall_mem_cons.1 h
      rw [List.map_cons, List.flatten_cons, List.flatten_cons, List.count_append,
        List.count_append, hl, ih hls]

theorem count_flatten_lines (hc : isBlank c = false) (s : List Char) :
    (lines s).flatten.count c = s.count c := by
  have hbreak (l : List Char) : (dropBreak l).count c = l.count c := by
    obtain ⟨b, hb, hbreak⟩ := exists_of_dropBreak l
    have hzero : b.count c = 0 := List.count_eq_zero.2 fun hm => by
      rcases hbreak c hm with rfl | rfl
      · exact absurd hc (by decide)
      · exact absurd hc (by decide)
    conv => rhs; rw [hb]
    rw [List.count_append, hzero, Nat.add_zero]
  rw [lines, count_flatten_map fun l _ => hbreak l, flatten_linesWithBreaks]

/-- What is said of lines is not said of blank ones, and not changed by blanks behind a line. -/
structure IgnoresBlanks (P : List Char → Prop) : Prop where
  nil : ¬ P []
  append : ∀ l w, (∀ c ∈ w, isBlank c) → (P (l ++ w) ↔ P l)

theorem IgnoresBlanks.of_blank {P : List Char → Prop} (hP : IgnoresBlanks P)
    (hw : ∀ c ∈ w, isBlank c) : ¬ P w :=
  mt (hP.append [] w hw).1 hP.nil

theorem IgnoresBlanks.dropBreak {P : List Char → Prop} (hP : IgnoresBlanks P) (l : List Char) :
    P (dropBreak (l ++ ['\n'])) ↔ P l := by
  obtain ⟨r, hr, hl⟩ := exists_dropBreak l
  have hblank : ∀ c ∈ r, isBlank c := by
    rcases hr with rfl | rfl
    · simp
    · simp [isBlank_return]
  conv => rhs; rw [hl]
  exact (hP.append _ r hblank).symm

theorem exists_lines_append_blank {P : List Char → Prop} (hP : IgnoresBlanks P)
    (h : Solid s.reverse) (hw : ∀ c ∈ w, isBlank c) :
    (∃ l ∈ lines (s ++ w), P l) ↔ ∃ l ∈ lines s, P l := by
  induction s, h using induct_lines with
  | last l h hl =>
      have hne := h.ne_nil_of_reverse
      simp only [lines_of_not_mem hl hne, List.mem_singleton, exists_eq_left]
      by_cases hmem : '\n' ∈ w
      · obtain ⟨u, v, rfl, hu⟩ := List.eq_append_cons_of_mem hmem
        obtain ⟨hu', hv⟩ := List.forall_mem_append.1 hw
        have hlu : '\n' ∉ l ++ u := by simp [hl, hu]
        have hnone : ¬ ∃ m ∈ lines v, P m := by
          rintro ⟨m, hm, hPm⟩
          exact hP.of_blank (fun c hc => hv c
            (List.mem_cons_of_mem _ ((infix_of_mem_lines hm).subset hc))) hPm
        rw [← List.append_assoc, lines_append hlu]
        simp only [List.mem_cons, exists_eq_or_imp, hnone, or_false]
        rw [hP.dropBreak, hP.append l u hu']
      · have hlw : '\n' ∉ l ++ w := by simp [hl, hmem]
        simp only [lines_of_not_mem hlw (by simp [hne]), List.mem_singleton, exists_eq_left]
        exact hP.append l w hw
  | line l t h ht hl ih =>
      rw [List.append_assoc, List.cons_append, lines_append hl, lines_append hl]
      simp only [List.mem_cons, exists_eq_or_imp, ih]

/-- What stands at the beginning of a text and holds no line feed stands at the beginning of the
first line. -/
theorem exists_first_line {k r : List Char} (hk : Solid k.reverse) (hn : '\n' ∉ k) :
    ∃ v ls, lines (k ++ r) = (k ++ v) :: ls ∧ v <+: r := by
  by_cases hmem : '\n' ∈ r
  · obtain ⟨u, t, rfl, hu⟩ := List.eq_append_cons_of_mem hmem
    have hku : '\n' ∉ k ++ u := by simp [hn, hu]
    obtain ⟨b, hb, hdrop⟩ := exists_dropBreak (k ++ u)
    rw [← List.append_assoc, lines_append hku]
    have hblank : ∀ c ∈ b, isBlank c := by
      rcases hb with rfl | rfl
      · simp
      · simp [isBlank_return]
    obtain ⟨v, hv, rfl⟩ := hk.exists_of_append_eq hblank hdrop
    exact ⟨v, lines t, by rw [hv], by simp⟩
  · have hkr : '\n' ∉ k ++ r := by simp [hn, hmem]
    exact ⟨r, [], lines_of_not_mem hkr (by simp [hk.ne_nil_of_reverse]), List.prefix_rfl⟩

theorem tight_joinLines_lines (h : Tight s) : Tight (joinLines (lines s)) := by
  refine ⟨?_, solid_reverse_joinLines h.2⟩
  obtain ⟨c, r, rfl, hc⟩ := solid_iff.1 h.1
  have hn : '\n' ∉ [c] := by
    rintro hm
    rw [← List.mem_singleton.1 hm] at hc
    exact absurd hc (by decide)
  obtain ⟨v, ls, hlines, -⟩ := exists_first_line (k := [c]) (r := r) (by simp [Solid, hc]) hn
  rw [List.singleton_append] at hlines
  rw [hlines]
  by_cases hls : ls = []
  · rw [hls, joinLines_singleton]
    exact solid_iff.2 ⟨c, v, rfl, hc⟩
  · rw [joinLines_cons hls]
    exact solid_iff.2 ⟨c, _, rfl, hc⟩

end IndexTuning.Text
