import IndexTuning.Answer
import IndexTuning.Proofs.Sql.Heading
import IndexTuning.Proofs.Text.Line
import IndexTuning.Proofs.Text.Reader

namespace IndexTuning.Answer

open Sql.Procedure Text Scanner

variable {c : Char} {k l m p r s : List Char}

def Numbered (line rest : List Char) : Prop :=
  ∃ u d, line = u ++ (d ++ '.' :: rest) ∧ (∀ c ∈ u, isIndent c) ∧ d ≠ [] ∧
    ∀ c ∈ d, isDecimalDigit c

def BeginsProcedure (s : List Char) : Prop :=
  ∃ k r, s = k ++ r ∧ IsKeywords k ∧ '\n' ∉ k ∧ r.head?.any isWord = false

/-- A procedure without anything around it that an answer may have. -/
structure IsPlain (s : List Char) : Prop where
  begins : BeginsProcedure s
  noBacktick : backtick ∉ s
  noMarker : ∀ m ∈ [startMarker, endMarker], ¬ m.toList <:+: s

theorem isDecimalDigit_of_isBlank (h : isBlank c) : isDecimalDigit c = false :=
  forall_isBlank (fun c => isDecimalDigit c = false) (by decide +kernel) c h

theorem isBlank_of_isIndent (h : isIndent c) : isBlank c := by
  rw [isIndent, Bool.or_eq_true, beq_iff_eq, beq_iff_eq] at h
  rcases h with rfl | rfl
  · decide
  · decide

theorem numbered_iff : Numbered l r ↔
    (many isIndent >=> many1 isDecimalDigit >=> Scanner.char '.') l = some r := by
  constructor
  · rintro ⟨u, d, rfl, hu, hne, hd⟩
    obtain ⟨e, d, rfl⟩ := List.exists_cons_of_ne_nil hne
    have he : isIndent e = false := by
      cases hi : isIndent e with
      | false => rfl
      | true =>
          have hnot := isDecimalDigit_of_isBlank (isBlank_of_isIndent hi)
          rw [hd e List.mem_cons_self] at hnot
          exact hnot
    have hindent : many isIndent (u ++ (e :: d ++ '.' :: r)) = some (e :: d ++ '.' :: r) :=
      many_eq_some.2 ⟨u, rfl, hu, fun c hc => Option.some.inj hc ▸ he⟩
    have hdigits : many1 isDecimalDigit (e :: d ++ '.' :: r) = some ('.' :: r) :=
      many1_eq_some.2 ⟨e :: d, rfl, hne, hd, fun c hc => Option.some.inj hc ▸ by decide⟩
    exact comp_eq_some.2 ⟨_, hindent, comp_eq_some.2 ⟨_, hdigits, char_eq_some.2 rfl⟩⟩
  · intro h
    obtain ⟨s, hindent, hrest⟩ := comp_eq_some.1 h
    obtain ⟨t, hdigits, hdot⟩ := comp_eq_some.1 hrest
    obtain ⟨u, rfl, hu, -⟩ := many_eq_some.1 hindent
    obtain ⟨d, rfl, hne, hd, -⟩ := many1_eq_some.1 hdigits
    exact ⟨u, d, by rw [char_eq_some.1 hdot], hu, hne, hd⟩

theorem listMarker_eq_some :
    listMarker l = some r ↔ ∃ t, Numbered l t ∧ r = t.dropWhile isIndent := by
  simp only [numbered_iff]
  constructor
  · intro h
    obtain ⟨s, hindent, h⟩ := comp_eq_some.1 h
    obtain ⟨t, hdigits, h⟩ := comp_eq_some.1 h
    obtain ⟨v, hdot, h⟩ := comp_eq_some.1 h
    exact ⟨v, comp_eq_some.2 ⟨s, hindent, comp_eq_some.2 ⟨t, hdigits, hdot⟩⟩,
      (Option.some.inj h).symm⟩
  · rintro ⟨v, h, rfl⟩
    obtain ⟨s, hindent, h⟩ := comp_eq_some.1 h
    obtain ⟨t, hdigits, hdot⟩ := comp_eq_some.1 h
    exact comp_eq_some.2 ⟨s, hindent, comp_eq_some.2 ⟨t, hdigits, comp_eq_some.2 ⟨v, hdot, rfl⟩⟩⟩

theorem listMarker_eq_none : listMarker l = none ↔ ∀ r, ¬ Numbered l r := by
  constructor
  · intro hnone r hr
    exact absurd (hnone.symm.trans (listMarker_eq_some.2 ⟨r, hr, rfl⟩)) (by simp)
  · intro h
    cases hm : listMarker l with
    | none => rfl
    | some r =>
        obtain ⟨t, ht, -⟩ := listMarker_eq_some.1 hm
        exact absurd ht (h t)

theorem ignoresBlanks_numbered : IgnoresBlanks fun l => ∃ r, Numbered l r where
  nil := by
    rintro ⟨r, u, d, h, -⟩
    simp at h
  append l w hw := by
    constructor
    · rintro ⟨r, u, d, h, hu, hne, hd⟩
      have hsplit : l ++ w = (u ++ (d ++ ['.'])) ++ r := by
        rw [h]
        simp only [List.append_assoc, List.singleton_append]
      have hdot : Solid (u ++ (d ++ ['.'])).reverse := by simp [Solid, isBlank]
      obtain ⟨v, rfl, -⟩ := hdot.exists_of_append_eq hw hsplit.symm
      exact ⟨v, u, d, by simp only [List.append_assoc, List.singleton_append], hu, hne, hd⟩
    · rintro ⟨r, u, d, rfl, hu, hne, hd⟩
      exact ⟨r ++ w, u, d, by simp, hu, hne, hd⟩

theorem cleanLine_isSuffix (line : List Char) :
    cleanLine line <:+ line.filter (· ≠ backtick) := by
  rw [cleanLine]
  cases h : listMarker (line.filter (· ≠ backtick)) with
  | none => exact List.suffix_rfl
  | some r =>
      obtain ⟨t, ⟨u, d, hline, -⟩, rfl⟩ := listMarker_eq_some.1 h
      rw [hline, Option.getD_some]
      have hend : t.dropWhile isIndent <:+ u ++ (d ++ ['.']) ++ t :=
        (List.dropWhile_suffix isIndent).trans (List.suffix_append _ t)
      simpa only [List.append_assoc, List.singleton_append] using hend

theorem cleanLine_sublist (line : List Char) : (cleanLine line).Sublist line :=
  (cleanLine_isSuffix line).sublist.trans List.filter_sublist

theorem filter_of_not_mem (h : backtick ∉ l) : l.filter (· ≠ backtick) = l :=
  List.filter_eq_self.2 fun c hc => by simpa using fun he : c = backtick => h (he ▸ hc)

theorem cleanLine_of_not_mem (h : backtick ∉ l) : cleanLine l = (listMarker l).getD l := by
  rw [cleanLine, filter_of_not_mem h]

theorem cleanLine_eq_iff (h : backtick ∉ l) : cleanLine l = l ↔ ∀ r, ¬ Numbered l r := by
  rw [cleanLine_of_not_mem h, ← listMarker_eq_none]
  cases hm : listMarker l with
  | none => exact iff_of_true rfl rfl
  | some r =>
      obtain ⟨t, ht, rfl⟩ := listMarker_eq_some.1 hm
      refine iff_of_false (fun heq => ?_) (by simp)
      obtain ⟨u, d, hl, -⟩ := ht
      have hlength := congrArg List.length heq
      have hle := (List.dropWhile_sublist isIndent (l := t)).length_le
      rw [hl, Option.getD_some, List.length_append, List.length_append, List.length_cons] at hlength
      omega

def IsKept (c : Char) : Prop := isBlank c = false ∧ isDecimalDigit c = false ∧ c ≠ '.'

theorem count_cleanLine (hc : IsKept c) (h : backtick ∉ l) : (cleanLine l).count c = l.count c := by
  rw [cleanLine_of_not_mem h]
  cases hm : listMarker l with
  | none => rfl
  | some r =>
      obtain ⟨t, ⟨u, d, hl, hu, -, hd⟩, rfl⟩ := listMarker_eq_some.1 hm
      have hindent {v : List Char} (hv : ∀ e ∈ v, isIndent e) : v.count c = 0 :=
        List.count_eq_zero.2 fun hm =>
          absurd (isBlank_of_isIndent (hv c hm)) (by simp [hc.1])
      have hdigits : d.count c = 0 :=
        List.count_eq_zero.2 fun hm => absurd (hd c hm) (by simp [hc.2.1])
      have ht : (t.dropWhile isIndent).count c = t.count c := by
        conv => rhs; rw [← List.takeWhile_append_dropWhile (p := isIndent) (l := t)]
        rw [List.count_append, hindent fun e he => List.mem_takeWhile_imp he, Nat.zero_add]
      rw [hl, List.count_append, List.count_append, List.count_cons_of_ne (Ne.symm hc.2.2),
        hindent hu, hdigits, Option.getD_some, ht, Nat.zero_add, Nat.zero_add]

theorem fenceStart_eq_none (h : c ≠ backtick) : fenceStart (c :: s) = none := by
  have hdrop : dropWord? fence (c :: s) = none := dropWord?_eq_none fun ⟨r, hr⟩ =>
    h (List.cons_eq_cons.1 hr).1.symm
  rw [fenceStart, hdrop]
  rfl

theorem fenced?_of_not_mem (h : backtick ∉ s) : fenced? s = none := by
  induction s with
  | nil => rfl
  | cons c s ih =>
      obtain ⟨hc, hs⟩ := List.ne_and_not_mem_of_not_mem_cons h
      rw [fenced?, fenceStart_eq_none hc.symm]
      exact ih hs

theorem fenced?_isInfix {block : List Char} (h : fenced? s = some block) : block <:+: s := by
  induction s with
  | nil => exact absurd h (by simp [fenced?])
  | cons c s ih =>
      rw [fenced?] at h
      split at h
      · rename_i rest hrest
        obtain ⟨⟨b, after⟩, hcut, rfl⟩ := Option.map_eq_some_iff.1 h
        obtain ⟨t, ht, hkeyword⟩ := Option.bind_eq_some_iff.1 hrest
        obtain ⟨u, rfl, -⟩ := keyword_eq_some.1 hkeyword
        rw [dropWord?_eq_some.1 ht, cutAt?_eq_some hcut]
        exact ⟨fence ++ u, fence ++ after, by simp only [List.append_assoc]⟩
      · exact (ih h).trans (List.suffix_cons c s).isInfix

theorem fromHeader_isSuffix (ls : List (List Char)) : fromHeader ls <:+ ls := by
  rw [fromHeader]
  split
  · exact List.suffix_rfl
  · exact List.dropWhile_suffix _

theorem clean_sublist (s : List Char) : (clean s).Sublist s := by
  have hmarkers (t : List Char) : (trim (withoutMarkers t)).Sublist t :=
    (trim_isInfix _).sublist.trans ((replaceAll_sublist (List.nil_sublist _) _).trans
      (replaceAll_sublist (List.nil_sublist _) t))
  rw [clean]
  cases hf : fenced? s with
  | some block => exact (hmarkers block).trans (fenced?_isInfix hf).sublist
  | none =>
      have hfrom := joinLines_sublist_of_isSuffix (fromHeader_isSuffix (lines (trim s)))
      exact (hmarkers _).trans ((joinLines_map_sublist cleanLine_sublist _).trans
        (hfrom.trans (joinLines_lines_sublist s)))

theorem forall_blank_fence (h : ∀ c ∈ r, isBlank c) : ∀ c ∈ r, c ∉ fence := by
  intro c hc hm
  have hb := h c hc
  rw [List.eq_of_mem_replicate hm] at hb
  exact absurd hb (by decide)

theorem fenceStart_append (hr : ∀ c ∈ r, isBlank c) :
    fenceStart (s ++ r) = (fenceStart s).map (· ++ r) := by
  have hhead : ∀ c ∈ r.head?, isLatinLetter c = false := fun c hc =>
    isLatinLetter_of_isBlank (hr c (List.mem_of_mem_head? hc))
  rw [fenceStart, fenceStart, dropWord?_append (forall_blank_fence hr)]
  cases dropWord? fence s with
  | none => rfl
  | some t => exact localAt_keyword (by decide) hhead t

theorem fenced?_trim (s : List Char) : fenced? (trim s) = fenced? s := by
  have hbefore {u : List Char} (hu : ∀ c ∈ u, isBlank c) (t : List Char) :
      fenced? (u ++ t) = fenced? t := by
    induction u with
    | nil => rfl
    | cons c u ih =>
        obtain ⟨hc, hu⟩ := List.forall_mem_cons.1 hu
        have hne : c ≠ backtick := by
          rintro rfl
          exact absurd hc (by decide)
        rw [List.cons_append, fenced?, fenceStart_eq_none hne]
        exact ih hu
  have hbehind {v : List Char} (hv : ∀ c ∈ v, isBlank c) (t : List Char) :
      fenced? (t ++ v) = fenced? t := by
    induction t with
    | nil =>
        have hnot := hbefore hv []
        rwa [List.append_nil] at hnot
    | cons c t ih =>
        rw [List.cons_append, fenced?, fenced?, ← List.cons_append, fenceStart_append hv]
        cases fenceStart (c :: t) with
        | none => exact ih
        | some rest => exact fst_cutAt?_append (by decide) (forall_blank_fence hv)
  obtain ⟨u, v, hs, hu, hv⟩ := exists_trim s
  conv => rhs; rw [hs]
  rw [hbefore hu, hbehind hv]

theorem clean_trim (s : List Char) : clean (trim s) = clean s := by
  rw [clean, clean, fenced?_trim, trim_trim]

theorem fromHeader_of_holdsHeader {ls : List (List Char)} (h : holdsHeader l) :
    fromHeader (l :: ls) = l :: ls := by
  rw [fromHeader, List.dropWhile_cons_of_neg (by simp [h])]

theorem withoutMarkers_of_absent (h : ∀ m ∈ [startMarker, endMarker], ¬ m.toList <:+: s) :
    withoutMarkers s = s := by
  rw [withoutMarkers, replaceAll_of_absent (h endMarker (by simp)),
    replaceAll_of_absent (h startMarker (by simp))]

theorem any_head?_of_append {q : Char → Bool} (h : (r ++ s).head?.any q = false) :
    r.head?.any q = false := by
  cases r with
  | nil => rfl
  | cons c r => exact h

theorem BeginsProcedure.solid (h : BeginsProcedure p) : Solid p := by
  obtain ⟨k, r, rfl, hk, -⟩ := h
  obtain ⟨c, k, rfl, hc⟩ := hk.begins
  exact solid_iff.2
    ⟨c, k ++ r, rfl, isBlank_of_isLatinLetter (isLatinLetter_of_fold hc (by decide))⟩

theorem IsPlain.trim (h : IsPlain p) : IsPlain (trim p) where
  begins := by
    obtain ⟨v, hp, hv⟩ := h.begins.solid.exists_trim
    obtain ⟨k, r, hkr, hk, hn, hr⟩ := h.begins
    obtain ⟨w, hw, rfl⟩ := hk.solid_reverse.exists_of_append_eq hv (hkr.symm.trans hp)
    exact ⟨k, w, hw, hk, hn, any_head?_of_append hr⟩
  noBacktick := fun hm => h.noBacktick ((trim_isInfix p).subset hm)
  noMarker := fun m hm hi => h.noMarker m hm (hi.trans (trim_isInfix p))

theorem IsPlain.tight_trim (h : IsPlain p) : Tight (Text.trim p) := by
  apply Text.tight_trim
  rintro hnil
  have hs := h.trim.begins.solid
  rw [hnil] at hs
  exact absurd hs (by decide)

theorem IsPlain.fromHeader_lines (h : IsPlain p) : fromHeader (lines p) = lines p := by
  obtain ⟨k, r, rfl, hk, hn, hr⟩ := h.begins
  obtain ⟨v, ls, hlines, w, rfl⟩ := exists_first_line (r := r) hk.solid_reverse hn
  rw [hlines]
  exact fromHeader_of_holdsHeader (hk.holdsHeader (any_head?_of_append hr))

theorem IsPlain.not_mem_line (h : IsPlain p) (hl : l ∈ lines p) : backtick ∉ l :=
  fun hm => h.noBacktick ((infix_of_mem_lines hl).subset hm)

theorem marker_one_line : ∀ m ∈ [startMarker, endMarker], '\n' ∉ m.toList ∧ m.toList ≠ [] := by
  decide

theorem IsPlain.noMarker_lines (h : IsPlain p) : ∀ m ∈ [startMarker, endMarker],
    ¬ m.toList <:+: joinLines ((lines p).map cleanLine) := by
  intro m hm hi
  obtain ⟨hn, hne⟩ := marker_one_line m hm
  obtain ⟨k, hk, hmk⟩ := exists_infix_of_joinLines hn hne hi
  obtain ⟨l, hl, rfl⟩ := List.mem_map.1 hk
  have hline : cleanLine l <:+ l := by
    have hsuffix := cleanLine_isSuffix l
    rwa [filter_of_not_mem (h.not_mem_line hl)] at hsuffix
  exact h.noMarker m hm (hmk.trans (hline.isInfix.trans (infix_of_mem_lines hl)))

theorem IsPlain.clean_eq (h : IsPlain p) :
    clean p = Text.trim (joinLines ((lines (Text.trim p)).map cleanLine)) := by
  rw [clean, fenced?_of_not_mem h.noBacktick, h.trim.fromHeader_lines]
  exact congrArg Text.trim (withoutMarkers_of_absent h.trim.noMarker_lines)

theorem IsPlain.count_clean (h : IsPlain p) (hc : IsKept c) : (clean p).count c = p.count c := by
  have hn : c ≠ '\n' := by
    rintro rfl
    exact absurd hc.1 (by decide)
  rw [h.clean_eq, count_trim hc.1, count_joinLines hn,
    count_flatten_map fun l hl => count_cleanLine hc (h.trim.not_mem_line hl),
    count_flatten_lines hc.1, count_trim hc.1]

theorem IsPlain.clean_eq_joinLines_iff (h : IsPlain p) :
    clean p = joinLines (lines (Text.trim p)) ↔ ∀ l ∈ lines (Text.trim p), ∀ r, ¬ Numbered l r := by
  have hlines : (∀ l ∈ lines (Text.trim p), cleanLine l = l) ↔
      ∀ l ∈ lines (Text.trim p), ∀ r, ¬ Numbered l r :=
    forall₂_congr fun l hl => cleanLine_eq_iff (h.trim.not_mem_line hl)
  rw [h.clean_eq, ← hlines, ← joinLines_map_eq_iff cleanLine_sublist]
  have hless := joinLines_map_sublist cleanLine_sublist (lines (Text.trim p))
  constructor
  · -- the clean text is a part of the joined lines and cannot be all of them if a line is shorter
    intro heq
    refine hless.antisymm ?_
    rw [← heq]
    exact (trim_isInfix _).sublist
  · intro heq
    rw [heq]
    exact (tight_joinLines_lines h.tight_trim).trim_eq

/-- Cleaning keeps the text of a plain procedure, but for the blanks around it and the carriage
returns at the ends of its lines, just if no line opens with a number and a dot. -/
theorem cleaned_eq_iff {p : String} (h : IsPlain p.toList) :
    cleaned p = String.ofList (replaceAll "\r\n".toList "\n".toList (trim p.toList)) ↔
      ∀ l ∈ lines p.toList, ∀ r, ¬ Numbered l r := by
  obtain ⟨v, hp, hv⟩ := h.begins.solid.exists_trim
  have hlines := exists_lines_append_blank ignoresBlanks_numbered h.tight_trim.2 hv
  rw [← hp] at hlines
  have hnone : (∀ l ∈ lines p.toList, ∀ r, ¬ Numbered l r) ↔
      ∀ l ∈ lines (trim p.toList), ∀ r, ¬ Numbered l r := by
    simpa only [not_exists, not_and] using not_congr hlines
  rw [cleaned, String.ofList_inj, hnone, ← h.clean_eq_joinLines_iff, joinLines_lines h.tight_trim.2]
  rfl

theorem isKeywords_createProcedure : IsKeywords "CREATE PROCEDURE".toList :=
  ⟨"CREATE ".toList, [], "PROCEDURE".toList, by decide +kernel,
    spelled_singleton_iff.2 ⟨"CREATE".toList, [' '], by decide +kernel, by decide +kernel,
      by decide, List.forall_mem_singleton.2 (by decide)⟩, Or.inl rfl, Or.inr rfl⟩

theorem cleaned_windows : cleaned "CREATE PROCEDURE p AS\r\nSELECT 1.5\n" =
    "CREATE PROCEDURE p AS\nSELECT 1.5" := by
  have hplain : IsPlain "CREATE PROCEDURE p AS\r\nSELECT 1.5\n".toList :=
    ⟨⟨_, " p AS\r\nSELECT 1.5\n".toList, by decide +kernel, isKeywords_createProcedure, by decide,
      by decide +kernel⟩, by decide +kernel, by decide +kernel⟩
  have hlines : ∀ l ∈ lines "CREATE PROCEDURE p AS\r\nSELECT 1.5\n".toList,
      listMarker l = none := by decide +kernel
  refine ((cleaned_eq_iff hplain).2 fun l hl => listMarker_eq_none.1 (hlines l hl)).trans ?_
  decide +kernel

def sumOfLiterals : String := "CREATE PROCEDURE p AS SELECT 1 +\n1.5"

/-- A literal that opens a line is taken for the number of a list. -/
theorem cleaned_sumOfLiterals : IsPlain sumOfLiterals.toList ∧
    (∀ l ∈ lines sumOfLiterals.toList, ∀ r, Numbered l r → r.head?.any isBlank = false) ∧
    String.ofList (replaceAll "\r\n".toList "\n".toList (trim sumOfLiterals.toList)) =
      sumOfLiterals ∧
    cleaned sumOfLiterals = "CREATE PROCEDURE p AS SELECT 1 +\n5" := by
  refine ⟨⟨⟨_, " p AS SELECT 1 +\n1.5".toList, by decide +kernel, isKeywords_createProcedure,
    by decide, by decide +kernel⟩, by decide +kernel, by decide +kernel⟩, ?_, by decide +kernel,
    by decide +kernel⟩
  intro l hl r hr
  have hread : ∀ l ∈ lines sumOfLiterals.toList,
      ∀ r ∈ (many isIndent >=> many1 isDecimalDigit >=> Scanner.char '.') l,
        r.head?.any isBlank = false := by decide +kernel
  exact hread l hl r (numbered_iff.1 hr)

end IndexTuning.Answer
