import IndexTuning.Proofs.Sql.Splitting

namespace IndexTuning.Sql

open Text

namespace Mode

variable {m : Mode} {c : Char}

def marks : List Char := ['\'', '"', '[', ']', '-', '/', '*']

theorem step_of_not_mem_marks (hm : m.inCode) (hc : c ∉ marks) : m.step c = code := by
  have hne (d : Char) (hd : d ∈ marks) : c ≠ d := by
    rintro rfl
    exact hc hd
  have hcode : ofCode c = code := by
    unfold ofCode
    split
    all_goals first
      | rfl
      | exact absurd rfl (hne _ (by decide))
  cases m with
  | code => exact hcode
  | dash => rw [step, if_neg (hne '-' (by decide)), hcode]
  | slash => rw [step, if_neg (hne '*' (by decide)), hcode]
  | bracketEnd => rw [step, if_neg (hne ']' (by decide)), hcode]
  | _ => exact absurd hm (by decide)

theorem after_of_not_mem_marks {s : List Char} (hm : m.inCode) (hne : s ≠ [])
    (hs : ∀ c ∈ s, c ∉ marks) : m.after s = code := by
  induction s generalizing m with
  | nil => exact absurd rfl hne
  | cons c s ih =>
      rw [after_cons, step_of_not_mem_marks hm (hs c List.mem_cons_self)]
      by_cases hnil : s = []
      · rw [hnil, after_nil]
      · exact ih rfl hnil fun d hd => hs d (List.mem_cons_of_mem c hd)

end Mode

namespace Statement

variable {m : Mode} {c : Char} {b l p s t u v : List Char} {ls ps qs : List (List Char)}

/-- The word GO alone on a line, or with blanks and a count behind it. -/
def isGoLine (line : List Char) : Bool :=
  match trim line with
  | g :: o :: rest =>
    g.toLower == 'g' && o.toLower == 'o' && rest.head?.all isBlank && (trim rest).all Char.isDigit
  | _ => false

def prepend (c : Char) : List (List Char) → List (List Char)
  | [] => [[c]]
  | p :: ps => (c :: p) :: ps

/-- Cuts `s` behind every semicolon in code. What is left behind the last one begins the first of
the pieces `rest`. -/
def cut (m : Mode) (s : List Char) (rest : List (List Char)) : List (List Char) :=
  match s with
  | [] => rest
  | c :: s =>
    if c = ';' ∧ m.inCode then [c] :: cut (m.step c) s rest else prepend c (cut (m.step c) s rest)

/-- The pieces of some lines in one reading from left to right, without the separator lines that it
meets in code. -/
def piecesOfLines (m : Mode) : List (List Char) → List (List Char)
  | [] => [[]]
  | l :: ls =>
    if m.inCode ∧ isGoLine l then [] :: piecesOfLines (m.after l) ls
    else cut m l (piecesOfLines (m.after l) ls)

/-- The statements of a script whose literals, names and comments are read first. -/
def splitLexed (sql : String) : List String :=
  ((piecesOfLines .code (linesWithBreaks sql.toList)).filterMap ofPiece?).map String.ofList

theorem prepend_ne_nil (c : Char) (ps : List (List Char)) : prepend c ps ≠ [] := by
  cases ps <;> exact List.cons_ne_nil _ _

theorem prepend_append (c : Char) (hps : ps ≠ []) (qs : List (List Char)) :
    prepend c (ps ++ qs) = prepend c ps ++ qs := by
  obtain ⟨p, ps, rfl⟩ := List.exists_cons_of_ne_nil hps
  rfl

theorem flatten_prepend (c : Char) (ps : List (List Char)) :
    (prepend c ps).flatten = c :: ps.flatten := by
  cases ps <;> rfl

theorem segments_eq_cut (m : Mode) (s : List Char) : segments m s = cut m s [[]] := by
  induction s generalizing m with
  | nil => rfl
  | cons c s ih =>
      rw [segments, cut, ih]
      split
      · rfl
      · cases cut (m.step c) s [[]] <;> rfl

theorem cut_append (m : Mode) (s t : List Char) (rest : List (List Char)) :
    cut m (s ++ t) rest = cut m s (cut (m.after s) t rest) := by
  induction s generalizing m with
  | nil => rfl
  | cons c s ih => rw [List.cons_append, cut, cut, ih, Mode.after_cons]

theorem cut_ne_nil (m : Mode) (s : List Char) (hps : ps ≠ []) : cut m s ps ≠ [] := by
  cases s with
  | nil => exact hps
  | cons c s =>
      rw [cut]
      split
      · exact List.cons_ne_nil _ _
      · exact prepend_ne_nil _ _

theorem cut_rest (m : Mode) (s : List Char) (hps : ps ≠ []) (qs : List (List Char)) :
    cut m s (ps ++ qs) = cut m s ps ++ qs := by
  induction s generalizing m with
  | nil => rfl
  | cons c s ih =>
      rw [cut, cut, ih]
      split
      · rfl
      · exact prepend_append c (cut_ne_nil _ s hps) qs

theorem flatten_cut (m : Mode) (s : List Char) (ps : List (List Char)) :
    (cut m s ps).flatten = s ++ ps.flatten := by
  induction s generalizing m with
  | nil => rfl
  | cons c s ih =>
      rw [cut]
      split
      · rw [List.flatten_cons, ih]
        rfl
      · rw [flatten_prepend, ih]
        rfl

theorem exists_cut_eq (m : Mode) (s : List Char) : ∃ ps p, ∀ q, cut m s [q] = ps ++ [p ++ q] := by
  induction s generalizing m with
  | nil => exact ⟨[], [], fun q => rfl⟩
  | cons c s ih =>
      obtain ⟨ps, p, h⟩ := ih (m.step c)
      by_cases hc : c = ';' ∧ m.inCode
      · refine ⟨[c] :: ps, p, fun q => ?_⟩
        rw [cut, if_pos hc, h]
        rfl
      · cases ps with
        | nil =>
            refine ⟨[], c :: p, fun q => ?_⟩
            rw [cut, if_neg hc, h]
            rfl
        | cons a ps =>
            refine ⟨(c :: a) :: ps, p, fun q => ?_⟩
            rw [cut, if_neg hc, h]
            rfl

theorem cut_of_unbroken (h : Unbroken m u) (p : List Char) (ps : List (List Char)) :
    cut m u (p :: ps) = (u ++ p) :: ps := by
  induction u generalizing m with
  | nil => rfl
  | cons c u ih =>
      obtain ⟨hc, hu⟩ := unbroken_cons.1 h
      rw [cut, if_neg hc, ih hu]
      rfl

theorem ofPiece?_between (hu : ∀ c ∈ u, isBlank c) (hv : ∀ c ∈ v, isBlank c) :
    ofPiece? (u ++ (p ++ v)) = ofPiece? p := by
  simp only [ofPiece?, trim_between hu hv]

theorem ofBatch_between (hu : ∀ c ∈ u, isBlank c) (hv : ∀ c ∈ v, isBlank c) :
    ofBatch (u ++ (t ++ v)) = ofBatch t := by
  have hcode : Mode.code.after u = .code := Mode.code_after_plain fun c hc => Or.inr (hu c hc)
  have hplain {w : List Char} (hw : ∀ c ∈ w, isBlank c) {m : Mode} : Unbroken m w :=
    unbroken_of_not_mem (semicolon_not_mem_blank hw)
  have hbefore {s : List Char} : ofBatch (u ++ s) = ofBatch s := by
    obtain ⟨p, ps, hs⟩ := List.exists_cons_of_ne_nil (segments_ne_nil .code s)
    have hp := ofPiece?_between (p := p) (v := []) hu (by simp)
    rw [List.append_nil] at hp
    rw [ofBatch, ofBatch, segments_eq_cut, cut_append, hcode, ← segments_eq_cut, hs,
      cut_of_unbroken (hplain hu), List.filterMap_cons, List.filterMap_cons, hp]
  obtain ⟨ps, p, h⟩ := exists_cut_eq .code t
  have hp := ofPiece?_between (p := p) (u := []) (by simp) hv
  have hbehind : segments .code (t ++ v) = ps ++ [p ++ v] := by
    rw [segments_eq_cut, cut_append, cut_of_unbroken (hplain hv), List.append_nil, h]
  have halone : segments .code t = ps ++ [p] := by
    rw [segments_eq_cut, h, List.append_nil]
  rw [hbefore, ofBatch, ofBatch, hbehind, halone, List.filterMap_append, List.filterMap_append,
    List.filterMap_cons, List.filterMap_cons, ← List.nil_append (p ++ v), hp]

theorem ofBatch_semicolons (h : ∀ c ∈ t, c = ';') : ofBatch t = [] := by
  induction t with
  | nil => exact ofBatch_blank (u := []) (by simp)
  | cons c t ih =>
      obtain rfl := h c List.mem_cons_self
      have hc : ofPiece? [';'] = none := by decide
      rw [ofBatch, segments, if_pos ⟨rfl, rfl⟩, List.filterMap_cons_none hc]
      exact ih fun d hd => h d (List.mem_cons_of_mem _ hd)

theorem semicolons_of_ofPiece? (h : ofPiece? b = none) : ∀ c ∈ trim b, c = ';' := by
  have hend : trim (dropEndWhile (· == ';') (trim b)) = [] := by
    by_contra hne
    simp only [ofPiece?, if_neg hne] at h
    exact absurd h (by simp)
  obtain ⟨v, hv, hsemicolons⟩ := exists_dropEndWhile (· == ';') (trim b)
  cases hx : dropEndWhile (· == ';') (trim b) with
  | nil =>
      rw [hx, List.nil_append] at hv
      rw [hv]
      exact fun c hc => by simpa using hsemicolons c hc
  | cons c x =>
      have hblank := blank_of_trim hend c (by rw [hx]; exact List.mem_cons_self)
      have hhead := head?_trimWhere isBlank b c (by rw [← trim, hv, hx]; rfl)
      rw [hhead] at hblank
      exact absurd hblank (by decide)

theorem trim_of_ofPiece? (h : ofPiece? b = some t) : trim b = t := by
  simp only [ofPiece?] at h
  split at h
  · exact absurd h (by simp)
  · exact Option.some.inj h

theorem ofBatch_of_ofPiece? (b : List Char) : (ofPiece? b).toList.flatMap ofBatch = ofBatch b := by
  obtain ⟨u, v, hb, hu, hv⟩ := exists_trim b
  have htrim : ofBatch (trim b) = ofBatch b := by
    conv => rhs; rw [hb, ofBatch_between hu hv]
  cases h : ofPiece? b with
  | none =>
      rw [← htrim, ofBatch_semicolons (semicolons_of_ofPiece? h)]
      rfl
  | some t => rw [Option.toList_some, List.flatMap_singleton, ← trim_of_ofPiece? h, htrim]

/-- Trimming the batches and leaving some out makes no difference. -/
theorem ofScript_eq (s : List Char) : ofScript s =
    ((batchesOfLines (linesWithBreaks s)).flatMap (segments .code)).filterMap ofPiece? := by
  rw [ofScript, batches]
  induction batchesOfLines (linesWithBreaks s) with
  | nil => rfl
  | cons b bs ih =>
      rw [List.flatMap_cons, List.filterMap_append, ← ih, ← ofBatch, ← ofBatch_of_ofPiece? b,
        List.filterMap_cons]
      cases ofPiece? b <;> simp

theorem isSeparator_of_isGoLine (h : isGoLine l) : isSeparator l := by
  rw [isGoLine] at h
  rw [isSeparator]
  cases ht : trim l with
  | nil => simp [ht] at h
  | cons g r =>
      cases r with
      | nil => simp [ht] at h
      | cons o rest =>
          simp only [ht, Bool.and_eq_true] at h ⊢
          exact ⟨h.1.1, h.2⟩

theorem exists_of_isSeparator (h : isSeparator l) : ∃ g o rest, trim l = g :: o :: rest ∧
    g.toLower = 'g' ∧ o.toLower = 'o' ∧ ∀ c ∈ trim rest, c.isDigit := by
  rw [isSeparator] at h
  split at h
  · rename_i g o rest ht
    simp only [Bool.and_eq_true, beq_iff_eq, List.all_eq_true] at h
    exact ⟨g, o, rest, ht, h.1.1, h.1.2, h.2⟩
  · exact absurd h (by simp)

theorem not_mem_marks_of (p : Char → Bool) (h : Mode.marks.all fun c => !p c) (hc : p c) :
    c ∉ Mode.marks := by
  intro hm
  have hnot := List.all_eq_true.1 h c hm
  rw [hc] at hnot
  exact Bool.noConfusion hnot

theorem not_mem_marks_of_isSeparator (h : isSeparator l) : ∀ c ∈ l, c ∉ Mode.marks := by
  have hblank (c : Char) (hc : isBlank c) : c ∉ Mode.marks :=
    not_mem_marks_of isBlank (by decide) hc
  obtain ⟨g, o, rest, ht, hg, ho, hcount⟩ := exists_of_isSeparator h
  obtain ⟨u, v, hl, hu, hv⟩ := exists_trim l
  obtain ⟨u', v', hrest, hu', hv'⟩ := exists_trim rest
  intro c hc
  rw [hl, ht] at hc
  simp only [List.cons_append, List.mem_append, List.mem_cons] at hc
  rcases hc with hc | rfl | rfl | hc | hc
  · exact hblank c (hu c hc)
  · exact not_mem_marks_of (·.toLower == 'g') (by decide) (beq_iff_eq.2 hg)
  · exact not_mem_marks_of (·.toLower == 'o') (by decide) (beq_iff_eq.2 ho)
  · rw [hrest] at hc
    simp only [List.mem_append] at hc
    rcases hc with hc | hc | hc
    · exact hblank c (hu' c hc)
    · exact not_mem_marks_of Char.isDigit (by decide) (hcount c hc)
    · exact hblank c (hv' c hc)
  · exact hblank c (hv c hc)

theorem after_isSeparator (hm : m.inCode) (h : isSeparator l) : m.after l = .code := by
  apply Mode.after_of_not_mem_marks hm
  · rintro rfl
    exact absurd h (by decide)
  · exact not_mem_marks_of_isSeparator h

/-- Each line that is read as a separator starts in code and holds the word GO, on its own or with
a count behind blanks. -/
def SeparatesInCode (m : Mode) (ls : List (List Char)) : Prop :=
  ∀ u l v, ls = u ++ l :: v → isSeparator l → (m.after u.flatten).inCode ∧ isGoLine l

theorem separatesInCode_cons : SeparatesInCode m (l :: ls) ↔
    (isSeparator l → m.inCode ∧ isGoLine l) ∧ SeparatesInCode (m.after l) ls := by
  constructor
  · intro h
    refine ⟨h [] l ls rfl, fun u k v hls => ?_⟩
    have hk := h (l :: u) k v (by rw [hls, List.cons_append])
    rwa [List.flatten_cons, Mode.after_append] at hk
  · rintro ⟨hl, hls⟩ u k v hu
    cases u with
    | nil =>
        obtain ⟨rfl, -⟩ := List.cons_eq_cons.1 hu
        exact hl
    | cons a u =>
        obtain ⟨rfl, rfl⟩ := List.cons_eq_cons.1 hu
        rw [List.flatten_cons, Mode.after_append]
        exact hls u k v rfl

theorem batchesOfLines_ne_nil (ls : List (List Char)) : batchesOfLines ls ≠ [] := by
  cases ls with
  | nil => exact List.cons_ne_nil _ _
  | cons l ls =>
      rw [batchesOfLines]
      split
      · exact List.cons_ne_nil _ _
      · split <;> exact List.cons_ne_nil _ _

/-- A reader that starts afresh behind each separator stands where the one reading stands. -/
theorem piecesOfLines_eq (h : SeparatesInCode m ls) (hb : batchesOfLines ls = b :: ps) :
    piecesOfLines m ls = segments m b ++ ps.flatMap (segments .code) := by
  induction ls generalizing m b ps with
  | nil =>
      obtain ⟨rfl, rfl⟩ := List.cons_eq_cons.1 hb
      rfl
  | cons l ls ih =>
      obtain ⟨hl, hls⟩ := separatesInCode_cons.1 h
      obtain ⟨a, as, ha⟩ := List.exists_cons_of_ne_nil (batchesOfLines_ne_nil ls)
      have hrest := ih hls ha
      rw [batchesOfLines] at hb
      by_cases hsep : isSeparator l
      · obtain ⟨rfl, rfl⟩ := List.cons_eq_cons.1 ((if_pos hsep).symm.trans hb)
        rw [piecesOfLines, if_pos (hl hsep), hrest, after_isSeparator (hl hsep).1 hsep, ha]
        rfl
      · rw [if_neg hsep, ha] at hb
        obtain ⟨rfl, rfl⟩ := List.cons_eq_cons.1 hb
        rw [piecesOfLines, if_neg fun hgo => hsep (isSeparator_of_isGoLine hgo.2), hrest,
          cut_rest _ _ (segments_ne_nil _ _), segments_eq_cut (m.after l), ← cut_append,
          ← segments_eq_cut]

def ink (s : List Char) : Nat := s.countP fun c => !isBlank c && c != ';'

theorem ink_append (s t : List Char) : ink (s ++ t) = ink s + ink t := List.countP_append

theorem ink_eq_zero (h : ∀ c ∈ s, isBlank c ∨ c = ';') : ink s = 0 := by
  rw [ink, List.countP_eq_zero]
  intro c hc
  rcases h c hc with hb | rfl
  · simp [hb]
  · decide

theorem ink_trim (s : List Char) : ink (trim s) = ink s := by
  obtain ⟨u, v, hs, hu, hv⟩ := exists_trim s
  have hzero {w : List Char} (hw : ∀ c ∈ w, isBlank c) : ink w = 0 :=
    ink_eq_zero fun c hc => Or.inl (hw c hc)
  conv => rhs; rw [hs, ink_append, ink_append, hzero hu, hzero hv]
  omega

theorem ink_statements (ps : List (List Char)) :
    ink (ps.filterMap ofPiece?).flatten = ink ps.flatten := by
  induction ps with
  | nil => rfl
  | cons p ps ih =>
      rw [List.flatten_cons, ink_append, ← ih, ← ink_trim p]
      cases h : ofPiece? p with
      | none =>
          rw [List.filterMap_cons_none h,
            ink_eq_zero fun c hc => Or.inr (semicolons_of_ofPiece? h c hc), Nat.zero_add]
      | some t =>
          rw [List.filterMap_cons_some h, List.flatten_cons, ink_append, trim_of_ofPiece? h]

theorem flatten_segments_flatMap (bs : List (List Char)) :
    (bs.flatMap (segments .code)).flatten = bs.flatten := by
  induction bs with
  | nil => rfl
  | cons b bs ih =>
      rw [List.flatMap_cons, List.flatten_append, flatten_segments, ih, List.flatten_cons]

theorem flatten_batchesOfLines_cons (l : List Char) (ls : List (List Char)) :
    (batchesOfLines (l :: ls)).flatten =
      (if isSeparator l then [] else l) ++ (batchesOfLines ls).flatten := by
  obtain ⟨b, bs, hb⟩ := List.exists_cons_of_ne_nil (batchesOfLines_ne_nil ls)
  rw [batchesOfLines, hb]
  split
  · rfl
  · simp

theorem flatten_piecesOfLines_cons (m : Mode) (l : List Char) (ls : List (List Char)) :
    (piecesOfLines m (l :: ls)).flatten =
      (if m.inCode ∧ isGoLine l then [] else l) ++ (piecesOfLines (m.after l) ls).flatten := by
  rw [piecesOfLines]
  split
  · rfl
  · exact flatten_cut _ _ _

theorem ink_pos_of_isSeparator (h : isSeparator l) : 0 < ink l := by
  obtain ⟨g, o, rest, ht, hg, -, -⟩ := exists_of_isSeparator h
  have hne : g ≠ ';' := by
    rintro rfl
    exact absurd hg (by decide)
  have hsolid : isBlank g = false := head?_trimWhere isBlank l g (by rw [← trim, ht]; rfl)
  rw [← ink_trim, ht, ink, List.countP_cons_of_pos (by simp [hsolid, hne])]
  exact Nat.succ_pos _

theorem ink_batches_le (m : Mode) (ls : List (List Char)) :
    ink (batchesOfLines ls).flatten ≤ ink (piecesOfLines m ls).flatten := by
  induction ls generalizing m with
  | nil => exact Nat.le_refl _
  | cons l ls ih =>
      have hrest := ih (m.after l)
      rw [flatten_batchesOfLines_cons, flatten_piecesOfLines_cons, ink_append, ink_append]
      by_cases hgo : m.inCode ∧ isGoLine l
      · rw [if_pos hgo, if_pos (isSeparator_of_isGoLine hgo.2)]
        omega
      · rw [if_neg hgo]
        split
        · exact Nat.le_trans (by rw [ink]; simpa using hrest) (Nat.le_add_left _ _)
        · omega

theorem separatesInCode_of_ink
    (h : ink (piecesOfLines m ls).flatten ≤ ink (batchesOfLines ls).flatten) :
    SeparatesInCode m ls := by
  induction ls generalizing m with
  | nil =>
      intro u l v hls
      exact absurd (congrArg List.length hls) (by simp)
  | cons l ls ih =>
      have hrest := ink_batches_le (m.after l) ls
      rw [flatten_batchesOfLines_cons, flatten_piecesOfLines_cons, ink_append, ink_append] at h
      rw [separatesInCode_cons]
      by_cases hsep : isSeparator l
      · have hpos := ink_pos_of_isSeparator hsep
        rw [if_pos hsep] at h
        by_cases hgo : m.inCode ∧ isGoLine l
        · rw [if_pos hgo] at h
          exact ⟨fun _ => hgo, ih (by omega)⟩
        · rw [if_neg hgo, show ink [] = 0 from rfl] at h
          omega
      · rw [if_neg hsep, if_neg fun hgo => hsep (isSeparator_of_isGoLine hgo.2)] at h
        exact ⟨fun hs => absurd hs hsep, ih (by omega)⟩

/-- The statements are those of one reading of the whole text, cut behind semicolons in code and at
separator lines in code, exactly when each line that is read as a separator is one of the latter. -/
theorem split_eq_splitLexed_iff (sql : String) :
    split sql = splitLexed sql ↔ SeparatesInCode .code (linesWithBreaks sql.toList) := by
  have hlists : split sql = splitLexed sql ↔ ofScript sql.toList =
      (piecesOfLines .code (linesWithBreaks sql.toList)).filterMap ofPiece? :=
    (List.map_injective_iff.2 fun _ _ => String.ofList_injective).eq_iff
  rw [hlists, ofScript_eq]
  constructor
  · intro h
    apply separatesInCode_of_ink
    rw [← ink_statements, ← h, ink_statements, flatten_segments_flatMap]
  · intro h
    obtain ⟨b, bs, hb⟩ := List.exists_cons_of_ne_nil
      (batchesOfLines_ne_nil (linesWithBreaks sql.toList))
    rw [piecesOfLines_eq h hb, hb, List.flatMap_cons]

def literalOverLines : String := "SELECT 'a\nGO\nb; c' AS x;"

/-- A separator line inside a literal tears it apart, and the semicolon behind that line cuts. -/
theorem split_literalOverLines :
    split literalOverLines = ["SELECT 'a", "b;", "c' AS x;"] ∧
    splitLexed literalOverLines = [literalOverLines] ∧
    ¬ SeparatesInCode .code (linesWithBreaks literalOverLines.toList) := by
  refine ⟨by decide +kernel, by decide +kernel, fun h => ?_⟩
  have hlines : linesWithBreaks literalOverLines.toList =
      ["SELECT 'a\n".toList] ++ "GO\n".toList :: ["b; c' AS x;".toList] := by decide +kernel
  have hcode := (h _ _ _ hlines (by decide +kernel)).1
  revert hcode
  decide +kernel

end Statement

end IndexTuning.Sql
