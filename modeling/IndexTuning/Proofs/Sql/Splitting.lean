import IndexTuning.Proofs.Sql.Statement
import IndexTuning.Proofs.Text.Blank
import IndexTuning.Proofs.Text.Line

namespace IndexTuning.Sql

open Text

namespace Mode

theorem step_semicolon {m : Mode} (h : m.inCode) : m.step ';' = code := by
  revert h
  cases m <;> decide

end Mode

namespace Statement

variable {m : Mode} {b s t u : List Char}

theorem segments_append_semicolon (hu : Unbroken m s) (hc : (m.after s).inCode) :
    segments m (s ++ ';' :: t) = (s ++ [';']) :: segments .code t := by
  induction s generalizing m with
  | nil =>
      have hm : m.inCode := hc
      rw [List.nil_append, segments, if_pos ⟨rfl, hm⟩, Mode.step_semicolon hm, List.nil_append]
  | cons c s ih =>
      obtain ⟨hcut, hs⟩ := unbroken_cons.1 hu
      rw [List.cons_append, segments_cons_of_not hcut (ih hs hc), List.cons_append]

theorem segments_of_unbroken (hu : Unbroken m s) : segments m s = [s] := by
  induction s generalizing m with
  | nil => rfl
  | cons c s ih =>
      obtain ⟨hcut, hs⟩ := unbroken_cons.1 hu
      exact segments_cons_of_not hcut (ih hs)

def begins (s : List Char) : Bool := s.head?.any fun c => !isBlank c && c != ';'

theorem begins_iff : begins s ↔ ∃ c r, s = c :: r ∧ isBlank c = false ∧ c ≠ ';' := by
  cases s with
  | nil => simp [begins]
  | cons c s => simp [begins]

theorem begins_append (h : begins s) : begins (s ++ t) := by
  obtain ⟨c, r, rfl, hc⟩ := begins_iff.1 h
  exact begins_iff.2 ⟨c, r ++ t, rfl, hc⟩

/-- No semicolon of the text is read in code, and nothing is open at its end. -/
structure Inert (s : List Char) : Prop where
  unbroken : Unbroken .code s
  closed : (Mode.code.after s).inCode

/-- The text is one statement with its semicolon. -/
structure IsSingle (s : List Char) : Prop where
  ends : ∃ b, s = b ++ [';'] ∧ Inert b
  begins : begins s

theorem IsSingle.tight (h : IsSingle s) : Tight s := by
  obtain ⟨c, r, hs, hc, -⟩ := begins_iff.1 h.begins
  obtain ⟨b, hb, -⟩ := h.ends
  constructor
  · exact solid_iff.2 ⟨c, r, hs, hc⟩
  · rw [hb, List.reverse_append]
    exact solid_iff.2 ⟨';', b.reverse, rfl, by decide⟩

theorem ofPiece?_tight (ht : Tight t) (hb : begins t) (hu : ∀ c ∈ u, isBlank c) :
    ofPiece? (u ++ t) = some t := by
  obtain ⟨c, r, rfl, hc, hne⟩ := begins_iff.1 hb
  have htrim := ht.trim_between (v := []) hu (by simp)
  rw [List.append_nil] at htrim
  obtain ⟨q, hq⟩ := dropEndWhile_cons_of_neg (p := (· == ';')) (c := c) (by simp [hne]) r
  have hnil : trim (c :: q) ≠ [] := trim_ne_nil List.mem_cons_self hc
  simp only [ofPiece?, htrim, hq, if_neg hnil]

theorem ofPiece?_blank (hu : ∀ c ∈ u, isBlank c) : ofPiece? u = none := by
  simp only [ofPiece?, trim_of_blank hu]
  rfl

theorem semicolon_not_mem_blank (hu : ∀ c ∈ u, isBlank c) : ';' ∉ u := by
  intro h
  exact absurd (hu ';' h) (by decide)

theorem ofBatch_blank (hu : ∀ c ∈ u, isBlank c) : ofBatch u = [] := by
  rw [ofBatch, segments_of_unbroken (unbroken_of_not_mem (semicolon_not_mem_blank hu)),
    List.filterMap_cons_none (ofPiece?_blank hu), List.filterMap_nil]

theorem ofBatch_append (hu : ∀ c ∈ u, isBlank c) (hs : IsSingle s) (t : List Char) :
    ofBatch (u ++ (s ++ t)) = s :: ofBatch t := by
  obtain ⟨b, rfl, hb⟩ := hs.ends
  have hcode : Mode.code.after u = .code := Mode.code_after_plain fun c hc => Or.inr (hu c hc)
  have hunbroken : Unbroken .code (u ++ b) := by
    rw [unbroken_append, hcode]
    exact ⟨unbroken_of_not_mem (semicolon_not_mem_blank hu), hb.unbroken⟩
  have hclosed : (Mode.code.after (u ++ b)).inCode := by
    rw [Mode.after_append, hcode]
    exact hb.closed
  have hcut := segments_append_semicolon (t := t) hunbroken hclosed
  rw [List.append_assoc, List.append_assoc] at hcut
  rw [ofBatch, List.append_assoc, List.singleton_append, hcut,
    List.filterMap_cons_some (ofPiece?_tight hs.tight hs.begins hu), ofBatch]

theorem IsSingle.ofBatch_append (hs : IsSingle s) (t : List Char) :
    ofBatch (s ++ t) = s :: ofBatch t :=
  Statement.ofBatch_append (u := []) (by simp) hs t

theorem IsSingle.ofBatch_eq (hs : IsSingle s) : ofBatch s = [s] := by
  have h := hs.ofBatch_append []
  rwa [List.append_nil, ofBatch_blank (u := []) (by simp)] at h

theorem ofBatch_joinLines {ss : List (List Char)} (hu : ∀ c ∈ u, isBlank c)
    (hs : ∀ s ∈ ss, IsSingle s) : ofBatch (u ++ joinLines ss) = ss := by
  induction ss generalizing u with
  | nil =>
      rw [joinLines, List.intercalate_nil, List.append_nil]
      exact ofBatch_blank hu
  | cons s ss ih =>
      have hone := hs s List.mem_cons_self
      by_cases hnil : ss = []
      · have h := ofBatch_append hu hone []
        rw [List.append_nil] at h
        rw [hnil, joinLines_singleton, h]
        rfl
      · have hrest := ih forall_blank_newline fun k hk => hs k (List.mem_cons_of_mem s hk)
        rw [joinLines_cons hnil, ofBatch_append hu hone]
        exact congrArg (s :: ·) hrest

theorem begins_joinLines {ss : List (List Char)} (h : begins s) : begins (joinLines (s :: ss)) := by
  by_cases hnil : ss = []
  · rw [hnil, joinLines_singleton]
    exact h
  · rw [joinLines_cons hnil]
    exact begins_append h

theorem isSeparator_of_trim {c : Char} {l : List Char} (h : trim l = c :: s)
    (hc : c.toLower ≠ 'g') : isSeparator l = false := by
  rw [isSeparator, h]
  cases s with
  | nil => rfl
  | cons d s => simp [hc]

theorem batchesOfLines_of_not {ls : List (List Char)} (h : ∀ l ∈ ls, isSeparator l = false) :
    batchesOfLines ls = [ls.flatten] := by
  induction ls with
  | nil => rfl
  | cons l ls ih =>
      rw [batchesOfLines, if_neg (by simp [h l List.mem_cons_self]),
        ih fun k hk => h k (List.mem_cons_of_mem l hk), List.flatten_cons]

theorem ofScript_eq_ofBatch (h : ∀ l ∈ linesWithBreaks s, isSeparator l = false) (ht : Tight s)
    (hb : begins s) : ofScript s = ofBatch s := by
  have hp : ofPiece? s = some s := ofPiece?_tight (u := []) ht hb (by simp)
  rw [ofScript, batches, batchesOfLines_of_not h, flatten_linesWithBreaks,
    List.filterMap_cons_some hp, List.filterMap_nil, List.flatMap_singleton]

/-- Single statements one a line are the statements of the script, if no line separates batches. -/
theorem ofScript_joinLines {ss : List (List Char)} (hs : ∀ s ∈ ss, IsSingle s)
    (hl : ∀ l ∈ linesWithBreaks (joinLines ss), isSeparator l = false) :
    ofScript (joinLines ss) = ss := by
  cases ss with
  | nil => rfl
  | cons s ss =>
      have htight : Tight (joinLines (s :: ss)) :=
        tight_joinLines (List.cons_ne_nil s ss) fun k hk => (hs k hk).tight
      rw [ofScript_eq_ofBatch hl htight (begins_joinLines (hs s List.mem_cons_self).begins)]
      exact ofBatch_joinLines (u := []) (by simp) hs

end Statement

end IndexTuning.Sql
