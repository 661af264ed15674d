import IndexTuning.Proofs.Sql.Script
import Mathlib.Data.List.Forall2

namespace IndexTuning.Sql.Statement

open Text

variable {m : Mode} {b p s t : List Char} {ls ps : List (List Char)}

/-- The text is cut behind its first semicolon in code, and what follows is read from code again. -/
inductive CutsInto : List Char → List (List Char) → Prop
  | last {s : List Char} : Unbroken .code s → CutsInto s [s]
  | semicolon {s t : List Char} {ps : List (List Char)} :
      Inert s → CutsInto t ps → CutsInto (s ++ ';' :: t) ((s ++ [';']) :: ps)

/-- Read from code, a semicolon in code can only be the last character. -/
def Uncut (s : List Char) : Prop :=
  ∀ u v, s = u ++ ';' :: v → (Mode.code.after u).inCode → v = []

/-- Nothing but blanks and semicolons. -/
def isHollow (piece : List Char) : Bool := piece.all fun c => isBlank c || c == ';'

def unspaced (s : List Char) : List Char := s.filter fun c => !isBlank c

theorem exists_semicolon_of_not_unbroken (h : ¬ Unbroken m b) :
    ∃ s t, b = s ++ ';' :: t ∧ Unbroken m s ∧ (m.after s).inCode := by
  induction b generalizing m with
  | nil => exact absurd (unbroken_of_not_mem List.not_mem_nil) h
  | cons c b ih =>
      by_cases hc : c = ';' ∧ m.inCode
      · obtain ⟨rfl, hm⟩ := hc
        exact ⟨[], b, rfl, unbroken_of_not_mem List.not_mem_nil, hm⟩
      · have hb : ¬ Unbroken (m.step c) b := fun hb => h (unbroken_cons.2 ⟨hc, hb⟩)
        obtain ⟨s, t, rfl, hs, hend⟩ := ih hb
        exact ⟨c :: s, t, rfl, unbroken_cons.2 ⟨hc, hs⟩, hend⟩

theorem cutsInto_segments (b : List Char) : CutsInto b (segments .code b) := by
  -- not on the characters: each piece is read from code, whatever the one before it left open
  induction hn : b.length using Nat.strong_induction_on generalizing b with
  | _ n ih =>
      by_cases hb : Unbroken .code b
      · rw [segments_of_unbroken hb]
        exact .last hb
      · obtain ⟨s, t, rfl, hs, hend⟩ := exists_semicolon_of_not_unbroken hb
        rw [List.length_append, List.length_cons] at hn
        rw [segments_append_semicolon hs hend]
        exact .semicolon ⟨hs, hend⟩ (ih t.length (by omega) t rfl)

theorem Unbroken.uncut (h : Unbroken .code s) : Uncut s := by
  intro u v hs hcode
  rw [h u v hs] at hcode
  exact absurd hcode Bool.false_ne_true

theorem uncut_concat (h : Unbroken .code s) : Uncut (s ++ [';']) := by
  intro u v hs hcode
  rcases List.eq_nil_or_concat v with rfl | ⟨w, c, rfl⟩
  · rfl
  · rw [List.concat_eq_append, ← List.cons_append, ← List.append_assoc] at hs
    have hu : s = u ++ ';' :: w := (List.append_inj' hs rfl).1
    rw [h u w hu] at hcode
    exact absurd hcode Bool.false_ne_true

theorem CutsInto.uncut (h : CutsInto b ps) : ∀ p ∈ ps, Uncut p := by
  induction h with
  | last hs => exact List.forall_mem_singleton.2 hs.uncut
  | semicolon hs _ ih => exact List.forall_mem_cons.2 ⟨uncut_concat hs.unbroken, ih⟩

theorem Uncut.trim (h : Uncut p) : Uncut (trim p) := by
  obtain ⟨a, d, hp, ha, -⟩ := exists_trim p
  have hcode : Mode.code.after a = .code := Mode.code_after_plain fun c hc => Or.inr (ha c hc)
  intro u v htrim hu
  have hv : v ++ d = [] := by
    apply h (a ++ u) (v ++ d)
    · conv => lhs; rw [hp, htrim]
      simp only [List.append_assoc, List.cons_append]
    · rw [Mode.after_append, hcode]
      exact hu
  exact (List.append_eq_nil_iff.1 hv).1

theorem isHollow_iff : isHollow p ↔ ∀ c ∈ p, isBlank c ∨ c = ';' := by
  simp [isHollow]

/-- The test looks only at the semicolons that end a text, so `; ;` would pass it for a statement.
No piece is like that. -/
theorem Uncut.ofPiece?_hollow (h : Uncut p) (hp : isHollow p) : ofPiece? p = none := by
  rw [isHollow_iff] at hp
  by_cases hmem : ';' ∈ p
  · obtain ⟨u, v, rfl, hu⟩ := List.eq_append_cons_of_mem hmem
    have hblank : ∀ c ∈ u, isBlank c := by
      intro c hc
      rcases hp c (List.mem_append_left _ hc) with hb | rfl
      · exact hb
      · exact absurd hc hu
    have hcode : Mode.code.after u = .code :=
      Mode.code_after_plain fun c hc => Or.inr (hblank c hc)
    obtain rfl : v = [] := h u v rfl (by rw [hcode]; rfl)
    have halone := ofPiece?_between (p := [';']) (v := []) hblank (by simp)
    rw [List.append_nil] at halone
    rw [halone]
    decide
  · apply ofPiece?_blank
    intro c hc
    rcases hp c hc with hb | rfl
    · exact hb
    · exact absurd hc hmem

theorem ofPiece?_solid (hp : isHollow p = false) : ofPiece? p = some (trim p) := by
  cases h : ofPiece? p with
  | some t => rw [trim_of_ofPiece? h]
  | none =>
      obtain ⟨u, v, hs, hu, hv⟩ := exists_trim p
      have hall : isHollow p := by
        rw [isHollow_iff, hs]
        intro c hc
        simp only [List.mem_append] at hc
        rcases hc with hc | hc | hc
        · exact Or.inl (hu c hc)
        · exact Or.inr (semicolons_of_ofPiece? h c hc)
        · exact Or.inl (hv c hc)
      rw [hp] at hall
      exact absurd hall Bool.false_ne_true

theorem filterMap_ofPiece? (h : ∀ p ∈ ps, Uncut p) :
    ps.filterMap ofPiece? = (ps.filter fun p => !isHollow p).map trim := by
  induction ps with
  | nil => rfl
  | cons p ps ih =>
      have hrest := ih fun q hq => h q (List.mem_cons_of_mem p hq)
      cases hp : isHollow p with
      | true =>
          rw [List.filterMap_cons_none ((h p List.mem_cons_self).ofPiece?_hollow hp), hrest,
            List.filter_cons_of_neg (by simp [hp])]
      | false =>
          rw [List.filterMap_cons_some (ofPiece?_solid hp), hrest,
            List.filter_cons_of_pos (by simp [hp]), List.map_cons]

theorem tight_of_solid (hp : isHollow p = false) : Tight (trim p) := by
  apply tight_trim
  intro hnil
  have hall : isHollow p := isHollow_iff.2 fun c hc => Or.inl (blank_of_trim hnil c hc)
  rw [hp] at hall
  exact absurd hall Bool.false_ne_true

theorem unspaced_blank (h : ∀ c ∈ s, isBlank c) : unspaced s = [] :=
  List.filter_eq_nil_iff.2 fun c hc => by simp [h c hc]

theorem unspaced_trim (s : List Char) : unspaced (trim s) = unspaced s := by
  obtain ⟨u, v, hs, hu, hv⟩ := exists_trim s
  have hends : unspaced s = unspaced u ++ (unspaced (trim s) ++ unspaced v) := by
    conv => lhs; rw [hs]
    simp only [unspaced, List.filter_append]
  rw [hends, unspaced_blank hu, unspaced_blank hv, List.nil_append, List.append_nil]

theorem unspaced_flatten_trim (ps : List (List Char)) :
    unspaced (ps.map trim).flatten = unspaced ps.flatten := by
  induction ps with
  | nil => rfl
  | cons p ps ih =>
      have hcons (q : List Char) (qs : List (List Char)) :
          unspaced (q :: qs).flatten = unspaced q ++ unspaced qs.flatten := List.filter_append ..
      rw [List.map_cons, hcons, hcons, unspaced_trim, ih]

theorem batchesOfLines_eq (ls : List (List Char)) :
    batchesOfLines ls = (ls.splitOnP isSeparator).map List.flatten := by
  induction ls with
  | nil => rfl
  | cons l ls ih =>
      obtain ⟨k, ks, hk⟩ := List.exists_cons_of_ne_nil (List.splitOnP_ne_nil isSeparator ls)
      rw [batchesOfLines, List.splitOnP_cons_eq_if_modifyHead, ih, hk]
      split <;> rfl

theorem flatten_batchesOfLines (ls : List (List Char)) :
    (batchesOfLines ls).flatten = (ls.filter fun l => !isSeparator l).flatten := by
  induction ls with
  | nil => rfl
  | cons l ls ih =>
      rw [flatten_batchesOfLines_cons, ih]
      cases hl : isSeparator l with
      | true => rw [if_pos rfl, List.filter_cons_of_neg (by simp [hl]), List.nil_append]
      | false =>
          rw [if_neg Bool.false_ne_true, List.filter_cons_of_pos (by simp [hl]), List.flatten_cons]

/-- The lines between two separators are put together and cut behind their semicolons in code. The
pieces are the text without its separator lines, and the statements are the pieces, trimmed, but
for those of blanks and semicolons alone. -/
theorem split_conserves (sql : String) :
    (∀ t ∈ split sql, Tight t.toList ∧ Uncut t.toList) ∧
    ∃ pieces : List (List (List Char)),
      List.Forall₂ CutsInto
        (((linesWithBreaks sql.toList).splitOnP isSeparator).map List.flatten) pieces ∧
      pieces.flatten.flatten =
        ((linesWithBreaks sql.toList).filter fun l => !isSeparator l).flatten ∧
      (split sql).map String.toList =
        (pieces.flatten.filter fun p => !isHollow p).map trim ∧
      unspaced ((split sql).map String.toList).flatten =
        unspaced (pieces.flatten.filter fun p => !isHollow p).flatten := by
  have hcuts : List.Forall₂ CutsInto (batchesOfLines (linesWithBreaks sql.toList))
      ((batchesOfLines (linesWithBreaks sql.toList)).map (segments .code)) :=
    List.forall₂_map_right_iff.2 (List.forall₂_same.2 fun b _ => cutsInto_segments b)
  have huncut : ∀ p ∈ (batchesOfLines (linesWithBreaks sql.toList)).flatMap (segments .code),
      Uncut p := by
    intro p hp
    obtain ⟨b, -, hpb⟩ := List.mem_flatMap.1 hp
    exact (cutsInto_segments b).uncut p hpb
  have hstatements : (split sql).map String.toList =
      (((batchesOfLines (linesWithBreaks sql.toList)).flatMap (segments .code)).filter
        fun p => !isHollow p).map trim := by
    rw [← filterMap_ofPiece? huncut, ← ofScript_eq, split, List.map_map]
    have hid : String.toList ∘ String.ofList = id := funext fun s => String.toList_ofList
    rw [hid, List.map_id]
  refine ⟨fun t ht => ?_, (batchesOfLines (linesWithBreaks sql.toList)).map (segments .code),
    ?_, ?_, ?_, ?_⟩
  · have hmem := List.mem_map_of_mem (f := String.toList) ht
    rw [hstatements] at hmem
    obtain ⟨p, hp, hpt⟩ := List.mem_map.1 hmem
    obtain ⟨hpiece, hsolid⟩ := List.mem_filter.1 hp
    rw [← hpt]
    exact ⟨tight_of_solid (by simpa using hsolid), (huncut p hpiece).trim⟩
  · rwa [← batchesOfLines_eq]
  · rw [← List.flatMap_def, flatten_segments_flatMap, flatten_batchesOfLines]
  · rw [hstatements, List.flatMap_def]
  · rw [hstatements, unspaced_flatten_trim, List.flatMap_def]

def mixedScript : String := "SELECT ';]' AS [a;];;\nGO 2\n ; \nSELECT 2 -- x;"

theorem split_conserves_mixedScript :
    split mixedScript = ["SELECT ';]' AS [a;];", "SELECT 2 -- x;"] ∧
    ∀ t ∈ ["SELECT ';]' AS [a;];", "SELECT 2 -- x;"], Tight t.toList ∧ Uncut t.toList := by
  have hsplit : split mixedScript = ["SELECT ';]' AS [a;];", "SELECT 2 -- x;"] := by
    decide +kernel
  exact ⟨hsplit, hsplit ▸ (split_conserves mixedScript).1⟩

end IndexTuning.Sql.Statement
