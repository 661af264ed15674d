import IndexTuning.Proofs.Sql.Identifier
import IndexTuning.Proofs.Sql.Splitting
import IndexTuning.Sql.Literal

namespace IndexTuning.Sql

open Text

def doubled (q : Char) : List Char → List Char
  | [] => []
  | c :: s => if c = q then q :: q :: doubled q s else c :: doubled q s

theorem Literal.escape_eq_doubled (s : List Char) : escape s = doubled '\'' s := by
  induction s with
  | nil => rfl
  | cons c s ih =>
      rw [escape, doubled, ih]

theorem Identifier.doubleClosing_eq_doubled (s : List Char) : doubleClosing s = doubled ']' s := by
  induction s with
  | nil => rfl
  | cons c s ih =>
      rw [doubleClosing, doubled, ih]

namespace Mode

variable {m : Mode} {q : Char}

/-- Only `q` leads out of the mode, and a second one leads back. -/
structure ClosedBy (m : Mode) (q : Char) : Prop where
  hidden : m.inCode = false
  stays : ∀ c, c ≠ q → m.step c = m
  reopens : (m.step q).step q = m
  ne : q ≠ ';'

theorem literal_closedBy : literal.ClosedBy '\'' := by
  refine ⟨rfl, ?_, rfl, by decide⟩
  intro c hc
  exact if_neg hc

theorem bracketName_closedBy : bracketName.ClosedBy ']' := by
  refine ⟨rfl, ?_, rfl, by decide⟩
  intro c hc
  exact if_neg hc

theorem ClosedBy.after_doubled (h : m.ClosedBy q) (s : List Char) : m.after (doubled q s) = m := by
  induction s with
  | nil => rfl
  | cons c s ih =>
      rw [doubled]
      split
      · rw [after_cons, after_cons, h.reopens, ih]
      · rename_i hc
        rw [after_cons, h.stays c hc, ih]

theorem ClosedBy.unbroken_doubled (h : m.ClosedBy q) (s : List Char) :
    Statement.Unbroken m (doubled q s) := by
  induction s with
  | nil => exact Statement.unbroken_of_not_mem List.not_mem_nil
  | cons c s ih =>
      rw [doubled]
      split
      · rw [Statement.unbroken_cons, Statement.unbroken_cons, h.reopens]
        exact ⟨fun hq => h.ne hq.1, fun hq => h.ne hq.1, ih⟩
      · rename_i hc
        rw [Statement.unbroken_cons, h.stays c hc]
        refine ⟨fun hm => ?_, ih⟩
        rw [h.hidden] at hm
        exact absurd hm.2 Bool.false_ne_true

end Mode

namespace Literal

theorem unescape_cons_of_ne {c : Char} (h : c ≠ '\'') (s : List Char) :
    unescape (c :: s) = c :: unescape s := by
  rw [unescape.eq_def]
  split
  · rename_i heq
    exact absurd (List.cons_eq_cons.1 heq).1 h
  · rename_i heq
    obtain ⟨rfl, rfl⟩ := List.cons_eq_cons.1 heq
    rfl
  · rename_i heq
    exact absurd heq (List.cons_ne_nil _ _)

theorem unescape_escape (s : List Char) : unescape (escape s) = s := by
  induction s with
  | nil => rfl
  | cons c s ih =>
      rw [escape]
      split
      · rename_i hc
        rw [unescape, ih, hc]
      · rename_i hc
        rw [unescape_cons_of_ne hc, ih]

theorem escape_append (s t : List Char) : escape (s ++ t) = escape s ++ escape t := by
  induction s with
  | nil => rfl
  | cons c s ih =>
      rw [List.cons_append, escape, escape, ih]
      split <;> rfl

theorem toList_exec (s : String) :
    (exec s).toList = "EXEC('".toList ++ escape s.toList ++ "');".toList := by
  simp [exec, escaped]

theorem isSingle_exec (s : String) : Statement.IsSingle (exec s).toList := by
  have hopen : Mode.code.after "EXEC('".toList = .literal := by decide
  have hend : "');".toList = "')".toList ++ [';'] := by decide
  refine ⟨⟨"EXEC('".toList ++ escape s.toList ++ "')".toList, ?_, ?_, ?_⟩, ?_⟩
  · rw [toList_exec, hend, ← List.append_assoc]
  · rw [Statement.unbroken_append, Statement.unbroken_append, Mode.after_append, hopen,
      escape_eq_doubled, Mode.literal_closedBy.after_doubled]
    exact ⟨⟨Statement.unbroken_of_not_mem (by decide), Mode.literal_closedBy.unbroken_doubled _⟩,
      Statement.unbroken_of_not_mem (by decide)⟩
  · rw [Mode.after_append, Mode.after_append, escape_eq_doubled, hopen,
      Mode.literal_closedBy.after_doubled]
    decide
  · rw [toList_exec, List.append_assoc]
    exact Statement.begins_append (by decide)

end Literal

namespace Identifier

theorem toList_quote (s : String) : (quote s).toList = bracket (bare s.toList) :=
  String.toList_ofList

end Identifier

namespace Mode

variable {m : Mode} {u : List Char}

def isOutside (m : Mode) : Prop := m = code ∨ m = bracketEnd

/-- A character that stands for itself wherever nothing is open. -/
def isOrdinary (c : Char) : Bool := ofCode c = code && c != ';' && c != ']'

theorem isOutside.inCode (h : m.isOutside) : m.inCode := by
  rcases h with rfl | rfl <;> rfl

theorem isOutside.step {c : Char} (h : m.isOutside) (hc : isOrdinary c) : m.step c = code := by
  simp only [isOrdinary, Bool.and_eq_true, decide_eq_true_eq, bne_iff_ne] at hc
  rcases h with rfl | rfl
  · exact hc.1.1
  · exact (if_neg hc.2).trans hc.1.1

theorem isOutside.after_ordinary (h : m.isOutside) (hu : u.all isOrdinary) :
    (m.after u).isOutside := by
  induction u generalizing m with
  | nil => exact h
  | cons c u ih =>
      rw [List.all_cons, Bool.and_eq_true] at hu
      rw [after_cons, h.step hu.1]
      exact ih (Or.inl rfl) hu.2

theorem unbroken_ordinary (hu : u.all isOrdinary) : Statement.Unbroken m u := by
  apply Statement.unbroken_of_not_mem
  intro hm
  exact absurd (List.all_eq_true.1 hu ';' hm) (by decide)

theorem isOutside.after_bracket (h : m.isOutside) (name : List Char) :
    m.after (Identifier.bracket name) = bracketEnd := by
  have hopen : m.step '[' = bracketName := by
    rcases h with rfl | rfl <;> rfl
  rw [Identifier.bracket, after_cons, after_append, hopen, Identifier.doubleClosing_eq_doubled,
    bracketName_closedBy.after_doubled]
  rfl

theorem isOutside.unbroken_bracket (h : m.isOutside) (name : List Char) :
    Statement.Unbroken m (Identifier.bracket name) := by
  have hopen : m.step '[' = bracketName := by
    rcases h with rfl | rfl <;> rfl
  rw [Identifier.bracket, Statement.unbroken_cons, Statement.unbroken_append, hopen,
    Identifier.doubleClosing_eq_doubled]
  exact ⟨by simp, bracketName_closedBy.unbroken_doubled name,
    Statement.unbroken_of_not_mem (by decide)⟩

end Mode

namespace Statement

variable {m : Mode} {start : List Char} {names : List (List Char × List Char)}

def spellNames (names : List (List Char × List Char)) : List Char :=
  names.flatMap fun n => Identifier.bracket n.1 ++ n.2

def spell (start : List Char) (names : List (List Char × List Char)) : List Char :=
  start ++ spellNames names

theorem not_mem_spell {c : Char} (hs : c ∉ start) (hb : isBracket c = false)
    (hn : ∀ n ∈ names, c ∉ n.1 ∧ c ∉ n.2) : c ∉ spell start names := by
  intro h
  rcases List.mem_append.1 h with h | h
  · exact hs h
  · obtain ⟨n, hmem, h⟩ := List.mem_flatMap.1 h
    obtain ⟨hname, hwords⟩ := hn n hmem
    rcases List.mem_append.1 h with h | h
    · rcases Identifier.eq_bracket_or_mem_of_mem_bracket h with rfl | rfl | h
      · exact absurd hb (by decide)
      · exact absurd hb (by decide)
      · exact hname h
    · exact hwords h

theorem inert_spellNames (hm : m.isOutside)
    (hn : (names.map Prod.snd).all (·.all Mode.isOrdinary)) :
    Unbroken m (spellNames names) ∧ (m.after (spellNames names)).inCode := by
  induction names generalizing m with
  | nil => exact ⟨unbroken_of_not_mem List.not_mem_nil, hm.inCode⟩
  | cons n names ih =>
      rw [List.map_cons, List.all_cons, Bool.and_eq_true] at hn
      have hend : Mode.isOutside .bracketEnd := Or.inr rfl
      obtain ⟨hu, hc⟩ := ih (hend.after_ordinary hn.1) hn.2
      have hcons : spellNames (n :: names) =
          Identifier.bracket n.1 ++ (n.2 ++ spellNames names) := by
        rw [spellNames, List.flatMap_cons, List.append_assoc, spellNames]
      rw [hcons]
      constructor
      · rw [unbroken_append, unbroken_append, hm.after_bracket]
        exact ⟨hm.unbroken_bracket n.1, Mode.unbroken_ordinary hn.1, hu⟩
      · rw [Mode.after_append, Mode.after_append, hm.after_bracket]
        exact hc

theorem isSingle_spell (hs : start.all Mode.isOrdinary) (hb : begins start)
    (hn : (names.map Prod.snd).all (·.all Mode.isOrdinary)) :
    IsSingle (spell start names ++ [';']) := by
  have hcode : Mode.isOutside .code := Or.inl rfl
  obtain ⟨hu, hc⟩ := inert_spellNames (hcode.after_ordinary hs) hn
  refine ⟨⟨_, rfl, ?_, ?_⟩, ?_⟩
  · rw [spell, unbroken_append]
    exact ⟨Mode.unbroken_ordinary hs, hu⟩
  · rw [spell, Mode.after_append]
    exact hc
  · rw [spell, List.append_assoc]
    exact begins_append hb

end Statement

end IndexTuning.Sql
