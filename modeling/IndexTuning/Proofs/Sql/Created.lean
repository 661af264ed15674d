import IndexTuning.Proofs.Sql.Heading
import IndexTuning.Proofs.Sql.Statement

namespace IndexTuning.Sql

open Text Scanner

namespace Mode

def isComment : Mode → Bool
  | lineComment | blockComment | blockStar => true
  | _ => false

/-- Where a comment is read on once its beginning lies behind. -/
def settled (m : Mode) : Mode := if m = lineComment then lineComment else blockComment

theorem step_comment {m : Mode} {c : Char} (hm : m.isComment) (hc : c ≠ '/') (hn : c ≠ '\n')
    (hs : c ≠ '*') : m.step c = m.settled := by
  cases m <;> simp_all [isComment, step, settled]

theorem step_settled {m : Mode} {c : Char} (hn : c ≠ '\n') (hs : c ≠ '*') :
    m.settled.step c = m.settled := by
  unfold settled
  split <;> simp [step, hn, hs]

theorem isComment_settled (m : Mode) : m.settled.isComment := by
  unfold settled
  split <;> rfl

end Mode

namespace Procedure

/-- Reads up to the double quote that is not doubled. -/
def readQuoted : List Char → Option (List Char × List Char)
  | [] => none
  | c :: s =>
    if c = '"' then
      match s with
      | '"' :: r => (readQuoted r).map fun p => ('"' :: p.1, p.2)
      | _ => some ([], s)
    else (readQuoted s).map fun p => (c :: p.1, p.2)

def readRegular (s : List Char) : Option (List Char × List Char) :=
  match s.takeWhile Statement.isNamePart with
  | [] => none
  | name => some (name, s.dropWhile Statement.isNamePart)

/-- Reads an identifier: in brackets, in double quotes, or as it is. -/
def readPart : List Char → Option (List Char × List Char)
  | '[' :: s => Identifier.readClosing s
  | '"' :: s => readQuoted s
  | s => readRegular s

def readQualified (s : List Char) : Option (List Char × List Char) :=
  match s.dropWhile isBlank with
  | '.' :: t => readPart (t.dropWhile isBlank)
  | _ => none

def readRest : Nat → List Char → List (List Char)
  | 0, _ => []
  | n + 1, s =>
    match readQualified s with
    | some (part, rest) => part :: readRest n rest
    | none => []

/-- The parts of the name at the beginning of a text, as the server reads it: up to four. -/
def readName (s : List Char) : Option (List (List Char)) :=
  (readPart s).map fun p => p.1 :: readRest 3 p.2

/-- The name of the procedure that a text creates: the one behind the first heading outside
comments. -/
def created? (m : Mode) : List Char → Option (List (List Char))
  | [] => none
  | c :: s =>
    if m.isComment then created? (m.step c) s
    else
      match (createProcedure >=> blanks) (c :: s) with
      | some name => if name.head?.any isNameChar then readName name else created? (m.step c) s
      | none => created? (m.step c) s

variable {m : Mode} {s t : List Char}

theorem created?_skip {c : Char} (h : ¬ Opens (c :: s)) :
    created? m (c :: s) = created? (m.step c) s := by
  rw [created?]
  split
  · rfl
  · split
    · rename_i name hread
      obtain ⟨u, hu, hheading⟩ := heading_of_read hread
      rw [if_neg]
      intro hname
      exact h ⟨u, name, hu, hheading, hname⟩
    · rfl

theorem created?_append (h : ∀ u v, s = u ++ v → v ≠ [] → ¬ Opens (v ++ t)) :
    created? m (s ++ t) = created? (m.after s) t := by
  induction s generalizing m with
  | nil => rfl
  | cons c s ih =>
      have hc : ¬ Opens (c :: (s ++ t)) := h [] (c :: s) rfl (List.cons_ne_nil c s)
      rw [List.cons_append, created?_skip hc, Mode.after_cons]
      apply ih
      intro u v hs hv
      exact h (c :: u) v (by rw [hs, List.cons_append]) hv

theorem created?_heading {k : List Char} (hm : m.isComment = false) (hk : IsHeading k)
    (ht : t.head?.any isNameChar) : created? m (k ++ t) = readName t := by
  have hread := read_of_heading hk (nonblank_of_isNameChar ht)
  obtain ⟨c, d, r, rfl, -⟩ := hk.begins
  rw [List.cons_append] at hread ⊢
  rw [created?, hm, if_neg (by decide), hread]
  exact if_pos ht

theorem created?_settled (hs : ∀ c ∈ s, c ≠ '\n' ∧ c ≠ '*') :
    created? m.settled (s ++ t) = created? m.settled t := by
  induction s with
  | nil => rfl
  | cons c s ih =>
      obtain ⟨hn, hstar⟩ := hs c List.mem_cons_self
      rw [List.cons_append, created?, if_pos m.isComment_settled, Mode.step_settled hn hstar]
      exact ih fun d hd => hs d (List.mem_cons_of_mem c hd)

theorem created?_comment {k : List Char} (hm : m.isComment) (hk : IsHeading k)
    (hs : ∀ c ∈ k ++ s, c ≠ '\n' ∧ c ≠ '*') :
    created? m (k ++ (s ++ t)) = created? m.settled t := by
  obtain ⟨c, d, r, rfl, hc, -⟩ := hk.begins
  obtain ⟨hn, hstar⟩ := hs c List.mem_cons_self
  have hslash : c ≠ '/' := by
    rintro rfl
    exact absurd hc (by decide)
  rw [← List.append_assoc, List.cons_append, List.cons_append, created?, if_pos hm,
    Mode.step_comment hm hslash hn hstar]
  exact created?_settled fun e he => hs e (List.mem_cons_of_mem c he)

theorem toList_dbo : "dbo".toList = ['d', 'b', 'o'] := rfl

theorem readPart_dbo (t : List Char) :
    readPart ("dbo".toList ++ '.' :: t) = some ("dbo".toList, '.' :: t) := by
  have hw : ∀ c ∈ ['d', 'b', 'o'], Statement.isNamePart c := List.all_eq_true.1 (by decide)
  have hd : Statement.isNamePart '.' = false := by decide
  rw [toList_dbo]
  have ht : (['d', 'b', 'o'] ++ '.' :: t).takeWhile Statement.isNamePart = ['d', 'b', 'o'] := by
    rw [List.takeWhile_append_of_pos hw, List.takeWhile_cons_of_neg (by simp [hd]), List.append_nil]
  have hr : (['d', 'b', 'o'] ++ '.' :: t).dropWhile Statement.isNamePart = '.' :: t := by
    rw [List.dropWhile_append_of_pos hw, List.dropWhile_cons_of_neg (by simp [hd])]
  change readRegular (['d', 'b', 'o'] ++ '.' :: t) = _
  rw [readRegular, ht, hr]

theorem readQualified_bracket (name : List Char) (h : t.head? ≠ some ']') :
    readQualified ('.' :: (Identifier.bracket name ++ t)) = some (name, t) := by
  have hd : isBlank '.' = false := by decide
  have hb : isBlank '[' = false := by decide
  have hread := Identifier.readBracketed_bracket name t h
  rw [Identifier.bracket, List.cons_append] at hread ⊢
  simp only [readQualified, List.dropWhile_cons_of_neg (show ¬ isBlank '.' by simp [hd]),
    List.dropWhile_cons_of_neg (show ¬ isBlank '[' by simp [hb])]
  exact hread

theorem readName_bracket (name : List Char) (h : t.head? ≠ some ']') :
    readName ("dbo".toList ++ '.' :: (Identifier.bracket name ++ t)) =
      some ("dbo".toList :: name :: readRest 2 t) := by
  rw [readName, readPart_dbo, Option.map_some, readRest, readQualified_bracket name h]

end Procedure

end IndexTuning.Sql
