import IndexTuning.Proofs.Sql.IndexDefinition
import IndexTuning.Proofs.Sql.Quoting
import IndexTuning.Proofs.Sql.Rename

namespace IndexTuning.Sql

open Text

/-- What a guard says: the name in its literal, and the schema and the name in its brackets. -/
structure DropGuard where
  tested : List Char
  schema : List Char
  name : List Char
  deriving DecidableEq, Repr

namespace DropGuard

def asks : String := "IF OBJECT_ID('"

def drops : String := ", 'P') IS NOT NULL DROP PROCEDURE "

def read (s : List Char) : Option DropGuard := do
  let s ← dropWord? asks.toList s
  let (tested, s) ← Literal.readBody s
  let (schema, s) ← IndexDefinition.readBehind drops s
  let (name, s) ← IndexDefinition.readBehind "." s
  if s = [';'] then some ⟨tested, schema, name⟩ else none

variable (g : DropGuard)

def names : List (List Char × List Char) := [(g.schema, ".".toList), (g.name, [])]

def body : List Char :=
  asks.toList ++ (Literal.escape g.tested ++ ('\'' :: drops.toList ++ Statement.spellNames g.names))

def text : List Char := g.body ++ [';']

theorem text_eq : g.text = asks.toList ++ (Literal.escape g.tested ++
    '\'' :: (drops.toList ++ (Identifier.bracket g.schema ++
      (".".toList ++ (Identifier.bracket g.name ++ [';']))))) := by
  simp only [text, body, names, Statement.spellNames, List.flatMap_cons, List.flatMap_nil,
    List.append_assoc, List.cons_append, List.append_nil]

theorem read_text : read g.text = some g := by
  have hliteral (t : List Char) : (drops.toList ++ t).head? ≠ some '\'' := by
    simp [drops]
  rw [text_eq, read, dropWord?_eq_some.2 rfl]
  change (Literal.readBody _).bind _ = _
  rw [Literal.readBody_escape _ _ (hliteral _)]
  change (IndexDefinition.readBehind _ _).bind _ = _
  rw [IndexDefinition.readBehind_bracket _ (by simp)]
  change (IndexDefinition.readBehind _ _).bind _ = _
  rw [IndexDefinition.readBehind_bracket _ (by simp)]
  rfl

theorem inert_body : Statement.Inert g.body := by
  have hopen : Mode.code.after asks.toList = .literal := by decide
  have hclose : Mode.literal.after ('\'' :: drops.toList) = .code := by decide
  have hliteral := Mode.literal_closedBy.after_doubled g.tested
  have hcode : Mode.code.isOutside := Or.inl rfl
  have hinert : Statement.Unbroken .code (Statement.spellNames g.names) ∧
      (Mode.code.after (Statement.spellNames g.names)).inCode :=
    Statement.inert_spellNames hcode rfl
  obtain ⟨hnames, hend⟩ := hinert
  constructor
  · rw [body, Statement.unbroken_append, Statement.unbroken_append, Statement.unbroken_append,
      hopen, Literal.escape_eq_doubled, hliteral, hclose]
    exact ⟨Statement.unbroken_of_not_mem (by decide), Mode.literal_closedBy.unbroken_doubled _,
      Statement.unbroken_of_not_mem (by decide), hnames⟩
  · rw [body, Mode.after_append, Mode.after_append, Mode.after_append, hopen,
      Literal.escape_eq_doubled, hliteral, hclose]
    exact hend

theorem isSingle_text : Statement.IsSingle g.text := by
  have hbegins : Statement.begins asks.toList := by decide
  exact ⟨⟨g.body, rfl, g.inert_body⟩, Statement.begins_append (Statement.begins_append hbegins)⟩

end DropGuard

namespace Procedure

/-- The parts of a name pass the quoting as they are: their blanks and brackets are gone. -/
theorem bare_of_mem_nameParts {s p : List Char} (hs : ∀ c ∈ s, isNameChar c)
    (hp : p ∈ nameParts s) : Identifier.bare p = p := by
  obtain ⟨hmem, -, hhead⟩ := mem_nameParts hp
  have hopen : p.head? ≠ some '[' := fun h => absurd (hhead '[' h) (by decide)
  have hname : ∀ c ∈ p, isNameChar c := fun c hc => hs c (hmem c hc)
  by_cases hne : p = []
  · rw [hne]
    rfl
  · exact Identifier.bare_of_tight (tight_of_name hne hname) hopen

def guardOf (schema name : List Char) : DropGuard where
  tested := schema ++ '.' :: name
  schema
  name

theorem dropGuard?_eq {sql : String} {n : Name} (h : name? sql = some n)
    (hschema : Identifier.bare (n.schema.getD "dbo").toList = (n.schema.getD "dbo").toList)
    (hname : Identifier.bare n.name.toList = n.name.toList) :
    dropGuard? sql =
      some (String.ofList (guardOf (n.schema.getD "dbo").toList n.name.toList).text) := by
  have hwords : "', 'P') IS NOT NULL DROP PROCEDURE ".toList = '\'' :: DropGuard.drops.toList := by
    decide
  have hdot (s t : List Char) :
      Literal.escape (s ++ '.' :: t) = Literal.escape s ++ (".".toList ++ Literal.escape t) :=
    Literal.escape_append s ('.' :: t)
  rw [dropGuard?, h, Option.map_some, Option.some.injEq, ← String.toList_inj,
    String.toList_ofList, DropGuard.text_eq]
  simp only [String.toList_append, Literal.escaped, String.toList_ofList, Identifier.toList_quote,
    defaultSchema, hschema, hname, hwords, hdot, guardOf, DropGuard.asks, List.append_assoc,
    List.cons_append]
  rfl

/-- The guard of a text is one statement. Its literal and its brackets hold the schema and the name
that are read off the text, and the dot in the literal is the one between them. -/
theorem dropGuard?_readsBack {sql : String} {n : Name} (h : name? sql = some n) :
    let schema := (n.schema.getD "dbo").toList
    let name := n.name.toList
    ∃ guard, dropGuard? sql = some guard ∧
      Statement.ofBatch guard.toList = [guard.toList] ∧
      DropGuard.read guard.toList = some { tested := schema ++ '.' :: name, schema, name } ∧
      splitAtChar '.' (schema ++ '.' :: name) = [schema, name] := by
  intro schema name
  obtain ⟨header, hheader, hparts⟩ := Option.bind_eq_some_iff.1 h
  have hchars := (header?_eq_some.1 hheader).name
  obtain ⟨-, hname, hschema⟩ := Name.mem_of_ofParts? hparts
  have hspec : Identifier.bare schema = schema ∧ '.' ∉ schema := by
    cases hn : n.schema with
    | none =>
        simp only [schema, hn, Option.getD_none]
        decide
    | some s =>
        have hmem := hschema s hn
        simp only [schema, hn, Option.getD_some]
        exact ⟨bare_of_mem_nameParts hchars hmem, (mem_nameParts hmem).2.1⟩
  refine ⟨_, dropGuard?_eq h hspec.1 (bare_of_mem_nameParts hchars hname), ?_, ?_, ?_⟩
  · rw [String.toList_ofList]
    exact (DropGuard.isSingle_text _).ofBatch_eq
  · rw [String.toList_ofList]
    exact DropGuard.read_text _
  · rw [splitAtChar_append hspec.2, splitAtChar_of_not_mem (mem_nameParts hname).2.1]

theorem dropGuard?_readsBack_marks : ∃ guard,
    dropGuard? "CREATE PROCEDURE [a'b;].[x--]y] AS SELECT 1" = some guard ∧
      Statement.ofBatch guard.toList = [guard.toList] ∧
      DropGuard.read guard.toList =
        some ⟨"a'b;.x--]y".toList, "a'b;".toList, "x--]y".toList⟩ := by
  have hn : name? "CREATE PROCEDURE [a'b;].[x--]y] AS SELECT 1" = some ⟨some "a'b;", "x--]y"⟩ := by
    decide +kernel
  obtain ⟨guard, hguard, hsingle, hread, -⟩ := dropGuard?_readsBack hn
  exact ⟨guard, hguard, hsingle, hread⟩

end Procedure

end IndexTuning.Sql
