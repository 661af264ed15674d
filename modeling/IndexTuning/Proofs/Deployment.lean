import IndexTuning.Deployment
import IndexTuning.Proofs.Artifact
import IndexTuning.Proofs.Revision
import IndexTuning.Proofs.Sql.Quoting
import IndexTuning.Proofs.Text.Search

namespace IndexTuning.Artifact

open Sql Text Revision

theorem eq_ofCombined {maintenance unused missing : String} {generated : Option String}
    {a : Artifact} (h : assemble? maintenance unused missing generated = some a) :
    a = ofCombined a.combinedSql := by
  rw [assemble?_eq] at h
  split at h
  · exact absurd h (by simp)
  · obtain rfl := Option.some.inj h
    rfl

theorem assemble?_of_sections {maintenance unused missing part : String}
    {generated : Option String} {parts : List String}
    (h : sections maintenance unused missing generated = part :: parts) :
    assemble? maintenance unused missing generated =
      some (ofCombined ("\n\n".intercalate (part :: parts))) := by
  rw [assemble?, h]

def useStatement (database : String) : String := "USE " ++ Identifier.quote database ++ ";"

theorem isSingle_useStatement (database : String) :
    Statement.IsSingle (useStatement database).toList := by
  have htext : (useStatement database).toList =
      Statement.spell "USE ".toList [(Identifier.bare database.toList, [])] ++ [';'] := by
    simp [useStatement, Statement.spell, Statement.spellNames, Identifier.toList_quote]
  rw [htext]
  exact Statement.isSingle_spell (by decide) (by decide) rfl

theorem isSingle_dropGuard : Statement.IsSingle dropGuard.toList := by
  refine ⟨⟨dropGuard.toList.dropLast, by decide, ?_, by decide⟩, by decide⟩
  exact Statement.unbroken_of_not_mem (by decide)

theorem toList_script (combined database : String) :
    ((ofCombined combined).script (some database)).toList =
      (useStatement database).toList ++ ("\n\n".toList ++ (dropGuard.toList ++
        ("\n\n".toList ++ ((Literal.exec (body combined)).toList ++ "\n".toList)))) := by
  simp [script, useStatement, ofCombined]

theorem ofBatch_script (combined database : String) :
    Statement.ofBatch ((ofCombined combined).script (some database)).toList =
      [(useStatement database).toList, dropGuard.toList,
        (Literal.exec (body combined)).toList] := by
  have hgap : ∀ c ∈ "\n\n".toList, isBlank c := List.all_eq_true.1 (by decide)
  have hend : ∀ c ∈ "\n".toList, isBlank c := List.all_eq_true.1 (by decide)
  rw [toList_script, (isSingle_useStatement database).ofBatch_append,
    Statement.ofBatch_append hgap isSingle_dropGuard,
    Statement.ofBatch_append hgap (Literal.isSingle_exec _), Statement.ofBatch_blank hend]

theorem run_deploy (a : Artifact) (answer : History → Except AdvisorError Unit)
    (database : String) : (a.deploy (recorder answer) database).run [] =
      if goesOn (answer [(database, a.guardSql)]) then
        (answer [(database, a.guardSql), (database, a.createSql)],
          [(database, a.guardSql), (database, a.createSql)])
      else (answer [(database, a.guardSql)], [(database, a.guardSql)]) := by
  rw [deploy, run_bind, run_executeDrop, List.nil_append]
  cases hgo : goesOn (answer [(database, a.guardSql)]) with
  | true => rfl
  | false =>
      rw [if_neg (by decide), if_neg (by decide)]
      cases ha : answer [(database, a.guardSql)] with
      | ok _ =>
          rw [ha] at hgo
          exact absurd hgo (by simp [goesOn])
      | error e => rfl

theorem sent_deploy (a : Artifact) (answer : History → Except AdvisorError Unit)
    (database : String) : ((a.deploy (recorder answer) database).run []).2 =
      (database, a.guardSql) ::
        if goesOn (answer [(database, a.guardSql)]) then [(database, a.createSql)] else [] := by
  rw [run_deploy]
  split <;> rfl

/-- The text that the server finds in the literal of a batch, and what it finds behind it. -/
def readExec (sql : List Char) : Option (List Char × List Char) :=
  (dropWord? "EXEC('".toList sql).bind Literal.readBody

theorem readExec_exec (s : String) :
    readExec (Literal.exec s).toList = some (s.toList, ");".toList) := by
  have hend : "');".toList = '\'' :: ");".toList := by decide
  rw [readExec, Literal.toList_exec, List.append_assoc, dropWord?_eq_some.2 rfl,
    Option.bind_some, hend]
  exact Literal.readBody_escape _ _ (by decide)

theorem toList_body (combined : String) : (body combined).toList =
    "\nCREATE PROCEDURE dbo.recommendation_index\nAS\nBEGIN\n    SET NOCOUNT ON;\n\n".toList ++
      (indent combined.toList ++ "\nEND\n".toList) := by
  have hstart : ("\nCREATE PROCEDURE " ++ procedureName ++
      "\nAS\nBEGIN\n    SET NOCOUNT ON;\n\n").toList =
        "\nCREATE PROCEDURE dbo.recommendation_index\nAS\nBEGIN\n    SET NOCOUNT ON;\n\n".toList := by
    decide
  unfold body
  generalize "\nCREATE PROCEDURE " ++ procedureName ++
    "\nAS\nBEGIN\n    SET NOCOUNT ON;\n\n" = start at hstart ⊢
  rw [String.toList_append, String.toList_append, String.toList_ofList, ← hstart,
    List.append_assoc]

/-- The whole procedure stands in the literal, and the script falls apart into the choice of the
database and the statements that a deployment sends. -/
theorem assemble?_wraps {maintenance unused missing : String} {generated : Option String}
    {a : Artifact} (h : assemble? maintenance unused missing generated = some a) :
    let indented := joinLines ((lines a.combinedSql.toList).map fun line =>
      if isAllBlank line then [] else "    ".toList ++ line)
    let procedure :=
      "\nCREATE PROCEDURE dbo.recommendation_index\nAS\nBEGIN\n    SET NOCOUNT ON;\n\n".toList ++
        (indented ++ "\nEND\n".toList)
    readExec a.createSql.toList = some (procedure, ");".toList) ∧
    (∃ literal, a.createSql.toList = "EXEC('".toList ++ literal ++ "');".toList ∧
      Literal.unescape literal = procedure) ∧
    ∀ database, Statement.ofBatch (a.script (some database)).toList =
        [(useStatement database).toList, a.guardSql.toList, a.createSql.toList] ∧
      ∀ answer, ((a.deploy (recorder answer) database).run []).2 = (database, a.guardSql) ::
        if goesOn (answer [(database, a.guardSql)]) then [(database, a.createSql)] else [] := by
  intro indented procedure
  have ha := eq_ofCombined h
  have hcreate : a.createSql = Literal.exec (body a.combinedSql) := congrArg createSql ha
  have hprocedure : (body a.combinedSql).toList = procedure := toList_body a.combinedSql
  rw [← hprocedure]
  refine ⟨?_, ⟨Literal.escape (body a.combinedSql).toList, ?_, ?_⟩, ?_⟩
  · rw [hcreate]
    exact readExec_exec _
  · rw [hcreate]
    exact Literal.toList_exec _
  · exact Literal.unescape_escape _
  · intro database
    refine ⟨?_, fun answer => a.sent_deploy answer database⟩
    rw [ha]
    exact ofBatch_script _ database

theorem assemble?_wraps_quoted : ∃ a,
    assemble? "ALTER INDEX [it's; a]] \"trap] ON [S].[dbo].[T] REBUILD;" "" "" (some "-- ';") =
      some a ∧
    readExec a.createSql.toList =
      some (("\nCREATE PROCEDURE dbo.recommendation_index\nAS\nBEGIN\n    SET NOCOUNT ON;\n\n" ++
        "    ALTER INDEX [it's; a]] \"trap] ON [S].[dbo].[T] REBUILD;\n\n" ++
        "    -- AI Suggested Indexes --\n    -- ';\nEND\n").toList, ");".toList) ∧
    Statement.ofBatch (a.script (some "Sh]op;")).toList =
      ["USE [Sh]]op;];".toList, a.guardSql.toList, a.createSql.toList] := by
  have hs : sections "ALTER INDEX [it's; a]] \"trap] ON [S].[dbo].[T] REBUILD;" "" ""
      (some "-- ';") = ["ALTER INDEX [it's; a]] \"trap] ON [S].[dbo].[T] REBUILD;",
        generatedMarker ++ "\n-- ';"] := by decide +kernel
  have huse : (useStatement "Sh]op;").toList = "USE [Sh]]op;];".toList := by decide +kernel
  obtain ⟨hread, -, hscript⟩ := assemble?_wraps (assemble?_of_sections hs)
  refine ⟨_, assemble?_of_sections hs, ?_, ?_⟩
  · rw [hread]
    decide +kernel
  · rw [(hscript "Sh]op;").1, huse]

end IndexTuning.Artifact
