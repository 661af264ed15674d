import IndexTuning.Executor
import IndexTuning.Proofs.Revision
import IndexTuning.Proofs.Scripts
import IndexTuning.Proofs.Text.Line

namespace IndexTuning

open Sql Text Revision

namespace ApplyReport

def failure? : String × Except AdvisorError Unit → Option StatementFailure
  | (_, .ok _) => none
  | (statement, .error e) => some ⟨statement, e.message⟩

/-- The statements that went through are counted, and the others listed with their errors. -/
def ofResults (results : List (String × Except AdvisorError Unit)) : ApplyReport where
  applied := results.countP (·.2.isOk)
  failures := results.filterMap failure?

variable (results : List (String × Except AdvisorError Unit)) (statement : String)

theorem ofResults_ok : ofResults ((statement, .ok ()) :: results) =
    { ofResults results with applied := (ofResults results).applied + 1 } := by
  rw [ofResults, List.countP_cons_of_pos rfl]
  rfl

theorem ofResults_error (e : AdvisorError) : ofResults ((statement, .error e) :: results) =
    { ofResults results with
      failures := ⟨statement, e.message⟩ :: (ofResults results).failures } := by
  rw [ofResults, List.countP_cons_of_neg Bool.false_ne_true]
  rfl

theorem foldl_add (report : ApplyReport) :
    results.foldl (fun report r => report.add r.1 r.2) report =
      { applied := report.applied + (ofResults results).applied
        failures := report.failures ++ (ofResults results).failures } := by
  induction results generalizing report with
  | nil => simp [ofResults]
  | cons r results ih =>
      obtain ⟨statement, _ | _⟩ := r
      · rw [List.foldl_cons, ih, ofResults_error]
        simp [add]
      · rw [List.foldl_cons, ih, ofResults_ok]
        simp [add, Nat.add_assoc, Nat.add_comm]

theorem handled_ofResults :
    (ofResults results).applied + (ofResults results).failures.length = results.length := by
  induction results with
  | nil => rfl
  | cons r results ih =>
      obtain ⟨statement, _ | _⟩ := r
      · rw [ofResults_error, List.length_cons, List.length_cons, ← ih, Nat.add_assoc]
      · rw [ofResults_ok, List.length_cons, ← ih, Nat.add_right_comm]

end ApplyReport

def responses (answer : History → Except AdvisorError Unit) (database : String) :
    History → List String → List (String × Except AdvisorError Unit)
  | _, [] => []
  | sent, s :: rest =>
    (s, answer (sent ++ [(database, s)])) ::
      responses answer database (sent ++ [(database, s)]) rest

variable {answer : History → Except AdvisorError Unit} {database : String}

theorem length_responses (sent : History) (statements : List String) :
    (responses answer database sent statements).length = statements.length := by
  induction statements generalizing sent with
  | nil => rfl
  | cons s rest ih => rw [responses, List.length_cons, ih, List.length_cons]

/-- Every statement is sent, whatever became of those before it. -/
theorem run_foldlM_add (statements : List String) (report : ApplyReport) (sent : History) :
    (statements.foldlM (fun report s => report.add s <$> ((recorder answer).execute database s).run)
      report : StateM History ApplyReport).run sent =
      ((responses answer database sent statements).foldl
          (fun report r => report.add r.1 r.2) report,
        sent ++ statements.map fun s => (database, s)) := by
  induction statements generalizing report sent with
  | nil =>
      rw [List.map_nil, List.append_nil]
      rfl
  | cons s rest ih =>
      have hsent : sent ++ (s :: rest).map (fun s => (database, s)) =
          (sent ++ [(database, s)]) ++ rest.map fun s => (database, s) := by
        rw [List.append_assoc]
        rfl
      rw [hsent]
      exact ih (report.add s (answer (sent ++ [(database, s)]))) (sent ++ [(database, s)])

theorem run_applyScript (script : String) :
    ((recorder answer).applyScript database script).run [] =
      (ApplyReport.ofResults (responses answer database [] (Statement.split script)),
        (Statement.split script).map fun s => (database, s)) := by
  have hrun := @run_foldlM_add answer database (Statement.split script) ⟨0, []⟩ []
  rw [ApplyReport.foldl_add, Nat.zero_add, List.nil_append, List.nil_append] at hrun
  exact hrun

namespace Maintenance

def names (x : Maintenance) : List String := [x.database, x.schema, x.table, x.index]

theorem not_mem_statement {x : Maintenance} (h : ∀ name ∈ x.names, '\n' ∉ name.toList) :
    '\n' ∉ x.statement.toList := by
  have hname (name words : String) (hm : name ∈ x.names) (hw : '\n' ∉ words.toList) :
      '\n' ∉ (named name words).1 ∧ '\n' ∉ (named name words).2 :=
    ⟨fun hb => h name hm (Identifier.mem_of_mem_bare hb), hw⟩
  have haction : '\n' ∉ (" " ++ x.action.keyword).toList := by
    cases x.action <;> decide
  rw [statement_spelled, List.mem_append, not_or]
  refine ⟨Statement.not_mem_spell (by decide) (by decide) ?_, by decide⟩
  simp only [List.forall_mem_cons]
  exact ⟨hname _ _ (by simp [names]) (by decide),
    hname _ _ (by simp [names]) (by decide),
    hname _ _ (by simp [names]) (by decide),
    hname _ _ (by simp [names]) haction, by simp⟩

theorem isSeparator_statement (x : Maintenance) {l : List Char}
    (h : l = x.statement.toList ∨ l = x.statement.toList ++ ['\n']) :
    Statement.isSeparator l = false := by
  have htight := x.isSingle_statement.tight
  have htrim : trim l = x.statement.toList := by
    rcases h with h | h
    · rw [h]
      exact htight.trim_eq
    · rw [h]
      have hbreak := htight.trim_between (u := []) (by simp) forall_blank_newline
      rwa [List.nil_append] at hbreak
  have hstart : "ALTER INDEX ".toList = 'A' :: "LTER INDEX ".toList := by decide
  obtain ⟨r, hr⟩ : ∃ r, x.statement.toList = 'A' :: r := by
    rw [statement_spelled, Statement.spell, hstart]
    exact ⟨_, rfl⟩
  exact Statement.isSeparator_of_trim (htrim.trans hr) (by decide)

theorem split_script {xs : List Maintenance}
    (h : ∀ x ∈ xs, ∀ name ∈ x.names, '\n' ∉ name.toList) :
    Statement.split (script xs) = xs.map statement := by
  have htext : (script xs).toList = joinLines ((xs.map statement).map String.toList) :=
    String.toList_intercalate
  have hmem {s : List Char} (hs : s ∈ (xs.map statement).map String.toList) :
      ∃ x ∈ xs, s = x.statement.toList := by
    rw [List.map_map] at hs
    obtain ⟨x, hx, hs⟩ := List.mem_map.1 hs
    exact ⟨x, hx, hs.symm⟩
  rw [Statement.split, htext, Statement.ofScript_joinLines]
  · simp
  · intro s hs
    obtain ⟨x, -, hx⟩ := hmem hs
    rw [hx]
    exact x.isSingle_statement
  · intro l hl
    have hbreak : ∀ s ∈ (xs.map statement).map String.toList, '\n' ∉ s := by
      intro s hs
      obtain ⟨x, hx, hs⟩ := hmem hs
      rw [hs]
      exact not_mem_statement (h x hx)
    obtain ⟨s, hs, hl⟩ := mem_linesWithBreaks_joinLines hbreak hl
    obtain ⟨x, -, hx⟩ := hmem hs
    rw [hx] at hl
    exact x.isSeparator_statement hl

end Maintenance

/-- Every generated statement is one statement, whatever the names in it; and a maintenance script,
unless a name breaks its line, is carried out statement by statement, past those that fail. -/
theorem generated_statements_single :
    (∀ x : Maintenance, Statement.ofBatch x.statement.toList = [x.statement.toList]) ∧
    (∀ t row u s, UnusedIndex.classify? t row = some u → u.suggestion = some s →
      Statement.ofBatch s.toList = [s.toList]) ∧
    (∀ t row i, MissingIndex.classify? t row = some i →
      Statement.ofBatch i.suggestion.toList = [i.suggestion.toList]) ∧
    ∀ xs : List Maintenance, (∀ x ∈ xs, ∀ name ∈ x.names, '\n' ∉ name.toList) →
      Statement.split (Maintenance.script xs) = xs.map Maintenance.statement ∧
      ∀ answer database,
        let results := responses answer database [] (xs.map Maintenance.statement)
        ((recorder answer).applyScript database (Maintenance.script xs)).run [] =
          (ApplyReport.ofResults results, xs.map fun x => (database, x.statement)) ∧
        (ApplyReport.ofResults results).applied + (ApplyReport.ofResults results).failures.length =
          xs.length := by
  refine ⟨fun x => x.isSingle_statement.ofBatch_eq, ?_, ?_, ?_⟩
  · intro t row u s hu hs
    rw [UnusedIndex.suggestion_of_classify? hu] at hs
    split at hs
    · exact absurd hs (by simp)
    · obtain rfl := Option.some.inj hs
      exact (UnusedIndex.isSingle_dropStatement _ _ _).ofBatch_eq
  · intro t row i hi
    obtain ⟨keys, included, hne, hs⟩ := MissingIndex.suggestion_of_classify? hi
    rw [hs]
    exact (MissingIndex.isSingle_createStatement _ _ _ _ hne _).ofBatch_eq
  · intro xs hxs
    have hsplit := Maintenance.split_script hxs
    refine ⟨hsplit, fun answer database => ⟨?_, ?_⟩⟩
    · rw [run_applyScript, hsplit, List.map_map]
      rfl
    · rw [ApplyReport.handled_ofResults, length_responses, List.length_map]

def trapIndexes : List Maintenance :=
  ["GO;--", "a]b' /*"].map fun index => ⟨"Shop", "dbo", "T;", index, 40, 2000, .rebuild⟩

def failsFirst : History → Except AdvisorError Unit := fun sent =>
  if sent.length = 1 then .error (.configuration "offline") else .ok ()

theorem generated_statements_single_traps :
    trapIndexes.map Maintenance.statement =
      ["ALTER INDEX [GO;--] ON [Shop].[dbo].[T;] REBUILD;",
        "ALTER INDEX [a]]b' /*] ON [Shop].[dbo].[T;] REBUILD;"] ∧
    Statement.split (Maintenance.script trapIndexes) = trapIndexes.map Maintenance.statement ∧
    let (report, sent) :=
      ((recorder failsFirst).applyScript "Shop" (Maintenance.script trapIndexes)).run []
    sent = trapIndexes.map (fun x => ("Shop", x.statement)) ∧ report.applied = 1 ∧
      report.failures.map (·.statement) =
        ["ALTER INDEX [GO;--] ON [Shop].[dbo].[T;] REBUILD;"] := by
  have hnames : ∀ x ∈ trapIndexes, ∀ name ∈ x.names, '\n' ∉ name.toList := by
    decide +kernel
  obtain ⟨hsplit, hrun⟩ := generated_statements_single.2.2.2 trapIndexes hnames
  refine ⟨by decide +kernel, hsplit, ?_⟩
  rw [(hrun failsFirst "Shop").1]
  exact ⟨rfl, rfl, by decide +kernel⟩

end IndexTuning
