import IndexTuning.Proofs.Isolation
import IndexTuning.Proofs.MissingIndex
import IndexTuning.Proofs.Targets
import IndexTuning.Server.Client

namespace IndexTuning

open Sql Text

def PhysicalStat.statement? (t : Thresholds) (row : PhysicalStat) : Option String :=
  (Maintenance.due? t row).map Maintenance.statement

def UsageStat.statement? (t : Thresholds) (advisory : Bool) (row : UsageStat) : Option String :=
  ((UnusedIndex.classify? t row).filter (UnusedIndex.isListed advisory)).bind
    UnusedIndex.suggestion

def MissingStat.statement? (t : Thresholds) (advisory : Bool) (row : MissingStat) :
    Option String :=
  ((MissingIndex.classify? t row).filter fun i => i.action == .create || advisory).map
    MissingIndex.suggestion

theorem Maintenance.script_analyze (t : Thresholds) (rows : List PhysicalStat) :
    ∃ ss, script (analyze t rows) = "\n".intercalate ss ∧
      ss.Perm (rows.filterMap (PhysicalStat.statement? t)) := by
  refine ⟨_, rfl, ?_⟩
  have hperm := (List.mergeSort_perm (rows.filterMap (due? t)) inOrder).map statement
  rw [List.map_filterMap] at hperm
  rwa [analyze_eq]

theorem UnusedIndex.script_analyze (t : Thresholds) (advisory : Bool) (rows : List UsageStat) :
    ∃ ss, script (analyze t rows) advisory = "\n".intercalate ss ∧
      ss.Perm (rows.filterMap (UsageStat.statement? t advisory)) := by
  refine ⟨_, rfl, ?_⟩
  have hperm := ((List.mergeSort_perm (rows.filterMap (classify? t)) inOrder).filter
    (isListed advisory)).filterMap suggestion
  rw [List.filter_filterMap, List.filterMap_filterMap] at hperm
  exact hperm

theorem MissingIndex.script_analyze (t : Thresholds) (advisory : Bool) (rows : List MissingStat) :
    ∃ ss, script (analyze t rows) advisory = "\n".intercalate ss ∧
      ss.Perm (rows.filterMap (MissingStat.statement? t advisory)) := by
  refine ⟨_, rfl, ?_⟩
  have hperm := ((List.mergeSort_perm (rows.filterMap (classify? t)) inOrder).filter
    (fun i => i.action == .create || advisory)).map suggestion
  rw [List.filter_filterMap, List.map_filterMap] at hperm
  exact hperm

/-- The name is blank, or nothing stands between its brackets. -/
def Sql.Identifier.IsMissing (name : String) : Prop := bare name.toList = []

/-- Every name that a statement gives is there. -/
def IsComplete (s : String) : Prop := ∀ name ∈ Identifier.names s.toList, name ≠ []

theorem forall_bares_ne_nil {names : List String} : (∀ name ∈ Identifier.bares names, name ≠ []) ↔
    ∀ name ∈ names, ¬ Identifier.IsMissing name := List.forall_mem_map

/-- The names of a row as its statement gives them. That of the new index is made up. -/
def MissingStat.names (row : MissingStat) : List String := [row.database, row.schema, row.table]

section Complete

variable {α : Type} {statement? : α → Option String} {names : α → List String}

theorem complete_iff {rows : List α} {ss : List String}
    (hss : ss.Perm (rows.filterMap statement?))
    (h : ∀ row s, statement? row = some s →
      (IsComplete s ↔ ∀ name ∈ names row, ¬ Identifier.IsMissing name)) :
    (∀ s ∈ ss, IsComplete s) ↔
      ∀ row ∈ rows, (∃ name ∈ names row, Identifier.IsMissing name) → statement? row = none := by
  constructor
  · rintro hall row hrow ⟨name, hname, hmissing⟩
    by_contra hstatement
    obtain ⟨s, hs⟩ := Option.ne_none_iff_exists'.1 hstatement
    have hmem := hss.mem_iff.2 (List.mem_filterMap.2 ⟨row, hrow, hs⟩)
    exact (h row s hs).1 (hall s hmem) name hname hmissing
  · intro hall s hs
    obtain ⟨row, hrow, hs⟩ := List.mem_filterMap.1 (hss.mem_iff.1 hs)
    apply (h row s hs).2
    intro name hname hmissing
    have hnone := hall row hrow ⟨name, hname, hmissing⟩
    rw [hs] at hnone
    exact absurd hnone (Option.some_ne_none s)

end Complete

theorem PhysicalStat.isComplete_iff {t : Thresholds} {row : PhysicalStat} {s : String}
    (h : row.statement? t = some s) :
    IsComplete s ↔ ∀ name ∈ row.names, ¬ Identifier.IsMissing name := by
  obtain ⟨m, hm, rfl⟩ := Option.map_eq_some_iff.1 h
  rw [Maintenance.due?, Option.ite_none_right_eq_some] at hm
  rw [IsComplete, names_statement hm.2, forall_bares_ne_nil]

theorem UsageStat.isComplete_iff {t : Thresholds} {advisory : Bool} {row : UsageStat} {s : String}
    (h : row.statement? t advisory = some s) :
    IsComplete s ↔ ∀ name ∈ row.names, ¬ Identifier.IsMissing name := by
  obtain ⟨u, hu, hs⟩ := Option.bind_eq_some_iff.1 h
  rw [IsComplete, names_suggestion (Option.filter_eq_some_iff.1 hu).1 hs, forall_bares_ne_nil]

/-- Neither the name of the new index nor those of its columns can be missing. -/
theorem MissingStat.isComplete_iff {t : Thresholds} {advisory : Bool} {row : MissingStat}
    {s : String} (h : row.statement? t advisory = some s) :
    IsComplete s ↔ ∀ name ∈ row.names, ¬ Identifier.IsMissing name := by
  obtain ⟨i, hi, rfl⟩ := Option.map_eq_some_iff.1 h
  have hname : (Identifier.fit row.indexName).toList ≠ [] := by
    intro hnil
    have hhead := Identifier.head?_fit row.indexName
    rw [hnil, MissingStat.indexName, MissingIndex.head?_joinedName] at hhead
    exact absurd hhead (by decide)
  have hcolumns : ∀ name ∈ (row.keys ++ row.included).map String.toList, name ≠ [] := by
    intro name hmem
    obtain ⟨c, hc, rfl⟩ := List.mem_map.1 hmem
    rcases List.mem_append.1 hc with hc | hc
    · exact (tight_of_mem_keys hc).ne_nil
    · exact (Identifier.ofGroup_spec hc).1.ne_nil
  rw [IsComplete, names_suggestion (Option.filter_eq_some_iff.1 hi).1, List.forall_mem_cons,
    List.forall_mem_append, forall_bares_ne_nil]
  exact ⟨fun hall => hall.2.1, fun hall => ⟨hname, hall, hcolumns⟩⟩

/-- Of the names in a row only that of the index is looked at, and only for blanks: the statements
of a script give names that are all there just if no row with another missing name has one. -/
theorem scripts_complete_iff (t : Thresholds) (advisory : Bool) :
    (∀ name : String, Identifier.IsMissing name ↔
      trim name.toList = [] ∨ trim name.toList = ['[', ']']) ∧
    (∀ rows : List PhysicalStat, ∃ ss,
      Maintenance.script (Maintenance.analyze t rows) = "\n".intercalate ss ∧
      ss.Perm (rows.filterMap (PhysicalStat.statement? t)) ∧
      (∀ row ∈ rows, usableName row.index = none → row.statement? t = none) ∧
      ((∀ s ∈ ss, IsComplete s) ↔ ∀ row ∈ rows,
        (∃ name ∈ row.names, Identifier.IsMissing name) → row.statement? t = none)) ∧
    (∀ rows : List UsageStat, ∃ ss,
      UnusedIndex.script (UnusedIndex.analyze t rows) advisory = "\n".intercalate ss ∧
      ss.Perm (rows.filterMap (UsageStat.statement? t advisory)) ∧
      (∀ row ∈ rows, usableName row.index = none → row.statement? t advisory = none) ∧
      ((∀ s ∈ ss, IsComplete s) ↔ ∀ row ∈ rows,
        (∃ name ∈ row.names, Identifier.IsMissing name) → row.statement? t advisory = none)) ∧
    ∀ rows : List MissingStat, ∃ ss,
      MissingIndex.script (MissingIndex.analyze t rows) advisory = "\n".intercalate ss ∧
      ss.Perm (rows.filterMap (MissingStat.statement? t advisory)) ∧
      ((∀ s ∈ ss, IsComplete s) ↔ ∀ row ∈ rows,
        (∃ name ∈ row.names, Identifier.IsMissing name) → row.statement? t advisory = none) := by
  refine ⟨fun _ => Identifier.bare_eq_nil_iff, ?_, ?_, ?_⟩
  · intro rows
    obtain ⟨ss, hscript, hss⟩ := Maintenance.script_analyze t rows
    refine ⟨ss, hscript, hss, ?_, complete_iff hss fun _ _ => PhysicalStat.isComplete_iff⟩
    intro row _ hindex
    simp [PhysicalStat.statement?, Maintenance.due?, Maintenance.classify?, hindex]
  · intro rows
    obtain ⟨ss, hscript, hss⟩ := UnusedIndex.script_analyze t advisory rows
    refine ⟨ss, hscript, hss, ?_, complete_iff hss fun _ _ => UsageStat.isComplete_iff⟩
    intro row _ hindex
    simp [UsageStat.statement?, UnusedIndex.classify?, hindex]
  · intro rows
    obtain ⟨ss, hscript, hss⟩ := MissingIndex.script_analyze t advisory rows
    exact ⟨ss, hscript, hss, complete_iff hss fun _ _ => MissingStat.isComplete_iff⟩

/-- What the server answers for the index of a table that it no longer knows. -/
def orphanedRow : Row :=
  [("database_name", .text "Shop"), ("schema_name", .null), ("table_name", .text "Orders"),
    ("index_name", .text "IX_Old"), ("user_seeks", .integer 0), ("user_scans", .integer 0),
    ("user_lookups", .integer 0), ("user_updates", .integer 5), ("index_size_kb", .integer 64)]

theorem script_orphanedRow : ∃ row, Client.readUsage orphanedRow = .ok row ∧
    Identifier.IsMissing row.schema ∧
    UnusedIndex.script (UnusedIndex.analyze {} [row]) false =
      "DROP INDEX [IX_Old] ON [].[Orders];" ∧
    ¬ IsComplete "DROP INDEX [IX_Old] ON [].[Orders];" := by
  have hstatement : UsageStat.statement? {} false (.idle "" "Orders" "IX_Old") =
      some "DROP INDEX [IX_Old] ON [].[Orders];" := by decide
  refine ⟨.idle "" "Orders" "IX_Old", rfl, rfl, ?_, fun hcomplete => ?_⟩
  · obtain ⟨ss, hscript, hss⟩ :=
      UnusedIndex.script_analyze {} false [.idle "" "Orders" "IX_Old"]
    rw [List.filterMap_cons, hstatement, List.filterMap_nil] at hss
    rw [hscript, List.perm_singleton.1 hss, String.intercalate_singleton]
  · rw [UsageStat.isComplete_iff hstatement] at hcomplete
    exact hcomplete "" (List.mem_cons_of_mem _ List.mem_cons_self) rfl

end IndexTuning
