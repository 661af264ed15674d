import IndexTuning.Proofs.Catalog.Memory
import IndexTuning.Proofs.Isolation
import IndexTuning.Proofs.Server.Row

namespace IndexTuning

open Sql

namespace Client

variable {m : Type → Type} [Monad m] {α : Type} {c : Client m} {database sql : String}
  {parameters : List Parameter} {cells : α → List (String × Cell)} {xs : List α}

def Gives (c : Client m) (database sql : String) (parameters : List Parameter)
    (cells : α → List (String × Cell)) (xs : List α) : Prop :=
  ∃ rows : List Row, Yields (c.server.ask c.settings database (.query sql parameters)) (.ok rows) ∧
    List.Forall₂ (fun row x => row.Shows (cells x)) rows xs

theorem mapM_read {read : Row → Except CellFault α} {rows : List Row}
    (hread : ∀ row, ∀ x ∈ xs, row.Shows (cells x) → read row = .ok x)
    (h : List.Forall₂ (fun row x => row.Shows (cells x)) rows xs) : rows.mapM read = .ok xs := by
  induction h with
  | nil => rfl
  | cons hrow _ ih =>
      rw [List.mapM_cons, hread _ _ List.mem_cons_self hrow,
        ih fun row x hx => hread row x (List.mem_cons_of_mem _ hx)]
      rfl

theorem Gives.query [LawfulMonad m] (h : c.Gives database sql parameters cells xs)
    {read : Row → Except CellFault α}
    (hread : ∀ row, ∀ x ∈ xs, row.Shows (cells x) → read row = .ok x) :
    Yields (c.query database sql parameters read).run (.ok xs) := by
  obtain ⟨rows, hask, hrows⟩ := h
  refine hask.bind ?_
  simp only [mapM_read hread hrows]
  exact yields_pure (Except.ok xs)

/-- The server answers the queries of an analysis with the rows that were entered for a database.
It may leave all of them in, also those of small or nameless indexes. -/
structure Mirrors (c : Client m) (entries : List MemoryCatalog.Entry) (leastPages : Int)
    (database : String) : Prop where
  up : ∀ message, MemoryCatalog.Entry.failing database message ∉ entries
  physical : c.Gives database Server.Query.physicalStats [.integer leastPages] PhysicalStat.cells
    (entries.filterMap (MemoryCatalog.Entry.physicalIn database))
  usage : c.Gives database Server.Query.usageStats [] UsageStat.cells
    (entries.filterMap (MemoryCatalog.Entry.usageIn database))
  missing : c.Gives database Server.Query.missingStats [] MissingStat.cells
    (entries.filterMap (MemoryCatalog.Entry.missingIn database))

end Client

def PhysicalStat.isWorthLooking (leastPages : Int) (row : PhysicalStat) : Bool :=
  leastPages < row.pageCount && row.index.isSome

theorem Maintenance.analyze_filter (t : Thresholds) (rows : List PhysicalStat) :
    analyze t (rows.filter (PhysicalStat.isWorthLooking t.minPageCount)) = analyze t rows := by
  rw [analyze_eq, analyze_eq, List.filterMap_filter]
  congr 2
  funext row
  by_cases hpages : t.minPageCount < row.pageCount
  · cases hindex : row.index with
    | none => simp [PhysicalStat.isWorthLooking, due?, classify?, usableName, hindex]
    | some index => simp [PhysicalStat.isWorthLooking, hindex, hpages]
  · simp [PhysicalStat.isWorthLooking, due?, hpages]

theorem Maintenance.analyze_flatMap_filter (t : Thresholds) (rows : String → List PhysicalStat)
    (databases : List String) :
    analyze t (databases.flatMap fun d =>
      (rows d).filter (PhysicalStat.isWorthLooking t.minPageCount)) =
        analyze t (databases.flatMap rows) := by
  rw [← List.filter_flatMap, analyze_filter]

section Agreement

variable {m : Type → Type} [Monad m] [LawfulMonad m] {entries : List MemoryCatalog.Entry}
  {databases : List String} {leastPages : Int}

namespace MemoryCatalog

def entered (entries : List Entry) : Replies where
  physical d := .ok (entries.filterMap (Entry.physicalIn d))
  usage d := .ok (entries.filterMap (Entry.usageIn d))
  missing d := .ok (entries.filterMap (Entry.missingIn d))

def enteredWorthLooking (entries : List Entry) (leastPages : Int) : Replies :=
  { entered entries with
    physical := fun d => .ok ((entries.filterMap (Entry.physicalIn d)).filter
      (PhysicalStat.isWorthLooking leastPages)) }

theorem gives_ofEntries (hup : ∀ d ∈ databases, ∀ message, Entry.failing d message ∉ entries) :
    ((ofEntries entries).toCatalog : Catalog m).Gives (enteredWorthLooking entries leastPages)
      databases leastPages := by
  have hcontent : ∀ d ∈ databases, (ofEntries entries).content d =
      .ok ((ofEntries entries).known d) := fun d hd => content_ofEntries entries (hup d hd)
  refine ⟨fun d hd => ?_, fun d hd => ?_, fun d hd => ?_⟩
  · simp only [toCatalog, hcontent d hd, enteredWorthLooking]
    rw [← (known_ofEntries entries d).1]
    exact yields_pure _
  · simp only [toCatalog, hcontent d hd, enteredWorthLooking, entered]
    rw [← (known_ofEntries entries d).2.1]
    exact yields_pure _
  · simp only [toCatalog, hcontent d hd, enteredWorthLooking, entered]
    rw [← (known_ofEntries entries d).2.2]
    exact yields_pure _

theorem answered_map_ok {α : Type} (rows : String → List α) (databases : List String) :
    answered (databases.map fun d => (d, .ok (rows d))) = databases.flatMap rows := by
  rw [answered, List.flatMap_map]
  rfl

theorem failed_map_ok {α : Type} (rows : String → List α) (databases : List String) :
    failed (databases.map fun d => (d, .ok (rows d))) = [] := by
  rw [failed, List.filterMap_map]
  exact List.filterMap_eq_nil_iff.2 fun _ _ => rfl

theorem report_entered (entries : List Entry) (databases : List String) (t : Thresholds) :
    ((enteredWorthLooking entries t.minPageCount).answers databases).report t =
      ((entered entries).answers databases).report t := by
  rw [Answers.report_eq, Answers.report_eq]
  simp only [Replies.answers, enteredWorthLooking, entered, answered_map_ok, failed_map_ok,
    Maintenance.analyze_flatMap_filter]

end MemoryCatalog

theorem Client.gives_entered {c : Client m}
    (h : ∀ d ∈ databases, c.Mirrors entries leastPages d) :
    c.toCatalog.Gives (MemoryCatalog.entered entries) databases leastPages where
  physical d hd := (h d hd).physical.query fun _ _ _ => readPhysical_of_shows
  usage d hd := (h d hd).usage.query fun _ _ _ => readUsage_of_shows
  missing d hd := (h d hd).missing.query fun _ _ _ => readMissing_of_shows

/-- A server and a catalog held in memory that know the same rows in the same order lead to the same
report, although only the one in memory leaves out rows before they are classified. -/
theorem analyze_client_eq_memory {pool : Pool m} (hpool : pool.KeepsOrder) (c : Client m)
    (entries : List MemoryCatalog.Entry) (databases : List String) (t : Thresholds)
    (h : ∀ d ∈ databases, c.Mirrors entries t.minPageCount d) :
    let report := ((MemoryCatalog.entered entries).answers databases).report t
    Yields (Report.analyze pool (MemoryCatalog.ofEntries entries).toCatalog databases t) report ∧
      Yields (Report.analyze pool c.toCatalog databases t) report := by
  intro report
  have hmemory : ((MemoryCatalog.ofEntries entries).toCatalog : Catalog m).Gives
      (MemoryCatalog.enteredWorthLooking entries t.minPageCount) databases t.minPageCount :=
    MemoryCatalog.gives_ofEntries fun d hd => (h d hd).up
  refine ⟨?_, (Client.gives_entered h).yields_analyze hpool⟩
  have hyields := hmemory.yields_analyze hpool
  rwa [MemoryCatalog.report_entered] at hyields

end Agreement

def MemoryCatalog.shown (entries : List Entry) (database sql : String) : List Row :=
  if sql = Server.Query.physicalStats then
    (entries.filterMap (Entry.physicalIn database)).map PhysicalStat.cells
  else if sql = Server.Query.usageStats then
    (entries.filterMap (Entry.usageIn database)).map UsageStat.cells
  else if sql = Server.Query.missingStats then
    (entries.filterMap (Entry.missingIn database)).map MissingStat.cells
  else []

def Server.ofEntries (entries : List MemoryCatalog.Entry) : Server (StateM (List Request)) where
  ask _ database request := do
    modify (· ++ [request])
    match request with
    | .batch _ => return .ok []
    | .query sql _ => return .ok (MemoryCatalog.shown entries database sql)

-- Lists of characters are faster to compare than strings, but these are long.
set_option maxRecDepth 8000 in
theorem Server.Query.statistics_ne : usageStats ≠ physicalStats ∧
    missingStats ≠ physicalStats ∧ missingStats ≠ usageStats :=
  ⟨mt String.ofList_inj.1 (by decide), mt String.ofList_inj.1 (by decide),
    mt String.ofList_inj.1 (by decide)⟩

theorem Client.mirrors_ofEntries {entries : List MemoryCatalog.Entry} {database : String}
    (h : ∀ message, MemoryCatalog.Entry.failing database message ∉ entries) (settings : Settings)
    (leastPages : Int) :
    (⟨.ofEntries entries, settings⟩ : Client (StateM (List Request))).Mirrors entries leastPages
      database := by
  obtain ⟨husage, hmissing⟩ := Server.Query.statistics_ne
  have hgives (sql : String) (parameters : List Parameter) :
      Yields ((Server.ofEntries entries).ask settings database (.query sql parameters))
        (.ok (MemoryCatalog.shown entries database sql)) := ⟨modify (· ++ [_]), rfl⟩
  refine ⟨h, ⟨_, hgives _ _, ?_⟩, ⟨_, hgives _ _, ?_⟩, ⟨_, hgives _ _, ?_⟩⟩
  · rw [MemoryCatalog.shown, if_pos rfl, List.forall₂_map_left_iff, List.forall₂_same]
    intro x _
    simp [Row.Shows, PhysicalStat.cells, List.lookup_cons]
  · rw [MemoryCatalog.shown, if_neg husage, if_pos rfl, List.forall₂_map_left_iff,
      List.forall₂_same]
    intro x _
    simp [Row.Shows, UsageStat.cells, List.lookup_cons]
  · rw [MemoryCatalog.shown, if_neg hmissing.1, if_neg hmissing.2, if_pos rfl,
      List.forall₂_map_left_iff, List.forall₂_same]
    intro x _
    simp [Row.Shows, MissingStat.cells, List.lookup_cons]

def shopEntries : List MemoryCatalog.Entry :=
  [.usage (staleIn "Shop"), .physical ⟨"Shop", "dbo", "Orders", none, some 80, 5000⟩,
    .physical ⟨"Shop", "dbo", "Orders", some "IX_Small", some 80, 9⟩, .usage (staleIn "Archive"),
    .physical ⟨"Shop", "dbo", "Orders", some "IX_Old", none, 5000⟩, .failing "Lost" "offline",
    .missing ⟨"Shop", "dbo", "Orders", some "[Status]", none, none, 1, 90, 0, 2, 95⟩]

theorem analyze_client_eq_memory_shop :
    let c : Client (StateM (List Request)) :=
      ⟨.ofEntries shopEntries, ⟨"db", 1433, "Shop", .login "sa" "secret", true⟩⟩
    let databases := ["Shop", "Archive", "Spare", "Depot"]
    (Pool.fromLast : Pool (StateM (List Request))).KeepsOrder ∧
    (∀ d ∈ databases, c.Mirrors shopEntries 100 d) ∧
    ((Report.analyze .fromLast c.toCatalog databases {}).run []).1 =
      ((Report.analyze .fromLast (MemoryCatalog.ofEntries shopEntries).toCatalog databases {} :
        StateM (List Request) Report).run []).1 := by
  intro c databases
  have hpool : (Pool.fromLast : Pool (StateM (List Request))).KeepsOrder :=
    Pool.keepsOrder_fromLast
  have hmirrors : ∀ d ∈ databases, c.Mirrors shopEntries 100 d := by
    intro d hd
    apply Client.mirrors_ofEntries
    intro message hm
    simp only [shopEntries, List.mem_cons, MemoryCatalog.Entry.failing.injEq, reduceCtorEq,
      List.not_mem_nil, or_false, false_or] at hm
    rw [hm.1] at hd
    exact absurd hd (by decide)
  obtain ⟨⟨note, hmemory⟩, note', hserver⟩ :=
    analyze_client_eq_memory hpool c shopEntries databases {} hmirrors
  refine ⟨hpool, hmirrors, ?_⟩
  rw [hserver, hmemory]
  rfl

end IndexTuning
