import IndexTuning.Catalog.Memory
import IndexTuning.Deployment
import IndexTuning.Proofs.Artifact
import IndexTuning.Proofs.Order
import IndexTuning.Proofs.Scan
import IndexTuning.Proofs.Scripts
import IndexTuning.Proofs.Sql.IndexDdl

namespace IndexTuning

open Text

variable {m : Type → Type} [Monad m] {α : Type}

theorem lift_map_bind [LawfulMonad m] {ε β γ : Type} (f : α → β) (x : m α)
    (k : β → ExceptT ε m γ) :
    ExceptT.lift (f <$> x) >>= k = ExceptT.lift x >>= fun a => k (f a) := by
  apply ExceptT.ext
  simp only [ExceptT.run_bind, ExceptT.run_lift, bind_map_left, Functor.map_map]

theorem filter_isIn_filterMap (t : Thresholds) (database : String) (rows : List UsageStat) :
    (rows.filterMap (UnusedIndex.classify? t)).filter (Report.isIn database) =
      (rows.filter fun row => sameIgnoringCase row.database database).filterMap
        (UnusedIndex.classify? t) := by
  induction rows with
  | nil => rfl
  | cons row rows ih =>
      rw [List.filter_cons]
      cases h : UnusedIndex.classify? t row with
      | none =>
          rw [List.filterMap_cons_none h, ih]
          split
          · rw [List.filterMap_cons_none h]
          · rfl
      | some u =>
          have hu : u.database = row.database := by
            obtain ⟨index, -, rfl⟩ := Option.map_eq_some_iff.1 h
            rfl
          rw [List.filterMap_cons_some h, List.filter_cons, Report.isIn, hu, ih]
          split
          · rw [List.filterMap_cons_some h]
          · rfl

namespace BuildOptions

def adopted (o : BuildOptions) (files : Files m) : ExceptT AdvisorError m (Option String) :=
  match o.generatedFile with
  | some path => if o.useGenerated then some <$> files.readSql path else pure none
  | none => pure none

variable (o : BuildOptions) (a : Answers)

/-- The maintenance that the answers call for, one for each such row. -/
def maintenance : List Maintenance :=
  ((answered a.physical).filter (o.thresholds.minPageCount < ·.pageCount)).filterMap
    (Maintenance.classify? o.thresholds)

/-- The indexes to drop where the procedure will run, one for each such row. -/
def drops : List UnusedIndex :=
  (((answered a.usage).filter fun row => sameIgnoringCase row.database o.database).filterMap
    (UnusedIndex.classify? o.thresholds)).filter (·.action = .drop)

def creates : List MissingIndex :=
  ((answered a.missing).filterMap (MissingIndex.classify? o.thresholds)).filter (·.action = .create)

/-- What the outcome of a build has to be when the databases gave these answers and these generated
statements were let in. -/
structure Meets (generated : List String) (outcome : Option Artifact) : Prop where
  nothing : outcome = none ↔
    (∀ row ∈ answered a.physical, o.thresholds.minPageCount < row.pageCount →
      Maintenance.classify? o.thresholds row = none) ∧
    (∀ row ∈ answered a.usage, sameIgnoringCase row.database o.database → ∀ u,
      UnusedIndex.classify? o.thresholds row = some u → u.action ≠ .drop) ∧
    (∀ row ∈ answered a.missing, ∀ i,
      MissingIndex.classify? o.thresholds row = some i → i.action ≠ .create) ∧
    generated = []
  built : ∀ artifact, outcome = some artifact →
    ∃ (ms : List Maintenance) (ds : List UnusedIndex) (cs : List MissingIndex),
    ms.Perm (o.maintenance a) ∧ ds.Perm (o.drops a) ∧ cs.Perm (o.creates a) ∧
    ms.Pairwise Maintenance.AtLeast ∧
    artifact.combinedSql = "\n\n".intercalate (Artifact.layout
      [ms.map Maintenance.statement,
        ds.map fun u => UnusedIndex.dropStatement u.schema u.table u.index,
        cs.map MissingIndex.suggestion] generated)

def suggestions (text : Option String) : List String :=
  (text.map fun t => (Sql.IndexDdl.statements t.toList).map String.ofList).getD []

def outcome (text : Option String) : Option Artifact :=
  ((a.report o.thresholds).confineUnused o.database).2.artifact? (text.map Sql.IndexDdl.extract)

theorem extract_suggestions (text : Option String) :
    text.map Sql.IndexDdl.extract = some ("\n".intercalate (suggestions text)) ∨
      text.map Sql.IndexDdl.extract = none ∧ suggestions text = [] := by
  cases text with
  | none => exact Or.inr ⟨rfl, rfl⟩
  | some t =>
      refine Or.inl (congrArg some ?_)
      rw [Sql.IndexDdl.extract, ← String.ofList_toList (s := "\n".intercalate _),
        Artifact.toList_lines]
      congr 2
      simp [suggestions, Function.comp_def]

theorem build_eq_outcome [LawfulMonad m] (pool : Pool m) (c : Catalog m) (files : Files m) :
    o.build pool c files = (do
      let databases ← c.targets o.database o.allDatabases
      let answers ← ExceptT.lift (c.answers pool databases o.thresholds.minPageCount)
      let text ← o.adopted files
      return o.outcome answers text) := by
  have hg : o.generated files = (fun text => text.map Sql.IndexDdl.extract) <$> o.adopted files := by
    unfold generated adopted
    cases o.generatedFile with
    | none => simp
    | some path => cases o.useGenerated <;> simp
  simp only [build, analyze_eq_answers, hg, lift_map_bind, bind_map_left, outcome]

def dropsOf : List UnusedIndex :=
  ((UnusedIndex.analyze o.thresholds (answered a.usage)).filter
    (Report.isIn o.database)).filter (·.action = .drop)

def createsOf : List MissingIndex :=
  (MissingIndex.analyze o.thresholds (answered a.missing)).filter (·.action = .create)

def statements (ms : List Maintenance) (ds : List UnusedIndex) (cs : List MissingIndex) :
    List (List String) :=
  [ms.map Maintenance.statement, ds.map fun u => UnusedIndex.dropStatement u.schema u.table u.index,
    cs.map MissingIndex.suggestion]

theorem dropsOf_perm : (o.dropsOf a).Perm (o.drops a) := by
  have h := (List.mergeSort_perm ((answered a.usage).filterMap (UnusedIndex.classify? o.thresholds))
    UnusedIndex.inOrder).filter (Report.isIn o.database)
  rw [filter_isIn_filterMap] at h
  exact h.filter _

theorem createsOf_perm : (o.createsOf a).Perm (o.creates a) :=
  (List.mergeSort_perm _ _).filter _

theorem exists_classify?_of_mem {u : UnusedIndex}
    (h : u ∈ UnusedIndex.analyze o.thresholds (answered a.usage)) :
    ∃ row, UnusedIndex.classify? o.thresholds row = some u := by
  obtain ⟨row, -, hrow⟩ := List.mem_filterMap.1 (List.mem_mergeSort.1 h)
  exact ⟨row, hrow⟩

theorem tight_statements (text : Option String) :
    ∀ ss ∈ statements (Maintenance.analyze o.thresholds (answered a.physical)) (o.dropsOf a)
      (o.createsOf a) ++ [suggestions text], ∀ s ∈ ss, Tight s.toList := by
  intro ss hss s hs
  simp only [statements, List.cons_append, List.nil_append, List.mem_cons, List.not_mem_nil,
    or_false] at hss
  rcases hss with rfl | rfl | rfl | rfl
  · obtain ⟨x, -, rfl⟩ := List.mem_map.1 hs
    exact x.isSingle_statement.tight
  · obtain ⟨u, -, rfl⟩ := List.mem_map.1 hs
    exact (UnusedIndex.isSingle_dropStatement _ _ _).tight
  · obtain ⟨i, hi, rfl⟩ := List.mem_map.1 hs
    obtain ⟨row, -, hrow⟩ := List.mem_filterMap.1 (List.mem_mergeSort.1 (List.mem_filter.1 hi).1)
    obtain ⟨keys, included, hne, he⟩ := MissingIndex.suggestion_of_classify? hrow
    rw [he]
    exact (MissingIndex.isSingle_createStatement _ _ _ _ hne _).tight
  · cases text with
    | none => exact absurd hs (by simp [suggestions])
    | some t =>
        obtain ⟨f, hf, rfl⟩ := List.mem_map.1 hs
        rw [String.toList_ofList]
        exact Sql.IndexDdl.tight_of_mem_statements hf

theorem outcome_eq (text : Option String) :
    let parts := statements (Maintenance.analyze o.thresholds (answered a.physical)) (o.dropsOf a)
      (o.createsOf a)
    o.outcome a text = if Artifact.layout parts (suggestions text) = [] then none
      else some (.ofCombined ("\n\n".intercalate (Artifact.layout parts (suggestions text)))) := by
  have hin : ∀ u ∈ (UnusedIndex.analyze o.thresholds (answered a.usage)).filter
      (Report.isIn o.database), ∃ row, UnusedIndex.classify? o.thresholds row = some u :=
    fun u hu => o.exists_classify?_of_mem a (List.mem_filter.1 hu).1
  have hdrops := UnusedIndex.script_eq hin
  have hsections := Artifact.sections_eq_layout (o.tight_statements a text)
    (extract_suggestions text)
  simp only [outcome, Answers.report, Report.ofScans, ofResults_eq, Report.confineUnused,
    Report.artifact?, Report.maintenanceScript, Maintenance.script, hdrops, MissingIndex.script_eq,
    Artifact.assemble?_eq]
  rw [statements, ← hsections]
  rfl

theorem maintenance_eq_nil_iff : o.maintenance a = [] ↔ ∀ row ∈ answered a.physical,
    o.thresholds.minPageCount < row.pageCount →
      Maintenance.classify? o.thresholds row = none := by
  simp only [maintenance, List.filterMap_eq_nil_iff, List.mem_filter, decide_eq_true_eq, and_imp]

theorem drops_eq_nil_iff : o.drops a = [] ↔ ∀ row ∈ answered a.usage,
    sameIgnoringCase row.database o.database → ∀ u,
      UnusedIndex.classify? o.thresholds row = some u → u.action ≠ .drop := by
  simp only [drops, List.filter_eq_nil_iff, List.mem_filterMap, List.mem_filter,
    decide_eq_true_eq, forall_exists_index, and_imp]
  exact ⟨fun h row hrow hd u hu => h u row hrow hd hu, fun h u row hrow hd hu => h row hrow hd u hu⟩

theorem creates_eq_nil_iff : o.creates a = [] ↔ ∀ row ∈ answered a.missing, ∀ i,
    MissingIndex.classify? o.thresholds row = some i → i.action ≠ .create := by
  simp only [creates, List.filter_eq_nil_iff, List.mem_filterMap, decide_eq_true_eq,
    forall_exists_index, and_imp]
  exact ⟨fun h row hrow i hi => h i row hrow hi, fun h i row hrow hi => h row hrow i hi⟩

theorem forall_mem_statements_iff {ms : List Maintenance} {ds : List UnusedIndex}
    {cs : List MissingIndex} :
    (∀ ss ∈ statements ms ds cs, ss = []) ↔ ms = [] ∧ ds = [] ∧ cs = [] := by
  simp [statements]

theorem eq_nil_congr {β : Type} {l k : List β} (h : l.Perm k) : l = [] ↔ k = [] := by
  rw [← List.length_eq_zero_iff, h.length_eq, List.length_eq_zero_iff]

theorem outcome_meets (text : Option String) : o.Meets a (suggestions text) (o.outcome a text) := by
  have hms : (Maintenance.analyze o.thresholds (answered a.physical)).Perm (o.maintenance a) :=
    List.mergeSort_perm _ _
  have hds := o.dropsOf_perm a
  have hcs := o.createsOf_perm a
  rw [outcome_eq]
  constructor
  · have hnone {p : Prop} [Decidable p] {x : Artifact} :
        (if p then none else some x) = none ↔ p := by
      split <;> simp_all
    rw [hnone, Artifact.layout_eq_nil_iff, forall_mem_statements_iff, eq_nil_congr hms,
      eq_nil_congr hds, eq_nil_congr hcs, maintenance_eq_nil_iff, drops_eq_nil_iff,
      creates_eq_nil_iff, and_assoc, and_assoc]
  · intro artifact h
    split at h
    · exact absurd h (by simp)
    · obtain rfl := Option.some.inj h
      exact ⟨_, _, _, hms, hds, hcs, Maintenance.pairwise_analyze _ _, rfl⟩

/-- A build asks for the databases, then every database for its rows, then for the file of generated
statements if the options let it in. What it makes of the answers is what they call for. These are
what the databases reply, in their order, also if they are asked at the same time. -/
theorem build_meets [LawfulMonad m] {pool : Pool m} (hpool : pool.KeepsOrder) (c : Catalog m)
    (files : Files m) :
    ∃ outcome : Answers → Option String → Option Artifact,
      (o.build pool c files = do
        let databases ← c.targets o.database o.allDatabases
        let answers ← ExceptT.lift (c.answers pool databases o.thresholds.minPageCount)
        let text ← o.adopted files
        return outcome answers text) ∧
      (∀ answers text, o.Meets answers (suggestions text) (outcome answers text)) ∧
      ∀ (r : Replies) (databases : List String),
        c.Gives r databases o.thresholds.minPageCount →
          Yields (c.answers pool databases o.thresholds.minPageCount) (r.answers databases) :=
  ⟨o.outcome, o.build_eq_outcome pool c files, o.outcome_meets, fun _ _ h => h.yields_answers hpool⟩

end BuildOptions

def staleIn (database : String) : UsageStat :=
  ⟨database, "dbo", "Orders", some "IX_Old", 0, 0, 0, 5, 64⟩

def fourDatabases : MemoryCatalog :=
  (((({} : MemoryCatalog).addUsage (staleIn "Shop")).addUsage (staleIn "Archive")).addFailing
    "Lost" "offline").addDatabase "Spare"

def noFiles : Files Id where
  bytesOf _ := .error .notFound
  makeFolder _ := .error .notFolder
  put _ _ := .error .notFolder

def shopOptions : BuildOptions where
  database := "SHOP"
  allDatabases := true
  generatedFile := none
  useGenerated := true
  thresholds := {}

def shopAnswers : Answers := (fourDatabases.replies 100).answers fourDatabases.databases

theorem build_fourDatabases : (Pool.fromLast : Pool Id).KeepsOrder ∧ ∃ artifact,
    (shopOptions.build .fromLast fourDatabases.toCatalog noFiles).run = .ok (some artifact) ∧
      artifact.combinedSql = "DROP INDEX [IX_Old] ON [dbo].[Orders];" := by
  refine ⟨Pool.keepsOrder_fromLast, ?_⟩
  obtain ⟨outcome, hbuild, hmeets, hyields⟩ :=
    shopOptions.build_meets Pool.keepsOrder_fromLast fourDatabases.toCatalog noFiles
  have hanswers : fourDatabases.toCatalog.answers .fromLast fourDatabases.databases 100 =
      (pure shopAnswers : Id Answers) := by
    obtain ⟨note, h⟩ := hyields _ _ (fourDatabases.gives_replies fourDatabases.databases 100)
    exact h
  have hrun : (shopOptions.build .fromLast fourDatabases.toCatalog noFiles).run =
      .ok (outcome shopAnswers none) := by
    rw [hbuild]
    exact congrArg (fun answers => Except.ok (outcome answers none)) hanswers
  have hmeet := hmeets shopAnswers none
  have hdrops : (shopOptions.drops shopAnswers).map
      (fun u => UnusedIndex.dropStatement u.schema u.table u.index) =
        ["DROP INDEX [IX_Old] ON [dbo].[Orders];"] := by decide +kernel
  cases h : outcome shopAnswers none with
  | none =>
      have hnone := (BuildOptions.drops_eq_nil_iff _ _).2 (hmeet.nothing.1 h).2.1
      rw [hnone] at hdrops
      exact absurd hdrops (by simp)
  | some artifact =>
      obtain ⟨ms, ds, cs, hms, hds, hcs, -, hsql⟩ := hmeet.built artifact h
      have hms : ms = [] := (show ms.Perm [] from hms).eq_nil
      have hcs : cs = [] := (show cs.Perm [] from hcs).eq_nil
      have hds := hds.map fun u => UnusedIndex.dropStatement u.schema u.table u.index
      rw [hdrops, List.perm_singleton] at hds
      refine ⟨artifact, by rw [hrun, h], ?_⟩
      rw [hsql, hms, hcs, hds]
      decide +kernel

end IndexTuning
