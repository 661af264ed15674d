import IndexTuning.Catalog.Memory
import IndexTuning.Report
import Mathlib.Data.List.Forall2

namespace IndexTuning

variable {m : Type → Type} [Monad m] {α β : Type}

section Yields

/-- The computation gives this value, whatever else it does. -/
def Yields (x : m α) (a : α) : Prop := ∃ note : m Unit, x = (fun _ => a) <$> note

variable [LawfulMonad m]

theorem yields_pure (a : α) : Yields (pure a : m α) a :=
  ⟨pure (), (map_pure (fun _ => a) ()).symm⟩

theorem Yields.bind {x : m α} {a : α} {f : α → m β} {b : β} (hx : Yields x a)
    (hf : Yields (f a) b) : Yields (x >>= f) b := by
  obtain ⟨note, rfl⟩ := hx
  obtain ⟨later, hlater⟩ := hf
  refine ⟨note >>= fun _ => later, ?_⟩
  simp only [bind_map_left, hlater, map_bind]

theorem Yields.map {x : m α} {a : α} (hx : Yields x a) (f : α → β) : Yields (f <$> x) (f a) := by
  rw [map_eq_pure_bind]
  exact hx.bind (yields_pure (f a))

end Yields

namespace Pool

/-- The values come in the order of the jobs, in whatever order these are carried out. -/
def KeepsOrder (pool : Pool m) : Prop :=
  ∀ {β : Type} {jobs : List (m β)} {values : List β},
    List.Forall₂ Yields jobs values → Yields (pool.collect jobs) values

variable [LawfulMonad m]

theorem keepsOrder_inTurn : (inTurn : Pool m).KeepsOrder := by
  intro β jobs values h
  change Yields (jobs.mapM id) values
  induction h with
  | nil => exact yields_pure []
  | cons hjob _ ih =>
      rw [List.mapM_cons]
      exact hjob.bind (ih.bind (yields_pure _))

def fromLast : Pool m where
  collect jobs := List.reverse <$> inTurn.collect jobs.reverse

theorem keepsOrder_fromLast : (fromLast : Pool m).KeepsOrder := by
  intro β jobs values h
  have hreverse := (keepsOrder_inTurn (List.rel_reverse h)).map List.reverse
  rwa [List.reverse_reverse] at hreverse

end Pool

/-- What the databases answered to the three queries of an analysis. -/
structure Answers where
  physical : List (String × Except AdvisorError (List PhysicalStat))
  usage : List (String × Except AdvisorError (List UsageStat))
  missing : List (String × Except AdvisorError (List MissingStat))

def ask (pool : Pool m) (lookup : String → ExceptT AdvisorError m (List α))
    (databases : List String) : m (List (String × Except AdvisorError (List α))) :=
  let jobs := databases.map fun database => (lookup database).run
  databases.zip <$>
    if parallelFrom ≤ databases.length then pool.collect jobs else Pool.inTurn.collect jobs

def Catalog.answers (pool : Pool m) (c : Catalog m) (databases : List String) (leastPages : Int) :
    m Answers := do
  let physical ← ask pool (c.physicalStats · leastPages) databases
  let usage ← ask pool c.usageStats databases
  let missing ← ask pool c.missingStats databases
  return ⟨physical, usage, missing⟩

def answered (results : List (String × Except AdvisorError (List α))) : List α :=
  results.flatMap fun result => result.2.toOption.getD []

def failed (results : List (String × Except AdvisorError (List α))) : List ScanFailure :=
  results.filterMap fun
    | (_, .ok _) => none
    | (database, .error e) => some ⟨database, e.message⟩

theorem foldl_add (results : List (String × Except AdvisorError (List α))) (r : ScanReport α) :
    results.foldl (fun r p => r.add p.1 p.2) r =
      ⟨r.rows ++ answered results, r.failures ++ failed results⟩ := by
  induction results generalizing r with
  | nil =>
      rw [answered, failed, List.flatMap_nil, List.filterMap_nil, List.append_nil,
        List.append_nil, List.foldl_nil]
  | cons result results ih =>
      obtain ⟨database, result⟩ := result
      rw [List.foldl_cons, ih]
      cases result with
      | error e => exact congrArg _ (List.append_assoc _ _ _)
      | ok rows => exact congrArg (ScanReport.mk · _) (List.append_assoc _ _ _)

theorem ofResults_eq (results : List (String × Except AdvisorError (List α))) :
    ScanReport.ofResults results = ⟨answered results, failed results⟩ :=
  foldl_add results ⟨[], []⟩

namespace Answers

def report (a : Answers) (t : Thresholds) : Report :=
  .ofScans t (.ofResults a.physical) (.ofResults a.usage) (.ofResults a.missing)

theorem report_eq (a : Answers) (t : Thresholds) : a.report t =
    { maintenance := Maintenance.analyze t (answered a.physical)
      unused := UnusedIndex.analyze t (answered a.usage)
      missing := MissingIndex.analyze t (answered a.missing)
      failures := failed a.physical ++ failed a.usage ++ failed a.missing } := by
  simp only [report, Report.ofScans, ofResults_eq]

end Answers

variable [LawfulMonad m]

theorem scan_eq_ask (pool : Pool m) (lookup : String → ExceptT AdvisorError m (List α))
    (databases : List String) :
    scan pool lookup databases = ScanReport.ofResults <$> ask pool lookup databases := by
  rw [scan, ask]
  split <;> simp only [Functor.map_map, bind_pure_comp]

theorem analyze_eq_answers (pool : Pool m) (c : Catalog m) (databases : List String)
    (t : Thresholds) : Report.analyze pool c databases t =
      (fun a => a.report t) <$> c.answers pool databases t.minPageCount := by
  simp only [Report.analyze, Catalog.answers, scan_eq_ask, map_eq_pure_bind, bind_assoc, pure_bind]
  rfl

/-- What every database replies to every query, rows or an error. -/
structure Replies where
  physical : String → Except AdvisorError (List PhysicalStat)
  usage : String → Except AdvisorError (List UsageStat)
  missing : String → Except AdvisorError (List MissingStat)

def Replies.answers (r : Replies) (databases : List String) : Answers where
  physical := databases.map fun d => (d, r.physical d)
  usage := databases.map fun d => (d, r.usage d)
  missing := databases.map fun d => (d, r.missing d)

/-- The databases reply so, whenever they are asked and whatever else happens then. -/
structure Catalog.Gives (c : Catalog m) (r : Replies) (databases : List String)
    (leastPages : Int) : Prop where
  physical : ∀ d ∈ databases, Yields (c.physicalStats d leastPages).run (r.physical d)
  usage : ∀ d ∈ databases, Yields (c.usageStats d).run (r.usage d)
  missing : ∀ d ∈ databases, Yields (c.missingStats d).run (r.missing d)

namespace MemoryCatalog

def replies (c : MemoryCatalog) (leastPages : Int) : Replies where
  physical d := (c.content d).map fun content =>
    content.physicalStats.filter fun row => leastPages < row.pageCount && row.index.isSome
  usage d := (c.content d).map (·.usageStats)
  missing d := (c.content d).map (·.missingStats)

theorem gives_replies (c : MemoryCatalog) (databases : List String) (leastPages : Int) :
    (c.toCatalog : Catalog m).Gives (c.replies leastPages) databases leastPages :=
  ⟨fun _ _ => yields_pure _, fun _ _ => yields_pure _, fun _ _ => yields_pure _⟩

end MemoryCatalog

section Parallel

variable {pool : Pool m} (hpool : pool.KeepsOrder) {databases : List String}

include hpool

theorem yields_ask {lookup : String → ExceptT AdvisorError m (List α)}
    {reply : String → Except AdvisorError (List α)}
    (h : ∀ d ∈ databases, Yields (lookup d).run (reply d)) :
    Yields (ask pool lookup databases) (databases.map fun d => (d, reply d)) := by
  have hjobs : List.Forall₂ Yields (databases.map fun d => (lookup d).run)
      (databases.map reply) := by
    rw [List.forall₂_map_left_iff, List.forall₂_map_right_iff]
    exact List.forall₂_same.2 h
  rw [List.map_prod_left_eq_zip, ask]
  split
  · exact (hpool hjobs).map _
  · exact (Pool.keepsOrder_inTurn hjobs).map _

theorem Catalog.Gives.yields_answers {c : Catalog m} {r : Replies} {leastPages : Int}
    (h : c.Gives r databases leastPages) :
    Yields (c.answers pool databases leastPages) (r.answers databases) :=
  (yields_ask hpool h.physical).bind ((yields_ask hpool h.usage).bind
    ((yields_ask hpool h.missing).bind (yields_pure _)))

theorem Catalog.Gives.yields_analyze {c : Catalog m} {r : Replies} {t : Thresholds}
    (h : c.Gives r databases t.minPageCount) :
    Yields (Report.analyze pool c databases t) ((r.answers databases).report t) := by
  rw [analyze_eq_answers]
  exact (h.yields_answers hpool).map _

end Parallel

end IndexTuning
