import IndexTuning.Context
import IndexTuning.Proofs.Isolation
import IndexTuning.Proofs.Sql.TableRef
import Mathlib.Data.List.Nodup

namespace IndexTuning

open Sql

/-- What was answered about one table. Its indexes are asked for only when it has columns. -/
inductive TableAnswer
  | unreadable (e : AdvisorError)
  | unknown
  | known (columns : List Column) (indexes : Except AdvisorError (List ExistingIndex))

namespace TableAnswer

def ofAnswers (columns : Except AdvisorError (List Column))
    (indexes : Except AdvisorError (List ExistingIndex)) : TableAnswer :=
  match columns with
  | .error e => unreadable e
  | .ok [] => unknown
  | .ok columns => known columns indexes

/-- A table without columns adds nothing to the context, and one that cannot be read a failure
alone. Any other adds one line on its columns, and a line on each index or one failure. -/
def notes (sql : String) (t : TableRef) : TableAnswer → TableNotes
  | unreadable e => { failures := [TableNotes.failed t e] }
  | unknown => {}
  | known columns indexes =>
    { info := [ColumnUsage.tableLine t.schema t.table (ColumnUsage.filter columns sql t.table)]
      indexes := (indexes.toOption.getD []).map ExistingIndex.describe
      failures := match indexes with
        | .ok _ => []
        | .error e => [TableNotes.failed t e] }

end TableAnswer

theorem mapM_map {m : Type → Type} [Monad m] [LawfulMonad m] {α β γ : Type} (f : α → β → γ)
    (g : α → m β) (xs : List α) :
    xs.mapM (fun x => f x <$> g x) = xs.zipWith f <$> xs.mapM g := by
  induction xs with
  | nil => simp
  | cons x xs ih => simp [List.mapM_cons, ih]

namespace Catalog

section Asking

variable {m : Type → Type} [Monad m]

def answerOn (c : Catalog m) (database : String) (t : TableRef) : m TableAnswer := do
  let home := t.database.getD database
  match ← (c.columns home t.schema t.table).run with
  | .error e => return .unreadable e
  | .ok [] => return .unknown
  | .ok columns => return .known columns (← (c.indexes home t.schema t.table).run)

theorem lookUp_eq [LawfulMonad m] (c : Catalog m) (database sql : String) (t : TableRef) :
    TableNotes.lookUp c database sql t =
      TableAnswer.notes sql t <$> c.answerOn database t := by
  simp only [TableNotes.lookUp, answerOn, map_bind]
  congr 1
  funext columns
  cases columns with
  | error e => rw [map_pure, TableAnswer.notes]
  | ok columns =>
      cases columns with
      | nil => rw [map_pure, TableAnswer.notes]
      | cons x xs =>
          simp only [map_bind, map_pure]
          congr 1
          funext indexes
          cases indexes with
          | error e => rfl
          | ok indexes => rfl

end Asking

def notesOn (c : Catalog Id) (database sql : String) (t : TableRef) : TableNotes :=
  let home := t.database.getD database
  let columns := (c.columns home t.schema t.table).run.run
  let indexes := (c.indexes home t.schema t.table).run.run
  (TableAnswer.ofAnswers columns indexes).notes sql t

structure AgreeOn (c c' : Catalog Id) (database : String) (t : TableRef) : Prop where
  columns : c.columns (t.database.getD database) t.schema t.table =
    c'.columns (t.database.getD database) t.schema t.table
  indexes : c.indexes (t.database.getD database) t.schema t.table =
    c'.indexes (t.database.getD database) t.schema t.table

variable {c c' : Catalog Id} {database : String} {t : TableRef} {tables : List TableRef}

theorem AgreeOn.notesOn_eq (h : c.AgreeOn c' database t) (sql : String) :
    c.notesOn database sql t = c'.notesOn database sql t := by
  rw [notesOn, notesOn, h.columns, h.indexes]

theorem answerOn_run (c : Catalog Id) (database : String) (t : TableRef) :
    (c.answerOn database t).run =
      .ofAnswers (c.columns (t.database.getD database) t.schema t.table).run.run
        (c.indexes (t.database.getD database) t.schema t.table).run.run := by
  rw [answerOn, Id.run_bind]
  cases (c.columns (t.database.getD database) t.schema t.table).run.run with
  | error e => rfl
  | ok columns =>
      cases columns with
      | nil => rfl
      | cons x xs => rfl

theorem map_notesOn_eq (h : ∀ u ∈ tables, c.AgreeOn c' database u) (sql : String) :
    tables.map (c.notesOn database sql) = tables.map (c'.notesOn database sql) :=
  List.map_congr_left fun u hu => (h u hu).notesOn_eq sql

theorem exists_split (hnodup : tables.Nodup) (ht : t ∈ tables)
    (h : ∀ u ∈ tables, u ≠ t → c.AgreeOn c' database u) (sql : String) :
    ∃ front back, tables = front ++ t :: back ∧
      front.map (c.notesOn database sql) = front.map (c'.notesOn database sql) ∧
      back.map (c.notesOn database sql) = back.map (c'.notesOn database sql) := by
  obtain ⟨front, back, rfl⟩ := List.append_of_mem ht
  have hnotin : t ∉ front ++ back := by
    rw [List.nodup_middle, List.nodup_cons] at hnodup
    exact hnodup.1
  have hsub : front ++ back ⊆ front ++ t :: back :=
    ((List.sublist_cons_self t back).append_left front).subset
  have hagree : ∀ u ∈ front ++ back, c.AgreeOn c' database u :=
    fun u hu => h u (hsub hu) (ne_of_mem_of_not_mem hu hnotin)
  exact ⟨front, back, rfl, map_notesOn_eq (fun u hu => hagree u (List.mem_append_left _ hu)) sql,
    map_notesOn_eq (fun u hu => hagree u (List.mem_append_right _ hu)) sql⟩

end Catalog

theorem MemoryCatalog.agreeOn_addFailing (c : MemoryCatalog) {database home message : String}
    {t : TableRef} (h : t.database.getD home ≠ database) :
    Catalog.AgreeOn c.toCatalog (c.addFailing database message).toCatalog home t := by
  constructor <;> simp only [toCatalog, content_addFailing h]

namespace Context

theorem ofSql_eq_answers {m : Type → Type} [Monad m] [LawfulMonad m] (c : Catalog m)
    (database sql : String) :
    let tables := TableScan.extract sql (some database)
    ofSql c database sql =
      (fun answers =>
        ofNotes database sql tables (tables.zipWith (TableAnswer.notes sql) answers)) <$>
        tables.mapM (c.answerOn database) := by
  intro tables
  have hlookUp : TableNotes.lookUp c database sql =
      fun t => TableAnswer.notes sql t <$> c.answerOn database t :=
    funext (c.lookUp_eq database sql)
  rw [ofSql, hlookUp, mapM_map, bind_pure_comp, Functor.map_map]

theorem ofSql_run (c : Catalog Id) (database sql : String) :
    let tables := TableScan.extract sql (some database)
    (ofSql c database sql).run =
      ofNotes database sql tables (tables.map (c.notesOn database sql)) := by
  intro tables
  have hnotes : (fun t => TableAnswer.notes sql t (c.answerOn database t).run) =
      c.notesOn database sql := by
    funext t
    rw [Catalog.answerOn_run, Catalog.notesOn]
  rw [ofSql_eq_answers, Id.run_map, List.idRun_mapM, List.zipWith_map_right, List.zipWith_self,
    hnotes]

/-- The context of a text is put together table by table, in the order of the extracted set. What a
table adds depends on its own two lookups alone. So two servers that answer alike for all tables but
one give contexts that differ in what that table adds. -/
theorem ofSql_isolates (database sql : String) :
    let tables := TableScan.extract sql (some database)
    TableRef.Ascending tables ∧
    (∀ {m : Type → Type} [Monad m] [LawfulMonad m] (c : Catalog m),
      ofSql c database sql =
        (fun answers =>
          ofNotes database sql tables (tables.zipWith (TableAnswer.notes sql) answers)) <$>
          tables.mapM (c.answerOn database)) ∧
    (∀ c : Catalog Id, (ofSql c database sql).run =
      { database
        definition := sql
        tables
        tableInfo := tables.flatMap fun t => (c.notesOn database sql t).info
        existingIndexes := tables.flatMap fun t => (c.notesOn database sql t).indexes
        failures := tables.flatMap fun t => (c.notesOn database sql t).failures }) ∧
    ∀ (c c' : Catalog Id) (t : TableRef), (∀ u ∈ tables, u ≠ t → c.AgreeOn c' database u) →
      (t ∉ tables → ofSql c' database sql = ofSql c database sql) ∧
      (t ∈ tables → ∃ front back, tables = front ++ t :: back ∧
        let before := front.map (c.notesOn database sql)
        let after := back.map (c.notesOn database sql)
        (ofSql c database sql).run =
          ofNotes database sql tables (before ++ c.notesOn database sql t :: after) ∧
        (ofSql c' database sql).run =
          ofNotes database sql tables (before ++ c'.notesOn database sql t :: after)) := by
  intro tables
  have hascending : TableRef.Ascending tables := TableRef.ascending_toSet _
  refine ⟨hascending, fun c => ofSql_eq_answers c database sql, ?_, ?_⟩
  · intro c
    rw [ofSql_run, ofNotes, List.flatMap_map, List.flatMap_map, List.flatMap_map]
  · intro c c' t h
    constructor
    · intro ht
      have hagree : ∀ u ∈ tables, c.AgreeOn c' database u :=
        fun u hu => h u hu (ne_of_mem_of_not_mem hu ht)
      have hrun : (ofSql c' database sql).run = (ofSql c database sql).run := by
        rw [ofSql_run, ofSql_run, ← Catalog.map_notesOn_eq hagree]
      exact hrun
    · intro ht
      obtain ⟨front, back, hsplit, hfront, hback⟩ :=
        Catalog.exists_split hascending.nodup ht h sql
      have hrun (server : Catalog Id) : (ofSql server database sql).run =
          ofNotes database sql tables (front.map (server.notesOn database sql) ++
            server.notesOn database sql t :: back.map (server.notesOn database sql)) := by
        rw [← List.map_cons, ← List.map_append, ← hsplit, ofSql_run]
      refine ⟨front, back, hsplit, hrun c, ?_⟩
      rw [hfront, hback, hrun c']

def orders : TableRef := ⟨some "Shop", "dbo", "Orders"⟩

def oldOrders : TableRef := ⟨some "Archive", "dbo", "OldOrders"⟩

def ordersServer : MemoryCatalog :=
  (({} : MemoryCatalog).addTable "Shop" "dbo" "Orders" [⟨"Id", "int"⟩]).addTable
    "Archive" "dbo" "OldOrders" [⟨"Id", "int"⟩]

theorem ofSql_isolates_oldOrders :
    let sql := "SELECT Id FROM Orders JOIN Archive.dbo.OldOrders ON 1 = 1"
    let server : Catalog Id := ordersServer.toCatalog
    let lost : Catalog Id := (ordersServer.addFailing "Archive" "offline").toCatalog
    (∀ u ∈ TableScan.extract sql (some "Shop"), u ≠ oldOrders → server.AgreeOn lost "Shop" u) ∧
    ∃ front back, TableScan.extract sql (some "Shop") = front ++ oldOrders :: back ∧
      (ofSql lost "Shop" sql).run = ofNotes "Shop" sql (TableScan.extract sql (some "Shop"))
        (front.map (server.notesOn "Shop" sql) ++
          { failures := [TableNotes.failed oldOrders (.metadataQuery "Archive" "offline")] } ::
            back.map (server.notesOn "Shop" sql)) := by
  intro sql server lost
  have htables : TableScan.extract sql (some "Shop") = [oldOrders, orders] := by decide +kernel
  have hagree : ∀ u ∈ TableScan.extract sql (some "Shop"), u ≠ oldOrders →
      server.AgreeOn lost "Shop" u := by
    intro u hu hne
    rw [htables] at hu
    obtain rfl : u = orders := by simpa [hne] using hu
    exact ordersServer.agreeOn_addFailing (by decide)
  obtain ⟨-, -, -, hisolated⟩ := ofSql_isolates "Shop" sql
  obtain ⟨-, hdiffer⟩ := hisolated server lost oldOrders hagree
  obtain ⟨front, back, hsplit, -, hrun⟩ := hdiffer (by rw [htables]; exact List.mem_cons_self)
  exact ⟨hagree, front, back, hsplit, hrun⟩

end Context

end IndexTuning
