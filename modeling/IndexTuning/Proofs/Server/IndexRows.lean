import IndexTuning.Proofs.Catalog
import Mathlib.Data.List.Chain
import Mathlib.Data.List.Induction

namespace IndexTuning

def ExistingIndex.addRows (i : ExistingIndex) (rows : List IndexRow) : ExistingIndex :=
  { i with
    keyColumns := i.keyColumns ++ (rows.filter (!·.isIncluded)).map (·.column)
    includedColumns := i.includedColumns ++ (rows.filter (·.isIncluded)).map (·.column) }

namespace ExistingIndex

variable {i : ExistingIndex}

@[simp] theorem name_addColumn (column : String) (isIncluded : Bool) :
    (i.addColumn column isIncluded).name = i.name := by
  cases isIncluded <;> rfl

@[simp] theorem addRows_nil : i.addRows [] = i := by
  simp [addRows]

theorem addRows_cons (row : IndexRow) (rows : List IndexRow) :
    i.addRows (row :: rows) = (i.addColumn row.column row.isIncluded).addRows rows := by
  cases h : row.isIncluded <;> simp [addRows, addColumn, h]

theorem addRows_concat (rows : List IndexRow) (row : IndexRow) :
    i.addRows (rows ++ [row]) = (i.addRows rows).addColumn row.column row.isIncluded := by
  cases h : row.isIncluded <;> simp [addRows, addColumn, h]

end ExistingIndex

namespace IndexRow

variable {row : IndexRow} {rows run : List IndexRow} {runs : List (List IndexRow)}
  {i latest : ExistingIndex} {indexes earlier : List ExistingIndex}

/-- The rows all have the name of the index. It has the attributes of the first of them and the
columns of all of them in their order. -/
def MakeUp (run : List IndexRow) (i : ExistingIndex) : Prop :=
  (∀ row ∈ run, row.index.name = i.name) ∧ ∃ first ∈ run.head?, i = first.index.addRows run

/-- No two neighbours have the same name. -/
def AreApart (indexes : List ExistingIndex) : Prop := indexes.IsChain fun i j => i.name ≠ j.name

/-- The rows fall apart into runs that make up the indexes, the latest of them first. -/
structure Gathered (rows : List IndexRow) (runs : List (List IndexRow))
    (indexes : List ExistingIndex) : Prop where
  rows : runs.reverse.flatten = rows
  madeUp : List.Forall₂ MakeUp runs indexes
  apart : AreApart indexes

theorem makeUp_singleton (row : IndexRow) :
    MakeUp [row] (row.index.addColumn row.column row.isIncluded) := by
  refine ⟨by simp, row, rfl, ?_⟩
  rw [ExistingIndex.addRows_cons, ExistingIndex.addRows_nil]

theorem MakeUp.concat (h : MakeUp run i) (hname : i.name = row.index.name) :
    MakeUp (run ++ [row]) (i.addColumn row.column row.isIncluded) := by
  obtain ⟨hnames, first, hfirst, hi⟩ := h
  refine ⟨?_, first, ?_, ?_⟩
  · intro r hr
    rw [ExistingIndex.name_addColumn]
    rcases List.mem_append.1 hr with hr | hr
    · exact hnames r hr
    · rw [List.mem_singleton.1 hr, hname]
  · rw [List.head?_append, Option.mem_def.1 hfirst]
    rfl
  · rw [ExistingIndex.addRows_concat, ← hi]

theorem Gathered.step (h : Gathered rows runs indexes) (row : IndexRow) :
    ∃ runs, Gathered (rows ++ [row]) runs (gather indexes row) := by
  obtain ⟨rfl, hmade, hapart⟩ := h
  cases hmade with
  | nil =>
      exact ⟨[[row]], rfl, .cons (makeUp_singleton row) .nil, List.isChain_singleton _⟩
  | @cons run latest runs earlier hrun hruns =>
      rw [gather]
      split
      · rename_i hname
        refine ⟨(run ++ [row]) :: runs, by simp, .cons (hrun.concat hname) hruns, ?_⟩
        rw [AreApart, List.isChain_cons] at hapart ⊢
        exact ⟨by simpa using hapart.1, hapart.2⟩
      · rename_i hname
        refine ⟨[row] :: run :: runs, by simp, .cons (makeUp_singleton row) (.cons hrun hruns), ?_⟩
        refine List.isChain_cons_cons.2 ⟨?_, hapart⟩
        rw [ExistingIndex.name_addColumn]
        exact Ne.symm hname

theorem exists_gathered (rows : List IndexRow) :
    ∃ runs, Gathered rows runs (rows.foldl gather []) := by
  induction rows using List.reverseRecOn with
  | nil => exact ⟨[], rfl, .nil, List.isChain_nil⟩
  | append_singleton rows row ih =>
      obtain ⟨runs, h⟩ := ih
      rw [List.foldl_concat]
      exact h.step row

theorem exists_runs (rows : List IndexRow) : ∃ runs, runs.flatten = rows ∧
    List.Forall₂ MakeUp runs (toIndexes rows) ∧ AreApart (toIndexes rows) := by
  obtain ⟨runs, hrows, hmade, hapart⟩ := exists_gathered rows
  refine ⟨runs.reverse, hrows, List.forall₂_reverse_iff.2 hmade, ?_⟩
  rw [AreApart, toIndexes, List.isChain_reverse]
  exact hapart.imp fun _ _ h => Ne.symm h

theorem foldl_gather_same (h : ∀ row ∈ rows, row.index.name = latest.name) :
    rows.foldl gather (latest :: earlier) = latest.addRows rows :: earlier := by
  induction rows generalizing latest with
  | nil => rw [List.foldl_nil, ExistingIndex.addRows_nil]
  | cons row rows ih =>
      obtain ⟨hrow, hrows⟩ := List.forall_mem_cons.1 h
      rw [List.foldl_cons, gather, if_pos hrow.symm, ExistingIndex.addRows_cons]
      exact ih fun r hr => by rw [hrows r hr, ExistingIndex.name_addColumn]

def bareOf (i : ExistingIndex) : ExistingIndex :=
  { i with keyColumns := [], includedColumns := [] }

theorem index_of_mem_ofIndex (h : row ∈ ofIndex i) : row.index = bareOf i := by
  rcases List.mem_append.1 h with h | h
  · obtain ⟨_, -, rfl⟩ := List.mem_map.1 h
    rfl
  · obtain ⟨_, -, rfl⟩ := List.mem_map.1 h
    rfl

theorem addRows_ofIndex (i : ExistingIndex) : (bareOf i).addRows (ofIndex i) = i := by
  simp [ExistingIndex.addRows, bareOf, ofIndex, List.filter_map, Function.comp_def]

theorem foldl_gather_ofIndex (hne : i.keyColumns ≠ [] ∨ i.includedColumns ≠ [])
    (hname : ∀ latest ∈ earlier.head?, latest.name ≠ i.name) :
    (ofIndex i).foldl gather earlier = i :: earlier := by
  obtain ⟨first, rest, hrows⟩ : ∃ first rest, ofIndex i = first :: rest := by
    apply List.exists_cons_of_ne_nil
    simpa [ofIndex, Classical.or_iff_not_imp_left] using hne
  have hindex : ∀ row ∈ first :: rest, row.index = bareOf i :=
    fun row hrow => index_of_mem_ofIndex (hrows ▸ hrow)
  obtain ⟨hfirst, hrest⟩ := List.forall_mem_cons.1 hindex
  have hopen : gather earlier first =
      first.index.addColumn first.column first.isIncluded :: earlier := by
    cases earlier with
    | nil => rfl
    | cons latest earlier =>
        rw [gather, if_neg]
        rw [hfirst]
        exact hname latest rfl
  rw [hrows, List.foldl_cons, hopen, foldl_gather_same, ← ExistingIndex.addRows_cons, ← hrows,
    hfirst, addRows_ofIndex]
  intro row hrow
  rw [ExistingIndex.name_addColumn, hfirst, hrest row hrow]

theorem foldl_gather_ofIndexes
    (hne : ∀ i ∈ indexes, i.keyColumns ≠ [] ∨ i.includedColumns ≠ []) (hapart : AreApart indexes)
    (hname : ∀ i ∈ indexes.head?, ∀ latest ∈ earlier.head?, latest.name ≠ i.name) :
    (indexes.flatMap ofIndex).foldl gather earlier = indexes.reverse ++ earlier := by
  induction indexes generalizing earlier with
  | nil => rfl
  | cons i indexes ih =>
      obtain ⟨hi, hrest⟩ := List.forall_mem_cons.1 hne
      obtain ⟨hnext, hapart⟩ := List.isChain_cons.1 hapart
      rw [List.flatMap_cons, List.foldl_append, foldl_gather_ofIndex hi (hname i rfl),
        ih hrest hapart, List.reverse_cons, List.append_assoc, List.singleton_append]
      intro j hj latest hlatest
      obtain rfl := Option.some.inj hlatest
      exact hnext j hj

theorem toIndexes_ofIndexes
    (hne : ∀ i ∈ indexes, i.keyColumns ≠ [] ∨ i.includedColumns ≠ []) (hapart : AreApart indexes) :
    toIndexes (indexes.flatMap ofIndex) = indexes := by
  rw [toIndexes, foldl_gather_ofIndexes hne hapart (by simp), List.append_nil, List.reverse_reverse]

end IndexRow

theorem Client.yields_indexes {m : Type → Type} [Monad m] [LawfulMonad m] {c : Client m}
    {database schema table : String} {rows : List IndexRow} (hbare : ∀ row ∈ rows, row.IsBare)
    (h : c.Gives database Server.Query.indexes [.text schema, .text table] IndexRow.cells rows) :
    Yields (c.toCatalog.indexes database schema table).run (.ok (IndexRow.toIndexes rows)) := by
  have hquery := h.query fun row x hx => readIndexRow_of_shows (hbare x hx)
  exact hquery.bind (yields_pure (Except.ok (IndexRow.toIndexes rows)))

/-- Rows become indexes run by run: every row is in exactly one run, in the order of the rows, a run
has one name and makes up one index, and neighbours have different names. Indexes with a column at
least, of which no neighbours have the same name, are given back by the rows that describe them. A
client does this to the rows of its server. -/
theorem IndexRow.toIndexes_gathers :
    (∀ rows, ∃ runs, runs.flatten = rows ∧ List.Forall₂ MakeUp runs (toIndexes rows) ∧
      AreApart (toIndexes rows)) ∧
    (∀ indexes, (∀ i ∈ indexes, i.keyColumns ≠ [] ∨ i.includedColumns ≠ []) → AreApart indexes →
      toIndexes (indexes.flatMap ofIndex) = indexes) ∧
    ∀ {m : Type → Type} [Monad m] [LawfulMonad m] (c : Client m) (database schema table : String)
      (rows : List IndexRow), (∀ row ∈ rows, row.IsBare) →
      c.Gives database Server.Query.indexes [.text schema, .text table] cells rows →
      Yields (c.toCatalog.indexes database schema table).run (.ok (toIndexes rows)) :=
  ⟨exists_runs, fun _ hne hapart => toIndexes_ofIndexes hne hapart,
    fun _ _ _ _ _ hbare h => Client.yields_indexes hbare h⟩

def orderIndexes : List ExistingIndex :=
  [⟨"dbo", "Orders", "PK_Orders", "CLUSTERED", true, true, ["Id"], []⟩,
    ⟨"dbo", "Orders", "IX_Date", "NONCLUSTERED", false, false, ["Date", "Id"], ["Total"]⟩,
    ⟨"dbo", "Orders", "IX_Store", "NONCLUSTERED COLUMNSTORE", false, false, [], ["Total", "Date"]⟩]

def Server.ofRows (rows : List Row) : Server Id where
  ask _ _ _ := .ok rows

theorem IndexRow.toIndexes_gathers_orders :
    let c : Client Id :=
      ⟨.ofRows ((orderIndexes.flatMap ofIndex).map cells), ⟨"db", 1433, "Shop", .windows, true⟩⟩
    (∀ i ∈ orderIndexes, i.keyColumns ≠ [] ∨ i.includedColumns ≠ []) ∧ AreApart orderIndexes ∧
    (∀ row ∈ orderIndexes.flatMap ofIndex, row.IsBare) ∧
    c.Gives "Shop" Server.Query.indexes [.text "dbo", .text "Orders"] cells
      (orderIndexes.flatMap ofIndex) ∧
    (c.toCatalog.indexes "Shop" "dbo" "Orders").run = Except.ok orderIndexes := by
  intro c
  have hne : ∀ i ∈ orderIndexes, i.keyColumns ≠ [] ∨ i.includedColumns ≠ [] := by decide
  have hapart : AreApart orderIndexes := by simp [AreApart, orderIndexes]
  have hbare : ∀ row ∈ orderIndexes.flatMap ofIndex, row.IsBare := by
    intro row hrow
    obtain ⟨i, -, hrow⟩ := List.mem_flatMap.1 hrow
    rw [IsBare, index_of_mem_ofIndex hrow]
    exact ⟨rfl, rfl⟩
  have hgives : c.Gives "Shop" Server.Query.indexes [.text "dbo", .text "Orders"] cells
      (orderIndexes.flatMap ofIndex) := by
    refine ⟨_, yields_pure _, ?_⟩
    rw [List.forall₂_map_left_iff, List.forall₂_same]
    intro row _
    simp [Row.Shows, cells, List.lookup_cons]
  obtain ⟨-, hback, hclient⟩ := toIndexes_gathers
  refine ⟨hne, hapart, hbare, hgives, ?_⟩
  obtain ⟨note, hrun⟩ := hclient c "Shop" "dbo" "Orders" _ hbare hgives
  rw [hrun, hback orderIndexes hne hapart]
  rfl

end IndexTuning
