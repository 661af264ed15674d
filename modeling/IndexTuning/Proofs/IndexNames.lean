import IndexTuning.Proofs.Completeness

namespace IndexTuning

open Sql Text

/-- What stands before a separator is known if it is known how often the separator occurs there. -/
theorem Text.append_cons_inj {c : Char} {s s' t t' : List Char} (h : s ++ c :: t = s' ++ c :: t')
    (hcount : s.count c = s'.count c) : s = s' ∧ t = t' := by
  induction s generalizing s' with
  | nil =>
      cases s' with
      | nil => exact ⟨rfl, (List.cons_eq_cons.1 h).2⟩
      | cons d s' =>
          obtain ⟨rfl, -⟩ := List.cons_eq_cons.1 h
          simp at hcount
  | cons d s ih =>
      cases s' with
      | nil =>
          obtain ⟨rfl, -⟩ := List.cons_eq_cons.1 h
          simp at hcount
      | cons e s' =>
          obtain ⟨rfl, hrest⟩ := List.cons_eq_cons.1 h
          have hcount' : s.count c = s'.count c := by
            simp only [List.count_cons] at hcount
            omega
          obtain ⟨rfl, rfl⟩ := ih hrest hcount'
          exact ⟨rfl, rfl⟩

namespace MissingIndex

variable {table table' : String} {keys keys' : List String}

/-- The name of a table may have underscores too, but a statement leaves none of them out. -/
theorem joinedName_eq_iff (h : Identifier.bare table.toList = Identifier.bare table'.toList) :
    joinedName table keys = joinedName table' keys' ↔
      table = table' ∧ "_".intercalate keys = "_".intercalate keys' := by
  constructor
  · intro hname
    have hcount : table.toList.count '_' = table'.toList.count '_' := by
      rw [← Identifier.count_bare (by decide) (by decide), h,
        Identifier.count_bare (by decide) (by decide)]
    have hlists := congrArg String.toList hname
    simp only [joinedName, String.append_assoc, String.toList_append] at hlists
    obtain ⟨htable, hkeys⟩ := append_cons_inj (List.append_cancel_left hlists) hcount
    exact ⟨String.toList_inj.1 htable, String.toList_inj.1 hkeys⟩
  · rintro ⟨rfl, hkeys⟩
    rw [joinedName, joinedName, hkeys]

theorem intercalate_injective (hne : keys ≠ []) (hne' : keys' ≠ [])
    (hplain : ∀ c ∈ keys, '_' ∉ c.toList) (hplain' : ∀ c ∈ keys', '_' ∉ c.toList)
    (h : "_".intercalate keys = "_".intercalate keys') : keys = keys' := by
  have hsplit {cs : List String} (hcs : cs ≠ []) (hp : ∀ c ∈ cs, '_' ∉ c.toList) :
      ("_".intercalate cs).toList.splitOn '_' = cs.map String.toList := by
    rw [String.toList_intercalate]
    exact List.splitOn_intercalate '_' (List.forall_mem_map.2 hp) (by simpa using hcs)
  have hlists := hsplit hne hplain
  rw [h, hsplit hne' hplain'] at hlists
  exact (List.map_injective_iff.2 fun _ _ => String.toList_inj.1) hlists.symm

end MissingIndex

def createdIndex (s : String) : List (List Char) := (Identifier.names s.toList).take 4

namespace MissingStat

variable {t : Thresholds} {advisory : Bool} {row other : MissingStat} {s : String}

def listed (t : Thresholds) (advisory : Bool) (rows : List MissingStat) : List MissingStat :=
  rows.filter fun row => (row.statement? t advisory).isSome

/-- Two rows ask for an index of one name on one table. Neither the included columns nor the place
where the equality columns end is seen in a name, and an underscore may be part of a column. -/
def SharesName (row other : MissingStat) : Prop :=
  Identifier.bares [row.database, row.schema] = Identifier.bares [other.database, other.schema] ∧
    row.table = other.table ∧ "_".intercalate row.keys = "_".intercalate other.keys

instance (row other : MissingStat) : Decidable (row.SharesName other) :=
  inferInstanceAs (Decidable (_ ∧ _ ∧ _))

theorem createdIndex_statement (h : row.statement? t advisory = some s) :
    createdIndex s = (Identifier.fit row.indexName).toList :: Identifier.bares row.names := by
  obtain ⟨i, hi, rfl⟩ := Option.map_eq_some_iff.1 h
  rw [createdIndex, names_suggestion (Option.filter_eq_some_iff.1 hi).1]
  rfl

theorem keys_ne_nil (h : row.statement? t advisory = some s) : row.keys ≠ [] := by
  obtain ⟨i, hi, -⟩ := Option.map_eq_some_iff.1 h
  exact (classify?_eq_some_iff.1 (Option.filter_eq_some_iff.1 hi).1).1

theorem sharesName_iff : row.SharesName other ↔
    Identifier.bares row.names = Identifier.bares other.names ∧
      row.indexName = other.indexName := by
  simp only [SharesName, names, Identifier.bares, List.map_cons, List.map_nil, List.cons.injEq,
    and_true]
  constructor
  · rintro ⟨⟨hdatabase, hschema⟩, htable, hkeys⟩
    have hbare : Identifier.bare row.table.toList = Identifier.bare other.table.toList := by
      rw [htable]
    exact ⟨⟨hdatabase, hschema, hbare⟩, (MissingIndex.joinedName_eq_iff hbare).2 ⟨htable, hkeys⟩⟩
  · rintro ⟨⟨hdatabase, hschema, hbare⟩, hname⟩
    exact ⟨⟨hdatabase, hschema⟩, (MissingIndex.joinedName_eq_iff hbare).1 hname⟩

theorem createdIndex_eq_iff {u : String} (hs : row.statement? t advisory = some s)
    (hu : other.statement? t advisory = some u)
    (h : ¬ Identifier.Collides row.indexName other.indexName)
    (h' : ¬ Identifier.Collides other.indexName row.indexName) :
    createdIndex s = createdIndex u ↔ row.SharesName other := by
  rw [createdIndex_statement hs, createdIndex_statement hu, List.cons_eq_cons, sharesName_iff]
  constructor
  · rintro ⟨hname, hnames⟩
    exact ⟨hnames, Identifier.eq_of_fit_eq (String.toList_inj.1 hname) h h'⟩
  · rintro ⟨hnames, hname⟩
    exact ⟨by rw [hname], hnames⟩

theorem sharesName_iff_of_plain (hrow : row.keys ≠ []) (hother : other.keys ≠ [])
    (h : ∀ c ∈ row.keys, '_' ∉ c.toList) (h' : ∀ c ∈ other.keys, '_' ∉ c.toList) :
    row.SharesName other ↔
      Identifier.bares [row.database, row.schema] =
          Identifier.bares [other.database, other.schema] ∧
        row.table = other.table ∧ row.keys = other.keys := by
  have hkeys : "_".intercalate row.keys = "_".intercalate other.keys ↔ row.keys = other.keys :=
    ⟨MissingIndex.intercalate_injective hrow hother h h', congrArg _⟩
  rw [SharesName, hkeys]

theorem mem_listed {rows : List MissingStat} :
    row ∈ listed t advisory rows ↔ row ∈ rows ∧ ∃ s, row.statement? t advisory = some s := by
  rw [listed, List.mem_filter, Option.isSome_iff_exists]

variable {rows : List MissingStat}

theorem statement?_of_advisory (h : row.keys ≠ []) :
    row.statement? t true = some row.suggestion := by
  rw [statement?, classify?_eq_some_iff.2 ⟨h, rfl⟩]
  simp

theorem filterMap_statement?_of_advisory (h : ∀ row ∈ rows, row.keys ≠ []) :
    rows.filterMap (statement? t true) = rows.map suggestion := by
  rw [← List.filterMap_eq_map]
  exact List.filterMap_congr fun row hrow => statement?_of_advisory (h row hrow)

theorem listed_of_advisory (h : ∀ row ∈ rows, row.keys ≠ []) : listed t true rows = rows := by
  rw [listed, List.filter_eq_self]
  intro row hrow
  rw [statement?_of_advisory (h row hrow), Option.isSome_some]

def onOrders (equality inequality included : Option String) : MissingStat :=
  ⟨"Shop", "dbo", "Orders", equality, inequality, included, 1, 90, 0, 2, 95⟩

def longName (last : Char) : List Char := List.replicate 130 'a' ++ [last]

def onLongColumn (last : Char) : MissingStat :=
  onOrders (some (String.ofList (longName last))) none none

section LongColumn

variable {last : Char}
  (h : (longName last).all fun c => !isBlank c && (!isBracket c && c != ','))

include h

theorem keys_onLongColumn : (onLongColumn last).keys = [String.ofList (longName last)] := by
  simp only [List.all_eq_true, Bool.and_eq_true, Bool.not_eq_true', bne_iff_ne] at h
  have hne : longName last ≠ [] := by simp [longName]
  have htight : Tight (longName last) :=
    ⟨solid_of_forall hne fun c hc => (h c hc).1,
      solid_of_forall (by simpa using hne) fun c hc => (h c (List.mem_reverse.1 hc)).1⟩
  have hgroup : Identifier.ofGroup (String.ofList (longName last)) =
      [String.ofList (longName last)] := by
    apply Identifier.ofGroup_of_plain <;> rw [String.toList_ofList]
    · exact htight
    · exact fun c hc => (h c hc).2
  have hnone : MissingIndex.columns none = [] := by decide
  rw [keys, onLongColumn, onOrders, hnone, List.append_nil]
  exact hgroup

theorem toList_indexName_onLongColumn :
    (onLongColumn last).indexName.toList = "IX_Orders_".toList ++ longName last := by
  rw [indexName, keys_onLongColumn h, MissingIndex.joinedName, String.intercalate_singleton,
    String.toList_append, String.toList_ofList]
  rfl

theorem length_indexName_onLongColumn :
    Identifier.maxLength < (onLongColumn last).indexName.length := by
  rw [← String.length_toList, toList_indexName_onLongColumn h, List.length_append, longName,
    List.length_append, List.length_replicate, Identifier.maxLength]
  omega

end LongColumn

/-- No two of these rows have the same columns, but their key columns read alike when joined. -/
def sameText : List MissingStat :=
  [onOrders (some "[A_B]") none none, onOrders (some "[A], [B]") none none,
    onOrders (some "[A]") (some "[B]") none, onOrders (some "[A], [B]") none (some "[C]")]

end MissingStat

/-- No two statements of a script create indexes of one name on one table just if no two of its rows
share a name, as long as digests do not collide. Where no key column has an underscore, rows for one
table share a name just if they have the same key columns in the same order. -/
theorem createdIndexes_nodup_iff (t : Thresholds) (advisory : Bool) (rows : List MissingStat)
    (h : ∀ row ∈ MissingStat.listed t advisory rows,
      ∀ other ∈ MissingStat.listed t advisory rows,
        ¬ Identifier.Collides row.indexName other.indexName) :
    (∃ ss, MissingIndex.script (MissingIndex.analyze t rows) advisory = "\n".intercalate ss ∧
      ss.Perm (rows.filterMap (MissingStat.statement? t advisory)) ∧
      ((ss.map createdIndex).Nodup ↔
        (MissingStat.listed t advisory rows).Pairwise fun row other => ¬ row.SharesName other)) ∧
    ∀ row ∈ MissingStat.listed t advisory rows, ∀ other ∈ MissingStat.listed t advisory rows,
      (∀ c ∈ row.keys ++ other.keys, '_' ∉ c.toList) →
      (row.SharesName other ↔
        Identifier.bares [row.database, row.schema] =
            Identifier.bares [other.database, other.schema] ∧
          row.table = other.table ∧ row.keys = other.keys) := by
  constructor
  · obtain ⟨ss, hscript, hss⟩ := MissingIndex.script_analyze t advisory rows
    refine ⟨ss, hscript, hss, ?_⟩
    rw [(hss.map createdIndex).nodup_iff, List.Nodup, List.pairwise_map, List.pairwise_filterMap,
      MissingStat.listed, List.pairwise_filter]
    apply List.Pairwise.iff_of_mem
    intro row other hrow hother
    rcases hs : row.statement? t advisory with _ | s
    · simp
    rcases hu : other.statement? t advisory with _ | u
    · simp
    have hmem := MissingStat.mem_listed.2 ⟨hrow, s, hs⟩
    have hmem' := MissingStat.mem_listed.2 ⟨hother, u, hu⟩
    have hcreated := MissingStat.createdIndex_eq_iff hs hu (h _ hmem _ hmem') (h _ hmem' _ hmem)
    simp [hcreated]
  · intro row hrow other hother hplain
    obtain ⟨-, s, hs⟩ := MissingStat.mem_listed.1 hrow
    obtain ⟨-, u, hu⟩ := MissingStat.mem_listed.1 hother
    obtain ⟨hplainRow, hplainOther⟩ := List.forall_mem_append.1 hplain
    exact MissingStat.sharesName_iff_of_plain (MissingStat.keys_ne_nil hs)
      (MissingStat.keys_ne_nil hu) hplainRow hplainOther

theorem createdIndexes_nodup_onLongColumn :
    let rows := [MissingStat.onLongColumn 'x', MissingStat.onLongColumn 'y']
    ∃ ss, MissingIndex.script (MissingIndex.analyze {} rows) true = "\n".intercalate ss ∧
      ss.length = 2 ∧ (ss.map createdIndex).Nodup := by
  intro rows
  have hx : (MissingStat.longName 'x').all fun c => !isBlank c && (!isBracket c && c != ',') := by
    decide
  have hy : (MissingStat.longName 'y').all fun c => !isBlank c && (!isBracket c && c != ',') := by
    decide
  have hmark : Identifier.mark (MissingStat.onLongColumn 'x').indexName ≠
      Identifier.mark (MissingStat.onLongColumn 'y').indexName := by
    rw [Identifier.mark, Identifier.mark, MissingStat.toList_indexName_onLongColumn hx,
      MissingStat.toList_indexName_onLongColumn hy]
    decide +kernel
  have hkeys : ∀ row ∈ rows, row.keys ≠ [] := by
    intro row hrow
    rcases List.mem_pair.1 hrow with rfl | rfl
    · simp [MissingStat.keys_onLongColumn hx]
    · simp [MissingStat.keys_onLongColumn hy]
  have hlisted := MissingStat.listed_of_advisory (t := {}) hkeys
  have hcollides : ∀ row ∈ rows, ∀ other ∈ rows,
      ¬ Identifier.Collides row.indexName other.indexName := by
    intro row hrow other hother
    rcases List.mem_pair.1 hrow with rfl | rfl <;> rcases List.mem_pair.1 hother with rfl | rfl
    · exact fun h => h.1 rfl
    · exact Identifier.not_collides_of_mark_ne (MissingStat.length_indexName_onLongColumn hy) hmark
    · exact Identifier.not_collides_of_mark_ne (MissingStat.length_indexName_onLongColumn hx)
        hmark.symm
    · exact fun h => h.1 rfl
  obtain ⟨⟨ss, hscript, hss, hnodup⟩, -⟩ :=
    createdIndexes_nodup_iff {} true rows (by rwa [hlisted])
  rw [hlisted] at hnodup
  refine ⟨ss, hscript, ?_, hnodup.2 ?_⟩
  · rw [hss.length_eq, MissingStat.filterMap_statement?_of_advisory hkeys]
    rfl
  · rw [List.pairwise_pair]
    exact fun h => hmark (congrArg _ (MissingStat.sharesName_iff.1 h).2)

theorem createdIndexes_sameText :
    (MissingStat.sameText.Pairwise fun row other =>
      (row.equalityColumns, row.inequalityColumns, row.includedColumns) ≠
        (other.equalityColumns, other.inequalityColumns, other.includedColumns)) ∧
    ∃ ss, MissingIndex.script (MissingIndex.analyze {} MissingStat.sameText) true =
        "\n".intercalate ss ∧
      ss.Perm (["([A_B])", "([A], [B])", "([A], [B])", "([A], [B]) INCLUDE ([C])"].map fun s =>
        "CREATE NONCLUSTERED INDEX [IX_Orders_A_B] ON [Shop].[dbo].[Orders] " ++ s ++ ";") ∧
      ∀ s ∈ ss, createdIndex s =
        ["IX_Orders_A_B".toList, "Shop".toList, "dbo".toList, "Orders".toList] := by
  have hkeys : ∀ row ∈ MissingStat.sameText, row.keys ≠ [] := by decide
  have hnamed : ∀ row ∈ MissingStat.sameText,
      (Identifier.fit row.indexName).toList :: Identifier.bares row.names =
        ["IX_Orders_A_B".toList, "Shop".toList, "dbo".toList, "Orders".toList] := by decide
  have hspelled : MissingStat.sameText.map MissingStat.suggestion =
      ["([A_B])", "([A], [B])", "([A], [B])", "([A], [B]) INCLUDE ([C])"].map fun s =>
        "CREATE NONCLUSTERED INDEX [IX_Orders_A_B] ON [Shop].[dbo].[Orders] " ++ s ++ ";" := by
    decide
  obtain ⟨ss, hscript, hss⟩ := MissingIndex.script_analyze {} true MissingStat.sameText
  refine ⟨by decide, ss, hscript, ?_, fun s hs => ?_⟩
  · rwa [MissingStat.filterMap_statement?_of_advisory hkeys, hspelled] at hss
  · obtain ⟨row, hrow, hstatement⟩ := List.mem_filterMap.1 (hss.mem_iff.1 hs)
    rw [MissingStat.createdIndex_statement hstatement, hnamed row hrow]

end IndexTuning
