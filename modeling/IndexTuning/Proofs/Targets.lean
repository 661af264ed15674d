import IndexTuning.Proofs.Scripts

namespace IndexTuning

open Sql Text

namespace PhysicalStat

def names (row : PhysicalStat) : List String :=
  [row.index.getD "", row.database, row.schema, row.table]

theorem names_of_classify? {t : Thresholds} {row : PhysicalStat} {m : Maintenance}
    (h : Maintenance.classify? t row = some m) : usableName row.index = some m.index ∧
      m.database = row.database ∧ m.schema = row.schema ∧ m.table = row.table := by
  obtain ⟨index, hindex, h⟩ := Option.bind_eq_some_iff.1 h
  obtain ⟨percent, -, h⟩ := Option.bind_eq_some_iff.1 h
  obtain ⟨action, -, h⟩ := Option.bind_eq_some_iff.1 h
  obtain rfl := Option.some.inj h
  exact ⟨hindex, rfl, rfl, rfl⟩

theorem names_statement {t : Thresholds} {row : PhysicalStat} {m : Maintenance}
    (h : Maintenance.classify? t row = some m) :
    Identifier.names m.statement.toList = Identifier.bares row.names := by
  obtain ⟨hindex, hdatabase, hschema, htable⟩ := names_of_classify? h
  rw [m.spells_statement.names_eq, hdatabase, hschema, htable, names,
    (Option.filter_eq_some_iff.1 hindex).1, Option.getD_some]

end PhysicalStat

namespace UsageStat

/-- The names of a row as its statement gives them, which leaves the database out. -/
def names (row : UsageStat) : List String := [row.index.getD "", row.schema, row.table]

theorem suggestion_eq {t : Thresholds} {row : UsageStat} {u : UnusedIndex} {s : String}
    (h : UnusedIndex.classify? t row = some u) (hs : u.suggestion = some s) :
    s = UnusedIndex.dropStatement row.schema row.table (row.index.getD "") := by
  obtain ⟨index, hindex, rfl⟩ := Option.map_eq_some_iff.1 h
  rw [(Option.filter_eq_some_iff.1 hindex).1, Option.getD_some]
  simp only [Option.ite_none_left_eq_some, Option.some.injEq] at hs
  exact hs.2.symm

theorem names_suggestion {t : Thresholds} {row : UsageStat} {u : UnusedIndex} {s : String}
    (h : UnusedIndex.classify? t row = some u) (hs : u.suggestion = some s) :
    Identifier.names s.toList = Identifier.bares row.names := by
  rw [suggestion_eq h hs, (UnusedIndex.spells_dropStatement _ _ _).names_eq, names]

end UsageStat

theorem Sql.Identifier.quote_congr {a b : String} (h : bare a.toList = bare b.toList) :
    quote a = quote b := by
  rw [quote, quote, h]

theorem MaintenanceAction.keyword_injective {a b : MaintenanceAction}
    (h : a.keyword = b.keyword) : a = b := by
  cases a <;> cases b
  · rfl
  · exact absurd h (by decide)
  · exact absurd h (by decide)
  · rfl

theorem Maintenance.statement_eq_iff (x y : Maintenance) : x.statement = y.statement ↔
    Identifier.bares [x.index, x.database, x.schema, x.table] =
        Identifier.bares [y.index, y.database, y.schema, y.table] ∧
      x.action = y.action := by
  have hquote (h : Identifier.bares [x.index, x.database, x.schema, x.table] =
      Identifier.bares [y.index, y.database, y.schema, y.table]) :
      Identifier.quote x.index = Identifier.quote y.index ∧
        Identifier.quote x.database = Identifier.quote y.database ∧
        Identifier.quote x.schema = Identifier.quote y.schema ∧
        Identifier.quote x.table = Identifier.quote y.table := by
    simp only [Identifier.bares, List.map_cons, List.cons.injEq] at h
    exact ⟨Identifier.quote_congr h.1, Identifier.quote_congr h.2.1,
      Identifier.quote_congr h.2.2.1, Identifier.quote_congr h.2.2.2.1⟩
  constructor
  · intro h
    have hnames : Identifier.names x.statement.toList = Identifier.names y.statement.toList := by
      rw [h]
    rw [x.spells_statement.names_eq, y.spells_statement.names_eq] at hnames
    obtain ⟨hindex, hdatabase, hschema, htable⟩ := hquote hnames
    refine ⟨hnames, MaintenanceAction.keyword_injective ?_⟩
    unfold statement at h
    rw [hindex, hdatabase, hschema, htable, String.append_left_inj, String.append_right_inj] at h
    exact h
  · rintro ⟨hnames, haction⟩
    obtain ⟨hindex, hdatabase, hschema, htable⟩ := hquote hnames
    unfold statement
    rw [hindex, hdatabase, hschema, htable, haction]

theorem UnusedIndex.dropStatement_eq_iff (schema table index schema' table' index' : String) :
    dropStatement schema table index = dropStatement schema' table' index' ↔
      Identifier.bares [index, schema, table] = Identifier.bares [index', schema', table'] := by
  constructor
  · intro h
    rw [← (spells_dropStatement schema table index).names_eq,
      ← (spells_dropStatement schema' table' index').names_eq, h]
  · intro h
    simp only [Identifier.bares, List.map_cons, List.cons.injEq] at h
    unfold dropStatement
    rw [Identifier.quote_congr h.1, Identifier.quote_congr h.2.1, Identifier.quote_congr h.2.2.1]

def UsageStat.idle (schema table index : String) : UsageStat :=
  ⟨"Shop", schema, table, some index, 0, 0, 0, 5, 64⟩

theorem UsageStat.classify?_idle (schema table index : String) (h : trim index.toList ≠ []) :
    ∃ u, UnusedIndex.classify? {} (idle schema table index) = some u ∧
      u.suggestion = some (UnusedIndex.dropStatement schema table index) := by
  have husable : usableName (some index) = some index := by simp [usableName, Option.filter, h]
  exact ⟨_, by rw [UnusedIndex.classify?, idle, husable]; rfl, rfl⟩

/-- A statement that maintains or drops an index gives the names of the row it was made for, but
without blanks around them and without one pair of brackets around the rest; and two rows have the
same statement just if they agree in these and in what is to be done. -/
theorem statements_name_rows :
    (∀ t row m, Maintenance.classify? t row = some m →
      Identifier.names m.statement.toList = Identifier.bares row.names) ∧
    (∀ t row u s, UnusedIndex.classify? t row = some u → u.suggestion = some s →
      Identifier.names s.toList = Identifier.bares row.names) ∧
    (∀ name inner, trim name = '[' :: (inner ++ [']']) → Identifier.bare name = inner) ∧
    (∀ name, (∀ inner, trim name ≠ '[' :: (inner ++ [']'])) →
      Identifier.bare name = trim name) ∧
    (∀ name, Identifier.bare name = name ↔
      trim name = name ∧ ∀ inner, name ≠ '[' :: (inner ++ [']'])) ∧
    (∀ t row m t' row' m', Maintenance.classify? t row = some m →
      Maintenance.classify? t' row' = some m' → (m.statement = m'.statement ↔
        Identifier.bares row.names = Identifier.bares row'.names ∧ m.action = m'.action)) ∧
    ∀ t row u s t' row' u' s', UnusedIndex.classify? t row = some u → u.suggestion = some s →
      UnusedIndex.classify? t' row' = some u' → u'.suggestion = some s' →
      (s = s' ↔ Identifier.bares row.names = Identifier.bares row'.names) := by
  refine ⟨fun _ _ _ => PhysicalStat.names_statement, fun _ _ _ _ => UsageStat.names_suggestion,
    fun _ _ => Identifier.bare_of_enclosed, fun _ => Identifier.bare_of_not_enclosed,
    fun _ => Identifier.bare_eq_self_iff, ?_, ?_⟩
  · intro t row m t' row' m' h h'
    rw [Maintenance.statement_eq_iff, ← m.spells_statement.names_eq,
      ← m'.spells_statement.names_eq, PhysicalStat.names_statement h,
      PhysicalStat.names_statement h']
  · intro t row u s t' row' u' s' h hs h' hs'
    rw [UsageStat.suggestion_eq h hs, UsageStat.suggestion_eq h' hs',
      UnusedIndex.dropStatement_eq_iff, UsageStat.names, UsageStat.names]

theorem statements_name_rows_traps : ∃ u v s s',
    UnusedIndex.classify? {} (.idle "d'o" "T ] x" "IX;--][") = some u ∧ u.suggestion = some s ∧
    UnusedIndex.classify? {} (.idle "d'o" "T ] x" "[IX;--") = some v ∧ v.suggestion = some s' ∧
    s = "DROP INDEX [IX;--]][] ON [d'o].[T ]] x];" ∧
    Identifier.names s.toList = ["IX;--][".toList, "d'o".toList, "T ] x".toList] ∧ s ≠ s' := by
  obtain ⟨u, hu, hs⟩ := UsageStat.classify?_idle "d'o" "T ] x" "IX;--][" (by decide)
  obtain ⟨v, hv, hs'⟩ := UsageStat.classify?_idle "d'o" "T ] x" "[IX;--" (by decide)
  have hnames := statements_name_rows.2.1 {} _ u _ hu hs
  have hsame := statements_name_rows.2.2.2.2.2.2 {} _ u _ {} _ v _ hu hs hv hs'
  exact ⟨u, v, _, _, hu, hs, hv, hs', by decide, hnames.trans (by decide),
    fun h => absurd (hsame.1 h) (by decide)⟩

/-- An index whose name has brackets of its own and one without them have the same statement. -/
theorem suggestion_bracketed : ∃ u v s,
    UnusedIndex.classify? {} (.idle "dbo" "Orders" "[IX]") = some u ∧ u.suggestion = some s ∧
    UnusedIndex.classify? {} (.idle "dbo" "Orders" "IX") = some v ∧ v.suggestion = some s ∧
    s = "DROP INDEX [IX] ON [dbo].[Orders];" ∧
    Identifier.names s.toList = ["IX".toList, "dbo".toList, "Orders".toList] := by
  obtain ⟨u, hu, hs⟩ := UsageStat.classify?_idle "dbo" "Orders" "[IX]" (by decide)
  obtain ⟨v, hv, hs'⟩ := UsageStat.classify?_idle "dbo" "Orders" "IX" (by decide)
  have hbares : Identifier.bares ["[IX]", "dbo", "Orders"] =
      ["IX".toList, "dbo".toList, "Orders".toList] := by decide
  have hsame : UnusedIndex.dropStatement "dbo" "Orders" "IX" =
      UnusedIndex.dropStatement "dbo" "Orders" "[IX]" := by
    rw [UnusedIndex.dropStatement_eq_iff, hbares]
    decide
  rw [hsame] at hs'
  refine ⟨u, v, _, hu, hs, hv, hs', by decide, ?_⟩
  rw [(UnusedIndex.spells_dropStatement _ _ _).names_eq, hbares]

end IndexTuning
