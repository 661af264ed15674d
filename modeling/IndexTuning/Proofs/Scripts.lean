import IndexTuning.MissingIndex
import IndexTuning.Proofs.Sql.Names
import IndexTuning.UnusedIndex

namespace IndexTuning

open Sql Text

def named (name words : String) : List Char × List Char :=
  (Identifier.bare name.toList, words.toList)

theorem bracket_append_named (name words : String) (names : List (List Char × List Char)) :
    (Identifier.quote name).toList ++ (words.toList ++ Statement.spellNames names) =
      Statement.spellNames (named name words :: names) := by
  rw [Identifier.toList_quote, ← List.append_assoc]
  rfl

theorem Maintenance.statement_spelled (x : Maintenance) : x.statement.toList =
    Statement.spell "ALTER INDEX ".toList [named x.index " ON ", named x.database ".",
      named x.schema ".", named x.table (" " ++ x.action.keyword)] ++ [';'] := by
  simp only [Statement.spell, ← bracket_append_named]
  unfold Maintenance.statement
  simp only [String.toList_append, List.append_assoc]
  rfl

theorem Maintenance.spells_statement (x : Maintenance) : Statement.Spells x.statement.toList
    (Identifier.bares [x.index, x.database, x.schema, x.table]) := by
  have hwords : ∀ action : MaintenanceAction,
      [" ON ".toList, ".".toList, ".".toList, (" " ++ action.keyword).toList].all
        (·.all Mode.isOrdinary) := by
    intro action
    cases action <;> decide
  exact ⟨_, _, x.statement_spelled, by decide, by decide, hwords x.action, rfl⟩

theorem Maintenance.isSingle_statement (x : Maintenance) :
    Statement.IsSingle x.statement.toList :=
  x.spells_statement.isSingle

theorem UnusedIndex.dropStatement_spelled (schema table index : String) :
    (dropStatement schema table index).toList = Statement.spell "DROP INDEX ".toList
      [named index " ON ", named schema ".", named table ""] ++ [';'] := by
  simp only [Statement.spell, ← bracket_append_named]
  unfold dropStatement
  simp only [String.toList_append, List.append_assoc]
  rfl

theorem UnusedIndex.spells_dropStatement (schema table index : String) :
    Statement.Spells (dropStatement schema table index).toList
      (Identifier.bares [index, schema, table]) := by
  have hwords : [" ON ".toList, ".".toList, "".toList].all (·.all Mode.isOrdinary) := by
    decide
  exact ⟨_, _, dropStatement_spelled schema table index, by decide, by decide,
    hwords, rfl⟩

theorem UnusedIndex.isSingle_dropStatement (schema table index : String) :
    Statement.IsSingle (dropStatement schema table index).toList :=
  (spells_dropStatement schema table index).isSingle

def MissingIndex.listed : List String → String → List (List Char × List Char)
  | [], _ => []
  | [c], close => [named c close]
  | c :: d :: cs, close => named c ", " :: listed (d :: cs) close

theorem MissingIndex.quoted_append {columns : List String} (hne : columns ≠ []) (close : String)
    (names : List (List Char × List Char)) :
    (quoted columns).toList ++ (close.toList ++ Statement.spellNames names) =
      Statement.spellNames (listed columns close ++ names) := by
  induction columns with
  | nil => exact absurd rfl hne
  | cons c columns ih =>
      cases columns with
      | nil =>
          rw [quoted, List.map_cons, List.map_nil, String.intercalate_singleton, listed,
            bracket_append_named]
          rfl
      | cons d columns =>
          have hrest := ih (List.cons_ne_nil d columns)
          have hcons : quoted (c :: d :: columns) =
              Identifier.quote c ++ ", " ++ quoted (d :: columns) := by
            simp only [quoted, List.map_cons, String.intercalate_cons_cons]
          rw [hcons, String.toList_append, String.toList_append, List.append_assoc,
            List.append_assoc, hrest, bracket_append_named]
          rfl

theorem MissingIndex.listed_words {words : String} (hw : words.toList.all Mode.isOrdinary)
    (columns : List String) :
    ((listed columns words).map Prod.snd).all (·.all Mode.isOrdinary) := by
  have hcomma : ", ".toList.all Mode.isOrdinary := by decide
  induction columns with
  | nil => rfl
  | cons c columns ih =>
      cases columns with
      | nil => simpa [listed, named] using hw
      | cons d columns =>
          rw [listed, List.map_cons, List.all_cons, Bool.and_eq_true]
          exact ⟨hcomma, ih⟩

def MissingIndex.keysEnd (included : List String) : String :=
  if included = [] then ")" else ") INCLUDE ("

theorem MissingIndex.keysEnd_append (included : List String) :
    (keysEnd included).toList ++ Statement.spellNames (listed included ")") =
      ')' :: (if included = [] then "" else " INCLUDE (" ++ quoted included ++ ")").toList := by
  rw [keysEnd]
  split
  · rename_i h
    rw [h]
    rfl
  · rename_i h
    have hlisted := quoted_append h ")" []
    rw [List.append_nil] at hlisted
    rw [← hlisted, String.toList_append, String.toList_append]
    rfl

theorem MissingIndex.createStatement_spelled (name database schema table : String)
    {keys : List String} (hne : keys ≠ []) (included : List String) :
    (createStatement name database schema table keys included).toList =
      Statement.spell "CREATE NONCLUSTERED INDEX ".toList ([named name " ON ",
        named database ".", named schema ".", named table " ("] ++
          (listed keys (keysEnd included) ++ listed included ")")) ++ [';'] := by
  simp only [Statement.spell, List.cons_append, List.nil_append, ← bracket_append_named,
    ← quoted_append hne, keysEnd_append]
  unfold createStatement
  simp only [String.toList_append, List.append_assoc]
  rfl

theorem MissingIndex.map_fst_listed (columns : List String) (close : String) :
    (listed columns close).map Prod.fst = Identifier.bares columns := by
  induction columns with
  | nil => rfl
  | cons c columns ih =>
      cases columns with
      | nil => rfl
      | cons d columns =>
          rw [listed, List.map_cons, ih]
          rfl

theorem MissingIndex.spells_createStatement (name database schema table : String)
    {keys : List String} (hne : keys ≠ []) (included : List String) :
    Statement.Spells (createStatement name database schema table keys included).toList
      (Identifier.bares ([name, database, schema, table] ++ (keys ++ included))) := by
  have hfront : [" ON ".toList, ".".toList, ".".toList, " (".toList].all
      (·.all Mode.isOrdinary) := by decide
  have hend : (keysEnd included).toList.all Mode.isOrdinary := by
    rw [keysEnd]
    split <;> decide
  refine ⟨_, _, createStatement_spelled _ _ _ _ hne _, by decide, by decide,
    ?_, ?_⟩
  · rw [List.map_append, List.map_append, List.all_append, List.all_append,
      listed_words hend, listed_words (by decide)]
    simp only [Bool.and_true]
    exact hfront
  · rw [List.map_append, List.map_append, map_fst_listed, map_fst_listed, Identifier.bares,
      Identifier.bares, Identifier.bares, List.map_append, List.map_append]
    rfl

theorem MissingIndex.isSingle_createStatement (name database schema table : String)
    {keys : List String} (hne : keys ≠ []) (included : List String) :
    Statement.IsSingle (createStatement name database schema table keys included).toList :=
  (spells_createStatement name database schema table hne included).isSingle

theorem UnusedIndex.suggestion_of_classify? {t : Thresholds} {row : UsageStat} {u : UnusedIndex}
    (h : classify? t row = some u) : u.suggestion =
      if u.action = .keep then none else some (dropStatement u.schema u.table u.index) := by
  obtain ⟨index, -, rfl⟩ := Option.map_eq_some_iff.1 h
  rfl

theorem UnusedIndex.isListed_false (u : UnusedIndex) :
    u.isListed false = decide (u.action = .drop) := by
  unfold isListed
  cases u.action <;> rfl

theorem UnusedIndex.script_eq {us : List UnusedIndex} {t : Thresholds}
    (h : ∀ u ∈ us, ∃ row, classify? t row = some u) : script us false = "\n".intercalate
      ((us.filter (·.action = .drop)).map fun u => dropStatement u.schema u.table u.index) := by
  rw [script]
  congr 1
  induction us with
  | nil => rfl
  | cons u us ih =>
      have ih := ih fun v hv => h v (List.mem_cons_of_mem u hv)
      obtain ⟨row, hrow⟩ := h u List.mem_cons_self
      have hs := suggestion_of_classify? hrow
      rw [List.filter_cons, List.filter_cons, isListed_false]
      by_cases hd : u.action = .drop
      · rw [if_pos (by simpa using hd), if_pos (by simpa using hd), List.map_cons,
          List.filterMap_cons_some (hs.trans (if_neg (by simp [hd]))), ih]
      · rw [if_neg (by simpa using hd), if_neg (by simpa using hd), ih]

theorem MissingIndex.suggestion_of_classify? {t : Thresholds} {row : MissingStat}
    {i : MissingIndex} (h : classify? t row = some i) : ∃ keys included, keys ≠ [] ∧
      i.suggestion = createStatement i.name i.database i.schema i.table keys included := by
  rw [classify?] at h
  split at h
  · exact absurd h (by simp)
  · rename_i hkeys
    obtain rfl := Option.some.inj h
    exact ⟨_, _, mt List.append_eq_nil_iff.1 hkeys, rfl⟩

theorem MissingIndex.script_eq (is : List MissingIndex) : script is false =
    "\n".intercalate ((is.filter (·.action = .create)).map suggestion) := by
  rw [script]
  congr 3
  funext i
  rw [Bool.or_false]
  rfl

end IndexTuning
