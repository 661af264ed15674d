import IndexTuning.Proofs.Sql.DottedName

namespace IndexTuning.Sql.TableScan

open Text Scanner

variable {a r s w x y : List Char} {ps : List (List Char)} {n : Nat}

/-- The last name is the table, unless it is empty or that of a temporary table, or its schema is
empty. -/
def tableOf? (names : List (List Char)) : Option (List Char) :=
  match names.reverse with
  | [] => none
  | table :: qualifiers =>
    if table = [] ∨ table.head? = some '#' ∨ qualifiers.head? = some [] then none else some table

/-- Nothing is found, or a table of the name of the last part, which is not a temporary one. -/
def ReportsLast (last : Part) (found : Option TableRef) : Prop :=
  ∀ t ∈ found, t.table.toList = last.name ∧ last.name.head? ≠ some '#'

/-- The chains that are read, each with the text behind it. -/
def readings (sql : List Char) : List (List Char × List Char) :=
  Reader.all (Reader.located singleReference) sql

def tableKeywords : List String := ["FROM", "JOIN", "INTO", "UPDATE"]

theorem singleKeyword_eq_some (h : singleKeyword s = some r) :
    ∃ word ∈ tableKeywords, keyword word s = some r := by
  change (keyword "FROM" s <|> keyword "JOIN" s <|> keyword "INTO" s <|> keyword "UPDATE" s) =
    some r at h
  rcases hfrom : keyword "FROM" s with _ | t
  · rcases hjoin : keyword "JOIN" s with _ | t
    · rcases hinto : keyword "INTO" s with _ | t
      · rw [hfrom, hjoin, hinto] at h
        exact ⟨"UPDATE", by decide, h⟩
      · rw [hfrom, hjoin, hinto] at h
        exact ⟨"INTO", by decide, hinto.trans h⟩
    · rw [hfrom, hjoin] at h
      exact ⟨"JOIN", by decide, hjoin.trans h⟩
  · rw [hfrom] at h
    exact ⟨"FROM", by decide, hfrom.trans h⟩

theorem tablesIn_eq (sql : List Char) (database : Option String) : tablesIn sql database =
    (readings (Comment.strip sql)).filterMap fun p => resolve (usableDatabase database) p.1 := by
  have hchains : chains (Comment.strip sql) = (readings (Comment.strip sql)).map Prod.fst :=
    (chains_eq _).trans (Reader.allFrom_located singleReference 0 none _).symm
  rw [tablesIn, hchains, List.filterMap_map]
  rfl

theorem exists_of_mem_readings (h : (a, r) ∈ readings s) :
    (∃ u k, s = u ++ (k ++ (a ++ r)) ∧ (∃ word ∈ tableKeywords, Spelled [word] k) ∧
      u.getLast?.any isWord = false) ∧ chain (a ++ r) = some r := by
  obtain ⟨u, v, hs, hread⟩ := Reader.exists_of_mem_located consumes_singleReference h
  have hbefore := (introduced_eq_some.1 hread).1
  obtain ⟨k, b, hv, hkeyword, hb, -, hchain⟩ := exists_of_introduced shortens_singleKeyword hread
  obtain ⟨word, hword, hk⟩ := singleKeyword_eq_some hkeyword
  obtain ⟨k', hk', hfold⟩ := keyword_eq_some.1 hk
  obtain rfl : k' = k := by
    apply List.append_cancel_right (hk'.symm.trans _)
    exact hv
  refine ⟨⟨u, k' ++ b, ?_, ⟨word, hword, spelled_singleton_iff.2 ⟨k', b, rfl, hfold, hb⟩⟩, ?_⟩,
    hchain⟩
  · rw [hs, hv, List.append_assoc]
  · rwa [Option.or_none] at hbefore

theorem map_named (database : Option String) (schema table : List Char) :
    (if table = [] ∨ table.head? = some '#' ∨ schema = [] then none
      else some (TableRef.mk database (String.ofList schema) (String.ofList table))).map
        (fun t => t.table.toList) =
      if table = [] ∨ table.head? = some '#' ∨ schema = [] then none else some table := by
  split
  · rfl
  · rw [Option.map_some, String.toList_ofList]

theorem table_resolve (database : Option String) {names : List (List Char)}
    (h : chainParts a = names) (hlength : names.length ≤ 3) :
    (resolve database a).map (fun t => t.table.toList) = tableOf? names := by
  match names, hlength with
  | [], _ =>
      simp only [resolve, h]
      rfl
  | [table], _ =>
      have hschema : defaultSchema.toList ≠ [] := by decide
      simp only [resolve, h, map_named]
      simp [tableOf?, hschema]
  | [schema, table], _ =>
      simp only [resolve, h, map_named]
      simp [tableOf?]
  | [database, schema, table], _ =>
      simp only [resolve, h, map_named]
      simp [tableOf?]

theorem head?_of_tableOf? {names : List (List Char)} {table : List Char}
    (h : tableOf? names = some table) : table.head? ≠ some '#' := by
  rw [tableOf?] at h
  split at h
  · exact absurd h (by simp)
  · split at h
    · exact absurd h (by simp)
    · rename_i hnot
      obtain rfl := Option.some.inj h
      exact fun hhash => hnot (Or.inr (Or.inl hhash))

theorem eq_of_tableOf?_concat {names : List (List Char)} {name table : List Char}
    (h : tableOf? (names ++ [name]) = some table) : table = name := by
  rw [tableOf?, List.reverse_append, List.reverse_singleton, List.singleton_append] at h
  split at h
  · rename_i hnil
    exact absurd hnil (List.cons_ne_nil _ _)
  · rename_i hcons
    obtain ⟨rfl, rfl⟩ := List.cons_eq_cons.1 hcons
    split at h
    · exact absurd h (by simp)
    · exact (Option.some.inj h).symm

theorem reportsLast_iff {last : Part} {found : Option TableRef} {names : List (List Char)}
    (h : found.map (fun t => t.table.toList) = tableOf? names) :
    ReportsLast last found ↔ ∀ table ∈ tableOf? names, table = last.name := by
  cases found with
  | none =>
      rw [← h]
      simp [ReportsLast]
  | some t =>
      rw [Option.map_some] at h
      have hhash := head?_of_tableOf? h.symm
      simp only [ReportsLast, ← h, Option.mem_def, Option.some.injEq, forall_eq']
      constructor
      · exact And.left
      · intro hname
        exact ⟨hname, hname ▸ hhash⟩

/-- Every reading stands behind a keyword, and the table it gives is the last of the names that the
pattern reads. Read as a dotted name by the server, it gives a table of another name exactly when
the last name read is another one and a table can have it; where the pattern reads each part as a
whole and there are no more than three, that does not happen. -/
theorem readings_reportLast_iff (sql : String) (database : Option String) :
    extract sql database = TableRef.toSet ((readings (Comment.strip sql.toList)).filterMap fun p =>
      resolve (usableDatabase database) p.1) ∧
    ∀ a r, (a, r) ∈ readings (Comment.strip sql.toList) →
      (∃ u k, Comment.strip sql.toList = u ++ (k ++ (a ++ r)) ∧
        (∃ word ∈ tableKeywords, Spelled [word] k) ∧ u.getLast?.any isWord = false) ∧
      ∀ qualifiers last x, last.EndsBefore x → x.head? ≠ some '.' →
        a ++ r = chainText (qualifiers ++ [last]) ++ x →
        (resolve (usableDatabase database) a).map (fun t => t.table.toList) =
          tableOf? (readParts (qualifiers ++ [last])) ∧
        (ReportsLast last (resolve (usableDatabase database) a) ↔
          ∀ table ∈ tableOf? (readParts (qualifiers ++ [last])), table = last.name) ∧
        (qualifiers.length ≤ 2 → (∀ p ∈ qualifiers ++ [last], Writes p.name p.text) →
          ReportsLast last (resolve (usableDatabase database) a)) := by
  refine ⟨by rw [extract, tablesIn_eq], fun a r hreading => ?_⟩
  obtain ⟨hplace, hchain⟩ := exists_of_mem_readings hreading
  refine ⟨hplace, fun qualifiers last x hlast hdot htext => ?_⟩
  have hparts : chainParts a = readParts (qualifiers ++ [last]) := by
    apply chainParts_eq_readParts (List.append_ne_nil_of_right_ne_nil _ (List.cons_ne_nil _ _)) _
      hdot hchain htext
    intro p hp
    rw [List.getLast?_concat] at hp
    obtain rfl := Option.some.inj hp
    exact hlast
  have htable := table_resolve (usableDatabase database) hparts (length_readParts_le _)
  refine ⟨htable, reportsLast_iff htable, fun hlength hwrites => ?_⟩
  have hthree : (qualifiers ++ [last]).length ≤ 3 := by
    rw [List.length_append, List.length_singleton]
    omega
  rw [reportsLast_iff htable, readParts_of_writes hwrites hthree, List.map_append]
  exact fun table h => eq_of_tableOf?_concat h

def ordersPart : Part := .regular "Orders".toList (by decide +kernel)

def stagingPart : Part := .regular "#t".toList (by decide +kernel)

def qualifiedOrders : List Part :=
  [.bracketed "Sales".toList (by decide), .regular "dbo".toList (by decide +kernel)]

def omittedSchema : List Part := [.regular "tempdb".toList (by decide +kernel), .omitted]

def joinedChains : String := "SELECT * FROM [Sales].dbo.Orders o JOIN tempdb..#t"

theorem readings_joinedChains : readings (Comment.strip joinedChains.toList) =
    [("[Sales].dbo.Orders".toList, " o JOIN tempdb..#t".toList),
      ("tempdb".toList, "..#t".toList)] := by
  decide +kernel

theorem readings_reportLast_joinedChains :
    ReportsLast ordersPart (resolve none "[Sales].dbo.Orders".toList) ∧
    ¬ ReportsLast stagingPart (resolve none "tempdb".toList) := by
  have hall := (readings_reportLast_iff joinedChains none).2
  rw [readings_joinedChains] at hall
  have hsales : Writes "Sales".toList "[Sales]".toList :=
    .bracketed (p := "Sales".toList) (by decide) (by simp [isInsideBrackets])
  have hdbo : Writes "dbo".toList "dbo".toList :=
    .plain (c := 'd') (s := "bo".toList) (by decide) (List.all_eq_true.1 (by decide))
  have horders : Writes "Orders".toList "Orders".toList :=
    .plain (c := 'O') (s := "rders".toList) (by decide) (List.all_eq_true.1 (by decide))
  have hwrites : ∀ p ∈ qualifiedOrders ++ [ordersPart], Writes p.name p.text := by
    intro p hp
    rcases List.mem_cons.1 hp with rfl | hp
    · exact hsales
    · rcases List.mem_cons.1 hp with rfl | hp
      · exact hdbo
      · rw [List.mem_singleton.1 hp]
        exact horders
  have hends : ordersPart.EndsBefore " o JOIN tempdb..#t".toList := by
    intro c hc
    obtain rfl : ' ' = c := Option.some.inj hc
    decide
  have hqualified := (hall _ _ List.mem_cons_self).2 qualifiedOrders ordersPart
    " o JOIN tempdb..#t".toList hends (by decide) (by decide +kernel)
  have hstaging := (hall _ _ (List.mem_cons_of_mem _ List.mem_cons_self)).2 omittedSchema
    stagingPart [] (fun c hc => absurd hc (by simp)) (by decide) (by decide +kernel)
  refine ⟨hqualified.2.2 (by decide) hwrites, fun h => ?_⟩
  have hname := hstaging.2.1.1 h "tempdb".toList (by decide +kernel)
  exact absurd hname (by decide)

/-- Where the schema is left out, where there are four parts and where a part begins with a letter
beyond the Latin ones, the pattern ends in the middle of the name. -/
theorem extract_prefixes :
    extract "SELECT * FROM tempdb..#t" none = [⟨none, "dbo", "tempdb"⟩] ∧
    extract "SELECT * FROM srv.Sales.dbo.Orders" none = [⟨some "srv", "Sales", "dbo"⟩] ∧
    extract "SELECT * FROM dbo.Übersicht" none = [⟨none, "dbo", "dbo"⟩] ∧
    readings (Comment.strip "SELECT * FROM tempdb..#t".toList) =
      [("tempdb".toList, "..#t".toList)] ∧
    "tempdb".toList ++ "..#t".toList = chainText (omittedSchema ++ [stagingPart]) ∧
    ¬ ReportsLast stagingPart (resolve none "tempdb".toList) := by
  refine ⟨by decide +kernel, by decide +kernel, by decide +kernel, by decide +kernel,
    by decide +kernel, fun h => ?_⟩
  have hname := (h ⟨none, "dbo", "tempdb"⟩ (by decide +kernel)).1
  exact absurd hname (by decide)

end IndexTuning.Sql.TableScan
