import IndexTuning.Proofs.Text.Search
import IndexTuning.Sql.Identifier

namespace IndexTuning.Sql

open Text

variable {n r s t : List Char} {names : List (List Char)}

namespace Identifier

theorem exists_of_map_cons {c : Char} {o : Option (List Char × List Char)}
    (h : o.map (fun p => (c :: p.1, p.2)) = some (n, r)) : ∃ q, o = some (q, r) := by
  obtain ⟨⟨q, r'⟩, hp, hpair⟩ := Option.map_eq_some_iff.1 h
  obtain rfl := congrArg Prod.snd hpair
  exact ⟨q, hp⟩

theorem length_readClosing (h : readClosing s = some (n, r)) : r.length < s.length := by
  fun_induction readClosing s generalizing n with
  | case1 => exact absurd h (by simp)
  | case2 t ih =>
      obtain ⟨q, hq⟩ := exists_of_map_cons h
      have hlength := ih hq
      simp only [List.length_cons]
      omega
  | case3 t hne =>
      obtain rfl := congrArg Prod.snd (Option.some.inj h)
      exact Nat.lt_succ_self _
  | case4 c t hc ih =>
      obtain ⟨q, hq⟩ := exists_of_map_cons h
      exact Nat.lt_succ_of_lt (ih hq)

theorem length_readBracketed (h : readBracketed s = some (n, r)) : r.length < s.length := by
  cases s with
  | nil => exact absurd h (by simp [readBracketed])
  | cons c s =>
      rw [readBracketed.eq_def] at h
      split at h
      · rename_i hcons
        obtain ⟨rfl, rfl⟩ := List.cons_eq_cons.1 hcons
        exact Nat.lt_succ_of_lt (length_readClosing h)
      · exact absurd h (by simp)

theorem length_dropWord? {word : List Char} (h : dropWord? word s = some r) :
    r.length ≤ s.length := by
  rw [dropWord?_eq_some.1 h, List.length_append]
  omega

end Identifier

structure IndexDefinition where
  name : List Char
  database : List Char
  schema : List Char
  table : List Char
  keys : List (List Char)
  included : List (List Char)
  deriving DecidableEq, Repr

namespace IndexDefinition

def readColumns (s : List Char) : Option (List (List Char) × List Char) :=
  match _ : Identifier.readBracketed s with
  | none => none
  | some (name, rest) =>
    match _ : dropWord? ", ".toList rest with
    | none => some ([name], rest)
    | some more => (readColumns more).map fun p => (name :: p.1, p.2)
termination_by s.length
decreasing_by
  exact Nat.lt_of_le_of_lt (Identifier.length_dropWord? ‹_›) (Identifier.length_readBracketed ‹_›)

def readIncluded (s : List Char) : Option (List (List Char)) :=
  if s = ");".toList then some []
  else do
    let s ← dropWord? ") INCLUDE (".toList s
    let (included, s) ← readColumns s
    if s = ");".toList then some included else none

def readBehind (word : String) (s : List Char) : Option (List Char × List Char) :=
  (dropWord? word.toList s).bind Identifier.readBracketed

def read (s : List Char) : Option IndexDefinition := do
  let (name, s) ← readBehind "CREATE NONCLUSTERED INDEX " s
  let (database, s) ← readBehind " ON " s
  let (schema, s) ← readBehind "." s
  let (table, s) ← readBehind "." s
  let s ← dropWord? " (".toList s
  let (keys, s) ← readColumns s
  let included ← readIncluded s
  some ⟨name, database, schema, table, keys, included⟩

def behindKeys (s : List Char) : Option (List Char) := do
  let (_, s) ← readBehind "CREATE NONCLUSTERED INDEX " s
  let (_, s) ← readBehind " ON " s
  let (_, s) ← readBehind "." s
  let (_, s) ← readBehind "." s
  let s ← dropWord? " (".toList s
  let (_, s) ← readColumns s
  some s

def columnList (names : List (List Char)) : List Char :=
  ", ".toList.intercalate (names.map Identifier.bracket)

theorem columnList_cons_cons (n m : List Char) (names : List (List Char)) :
    columnList (n :: m :: names) = Identifier.bracket n ++ (", ".toList ++ columnList (m :: names)) := by
  rw [columnList, List.map_cons, List.intercalate_cons_of_ne_nil (by simp), List.append_assoc]
  rfl

theorem readColumns_of_none {rest : List Char} (h : Identifier.readBracketed s = some (n, rest))
    (hmore : dropWord? ", ".toList rest = none) : readColumns s = some ([n], rest) := by
  rw [readColumns]
  split
  · rename_i hnone
    exact absurd (h.symm.trans hnone) (by simp)
  · rename_i n' rest' hsome
    obtain ⟨rfl, rfl⟩ := Prod.mk.inj (Option.some.inj (h.symm.trans hsome))
    split
    · rfl
    · rename_i hsome'
      exact absurd (hmore.symm.trans hsome') (by simp)

theorem readColumns_of_some {rest more : List Char}
    (h : Identifier.readBracketed s = some (n, rest))
    (hmore : dropWord? ", ".toList rest = some more) :
    readColumns s = (readColumns more).map fun p => (n :: p.1, p.2) := by
  conv => lhs; rw [readColumns]
  split
  · rename_i hnone
    exact absurd (h.symm.trans hnone) (by simp)
  · rename_i n' rest' hsome
    obtain ⟨rfl, rfl⟩ := Prod.mk.inj (Option.some.inj (h.symm.trans hsome))
    split
    · rename_i hnone
      exact absurd (hmore.symm.trans hnone) (by simp)
    · rename_i more' hsome'
      obtain rfl := Option.some.inj (hmore.symm.trans hsome')
      rfl

theorem readColumns_columnList (hne : names ≠ []) (hclose : t.head? = some ')') :
    readColumns (columnList names ++ t) = some (names, t) := by
  induction names with
  | nil => exact absurd rfl hne
  | cons n names ih =>
      cases names with
      | nil =>
          have hend : dropWord? ", ".toList t = none := by
            apply dropWord?_eq_none
            rintro ⟨u, rfl⟩
            exact absurd hclose (by simp)
          apply readColumns_of_none _ hend
          rw [columnList, List.map_singleton, List.intercalate_singleton]
          exact Identifier.readBracketed_bracket n t (by rw [hclose]; decide)
      | cons m names =>
          have hread := Identifier.readBracketed_bracket n
            (", ".toList ++ (columnList (m :: names) ++ t)) (by simp)
          rw [columnList_cons_cons, List.append_assoc, List.append_assoc,
            readColumns_of_some hread (dropWord?_eq_some.2 rfl), ih (List.cons_ne_nil m names)]
          rfl

def ending (included : List (List Char)) : List Char :=
  if included = [] then ");".toList
  else ") INCLUDE (".toList ++ (columnList included ++ ");".toList)

theorem head?_ending (included : List (List Char)) : (ending included).head? = some ')' := by
  rw [ending]
  split <;> rfl

theorem readIncluded_ending (included : List (List Char)) :
    readIncluded (ending included) = some included := by
  rw [ending]
  by_cases h : included = []
  · rw [if_pos h, h]
    rfl
  · have hne : ") INCLUDE (".toList ++ (columnList included ++ ");".toList) ≠ ");".toList := by
      simp
    rw [if_neg h, readIncluded, if_neg hne, dropWord?_eq_some.2 rfl]
    change (readColumns _).bind _ = _
    rw [readColumns_columnList h rfl]
    rfl

def text (d : IndexDefinition) : List Char :=
  "CREATE NONCLUSTERED INDEX ".toList ++ (Identifier.bracket d.name ++ (" ON ".toList ++
    (Identifier.bracket d.database ++ (".".toList ++ (Identifier.bracket d.schema ++ (".".toList ++
      (Identifier.bracket d.table ++ (" (".toList ++ (columnList d.keys ++ ending d.included)))))))))

theorem readBehind_bracket (word : String) (h : t.head? ≠ some ']') :
    readBehind word (word.toList ++ (Identifier.bracket n ++ t)) = some (n, t) := by
  rw [readBehind, dropWord?_eq_some.2 rfl, Option.bind_some]
  exact Identifier.readBracketed_bracket n t h

/-- Both readers pass the front of a statement in the same way, whatever they do behind it. -/
theorem readFront_text (d : IndexDefinition) (hkeys : d.keys ≠ []) {α : Type}
    (k : IndexDefinition → List Char → Option α) :
    (do
      let (name, s) ← readBehind "CREATE NONCLUSTERED INDEX " d.text
      let (database, s) ← readBehind " ON " s
      let (schema, s) ← readBehind "." s
      let (table, s) ← readBehind "." s
      let s ← dropWord? " (".toList s
      let (keys, s) ← readColumns s
      k ⟨name, database, schema, table, keys, []⟩ s) =
    k { d with included := [] } (ending d.included) := by
  have hon (u : List Char) : (" ON ".toList ++ u).head? ≠ some ']' := by simp
  have hdot (u : List Char) : (".".toList ++ u).head? ≠ some ']' := by simp
  have hopen (u : List Char) : (" (".toList ++ u).head? ≠ some ']' := by simp
  have hpass {β γ : Type} {o : Option β} {b : β} (ho : o = some b) (f : β → Option γ) :
      o.bind f = f b := by rw [ho, Option.bind_some]
  unfold text
  refine (hpass (readBehind_bracket "CREATE NONCLUSTERED INDEX " (hon _)) _).trans ?_
  refine (hpass (readBehind_bracket " ON " (hdot _)) _).trans ?_
  refine (hpass (readBehind_bracket "." (hdot _)) _).trans ?_
  refine (hpass (readBehind_bracket "." (hopen _)) _).trans ?_
  refine (hpass (dropWord?_eq_some.2 rfl) _).trans ?_
  exact hpass (readColumns_columnList hkeys (head?_ending _)) _

theorem read_text (d : IndexDefinition) (hkeys : d.keys ≠ []) : read d.text = some d := by
  refine (readFront_text d hkeys fun front s =>
    (readIncluded s).bind fun included => some { front with included }).trans ?_
  rw [readIncluded_ending]
  rfl

theorem behindKeys_text (d : IndexDefinition) (hkeys : d.keys ≠ []) :
    behindKeys d.text = some (ending d.included) :=
  readFront_text d hkeys fun _ s => some s

theorem includes_ending_iff (included : List (List Char)) :
    ") INCLUDE (".toList <+: ending included ↔ included ≠ [] := by
  rw [ending]
  split
  · rename_i h
    exact iff_of_false (by decide) (by simp [h])
  · rename_i h
    exact iff_of_true (List.prefix_append _ _) h

end IndexDefinition

end IndexTuning.Sql
