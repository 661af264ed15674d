import IndexTuning.Proofs.Sql.TableScan

namespace IndexTuning.Sql.TableScan

open Text Scanner

variable {before : Option Char} {r s w : List Char} {ws : List (List Char)} {n : Nat}

def groupedPart (s : List Char) : Option (List Char × List Char) :=
  (part s).map fun r => (consumed s r, r)

def groupedMore : Nat → List Char → List (List Char) × List Char
  | 0, s => ([], s)
  | n + 1, s =>
    match (Scanner.char '.' s).bind groupedPart with
    | some (w, r) =>
      let (ws, rest) := groupedMore n r
      (w :: ws, rest)
    | none => ([], s)

def groupedChain (s : List Char) : Option (List (List Char) × List Char) := do
  let (w, r) ← groupedPart s
  let (ws, rest) := groupedMore 2 r
  some (w :: ws, rest)

structure Capture where
  chain : List Char
  parts : List (List Char)
  deriving DecidableEq

/-- Reads as `reference` does, and yields the parts as well. -/
def capture : Reader Capture := fun before s =>
  if before.any isWord then none
  else do
    let start ← (keywordBeforeTable >=> blanks) s
    let (parts, rest) ← groupedChain start
    some (⟨consumed start rest, parts⟩, rest)

def captures (sql : List Char) : List Capture := Reader.all capture sql

theorem groupedPart_eq_some (h : groupedPart s = some (w, r)) :
    part s = some r ∧ s = w ++ r ∧ IsPiece w := by
  obtain ⟨t, hpart, ht⟩ := Option.map_eq_some_iff.1 h
  obtain ⟨rfl, rfl⟩ := Prod.mk.inj ht
  obtain ⟨u, rfl, hu⟩ := exists_piece_of_part hpart
  rw [consumed_append]
  exact ⟨hpart, rfl, hu⟩

/-- The groups behind the first part are pieces behind dots, as many as are read without groups. -/
theorem groupedMore_eq (h : groupedMore n s = (ws, r)) :
    follow n s = some r ∧ s = dotted ws ++ r ∧ (∀ w ∈ ws, IsPiece w) ∧ ws.length ≤ n := by
  induction n generalizing s ws with
  | zero =>
      obtain ⟨rfl, rfl⟩ := Prod.mk.inj h
      exact ⟨rfl, rfl, List.forall_mem_nil _, le_rfl⟩
  | succ n ih =>
      rw [groupedMore] at h
      split at h
      · rename_i w t hw
        obtain ⟨rfl, rfl⟩ := Prod.mk.inj h
        obtain ⟨u, hdot, hpart⟩ := Option.bind_eq_some_iff.1 hw
        obtain ⟨hread, rfl, hpiece⟩ := groupedPart_eq_some hpart
        obtain ⟨hfollow, ht, hpieces, hlength⟩ := ih rfl
        refine ⟨?_, ?_, List.forall_mem_cons.2 ⟨hpiece, hpieces⟩, Nat.succ_le_succ hlength⟩
        · rw [follow_of_some (comp_eq_some.2 ⟨_, hdot, hread⟩), hfollow]
        · rw [char_eq_some.1 hdot, dotted_cons, List.cons_append, List.append_assoc, ← ht]
      · rename_i hnone
        obtain ⟨rfl, rfl⟩ := Prod.mk.inj h
        refine ⟨follow_of_none ?_ _, rfl, List.forall_mem_nil _, Nat.zero_le _⟩
        rw [Option.eq_none_iff_forall_ne_some]
        intro t ht
        obtain ⟨u, hdot, hread⟩ := comp_eq_some.1 ht
        rw [hdot, Option.bind_some, groupedPart, hread] at hnone
        exact absurd hnone (by simp)

theorem groupedChain_eq_some (h : groupedChain s = some (ws, r)) :
    s = joinDots ws ++ r ∧ (∀ w ∈ ws, IsPiece w) ∧ ws ≠ [] ∧ ws.length ≤ 3 := by
  obtain ⟨⟨w, t⟩, hpart, h⟩ := Option.bind_eq_some_iff.1 h
  obtain ⟨rfl, rfl⟩ := Prod.mk.inj (Option.some.inj h)
  obtain ⟨-, rfl, hpiece⟩ := groupedPart_eq_some hpart
  obtain ⟨-, ht, hpieces, hlength⟩ := groupedMore_eq (n := 2) rfl
  refine ⟨?_, List.forall_mem_cons.2 ⟨hpiece, hpieces⟩, List.cons_ne_nil _ _,
    Nat.succ_le_succ hlength⟩
  rw [joinDots_eq_dotted, List.append_assoc, ← ht]

theorem chain_eq_groupedChain (s : List Char) : chain s = (groupedChain s).map Prod.snd := by
  rw [chain_eq_follow, groupedChain, groupedPart]
  change (part s).bind (follow 2) = _
  cases part s with
  | none => rfl
  | some r => exact (groupedMore_eq rfl).1

theorem reference_eq_capture (before : Option Char) (s : List Char) :
    reference before s = (capture before s).map fun p => (p.1.chain, p.2) := by
  rw [reference, capture]
  cases before.any isWord with
  | true => rfl
  | false =>
      cases (keywordBeforeTable >=> blanks) s with
      | none => rfl
      | some start =>
          change (chain start).bind _ = ((groupedChain start).bind _).map _
          rw [chain_eq_groupedChain]
          cases groupedChain start <;> rfl

theorem chains_eq_captures (sql : List Char) : chains sql = (captures sql).map Capture.chain :=
  Reader.allFrom_map Capture.chain reference_eq_capture 0 none sql

/-- The chain falls apart into what was read of it: one to three parts, each in its place, so that
one of the cases of `resolve` is about them. -/
structure Capture.FallsApart (c : Capture) : Prop where
  chain_eq : c.chain = joinDots c.parts
  isPiece : ∀ w ∈ c.parts, IsPiece w
  split : Reader.all chainPart c.chain = c.parts
  one_le : 1 ≤ c.parts.length
  le_three : c.parts.length ≤ 3
  resolved : (∃ table, chainParts c.chain = [table]) ∨
    (∃ schema table, chainParts c.chain = [schema, table]) ∨
    ∃ database schema table, chainParts c.chain = [database, schema, table]

theorem captures_fallApart {sql : List Char} {c : Capture} (h : c ∈ captures sql) :
    c.FallsApart := by
  obtain ⟨before, s, r, hread⟩ := Reader.exists_of_mem_allFrom h
  rw [capture] at hread
  split at hread
  · exact absurd hread (by simp)
  obtain ⟨start, -, hread⟩ := Option.bind_eq_some_iff.1 hread
  obtain ⟨⟨ws, rest⟩, hchain, hread⟩ := Option.bind_eq_some_iff.1 hread
  obtain ⟨rfl, -⟩ := Prod.mk.inj (Option.some.inj hread)
  obtain ⟨rfl, hpieces, hne, hlength⟩ := groupedChain_eq_some hchain
  rw [consumed_append]
  have hparts := chainParts_pieces hpieces
  refine ⟨rfl, hpieces, all_chainPart_joinDots hpieces none, List.length_pos_iff.2 hne, hlength, ?_⟩
  match ws, hne, hlength, hparts with
  | [_], _, _, hparts => exact Or.inl ⟨_, hparts⟩
  | [_, _], _, _, hparts => exact Or.inr (Or.inl ⟨_, _, hparts⟩)
  | [_, _, _], _, _, hparts => exact Or.inr (Or.inr ⟨_, _, _, hparts⟩)

/-- Neither name is empty or has a blank end, and the table is not a temporary one. -/
structure NamesTable (t : TableRef) : Prop where
  schema : Tight t.schema.toList
  table : Tight t.table.toList
  permanent : t.table.toList.head? ≠ some '#'

theorem tight_of_mem_chainParts {p : List Char} (h : p ∈ chainParts w) (hne : p ≠ []) :
    Tight p := by
  obtain ⟨q, -, rfl⟩ := List.mem_map.1 h
  exact tight_trim hne

theorem resolve_namesTable {database : Option String} {t : TableRef}
    (h : resolve database w = some t) : NamesTable t := by
  -- Every case hands its schema and its table to one check, which the three share.
  have hnamed {d : Option String} {schema table : List Char}
      (hschema : schema ≠ [] → Tight schema) (htable : table ∈ chainParts w)
      (h : (if table = [] ∨ table.head? = some '#' ∨ schema = [] then none
        else some ⟨d, String.ofList schema, String.ofList table⟩) = some t) : NamesTable t := by
    split at h
    · exact absurd h (by simp)
    · rename_i hcheck
      rw [not_or, not_or] at hcheck
      obtain ⟨hne, hhead, hsne⟩ := hcheck
      obtain rfl := Option.some.inj h
      refine ⟨?_, ?_, ?_⟩ <;> rw [String.toList_ofList]
      · exact hschema hsne
      · exact tight_of_mem_chainParts htable hne
      · exact hhead
  rw [resolve] at h
  split at h
  · rename_i table hparts
    exact hnamed (fun _ => by decide) (by rw [hparts]; simp) h
  · rename_i schema table hparts
    exact hnamed (tight_of_mem_chainParts (by rw [hparts]; simp)) (by rw [hparts]; simp) h
  · rename_i d schema table hparts
    exact hnamed (tight_of_mem_chainParts (by rw [hparts]; simp)) (by rw [hparts]; simp) h
  · exact absurd h (by simp)

/-- The two patterns agree on every text, and whatever comes of the chains names a table. -/
theorem patterns_agree :
    (∀ sql : List Char, chains sql = (captures sql).map Capture.chain ∧
      ∀ c ∈ captures sql, c.FallsApart) ∧
    ∀ (sql : String) (database : Option String), ∀ t ∈ extract sql database, NamesTable t := by
  refine ⟨fun sql => ⟨chains_eq_captures sql, fun c => captures_fallApart⟩, ?_⟩
  intro sql database t ht
  obtain ⟨w, -, hw⟩ := mem_extract.1 ht
  exact resolve_namesTable hw

def openBrackets : String := "DELETE FROM [Sales.Eu].dbo.[ [Lines ]; UPDATE [ #Totals]"

theorem patterns_agree_openBrackets :
    chains openBrackets.toList =
      ["[Sales.Eu].dbo.[ [Lines ]".toList, "[ #Totals]".toList] ∧
    (⟨"[Sales.Eu].dbo.[ [Lines ]".toList,
      ["[Sales.Eu]".toList, "dbo".toList, "[ [Lines ]".toList]⟩ : Capture).FallsApart ∧
    extract openBrackets none = [⟨some "Sales.Eu", "dbo", "[Lines"⟩] ∧
    NamesTable ⟨some "Sales.Eu", "dbo", "[Lines"⟩ := by
  have hcaptures : captures openBrackets.toList =
      [⟨"[Sales.Eu].dbo.[ [Lines ]".toList,
        ["[Sales.Eu]".toList, "dbo".toList, "[ [Lines ]".toList]⟩,
      ⟨"[ #Totals]".toList, ["[ #Totals]".toList]⟩] := by
    decide +kernel
  have hextract : extract openBrackets none = [⟨some "Sales.Eu", "dbo", "[Lines"⟩] := by
    decide +kernel
  obtain ⟨hchains, hparts⟩ := patterns_agree.1 openBrackets.toList
  rw [hcaptures] at hchains hparts
  refine ⟨hchains, hparts _ List.mem_cons_self, hextract, ?_⟩
  apply patterns_agree.2 openBrackets none
  rw [hextract]
  exact List.mem_cons_self

end IndexTuning.Sql.TableScan
