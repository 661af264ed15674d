import IndexTuning.Proofs.Sql.Comment
import IndexTuning.Proofs.Sql.TableScan
import Mathlib.Data.Set.Finite.Basic

namespace IndexTuning.Sql

open Text Scanner

namespace Comment

variable {s : List Char}

/-- A semicolon and a line break end a statement for the comments too, but in a line comment the
semicolon is lost. -/
theorem strip_separated (hs : blockOpen false s = false) (t : List Char) :
    strip (s ++ ';' :: '\n' :: t) =
      strip s ++ (if lineOpen false (dropBlocks false s) then '\n' :: strip t
        else ';' :: '\n' :: strip t) := by
  rw [strip, dropBlocks_append hs (by simp), dropBlocks_cons_of_ne (by decide),
    dropBlocks_cons_of_ne (by decide), dropLines_append (by simp), strip, strip]
  cases lineOpen false (dropBlocks false s) with
  | true => rfl
  | false => rfl

end Comment

namespace TableScan

open Comment

variable {before : Option Char} {a r s u name : List Char}

theorem endsName_newline (r : List Char) : EndsName ('\n' :: r) where
  head := by
    intro c hc
    obtain rfl := Option.some.inj hc
    decide
  inside := by
    rw [List.dropWhile_cons_of_neg (by decide), List.head?_cons]
    decide

theorem endsName_semicolon (r : List Char) : EndsName (';' :: '\n' :: r) where
  head := by
    intro c hc
    obtain rfl := Option.some.inj hc
    decide
  inside := by
    rw [List.dropWhile_cons_of_pos (by decide), List.dropWhile_cons_of_neg (by decide),
      List.head?_cons]
    decide

theorem allFrom_behind_newline (before : Option Char) (s : List Char) :
    Reader.allFrom singleReference 0 before ('\n' :: s) = Reader.all singleReference s := by
  rw [Reader.allFrom_cons_of_none (singleReference_cons (by decide) _ _)]
  have hbefore (t : List Char) : singleReference (some '\n') t = singleReference none t := rfl
  exact Reader.allFrom_congr_before hbefore s

theorem chains_append_semicolon (s r : List Char) :
    chains (s ++ ';' :: '\n' :: r) = chains s ++ chains r := by
  rw [chains_eq, chains_eq, chains_eq, Reader.all, Reader.all,
    Reader.allFrom_append consumes_singleReference,
    Reader.allFrom_cons_of_none (singleReference_cons (by decide) _ _), allFrom_behind_newline]
  intro p _
  apply (endsName_semicolon r).localAt_singleReference
  intro _ _ _
  right
  intro c hc
  obtain rfl := Option.some.inj hc
  decide

def awaits (before : Option Char) (s : List Char) : Bool :=
  !before.any isWord && (singleKeyword s).any isAllBlank

/-- The search ends at a keyword whose table is still to come. -/
def AwaitsTable (sql : List Char) : Prop :=
  ∃ p ∈ (Reader.visit singleReference).all sql, awaits p.1 p.2

instance (sql : List Char) : Decidable (AwaitsTable sql) :=
  inferInstanceAs (Decidable (∃ p ∈ (Reader.visit singleReference).all sql, awaits p.1 p.2 = true))

theorem localAt_newline (h : awaits before s = false) (r : List Char) :
    Reader.LocalAt singleReference ('\n' :: r) before s := by
  apply (endsName_newline r).localAt_singleReference
  intro hb t ht
  left
  rw [awaits, hb, ht, Option.any_some, Bool.not_false, Bool.true_and] at h
  rw [isAllBlank, List.all_eq_false] at h
  obtain ⟨c, hc, hnot⟩ := h
  exact ⟨c, hc, Bool.eq_false_iff.2 hnot⟩

theorem chains_append_newline (hs : ¬ AwaitsTable s) (r : List Char) :
    chains (s ++ '\n' :: r) = chains s ++ chains r := by
  rw [chains_eq, chains_eq, chains_eq, Reader.all, Reader.all,
    Reader.allFrom_append consumes_singleReference, allFrom_behind_newline]
  intro p hp
  apply localAt_newline
  exact Bool.eq_false_iff.2 fun h => hs ⟨p, hp, h⟩

theorem awaits_of_read (h : singleReference before s = some (a, r)) : awaits before s = false := by
  obtain ⟨k, v, -, hk, -, hhead, hchain⟩ := exists_of_introduced shortens_singleKeyword h
  cases har : a ++ r with
  | nil =>
      rw [har] at hchain
      exact absurd hchain (by simp [chain_nil])
  | cons c t =>
      rw [har] at hk hhead
      have hsolid : isAllBlank (v ++ c :: t) = false :=
        List.all_eq_false.2 ⟨c, by simp, by simp [hhead c rfl]⟩
      rw [awaits, hk, Option.any_some, hsolid, Bool.and_false]

theorem read_of_awaits (h : awaits before s) (hname : Writes name name) :
    singleReference before (s ++ '\n' :: name) = some (name, []) := by
  rw [awaits, Bool.and_eq_true, Bool.not_eq_true', Option.any_eq_true] at h
  obtain ⟨hb, t, ht, hblank⟩ := h
  have hkeyword : singleKeyword (s ++ '\n' :: name) = some (t ++ '\n' :: name) := by
    rw [(endsName_newline name).localAt_singleKeyword s, ht, Option.map_some]
  have hstart : blanks (t ++ '\n' :: name) = some name := by
    refine blanks_eq_some.2 ⟨t ++ ['\n'], by simp, ⟨by simp, ?_⟩, ?_⟩
    · exact List.forall_mem_append.2 ⟨List.all_eq_true.1 hblank, forall_blank_newline⟩
    · have hhead := hname.isPiece.isBlank_head []
      rwa [List.append_nil] at hhead
  have hchain : chain name = some [] := by
    have hwrites : List.Forall₂ Writes [name] [name] := .cons hname .nil
    have hread := read_chain (x := []) hwrites (by simp) (by simp) (by simp)
    rwa [joinDots_singleton, List.append_nil] at hread
  have hconsumed := consumed_append name []
  rw [List.append_nil] at hconsumed
  exact introduced_eq_some.2 ⟨hb, _, _, hkeyword, hstart, hchain, hconsumed.symm⟩

theorem mem_chains_of_awaitsTable (hs : AwaitsTable s) (hname : Writes name name) :
    name ∈ chains (s ++ '\n' :: name) := by
  -- The search is local up to the place that awaits its table, and reads the name there.
  have main (before : Option Char) (s : List Char)
      (hs : ∃ p ∈ Reader.allFrom (Reader.visit singleReference) 0 before s, awaits p.1 p.2) :
      name ∈ Reader.allFrom singleReference 0 before (s ++ '\n' :: name) := by
    induction before, s using Reader.induct_search consumes_singleReference with
    | nil before =>
        obtain ⟨p, hp, -⟩ := hs
        exact absurd hp List.not_mem_nil
    | pass before c s h ih =>
        rw [Reader.visit_cons_of_none h, List.exists_mem_cons_iff] at hs
        cases hhere : awaits before (c :: s) with
        | true =>
            have hread := read_of_awaits hhere hname
            rw [← List.append_nil (c :: s ++ '\n' :: name)] at hread ⊢
            rw [Reader.allFrom_append_of_some (by simp) hread]
            exact List.mem_cons_self
        | false =>
            have hnone : singleReference before (c :: (s ++ '\n' :: name)) = none := by
              rw [← List.cons_append, localAt_newline hhere, h, Option.map_none]
            rw [List.cons_append, Reader.allFrom_cons_of_none hnone]
            exact ih (hs.resolve_left (by simp [hhere]))
    | behind before u s a hne h ih =>
        rw [Reader.visit_append_of_some hne h, List.exists_mem_cons_iff] at hs
        have hhere := awaits_of_read h
        have hread : singleReference before (u ++ (s ++ '\n' :: name)) =
            some (a, s ++ '\n' :: name) := by
          rw [← List.append_assoc, localAt_newline hhere, h, Option.map_some]
        rw [List.append_assoc, Reader.allFrom_append_of_some hne hread]
        exact List.mem_cons_of_mem a (ih (hs.resolve_left (by simp [hhere])))
  rw [chains_eq]
  exact main none s hs

theorem exists_fresh (tables : List TableRef) :
    ∃ n, (⟨none, defaultSchema, String.ofList (List.replicate (n + 1) 'x')⟩ : TableRef) ∉ tables := by
  have hinjective : Function.Injective fun n : ℕ =>
      (⟨none, defaultSchema, String.ofList (List.replicate (n + 1) 'x')⟩ : TableRef) := by
    intro m n h
    have hlength := congrArg (fun t : TableRef => t.table.toList.length) h
    simpa using hlength
  obtain ⟨_, ⟨n, rfl⟩, hn⟩ :=
    (Set.infinite_range_of_injective hinjective).exists_notMem_finset tables.toFinset
  exact ⟨n, fun h => hn (List.mem_toFinset.2 h)⟩

theorem writes_replicate (n : ℕ) :
    Writes (List.replicate (n + 1) 'x') (List.replicate (n + 1) 'x') := by
  rw [List.replicate_succ]
  apply Writes.plain (by decide)
  intro c hc
  rw [List.eq_of_mem_replicate hc]
  decide

theorem chains_replicate (n : ℕ) : chains (List.replicate n 'x') = [] := by
  have hnone : ∀ c ∈ List.replicate n 'x', startsKeyword c = false := by
    intro c hc
    rw [List.eq_of_mem_replicate hc]
    decide
  rw [chains_eq, Reader.all, ← List.append_nil (List.replicate n 'x'),
    allFrom_append_of_not_startsKeyword hnone]
  rfl

theorem strip_replicate (n : ℕ) : strip (List.replicate n 'x') = List.replicate n 'x' := by
  have hnone : ∀ c ∈ List.replicate n 'x', c ∉ ['/', '*', '-'] := by
    intro c hc
    rw [List.eq_of_mem_replicate hc]
    decide
  apply strip_of_silent
  rw [← List.append_nil (List.replicate n 'x')]
  exact (silent_append_of_forall hnone).2 List.isChain_nil

/-- The tables of two statements are those of the one and those of the other, unless the first ends
in a line comment behind a keyword whose table is still to come. -/
theorem extract_separated_iff {s : String} (hs : blockOpen false s.toList = false) :
    (∀ (t : String) (database : Option String) (table : TableRef),
      table ∈ extract (s ++ ";\n" ++ t) database ↔
        table ∈ extract s database ∨ table ∈ extract t database) ↔
      ¬ (lineOpen false (dropBlocks false s.toList) ∧ AwaitsTable (strip s.toList)) := by
  have hstrip (t : String) : strip (s ++ ";\n" ++ t).toList = strip s.toList ++
      (if lineOpen false (dropBlocks false s.toList) then '\n' :: strip t.toList
        else ';' :: '\n' :: strip t.toList) := by
    rw [← strip_separated hs, String.toList_append, String.toList_append, List.append_assoc]
    rfl
  constructor
  · rintro hlaw ⟨hopen, hawaits⟩
    -- A new name is the table of the first statement's keyword, and no table of either statement.
    obtain ⟨n, hfresh⟩ := exists_fresh (extract s none)
    have hwrites := writes_replicate n
    have hread := mem_chains_of_awaitsTable hawaits hwrites
    have htable := resolve_table hwrites (by simp [List.replicate_succ]) none
    have hboth : (⟨none, defaultSchema, String.ofList (List.replicate (n + 1) 'x')⟩ : TableRef) ∈
        extract (s ++ ";\n" ++ String.ofList (List.replicate (n + 1) 'x')) none := by
      refine mem_extract.2 ⟨List.replicate (n + 1) 'x', ?_, htable⟩
      rw [hstrip, if_pos hopen, String.toList_ofList, strip_replicate]
      exact hread
    rcases (hlaw _ none _).1 hboth with h | h
    · exact hfresh h
    · obtain ⟨w, hw, -⟩ := mem_extract.1 h
      rw [String.toList_ofList, strip_replicate, chains_replicate] at hw
      exact absurd hw List.not_mem_nil
  · intro hnot t database table
    have hchains : chains (strip (s ++ ";\n" ++ t).toList) =
        chains (strip s.toList) ++ chains (strip t.toList) := by
      rw [hstrip]
      cases hopen : lineOpen false (dropBlocks false s.toList) with
      | true => exact chains_append_newline (fun h => hnot ⟨hopen, h⟩) _
      | false => exact chains_append_semicolon _ _
    simp only [mem_extract, hchains, List.mem_append, or_and_right, exists_or]

theorem extract_separated_behind_comment :
    blockOpen false "SELECT * FROM [dbo].[Orders] -- FROM".toList = false ∧
    lineOpen false (dropBlocks false "SELECT * FROM [dbo].[Orders] -- FROM".toList) = true ∧
    ¬ AwaitsTable (strip "SELECT * FROM [dbo].[Orders] -- FROM".toList) ∧
    ∀ (t : String) (database : Option String) (table : TableRef),
      table ∈ extract ("SELECT * FROM [dbo].[Orders] -- FROM" ++ ";\n" ++ t) database ↔
        table ∈ extract "SELECT * FROM [dbo].[Orders] -- FROM" database ∨
          table ∈ extract t database := by
  have hs : blockOpen false "SELECT * FROM [dbo].[Orders] -- FROM".toList = false := by
    decide +kernel
  have hawaits : ¬ AwaitsTable (strip "SELECT * FROM [dbo].[Orders] -- FROM".toList) := by
    decide +kernel
  exact ⟨hs, by decide +kernel, hawaits, (extract_separated_iff hs).2 fun h => hawaits h.2⟩

/-- A line comment takes the semicolon away, and the keyword before it finds its table in the next
statement. -/
theorem extract_separated_awaiting :
    blockOpen false "SELECT * FROM --".toList = false ∧
    extract ("SELECT * FROM --" ++ ";\n" ++ "Orders") none = [⟨none, "dbo", "Orders"⟩] ∧
    extract "SELECT * FROM --" none = [] ∧ extract "Orders" none = [] := by
  decide +kernel

end TableScan

end IndexTuning.Sql
