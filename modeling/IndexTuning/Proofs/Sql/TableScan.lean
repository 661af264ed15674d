import IndexTuning.Proofs.Sql.Chain
import IndexTuning.Proofs.Sql.TableRef
import Mathlib.Data.List.Basic

namespace IndexTuning.Sql.TableScan

open Text Scanner

variable {before : Option Char} {c : Char} {a r s t u x : List Char} {keywords : Scanner}

def introduced (keywords : Scanner) : Reader (List Char) := fun before s =>
  if before.any isWord then none
  else do
    let start ← (keywords >=> blanks) s
    let rest ← chain start
    some (consumed start rest, rest)

/-- The keywords of one word. `DELETE FROM` ends in one of them. -/
def singleKeyword : Scanner := fun s =>
  keyword "FROM" s <|> keyword "JOIN" s <|> keyword "INTO" s <|> keyword "UPDATE" s

def singleReference : Reader (List Char) := introduced singleKeyword

theorem introduced_eq_some : introduced keywords before s = some (a, r) ↔
    before.any isWord = false ∧
      ∃ t start, keywords s = some t ∧ blanks t = some start ∧ chain start = some r ∧
        a = consumed start r := by
  rw [introduced]
  cases before.any isWord with
  | true => simp
  | false =>
      simp only [Bool.false_eq_true, if_false, true_and, bind, Option.bind_eq_some_iff,
        Option.some.injEq, Prod.mk.injEq]
      constructor
      · rintro ⟨start, h, r', hchain, ha, rfl⟩
        obtain ⟨t, ht, hblanks⟩ := comp_eq_some.1 h
        exact ⟨t, start, ht, hblanks, hchain, ha.symm⟩
      · rintro ⟨t, start, ht, hblanks, hchain, ha⟩
        exact ⟨start, comp_eq_some.2 ⟨t, ht, hblanks⟩, r, hchain, ha.symm, rfl⟩

theorem shortens_keyword (word : String) : Shortens (keyword word) := by
  intro s r h
  obtain ⟨u, hu, -⟩ := keyword_eq_some.1 h
  exact ⟨u, hu.symm⟩

theorem shortens_singleKeyword : Shortens singleKeyword :=
  (shortens_keyword _).orElse
    ((shortens_keyword _).orElse ((shortens_keyword _).orElse (shortens_keyword _)))

theorem shortens_keywordBeforeTable : Shortens keywordBeforeTable := by
  have hdelete := (shortens_keyword "DELETE").comp
    ((shortens_many1 isBlank).comp (shortens_keyword "FROM"))
  exact hdelete.orElse shortens_singleKeyword

theorem shortens_part : Shortens part := by
  intro s r h
  obtain ⟨w, rfl, -⟩ := exists_piece_of_part h
  exact List.suffix_append w r

theorem shortens_chain : Shortens chain := by
  have hmore := ((shortens_char '.').comp shortens_part).optional
  exact shortens_part.comp (hmore.comp hmore)

theorem exists_of_introduced (hkeywords : Shortens keywords)
    (h : introduced keywords before s = some (a, r)) :
    ∃ k v, s = k ++ (v ++ (a ++ r)) ∧ keywords s = some (v ++ (a ++ r)) ∧ Blanks v ∧
      (∀ c ∈ (a ++ r).head?, isBlank c = false) ∧ chain (a ++ r) = some r := by
  obtain ⟨-, t, start, ht, hblanks, hchain, rfl⟩ := introduced_eq_some.1 h
  obtain ⟨k, hk⟩ := hkeywords s t ht
  obtain ⟨v, rfl, hv, hhead⟩ := blanks_eq_some.1 hblanks
  obtain ⟨w, rfl⟩ := shortens_chain start r hchain
  rw [consumed_append]
  exact ⟨k, v, hk.symm, ht, hv, hhead, hchain⟩

theorem consumes_introduced (hkeywords : Shortens keywords) :
    Reader.Consumes (introduced keywords) := by
  intro before s a r h
  obtain ⟨k, v, hs, -, hv, -, -⟩ := exists_of_introduced hkeywords h
  refine ⟨k ++ (v ++ a), ?_, by rw [hs, List.append_assoc, List.append_assoc]⟩
  intro hnil
  exact hv.1 (List.append_eq_nil_iff.1 (List.append_eq_nil_iff.1 hnil).2).1

theorem consumes_singleReference : Reader.Consumes singleReference :=
  consumes_introduced shortens_singleKeyword

def startsKeyword (c : Char) : Bool := "fjiu".toList.contains (fold c)

theorem isLatinLetter_of_startsKeyword (h : startsKeyword c) : isLatinLetter c := by
  rw [startsKeyword, List.contains_iff_mem] at h
  have hall : "fjiu".toList.all Char.isLower := by decide
  exact List.all_eq_true.1 hall (fold c) h

theorem startsKeyword_of_isBlank (h : isBlank c) : startsKeyword c = false := by
  cases hc : startsKeyword c with
  | false => rfl
  | true =>
      rw [isBlank_of_isLatinLetter (isLatinLetter_of_startsKeyword hc)] at h
      exact h.symm

theorem singleKeyword_cons (h : startsKeyword c = false) (s : List Char) :
    singleKeyword (c :: s) = none := by
  have hword (word : String) (hw : word ≠ "")
      (hhead : ∃ d, word.toList.head?.map fold = some d ∧ "fjiu".toList.contains d) :
      keyword word (c :: s) = none := by
    obtain ⟨d, hd, hmem⟩ := hhead
    apply keyword_eq_none hw
    rw [hd]
    intro heq
    obtain rfl := Option.some.inj heq
    rw [startsKeyword, hmem] at h
    exact Bool.noConfusion h
  rw [singleKeyword, hword "FROM" (by decide) ⟨'f', by decide, by decide⟩,
    hword "JOIN" (by decide) ⟨'j', by decide, by decide⟩,
    hword "INTO" (by decide) ⟨'i', by decide, by decide⟩,
    hword "UPDATE" (by decide) ⟨'u', by decide, by decide⟩]
  rfl

theorem singleReference_cons (h : startsKeyword c = false) (before : Option Char)
    (s : List Char) : singleReference before (c :: s) = none := by
  rw [Option.eq_none_iff_forall_ne_some]
  rintro ⟨a, r⟩ hread
  obtain ⟨-, t, -, ht, -⟩ := introduced_eq_some.1 hread
  rw [singleKeyword_cons h] at ht
  exact absurd ht (by simp)

theorem allFrom_append_of_not_startsKeyword (h : ∀ c ∈ u, startsKeyword c = false) :
    Reader.allFrom singleReference 0 before (u ++ s) =
      Reader.allFrom singleReference 0 (u.getLast?.or before) s :=
  Reader.allFrom_append_of_none fun c hc before s => singleReference_cons (h c hc) before s

theorem keywordBeforeTable_eq_some : keywordBeforeTable s = some r ↔
    singleKeyword s = some r ∨ (keyword "DELETE" >=> blanks >=> keyword "FROM") s = some r := by
  change ((keyword "DELETE" >=> blanks >=> keyword "FROM") s <|> singleKeyword s) = some r ↔ _
  cases h : (keyword "DELETE" >=> blanks >=> keyword "FROM") s with
  | none => simp
  | some t =>
      obtain ⟨t', ht', -⟩ := comp_eq_some.1 h
      have hhead := head_of_keyword ht' (by decide)
      have hsingle : singleKeyword s = none := by
        cases s with
        | nil => exact absurd hhead (by simp)
        | cons c s =>
            apply singleKeyword_cons
            rw [startsKeyword, Option.some.inj hhead]
            decide
      simp [hsingle]

theorem reference_of_singleReference (h : singleReference before s = some (a, r)) :
    reference before s = some (a, r) := by
  obtain ⟨hb, t, start, ht, hrest⟩ := introduced_eq_some.1 h
  exact introduced_eq_some.2 ⟨hb, t, start, keywordBeforeTable_eq_some.2 (Or.inl ht), hrest⟩

theorem exists_singleReference (h : reference before (u ++ s) = some (a, s)) :
    singleReference before (u ++ s) = some (a, s) ∨
      ∃ v w, u = v ++ w ∧ w ≠ [] ∧ (∀ c ∈ v, startsKeyword c = false) ∧
        singleReference (v.getLast?.or before) (w ++ s) = some (a, s) := by
  obtain ⟨hb, t, start, ht, hrest⟩ := introduced_eq_some.1 h
  rcases keywordBeforeTable_eq_some.1 ht with ht | ht
  · exact Or.inl (introduced_eq_some.2 ⟨hb, t, start, ht, hrest⟩)
  · obtain ⟨t₁, h₁, ht⟩ := comp_eq_some.1 ht
    obtain ⟨t₂, h₂, h₃⟩ := comp_eq_some.1 ht
    obtain ⟨delete, hdelete, hfold⟩ := keyword_eq_some.1 h₁
    obtain ⟨v, rfl, hv, -⟩ := blanks_eq_some.1 h₂
    have hlast : ((delete ++ v).getLast?.or before).any isWord = false := by
      obtain ⟨c, hc⟩ := Option.isSome_iff_exists.1 (List.getLast?_isSome.2 hv.1)
      rw [List.getLast?_append, hc]
      exact isWord_of_isBlank (hv.2 c (List.mem_of_getLast? hc))
    have hsingle : singleReference ((delete ++ v).getLast?.or before) t₂ = some (a, s) := by
      refine introduced_eq_some.2 ⟨hlast, t, start, ?_, hrest⟩
      rw [singleKeyword, h₃]
      rfl
    obtain ⟨w, hw, rfl⟩ := consumes_singleReference _ _ _ _ hsingle
    -- No keyword begins in what stands before the second word, so the search passes it.
    refine Or.inr ⟨delete ++ v, w, ?_, hw, ?_, hsingle⟩
    · rw [← List.append_left_inj s, hdelete, List.append_assoc, List.append_assoc]
    · intro c hc
      rcases List.mem_append.1 hc with hc | hc
      · have hall : ("DELETE".toList.map fold).all fun d => !"fjiu".toList.contains d := by decide
        have hfirst := List.all_eq_true.1 hall (fold c) (hfold ▸ List.mem_map_of_mem hc)
        exact Bool.not_eq_true' _ ▸ hfirst
      · exact startsKeyword_of_isBlank (hv.2 c hc)

theorem allFrom_reference (before : Option Char) (s : List Char) :
    Reader.allFrom reference 0 before s = Reader.allFrom singleReference 0 before s := by
  have hconsumes : Reader.Consumes reference := consumes_introduced shortens_keywordBeforeTable
  -- The two searches part only at a `DELETE`, and meet again at the end of the reference.
  induction before, s using Reader.induct_search hconsumes with
  | nil before => rfl
  | pass before c s h ih =>
      have hsingle : singleReference before (c :: s) = none := by
        rw [Option.eq_none_iff_forall_ne_some]
        rintro ⟨a, r⟩ hread
        rw [reference_of_singleReference hread] at h
        exact absurd h (by simp)
      rw [Reader.allFrom_cons_of_none h, Reader.allFrom_cons_of_none hsingle, ih]
  | behind before u s a hne h ih =>
      rw [Reader.allFrom_append_of_some hne h, ih]
      rcases exists_singleReference h with hsingle | ⟨v, w, rfl, hw, hv, hsingle⟩
      · rw [Reader.allFrom_append_of_some hne hsingle]
      · rw [List.append_assoc, allFrom_append_of_not_startsKeyword hv,
          Reader.allFrom_append_of_some hw hsingle, List.getLast?_append_of_ne_nil v hw]

theorem chains_eq (sql : List Char) : chains sql = Reader.all singleReference sql :=
  allFrom_reference none sql

/-- The text ends a name that runs up to it, and closes no bracket that is open. -/
structure EndsName (x : List Char) : Prop where
  head : ∀ c ∈ x.head?, continuesPlainPart c = false ∧ c ≠ '.' ∧ c ≠ '['
  inside : (x.dropWhile isInsideBrackets).head? ≠ some ']'

namespace EndsName

theorem isLatinLetter_head (hx : EndsName x) : ∀ c ∈ x.head?, isLatinLetter c = false := by
  intro c hc
  cases hl : isLatinLetter c with
  | false => rfl
  | true =>
      have hcont := (hx.head c hc).1
      rw [continuesPlainPart, isWord_of_isLatinLetter hl, Bool.or_true] at hcont
      exact hcont

theorem localAt_part (hx : EndsName x) (s : List Char) : LocalAt part x s := by
  have hopen : x.head? ≠ some '[' := fun h => (hx.head '[' h).2.2 rfl
  have hbracketed : LocalAt bracketedPart x s :=
    (localAt_char (Or.inr hopen)).comp fun r _ => localAt_closed hx.inside r
  apply hbracketed.orElse
  cases s with
  | nil =>
      cases x with
      | nil => rfl
      | cons c x =>
          apply if_neg
          intro hstart
          have hcont := continuesPlainPart_of_startsPlainPart hstart
          rw [(hx.head c rfl).1] at hcont
          exact Bool.noConfusion hcont
  | cons c s =>
      have hmore : LocalAt (many1 continuesPlainPart) x (c :: s) :=
        localAt_many1 (Or.inr fun d hd => (hx.head d hd).1)
      rw [LocalAt, List.cons_append, many1, many1] at hmore
      rw [LocalAt, List.cons_append, plainPart, plainPart]
      by_cases hstart : startsPlainPart c
      · have hcont := continuesPlainPart_of_startsPlainPart hstart
        rw [if_pos hstart, if_pos hstart]
        rwa [if_pos hcont, if_pos hcont] at hmore
      · rw [if_neg hstart, if_neg hstart]
        rfl

theorem localAt_chain (hx : EndsName x) (s : List Char) : LocalAt chain x s := by
  have hdot : x.head? ≠ some '.' := fun h => (hx.head '.' h).2.1 rfl
  have hmore (r : List Char) : LocalAt (optional (Scanner.char '.' >=> part)) x r :=
    ((localAt_char (Or.inr hdot)).comp fun t _ => hx.localAt_part t).optional
  exact (hx.localAt_part s).comp fun r _ => (hmore r).comp fun t _ => hmore t

theorem localAt_singleKeyword (hx : EndsName x) (s : List Char) : LocalAt singleKeyword x s := by
  have hword (word : String) (hword : word.toList.all isLatinLetter) : LocalAt (keyword word) x s :=
    localAt_keyword hword hx.isLatinLetter_head s
  exact (hword "FROM" (by decide)).orElse ((hword "JOIN" (by decide)).orElse
    ((hword "INTO" (by decide)).orElse (hword "UPDATE" (by decide))))

/-- A reference can go on only behind a keyword that nothing but blanks follow. -/
theorem localAt_singleReference (hx : EndsName x)
    (hblanks : before.any isWord = false → ∀ r, singleKeyword s = some r →
      (∃ c ∈ r, isBlank c = false) ∨ ∀ c ∈ x.head?, isBlank c = false) :
    Reader.LocalAt singleReference x before s := by
  rw [Reader.LocalAt, singleReference, introduced, introduced]
  cases hb : before.any isWord with
  | true => rfl
  | false =>
      have hstart : LocalAt (singleKeyword >=> blanks) x s :=
        (hx.localAt_singleKeyword s).comp fun r hr => localAt_many1 (hblanks hb r hr)
      simp only [Bool.false_eq_true, if_false]
      rw [hstart]
      cases (singleKeyword >=> blanks) s with
      | none => rfl
      | some start =>
          have hchain := hx.localAt_chain start
          change ((chain (start ++ x)).bind fun rest => some (consumed (start ++ x) rest, rest)) =
            ((chain start).bind fun rest => some (consumed start rest, rest)).map _
          rw [hchain]
          cases hrest : chain start with
          | none => rfl
          | some rest =>
              obtain ⟨w, rfl⟩ := shortens_chain start rest hrest
              simp only [Option.map_some, Option.bind_some, List.append_assoc, consumed_append]

end EndsName

theorem mem_extract {sql : String} {database : Option String} {table : TableRef} :
    table ∈ extract sql database ↔
      ∃ w ∈ chains (Comment.strip sql.toList), resolve (usableDatabase database) w = some table :=
  TableRef.mem_toSet.trans List.mem_filterMap

end IndexTuning.Sql.TableScan
