import IndexTuning.Proofs.Sql.Comment
import IndexTuning.Proofs.Sql.Identifier
import IndexTuning.Proofs.Sql.TableScan
import IndexTuning.Proofs.Text.Line

namespace IndexTuning.Sql

open Text Scanner Identifier

namespace TableRef

variable {t : TableRef} {p : String}

def parts (t : TableRef) : List String := t.database.toList ++ [t.schema, t.table]

/-- A part that brackets hold as it is, and that no comment can be in. -/
structure IsPlain (p : String) : Prop where
  ne : p ≠ ""
  trimmed : trimmed p = p
  inside : '[' ∉ p.toList ∧ ']' ∉ p.toList ∧ '\r' ∉ p.toList ∧ '\n' ∉ p.toList
  line : ¬ "--".toList <:+: p.toList
  block : ¬ "/*".toList <:+: p.toList

/-- A letter or an underscore, and letters, digits and underscores behind it, all of ASCII. -/
def isRegular (p : String) : Bool :=
  match p.toList with
  | [] => false
  | c :: s => (c.isAlpha || c == '_') && s.all fun d => d.isAlphanum || d == '_'

/-- A reference that is read back from its bracketed form. -/
structure IsPrintable (t : TableRef) : Prop where
  parts : ∀ p ∈ t.parts, IsPlain p
  lasting : t.table.toList.head? ≠ some '#'

instance (p : String) : Decidable (IsPlain p) :=
  decidable_of_iff
    (p ≠ "" ∧ Text.trimmed p = p ∧
      ('[' ∉ p.toList ∧ ']' ∉ p.toList ∧ '\r' ∉ p.toList ∧ '\n' ∉ p.toList) ∧
      ¬ "--".toList <:+: p.toList ∧ ¬ "/*".toList <:+: p.toList)
    ⟨fun ⟨ne, trimmed, inside, line, block⟩ => ⟨ne, trimmed, inside, line, block⟩,
      fun h => ⟨h.ne, h.trimmed, h.inside, h.line, h.block⟩⟩

instance (t : TableRef) : Decidable t.IsPrintable :=
  decidable_of_iff ((∀ p ∈ t.parts, IsPlain p) ∧ t.table.toList.head? ≠ some '#')
    ⟨fun ⟨parts, lasting⟩ => ⟨parts, lasting⟩, fun h => ⟨h.parts, h.lasting⟩⟩

theorem toList_dotted (t : TableRef) :
    t.dotted.toList = TableScan.joinDots (t.parts.map String.toList) := by
  cases t with
  | mk database schema table =>
      cases database with
      | none => simp [dotted, parts, TableScan.joinDots]
      | some database => simp [dotted, parts, TableScan.joinDots]

theorem toList_bracketed (t : TableRef) :
    t.bracketed.toList = TableScan.joinDots (t.parts.map fun p => bracket (bare p.toList)) := by
  cases t with
  | mk database schema table =>
      cases database with
      | none => simp [bracketed, quote, parts, TableScan.joinDots]
      | some database => simp [bracketed, quote, parts, TableScan.joinDots]

theorem IsPlain.tight (h : IsPlain p) : Tight p.toList := by
  have htrim : trim p.toList = p.toList := by rw [← toList_trimmed, h.trimmed]
  rw [← htrim]
  apply tight_trim
  rw [htrim]
  exact fun hnil => h.ne (String.toList_eq_nil_iff.1 hnil)

theorem IsPlain.bracket_bare (h : IsPlain p) :
    bracket (bare p.toList) = '[' :: (p.toList ++ [']']) := by
  have hopen : p.toList.head? ≠ some '[' := fun hc => h.inside.1 (List.mem_of_mem_head? hc)
  rw [bare_of_tight h.tight hopen, bracket, doubleClosing_of_not_mem h.inside.2.1]

end TableRef

namespace TableScan

open TableRef

variable {t : TableRef} {refs : List TableRef} {written : String → List Char} {p : String}
  {text x : List Char} {ws : List (List Char)}

def printed (written : String → List Char) (t : TableRef) : List Char :=
  joinDots (t.parts.map written)

/-- The text of the reference is read back as a whole, and no comment begins in it. -/
structure Prints (written : String → List Char) (t : TableRef) : Prop where
  writes : ∀ p ∈ t.parts, Writes p.toList (written p)
  silent : ∀ p ∈ t.parts, Comment.Silent (written p)
  lasting : t.table.toList.head? ≠ some '#'

theorem silent_joinDots (h : ∀ w ∈ ws, Comment.Silent w) : Comment.Silent (joinDots ws) := by
  induction ws with
  | nil => exact List.isChain_nil
  | cons w ws ih =>
      obtain ⟨hw, hws⟩ := List.forall_mem_cons.1 h
      by_cases hnil : ws = []
      · rw [hnil, joinDots_singleton]
        exact hw
      · rw [joinDots_cons hnil]
        exact (Comment.silent_append_cons (by decide)).2 ⟨hw, ih hws⟩

namespace Prints

theorem forall₂ (h : Prints written t) :
    List.Forall₂ Writes (t.parts.map String.toList) (t.parts.map written) := by
  rw [List.forall₂_map_left_iff, List.forall₂_map_right_iff]
  exact List.forall₂_same.2 h.writes

theorem map_ne_nil (written : String → List Char) (t : TableRef) : t.parts.map written ≠ [] := by
  rw [parts, List.map_append]
  exact List.append_ne_nil_of_right_ne_nil _ (List.cons_ne_nil _ _)

theorem read (h : Prints written t) (hx : ∀ c ∈ x.head?, continuesPlainPart c = false ∧ c ≠ '.') :
    chain (printed written t ++ x) = some x := by
  have hlength : (t.parts.map written).length ≤ 3 := by
    cases t with
    | mk database schema table =>
        cases database with
        | none => exact Nat.le_succ 2
        | some database => exact Nat.le_refl 3
  exact read_chain h.forall₂ (map_ne_nil written t) hlength hx

theorem resolve_eq (h : Prints written t) (database : Option String) :
    resolve database (printed written t) = some { t with database := t.database.or database } := by
  have hne : ∀ p ∈ t.parts, p.toList ≠ [] := fun p hp => (h.writes p hp).part_ne_nil
  have hlasting := h.lasting
  cases t with
  | mk database' schema table =>
      have hschema : schema.toList ≠ [] := hne schema (by simp [parts])
      have htable : table.toList ≠ [] := hne table (by simp [parts])
      have hnamed : ¬ (table.toList = [] ∨ table.toList.head? = some '#' ∨ schema.toList = []) :=
        not_or.2 ⟨htable, not_or.2 ⟨hlasting, hschema⟩⟩
      -- `resolve` goes by the number of parts.
      cases database' with
      | none =>
          have hparts : chainParts (printed written ⟨none, schema, table⟩) =
              [schema.toList, table.toList] := chainParts_joinDots h.forall₂
          simp only [resolve, hparts, if_neg hnamed, String.ofList_toList, Option.none_or]
      | some database' =>
          have hparts : chainParts (printed written ⟨some database', schema, table⟩) =
              [database'.toList, schema.toList, table.toList] := chainParts_joinDots h.forall₂
          simp only [resolve, hparts, if_neg hnamed, String.ofList_toList, Option.some_or]

theorem silent_printed (h : Prints written t) : Comment.Silent (printed written t) := by
  apply silent_joinDots
  intro w hw
  obtain ⟨p, hp, rfl⟩ := List.mem_map.1 hw
  exact h.silent p hp

/-- A statement on one table yields the table, whatever stands before the line. -/
theorem allFrom_select (h : Prints written t)
    (hx : ∀ c ∈ x.head?, continuesPlainPart c = false ∧ c ≠ '.') (before : Option Char) :
    ∃ before', Reader.allFrom singleReference 0 before
        ("SELECT * FROM ".toList ++ (printed written t ++ x)) =
      printed written t :: Reader.allFrom singleReference 0 before' x := by
  have hall : "SELECT * ".toList.all fun c => !startsKeyword c := by decide
  have hquiet : ∀ c ∈ "SELECT * ".toList, startsKeyword c = false := fun c hc =>
    Bool.not_eq_true' _ ▸ List.all_eq_true.1 hall c hc
  have hsplit : "SELECT * FROM ".toList ++ (printed written t ++ x) =
      "SELECT * ".toList ++ (("FROM ".toList ++ printed written t) ++ x) := by
    rw [List.append_assoc]
    rfl
  have hkeyword : singleKeyword (("FROM ".toList ++ printed written t) ++ x) =
      some (' ' :: (printed written t ++ x)) := by
    rw [singleKeyword, keyword_eq_some.2 ⟨"FROM".toList, by rw [List.append_assoc]; rfl, rfl⟩]
    rfl
  have hblanks : blanks (' ' :: (printed written t ++ x)) = some (printed written t ++ x) :=
    blanks_eq_some.2 ⟨[' '], rfl, ⟨by decide, List.forall_mem_singleton.2 (by decide)⟩,
      isBlank_head_joinDots h.forall₂ (map_ne_nil written t) x⟩
  have hread : singleReference (("SELECT * ".toList).getLast?.or before)
      (("FROM ".toList ++ printed written t) ++ x) = some (printed written t, x) :=
    introduced_eq_some.2 ⟨rfl, _, _, hkeyword, hblanks, h.read hx, (consumed_append _ _).symm⟩
  rw [hsplit, allFrom_append_of_not_startsKeyword hquiet]
  exact ⟨_, Reader.allFrom_append_of_some (by simp) hread⟩

end Prints

structure IsBreak (b x : List Char) : Prop where
  breaks : ∀ c ∈ b, c = '\r' ∨ c = '\n'
  last : b = [] → x = []

namespace IsBreak

variable {b : List Char}

theorem head (h : IsBreak b x) :
    ∀ c ∈ (b ++ x).head?, continuesPlainPart c = false ∧ c ≠ '.' := by
  intro c hc
  cases b with
  | nil =>
      rw [h.last rfl] at hc
      exact absurd hc (by simp)
  | cons d b =>
      obtain rfl := Option.some.inj hc
      rcases h.breaks d List.mem_cons_self with rfl | rfl
      · decide
      · decide

theorem allFrom_append (h : IsBreak b x) (before : Option Char) :
    ∃ before', Reader.allFrom singleReference 0 before (b ++ x) =
      Reader.allFrom singleReference 0 before' x := by
  refine ⟨_, allFrom_append_of_not_startsKeyword ?_⟩
  intro c hc
  rcases h.breaks c hc with rfl | rfl
  · decide
  · decide

theorem silent_append {s : List Char} (h : IsBreak b x) (hs : Comment.Silent s)
    (hx : Comment.Silent x) : Comment.Silent (s ++ (b ++ x)) := by
  have hmeek : ∀ c ∈ b, c ∉ ['/', '*', '-'] := by
    intro c hc
    rcases h.breaks c hc with rfl | rfl
    · decide
    · decide
  cases b with
  | nil =>
      rw [h.last rfl, List.append_nil, List.append_nil]
      exact hs
  | cons c b =>
      obtain ⟨hc, hb⟩ := List.forall_mem_cons.1 hmeek
      exact (Comment.silent_append_cons hc).2 ⟨hs, (Comment.silent_append_of_forall hb).2 hx⟩

end IsBreak

theorem read_lines (hprints : ∀ t ∈ refs, Prints written t)
    (hlines : lines text = refs.map fun t => "SELECT * FROM ".toList ++ printed written t)
    (before : Option Char) :
    Reader.allFrom singleReference 0 before text = refs.map (printed written) ∧
      Comment.Silent text := by
  induction refs generalizing text before with
  | nil =>
      have hnil : text = [] := by
        by_contra hne
        exact lines_ne_nil hne hlines
      rw [hnil]
      exact ⟨rfl, List.isChain_nil⟩
  | cons t refs ih =>
      obtain ⟨ht, hrefs⟩ := List.forall_mem_cons.1 hprints
      obtain ⟨b, x, rfl, hx, hchars, hlast⟩ := exists_of_lines_eq_cons hlines
      have hbreak : IsBreak b x := ⟨hchars, hlast⟩
      obtain ⟨before₁, hselect⟩ := ht.allFrom_select hbreak.head before
      obtain ⟨before₂, hbetween⟩ := hbreak.allFrom_append before₁
      obtain ⟨hrest, hsilent⟩ := ih hrefs hx before₂
      rw [List.append_assoc]
      constructor
      · rw [hselect, hbetween, hrest, List.map_cons]
      · have hline : Comment.Silent ("SELECT * FROM".toList ++ ' ' :: (printed written t)) :=
          (Comment.silent_append_cons (by decide)).2 ⟨by decide, ht.silent_printed⟩
        have hall := hbreak.silent_append hline hsilent
        rw [List.append_assoc] at hall
        exact hall

theorem mem_extract_printed {sql : String} {database : Option String}
    (hprints : ∀ t ∈ refs, Prints written t)
    (hlines : lines sql.toList = refs.map fun t => "SELECT * FROM ".toList ++ printed written t)
    (table : TableRef) : table ∈ extract sql database ↔
      ∃ t ∈ refs, table = { t with database := t.database.or (usableDatabase database) } := by
  obtain ⟨hread, hsilent⟩ := read_lines hprints hlines none
  rw [mem_extract, Comment.strip_of_silent hsilent, chains_eq, Reader.all, hread]
  constructor
  · rintro ⟨w, hw, hresolve⟩
    obtain ⟨t, ht, rfl⟩ := List.mem_map.1 hw
    rw [(hprints t ht).resolve_eq] at hresolve
    exact ⟨t, ht, (Option.some.inj hresolve).symm⟩
  · rintro ⟨t, ht, rfl⟩
    exact ⟨printed written t, List.mem_map_of_mem ht, (hprints t ht).resolve_eq _⟩

theorem prints_bracketed (h : t.IsPrintable) : Prints (fun p => bracket (bare p.toList)) t where
  writes := by
    intro p hp
    have hplain := h.parts p hp
    rw [hplain.bracket_bare]
    apply Writes.bracketed hplain.tight
    intro c hc
    obtain ⟨hopen, hclose, hreturn, hfeed⟩ := hplain.inside
    have hne (d : Char) (hd : d ∉ p.toList) : c ≠ d := ne_of_mem_of_not_mem hc hd
    exact ⟨isInsideBrackets_iff.2 ⟨hne ']' hclose, hne '\r' hreturn, hne '\n' hfeed⟩,
      hne '[' hopen⟩
  silent := by
    intro p hp
    have hplain := h.parts p hp
    have hsilent := Comment.silent_of_not_infix hplain.line hplain.block
    have hclosed : Comment.Silent (p.toList ++ [']']) :=
      (Comment.silent_append_cons (by decide)).2 ⟨hsilent, List.isChain_nil⟩
    rw [hplain.bracket_bare, ← List.nil_append ('[' :: (p.toList ++ [']']))]
    exact (Comment.silent_append_cons (by decide)).2 ⟨List.isChain_nil, hclosed⟩
  lasting := h.lasting

theorem isAlphanum_of_isAlpha {c : Char} (h : c.isAlpha || c == '_') :
    c.isAlphanum || c == '_' := by
  rw [Char.isAlphanum, Bool.or_right_comm, h, Bool.true_or]

theorem toNat_lt_of_isAlphanum_or {c : Char} (h : c.isAlphanum || c == '_') : c.toNat < 128 := by
  rw [Bool.or_eq_true, beq_iff_eq] at h
  rcases h with h | rfl
  · exact toNat_lt_of_isAlphanum h
  · decide

theorem startsPlainPart_of_isAlpha {c : Char} (h : c.isAlpha || c == '_') :
    startsPlainPart c ∧ c ≠ '#' :=
  forall_ascii (fun c => (c.isAlpha || c == '_') → startsPlainPart c ∧ c ≠ '#')
    (by decide) c (toNat_lt_of_isAlphanum_or (isAlphanum_of_isAlpha h)) h

theorem continuesPlainPart_of_isAlphanum {c : Char} (h : c.isAlphanum || c == '_') :
    continuesPlainPart c ∧ c ∉ ['/', '*', '-'] :=
  forall_ascii
    (fun c => (c.isAlphanum || c == '_') → continuesPlainPart c ∧ c ∉ ['/', '*', '-'])
    (by decide) c (toNat_lt_of_isAlphanum_or h) h

theorem exists_of_isRegular (h : isRegular p) : ∃ c s, p.toList = c :: s ∧
    (c.isAlpha || c == '_') ∧ ∀ d ∈ c :: s, (d.isAlphanum || d == '_') = true := by
  rw [isRegular] at h
  split at h
  · exact Bool.noConfusion h
  · rename_i c s hp
    rw [Bool.and_eq_true, List.all_eq_true] at h
    obtain ⟨hstart, hmore⟩ := h
    exact ⟨c, s, hp, hstart, List.forall_mem_cons.2 ⟨isAlphanum_of_isAlpha hstart, hmore⟩⟩

theorem prints_dotted (h : ∀ p ∈ t.parts, isRegular p) : Prints String.toList t where
  writes := by
    intro p hp
    obtain ⟨c, s, hc, hstart, hall⟩ := exists_of_isRegular (h p hp)
    rw [hc]
    apply Writes.plain (startsPlainPart_of_isAlpha hstart).1
    intro d hd
    exact (continuesPlainPart_of_isAlphanum (hall d (List.mem_cons_of_mem c hd))).1
  silent := by
    intro p hp
    obtain ⟨c, s, hc, -, hall⟩ := exists_of_isRegular (h p hp)
    have hmeek : ∀ d ∈ c :: s, d ∉ ['/', '*', '-'] := fun d hd =>
      (continuesPlainPart_of_isAlphanum (hall d hd)).2
    rw [hc, ← List.append_nil (c :: s)]
    exact (Comment.silent_append_of_forall hmeek).2 List.isChain_nil
  lasting := by
    obtain ⟨c, s, hc, hstart, -⟩ := exists_of_isRegular (h t.table (by simp [parts]))
    rw [hc]
    exact fun heq => (startsPlainPart_of_isAlpha hstart).2 (Option.some.inj heq)

/-- References written one to a line, in brackets or, when all their parts are regular, without,
are the ones found. -/
theorem extract_printed (refs : List TableRef) (sql : String) (database : Option String)
    (table : TableRef) :
    ((∀ t ∈ refs, t.IsPrintable) →
      lines sql.toList = refs.map (fun t => ("SELECT * FROM " ++ t.bracketed).toList) →
      (table ∈ extract sql database ↔
        ∃ t ∈ refs, table = { t with database := t.database.or (usableDatabase database) })) ∧
    ((∀ t ∈ refs, ∀ p ∈ t.parts, isRegular p) →
      lines sql.toList = refs.map (fun t => ("SELECT * FROM " ++ t.dotted).toList) →
      (table ∈ extract sql database ↔
        ∃ t ∈ refs, table = { t with database := t.database.or (usableDatabase database) })) := by
  constructor
  · intro hrefs hlines
    apply mem_extract_printed fun t ht => prints_bracketed (hrefs t ht)
    simpa only [printed, String.toList_append, toList_bracketed] using hlines
  · intro hrefs hlines
    apply mem_extract_printed fun t ht => prints_dotted (hrefs t ht)
    simpa only [printed, String.toList_append, toList_dotted] using hlines

theorem extract_printed_twoLines :
    ((∀ t ∈ [⟨some "Sales DB", "dbo", "Order.Details"⟩, ⟨none, "dbo", "JOIN me"⟩],
        TableRef.IsPrintable t) ∧
      (⟨some "Live", "dbo", "JOIN me"⟩ : TableRef) ∈
        extract "SELECT * FROM [Sales DB].[dbo].[Order.Details]\r\nSELECT * FROM [dbo].[JOIN me]\n"
          (some " Live ")) ∧
    (∀ t ∈ [⟨some "Sales", "dbo", "Orders"⟩, ⟨none, "dbo", "FROM"⟩], ∀ p ∈ TableRef.parts t,
        isRegular p) ∧
      (⟨none, "dbo", "FROM"⟩ : TableRef) ∈
        extract "SELECT * FROM Sales.dbo.Orders\nSELECT * FROM dbo.FROM" none := by
  have hplain : ∀ t ∈ [⟨some "Sales DB", "dbo", "Order.Details"⟩, ⟨none, "dbo", "JOIN me"⟩],
      TableRef.IsPrintable t := by decide +kernel
  have hregular : ∀ t ∈ [⟨some "Sales", "dbo", "Orders"⟩, ⟨none, "dbo", "FROM"⟩],
      ∀ p ∈ TableRef.parts t, isRegular p := by decide +kernel
  refine ⟨⟨hplain, ?_⟩, hregular, ?_⟩
  · apply ((extract_printed _ _ _ _).1 hplain (by decide +kernel)).2
    exact ⟨⟨none, "dbo", "JOIN me"⟩, by simp, by decide +kernel⟩
  · apply ((extract_printed _ _ _ _).2 hregular (by decide +kernel)).2
    exact ⟨⟨none, "dbo", "FROM"⟩, by simp, by decide +kernel⟩

end TableScan

end IndexTuning.Sql
