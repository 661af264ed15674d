import IndexTuning.Proofs.Text.Scan
import IndexTuning.Sql.ColumnUsage
import IndexTuning.Sql.Identifier

namespace IndexTuning.Sql.ColumnUsage

open Text

variable {sql word name : List Char}

/-- The word stands in the text, in any case and with a word boundary at either end. -/
def Mentions (sql word : List Char) : Prop :=
  ∃ u w v, sql = u ++ (w ++ v) ∧ w.map fold = word.map fold ∧
    isWordBoundary u.getLast? w.head? ∧ isWordBoundary w.getLast? v.head?

theorem startsWith_iff {before : Option Char} {s : List Char} (hne : word ≠ []) :
    startsWith word before s ↔ ∃ w v, s = w ++ v ∧ w.map fold = word.map fold ∧
      isWordBoundary before w.head? ∧ isWordBoundary w.getLast? v.head? := by
  have hhead {w v : List Char} (hw : w.map fold = word.map fold) : (w ++ v).head? = w.head? := by
    cases w with
    | nil => exact absurd (List.map_eq_nil_iff.1 hw.symm) hne
    | cons c w => rfl
  rw [startsWith, Bool.and_eq_true]
  constructor
  · rintro ⟨hbefore, hdrop⟩
    cases hd : dropFolded? word s with
    | none =>
        rw [hd] at hdrop
        exact absurd hdrop (by simp)
    | some v =>
        obtain ⟨w, rfl, hw⟩ := dropFolded?_eq_some.1 hd
        rw [hd] at hdrop
        simp only [Scanner.consumed_append] at hdrop
        rw [hhead hw] at hbefore
        exact ⟨w, v, rfl, hw, hbefore, hdrop⟩
  · rintro ⟨w, v, rfl, hw, hbefore, hafter⟩
    rw [dropFolded?_eq_some.2 ⟨w, rfl, hw⟩, hhead hw]
    simp only [Scanner.consumed_append]
    exact ⟨hbefore, hafter⟩

theorem mentionedAfter_iff {before : Option Char} (hne : word ≠ []) :
    mentionedAfter word before sql ↔ ∃ u w v, sql = u ++ (w ++ v) ∧ w.map fold = word.map fold ∧
      isWordBoundary (u.getLast?.or before) w.head? ∧ isWordBoundary w.getLast? v.head? := by
  induction sql generalizing before with
  | nil =>
      rw [mentionedAfter, startsWith_iff hne]
      constructor
      · rintro ⟨w, v, hs, h⟩
        exact ⟨[], w, v, hs, h⟩
      · rintro ⟨u, w, v, hs, h⟩
        obtain ⟨rfl, hnil⟩ := List.append_eq_nil_iff.1 hs.symm
        exact ⟨w, v, hnil.symm, h⟩
  | cons c s ih =>
      rw [mentionedAfter, Bool.or_eq_true, startsWith_iff hne, ih]
      constructor
      · rintro (⟨w, v, hs, h⟩ | ⟨u, w, v, rfl, hw, hbefore, hafter⟩)
        · exact ⟨[], w, v, hs, h⟩
        · refine ⟨c :: u, w, v, rfl, hw, ?_, hafter⟩
          rw [List.getLast?_cons]
          cases hu : u.getLast? <;> simpa [hu] using hbefore
      · rintro ⟨u, w, v, hs, hw, hbefore, hafter⟩
        cases u with
        | nil => exact Or.inl ⟨w, v, hs, hw, hbefore, hafter⟩
        | cons d u =>
            obtain ⟨rfl, rfl⟩ := List.cons_eq_cons.1 hs
            refine Or.inr ⟨u, w, v, rfl, hw, ?_, hafter⟩
            rw [List.getLast?_cons] at hbefore
            cases hu : u.getLast? <;> simpa [hu] using hbefore

theorem mentioned_iff (hne : word ≠ []) : mentioned word sql ↔ Mentions sql word := by
  rw [mentioned, mentionedAfter_iff hne]
  simp only [Option.or_none, Mentions]

theorem isUsed_iff {table : List Char} : isUsed sql table name ↔
    name ≠ [] ∧ (Mentions sql (table ++ '.' :: name) ∨ Mentions sql name) := by
  by_cases hne : name = []
  · simp [isUsed, hne]
  · simp [isUsed, hne, mentioned_iff]

theorem Mentions.length_le (h : Mentions sql word) : word.length ≤ sql.length := by
  obtain ⟨u, w, v, rfl, hw, -, -⟩ := h
  have hlength := congrArg List.length hw
  simp only [List.length_map] at hlength
  simp only [List.length_append]
  omega

theorem isWordBoundary_comm (a b : Option Char) : isWordBoundary a b = isWordBoundary b a :=
  bne_comm

theorem Mentions.reverse (h : Mentions sql word) : Mentions sql.reverse word.reverse := by
  obtain ⟨u, w, v, rfl, hw, hbefore, hafter⟩ := h
  refine ⟨v.reverse, w.reverse, u.reverse, by simp, ?_, ?_, ?_⟩
  · rw [List.map_reverse, List.map_reverse, hw]
  · rwa [List.getLast?_reverse, List.head?_reverse, isWordBoundary_comm]
  · rwa [List.getLast?_reverse, List.head?_reverse, isWordBoundary_comm]

def IsBracketed (sql name : List Char) : Prop := '[' :: (name ++ [']']) <:+: sql

/-- The name begins and ends in a word character. -/
def HasWordEnds (name : List Char) : Prop := name.head?.any isWord ∧ name.getLast?.any isWord

instance (name : List Char) : Decidable (HasWordEnds name) := inferInstanceAs (Decidable (_ ∧ _))

theorem HasWordEnds.mentions (h : HasWordEnds name) (hb : IsBracketed sql name) :
    Mentions sql name := by
  have hopen : isWord '[' = false := by decide
  have hclose : isWord ']' = false := by decide
  obtain ⟨u, v, rfl⟩ := hb
  refine ⟨u ++ ['['], name, ']' :: v, by simp, rfl, ?_, ?_⟩
  · rw [List.getLast?_concat, isWordBoundary, Option.any_some, hopen, h.1]
    rfl
  · rw [List.head?_cons, isWordBoundary, Option.any_some, hclose, h.2]
    rfl

theorem toNat_of_isBracket {c : Char} (h : isBracket c) : c.toNat = 91 ∨ c.toNat = 93 := by
  simp only [isBracket, Bool.or_eq_true, beq_iff_eq] at h
  rcases h with rfl | rfl
  · exact Or.inl rfl
  · exact Or.inr rfl

theorem isWord_of_isBracket {c : Char} (h : isBracket c) : isWord c = false := by
  simp only [isBracket, Bool.or_eq_true, beq_iff_eq] at h
  rcases h with rfl | rfl <;> decide

theorem isBracket_of_fold {c d : Char} (h : fold c = fold d) (hd : isBracket d) : isBracket c := by
  have hfold : fold d = d := by
    simp only [isBracket, Bool.or_eq_true, beq_iff_eq] at hd
    rcases hd with rfl | rfl <;> decide
  rw [hfold] at h
  have hcode := toNat_of_isBracket hd
  rw [← h] at hcode hd
  by_cases hc : c.toNat < 128
  · exact forall_ascii (fun c => isBracket (fold c) → isBracket c) (by decide) c hc hd
  · rcases toNat_of_fold_lt (Nat.le_of_not_lt hc) (by omega) (by omega) with hn | hn
    all_goals
      rw [← Char.ofNat_toNat c, hn] at hd
      exact absurd hd (by decide +kernel)

theorem eq_of_concat_eq_cons {α : Type} {x y : α} {s : List α} (h : s ++ [y] = x :: s) :
    x = y := by
  induction s generalizing x with
  | nil => exact (List.cons_eq_cons.1 h).1.symm
  | cons z s ih =>
      obtain ⟨rfl, htail⟩ := List.cons_eq_cons.1 h
      exact ih htail

/-- A name that does not begin in a word character is not mentioned by standing between brackets,
nor in a text like this one. -/
theorem not_mentions_bracketed {c x y sep : Char} {t : List Char} (hc : isWord c = false)
    (hx : isBracket x) (hy : isBracket y) (hsep : isWord sep = false) (hne : fold sep ≠ fold c) :
    ¬ Mentions ('a' :: sep :: x :: (c :: t ++ [y])) (c :: t) := by
  have hxw := isWord_of_isBracket hx
  rintro ⟨u, w, v, hs, hw, hbefore, -⟩
  obtain ⟨d, w, rfl⟩ := List.exists_cons_of_ne_nil (show w ≠ [] by rintro rfl; simp at hw)
  obtain ⟨hd, hw⟩ := List.cons_eq_cons.1 hw
  have hlength := congrArg List.length hw
  simp only [List.length_map] at hlength
  -- where the name is found decides which characters meet at its beginning
  match u with
  | [] =>
      obtain ⟨rfl, -⟩ := List.cons_eq_cons.1 hs
      have := isWord_of_isLatinLetter (isLatinLetter_of_fold (c := c) hd.symm (by decide))
      rw [hc] at this
      exact absurd this (by decide)
  | [_] =>
      obtain ⟨-, hs⟩ := List.cons_eq_cons.1 hs
      obtain ⟨rfl, -⟩ := List.cons_eq_cons.1 hs
      exact hne hd
  | [_, _] =>
      simp only [List.cons_append, List.nil_append, List.cons.injEq] at hs
      obtain ⟨-, rfl, rfl, -⟩ := hs
      simp [isWordBoundary, hsep, hxw] at hbefore
  | [_, _, _] =>
      simp only [List.cons_append, List.nil_append, List.cons.injEq] at hs
      obtain ⟨-, -, rfl, rfl, -⟩ := hs
      simp [isWordBoundary, hc, hxw] at hbefore
  | [_, _, _, _] =>
      simp only [List.cons_append, List.nil_append, List.cons.injEq] at hs
      obtain ⟨-, -, -, rfl, hs⟩ := hs
      obtain rfl : v = [] := by
        have := congrArg List.length hs
        simp only [List.length_append, List.length_cons, List.length_nil] at this
        exact List.length_eq_zero_iff.1 (by omega)
      rw [List.append_nil] at hs
      have hshift := congrArg (List.map fold) hs
      rw [List.map_append, List.map_singleton, List.map_cons, hd, hw] at hshift
      have hdy : fold d = fold y := hd.trans (eq_of_concat_eq_cons hshift)
      simp [isWordBoundary, hc, isWord_of_isBracket (isBracket_of_fold hdy hy)] at hbefore
  | _ :: _ :: _ :: _ :: _ :: u =>
      have := congrArg List.length hs
      simp only [List.length_cons, List.length_append, List.length_nil] at this
      omega

theorem exists_separator (c : Char) : ∃ sep, isWord sep = false ∧ fold sep ≠ fold c := by
  by_cases h : fold '.' = fold c
  · refine ⟨',', by decide, ?_⟩
    rw [← h]
    decide
  · exact ⟨'.', by decide, h⟩

theorem mentions_singleton {c sep : Char} {s : List Char} (hc : isWord c)
    (hsep : isWord sep = false) : Mentions (c :: sep :: s) [c] :=
  ⟨[], [c], sep :: s, rfl, rfl, by simp [isWordBoundary, hc], by simp [isWordBoundary, hc, hsep]⟩

/-- Unless a name begins and ends in a word character, a text can have it in brackets without
mentioning it, and mention another name. -/
theorem exists_unmentioned (h : ¬ HasWordEnds name) :
    ∃ sql, IsBracketed sql name ∧ Mentions sql ['a'] ∧ (name ≠ [] → ¬ Mentions sql name) := by
  have ha : isWord 'a' := by decide
  rcases Classical.not_and_iff_not_or_not.1 h with h | h
  · obtain ⟨sep, hsep, hne⟩ := exists_separator (name.headD 'a')
    refine ⟨'a' :: sep :: '[' :: (name ++ [']']), ⟨['a', sep], [], by simp⟩,
      mentions_singleton ha hsep, ?_⟩
    intro hnil
    obtain ⟨c, t, rfl⟩ := List.exists_cons_of_ne_nil hnil
    exact not_mentions_bracketed (by simpa using h) rfl rfl hsep hne
  · -- the same text read from the right
    rw [← List.head?_reverse] at h
    obtain ⟨sep, hsep, hne⟩ := exists_separator (name.reverse.headD 'a')
    refine ⟨('a' :: sep :: ']' :: (name.reverse ++ ['['])).reverse, ⟨[], [sep, 'a'], by simp⟩,
      (mentions_singleton ha hsep).reverse, ?_⟩
    intro hnil hm
    have hm := hm.reverse
    rw [List.reverse_reverse] at hm
    obtain ⟨c, t, hrev⟩ := List.exists_cons_of_ne_nil (List.reverse_ne_nil_iff.2 hnil)
    rw [hrev] at h hm hne
    exact not_mentions_bracketed (by simpa using h) rfl rfl hsep hne hm

/-- A column of this name is described wherever the name stands in brackets. -/
def IsNeverStarved (name : String) : Prop :=
  ∀ (columns : List Column) (sql table : String), ∀ c ∈ columns, c.name = name →
    IsBracketed sql.toList name.toList → c.describe ∈ filter columns sql table

theorem filter_eq (columns : List Column) (sql table : String) :
    ∃ kept, kept.Sublist columns ∧ filter columns sql table = kept.map Column.describe ∧
      (kept = [] → columns = []) ∧
      ∀ c ∈ columns, isUsed sql.toList table.toList c.name.toList → c ∈ kept := by
  rw [filter]
  split
  · rename_i hnone
    exact ⟨columns, List.Sublist.refl columns, rfl, id, fun c hc _ => hc⟩
  · rename_i used hsome
    refine ⟨_, List.filter_sublist, rfl, fun h => absurd h hsome, ?_⟩
    intro c hc hused
    exact List.mem_filter.2 ⟨hc, hused⟩

theorem HasWordEnds.isUsed {table : List Char} (h : HasWordEnds name) (hb : IsBracketed sql name) :
    isUsed sql table name := by
  refine isUsed_iff.2 ⟨?_, Or.inr (h.mentions hb)⟩
  rintro rfl
  exact absurd h.1 (by simp)

theorem isNeverStarved_iff (name : String) : IsNeverStarved name ↔ HasWordEnds name.toList := by
  constructor
  · intro hnever
    by_contra h
    obtain ⟨sql, hb, ha, hn⟩ := exists_unmentioned h
    -- the qualified name is longer than the text
    have hlong (column : List Char) : ¬ Mentions sql (sql ++ '.' :: column) := by
      intro hm
      have hle := hm.length_le
      simp only [List.length_append, List.length_cons] at hle
      omega
    have hunused : isUsed sql sql name.toList = false := by
      rw [← Bool.not_eq_true, isUsed_iff]
      rintro ⟨hne, hm | hm⟩
      · exact hlong _ hm
      · exact hn hne hm
    have hused : isUsed sql sql "a".toList :=
      isUsed_iff.2 ⟨by decide, Or.inr ha⟩
    have hfilter : filter [⟨name, "int"⟩, ⟨"a", "int"⟩] (String.ofList sql) (String.ofList sql) =
        [Column.describe ⟨"a", "int"⟩] := by
      simp only [filter, String.toList_ofList, List.filter_cons, List.filter_nil, hunused, hused]
      rfl
    have hmem := hnever [⟨name, "int"⟩, ⟨"a", "int"⟩] (String.ofList sql) (String.ofList sql)
      ⟨name, "int"⟩ List.mem_cons_self rfl (by rwa [String.toList_ofList])
    simp only [hfilter, List.mem_singleton, Column.describe, String.append_left_inj] at hmem
    subst hmem
    exact h ⟨by decide, by decide⟩
  · intro h columns sql table c hc hname hb
    obtain ⟨kept, -, hkept, -, hmem⟩ := filter_eq columns sql table
    rw [hkept]
    subst hname
    exact List.mem_map_of_mem (hmem c hc (h.isUsed hb))

/-- What is described are some of the columns in their order, and none of them only when there are
none. A column whose name begins and ends in a word character is among them when the name stands in
brackets; and only of such names this holds in every text. -/
theorem filter_keepsBracketed_iff (columns : List Column) (sql table name : String) :
    (∃ kept, kept.Sublist columns ∧ filter columns sql table = kept.map Column.describe ∧
      (kept = [] → columns = []) ∧
      ∀ c ∈ columns, HasWordEnds c.name.toList → IsBracketed sql.toList c.name.toList →
        c ∈ kept) ∧
    (IsNeverStarved name ↔ HasWordEnds name.toList) := by
  refine ⟨?_, isNeverStarved_iff name⟩
  obtain ⟨kept, hsublist, hkept, hempty, hmem⟩ := filter_eq columns sql table
  exact ⟨kept, hsublist, hkept, hempty, fun c hc h hb => hmem c hc (h.isUsed hb)⟩

def dueColumns : List Column := [⟨"Id", "int"⟩, ⟨"Due Date", "date"⟩, ⟨"Total %", "decimal"⟩]

theorem filter_keepsBracketed_dueDate :
    HasWordEnds "Due Date".toList ∧
    IsBracketed "SELECT [Due Date], Id FROM t".toList "Due Date".toList ∧
    "Due Date (date)" ∈ filter dueColumns "SELECT [Due Date], Id FROM t" "t" := by
  have hends : HasWordEnds "Due Date".toList := by decide
  have hb : IsBracketed "SELECT [Due Date], Id FROM t".toList "Due Date".toList :=
    ⟨"SELECT ".toList, ", Id FROM t".toList, by decide⟩
  refine ⟨hends, hb, ?_⟩
  obtain ⟨-, hnever⟩ :=
    filter_keepsBracketed_iff dueColumns "SELECT [Due Date], Id FROM t" "t" "Due Date"
  exact hnever.2 hends dueColumns _ "t" ⟨"Due Date", "date"⟩ (by decide) rfl hb

/-- A column is left out although the text has its name in brackets. -/
theorem filter_starvesTotal :
    (⟨"Total %", "decimal"⟩ : Column) ∈ dueColumns ∧
    IsBracketed "SELECT Id, [Total %] FROM t".toList "Total %".toList ∧
    filter dueColumns "SELECT Id, [Total %] FROM t" "t" = ["Id (int)"] :=
  ⟨by decide, ⟨"SELECT Id, ".toList, " FROM t".toList, by decide⟩, by decide +kernel⟩

end IndexTuning.Sql.ColumnUsage
