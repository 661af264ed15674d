import IndexTuning.Proofs.IndexNames
import IndexTuning.Proofs.Sql.IndexDefinition

namespace IndexTuning

open Sql Text

namespace Sql.Identifier

variable {n s t : List Char} {names : List (List Char)}

def decoded (s : List Char) : List (List Char) :=
  ((splitAtChar ',' (s.filter fun c => !isBracket c)).map trim).filter (· ≠ [])

theorem ofGroup_eq (group : String) :
    ofGroup group = (decoded group.toList).map String.ofList := rfl

theorem filter_doubleClosing (n : List Char) :
    (doubleClosing n).filter (fun c => !isBracket c) = n.filter fun c => !isBracket c := by
  have hclose : isBracket ']' = true := by decide
  induction n with
  | nil => rfl
  | cons c n ih =>
      rw [doubleClosing]
      split
      · rename_i hc
        subst hc
        simp [hclose, ih]
      · rw [List.filter_cons, List.filter_cons, ih]

theorem decoded_bracket (n : List Char) : decoded (bracket n) = decoded n := by
  have hfilter : (bracket n).filter (fun c => !isBracket c) = n.filter fun c => !isBracket c := by
    have hopen : isBracket '[' = true := by decide
    have hclose : isBracket ']' = true := by decide
    simp [bracket, hopen, hclose, filter_doubleClosing]
  rw [decoded, hfilter, decoded]

theorem map_trim_splitAtChar_blank (s : List Char) :
    (splitAtChar ',' (' ' :: s)).map trim = (splitAtChar ',' s).map trim := by
  obtain ⟨p, ps, hs⟩ := List.exists_cons_of_ne_nil (splitAtChar_ne_nil ',' s)
  have hblank : ∀ c ∈ [' '], isBlank c := List.forall_mem_singleton.2 (by decide)
  have htrim := trim_between (u := [' ']) (s := p) (v := []) hblank (List.forall_mem_nil _)
  rw [List.append_nil, List.singleton_append] at htrim
  rw [splitAtChar, if_neg (by decide), hs, List.map_cons, List.map_cons, htrim]

theorem decoded_append (s t : List Char) :
    decoded (s ++ (", ".toList ++ t)) = decoded s ++ decoded t := by
  have hcomma : isBracket ',' = false := by decide
  have hblank : isBracket ' ' = false := by decide
  have hfilter : (s ++ (", ".toList ++ t)).filter (fun c => !isBracket c) =
      (s.filter fun c => !isBracket c) ++ ',' :: ' ' :: t.filter fun c => !isBracket c := by
    simp [hcomma, hblank]
  rw [decoded, hfilter, splitAtChar_append_cons, List.map_append, map_trim_splitAtChar_blank,
    List.filter_append]
  rfl

theorem decoded_columnList (names : List (List Char)) :
    decoded (IndexDefinition.columnList names) = names.flatMap decoded := by
  induction names with
  | nil => decide
  | cons n names ih =>
      cases names with
      | nil =>
          rw [IndexDefinition.columnList, List.map_singleton, List.intercalate_singleton,
            decoded_bracket, List.flatMap_singleton]
      | cons m names =>
          rw [IndexDefinition.columnList_cons_cons, decoded_append, decoded_bracket, ih]
          exact List.flatMap_cons.symm

end Sql.Identifier

namespace MissingIndex

variable {keys included : List String}

theorem toList_quoted (columns : List String) :
    (quoted columns).toList = IndexDefinition.columnList (Identifier.bares columns) := by
  have hquote : (columns.map Identifier.quote).map String.toList =
      (Identifier.bares columns).map Identifier.bracket := by
    rw [Identifier.bares, List.map_map, List.map_map]
    exact List.map_congr_left fun c _ => Identifier.toList_quote c
  rw [quoted, String.toList_intercalate, hquote, IndexDefinition.columnList]

theorem toList_createStatement (name database schema table : String) (keys included : List String) :
    (createStatement name database schema table keys included).toList = IndexDefinition.text
      ⟨Identifier.bare name.toList, Identifier.bare database.toList, Identifier.bare schema.toList,
        Identifier.bare table.toList, Identifier.bares keys, Identifier.bares included⟩ := by
  have hnil : Identifier.bares included = [] ↔ included = [] := List.map_eq_nil_iff
  unfold createStatement IndexDefinition.text IndexDefinition.ending
  simp only [String.toList_append, List.append_assoc, Identifier.toList_quote, toList_quoted, hnil]
  split
  · rfl
  · simp only [String.toList_append, List.append_assoc, toList_quoted]
    rfl

end MissingIndex

namespace MissingStat

variable {t : Thresholds} {row : MissingStat} {i : MissingIndex} {group : Option String}
  {names equality inequality included : List String}

theorem bares_columns (h : ∀ c ∈ names, ∃ group, c ∈ Identifier.ofGroup group) :
    Identifier.bares names = names.map String.toList := by
  apply List.map_congr_left
  intro c hc
  obtain ⟨group, hgroup⟩ := h c hc
  exact Identifier.bare_column hgroup

def definition (row : MissingStat) : IndexDefinition where
  name := (Identifier.fit row.indexName).toList
  database := Identifier.bare row.database.toList
  schema := Identifier.bare row.schema.toList
  table := Identifier.bare row.table.toList
  keys := row.keys.map String.toList
  included := row.included.map String.toList

theorem toList_suggestion (hne : row.keys ≠ []) : row.suggestion.toList = row.definition.text := by
  have hname := MissingIndex.bare_fit_joinedName row.table hne fun _ => tight_of_mem_keys
  have hkeys : Identifier.bares row.keys = row.keys.map String.toList :=
    bares_columns fun c hc => exists_group_of_mem_keys hc
  have hincluded : Identifier.bares row.included = row.included.map String.toList :=
    bares_columns fun c hc => ⟨_, hc⟩
  rw [suggestion, MissingIndex.toList_createStatement, hkeys, hincluded, indexName, hname]
  rfl

theorem read_suggestion (h : MissingIndex.classify? t row = some i) :
    IndexDefinition.read i.suggestion.toList = some row.definition := by
  obtain ⟨hne, rfl⟩ := classify?_eq_some_iff.1 h
  have hkeys : row.definition.keys ≠ [] := by simpa [definition] using hne
  rw [toList_suggestion hne]
  exact IndexDefinition.read_text _ hkeys

theorem exists_classify? (t : Thresholds) (row : MissingStat) (h : row.keys ≠ []) :
    ∃ i, MissingIndex.classify? t row = some i ∧ i.suggestion = row.suggestion :=
  ⟨_, classify?_eq_some_iff.2 ⟨h, rfl⟩, rfl⟩

/-- The group lists the names in brackets, with a closing bracket doubled and commas between them.
Without names it is empty or missing. -/
def Renders (group : Option String) (names : List String) : Prop :=
  (group.getD "").toList = IndexDefinition.columnList (names.map String.toList)

instance : Decidable (Renders group names) := inferInstanceAs (Decidable (_ = _))

def decoded (names : List String) : List String := names.flatMap Identifier.ofGroup

theorem columns_of_renders (h : Renders group names) :
    MissingIndex.columns group = decoded names := by
  rw [MissingIndex.columns, Identifier.ofGroup_eq, h, Identifier.decoded_columnList,
    List.flatMap_map, List.map_flatMap]
  rfl

theorem keys_of_renders (hequality : Renders row.equalityColumns equality)
    (hinequality : Renders row.inequalityColumns inequality) :
    row.keys = decoded (equality ++ inequality) := by
  rw [keys, columns_of_renders hequality, columns_of_renders hinequality, decoded, decoded,
    decoded, List.flatMap_append]

def isPlain (name : String) : Bool := name.toList.all fun c => !isBracket c && c != ','

theorem isPlain_iff {name : String} :
    isPlain name ↔ ∀ c ∈ name.toList, isBracket c = false ∧ c ≠ ',' := by
  simp [isPlain]

theorem isPlain_of_mem_decoded {name : String} (h : name ∈ decoded names) : isPlain name := by
  obtain ⟨other, -, hname⟩ := List.mem_flatMap.1 h
  exact isPlain_iff.2 (Identifier.ofGroup_spec hname).2

theorem decoded_eq_self_iff (htight : ∀ name ∈ names, Tight name.toList) :
    decoded names = names ↔ ∀ name ∈ names, isPlain name := by
  constructor
  · intro h name hname
    rw [← h] at hname
    exact isPlain_of_mem_decoded hname
  · intro h
    induction names with
    | nil => rfl
    | cons name names ih =>
        obtain ⟨hname, hnames⟩ := List.forall_mem_cons.1 h
        obtain ⟨htight, htights⟩ := List.forall_mem_cons.1 htight
        rw [decoded, List.flatMap_cons, Identifier.ofGroup_of_plain htight (isPlain_iff.1 hname),
          ← decoded, ih htights hnames]
        rfl

/-- The names without their brackets, as far as anything is left of them. -/
def unbracketed (names : List String) : List String :=
  (names.map fun name => trimmed (Identifier.withoutBrackets name)).filter (· ≠ "")

theorem ofGroup_of_not_mem_comma {name : String} (h : ',' ∉ name.toList) :
    Identifier.ofGroup name = unbracketed [name] := by
  have hcomma : ',' ∉ name.toList.filter fun c => !isBracket c := fun hc =>
    h (List.mem_filter.1 hc).1
  rw [Identifier.ofGroup_eq, Identifier.decoded, splitAtChar_of_not_mem hcomma]
  by_cases htrim : trim (name.toList.filter fun c => !isBracket c) = []
  · simp [unbracketed, trimmed, Identifier.withoutBrackets, htrim]
  · simp [unbracketed, trimmed, Identifier.withoutBrackets, htrim, String.ofList_eq_empty_iff]

theorem decoded_eq_unbracketed (h : ∀ name ∈ names, ',' ∉ name.toList) :
    decoded names = unbracketed names := by
  induction names with
  | nil => rfl
  | cons name names ih =>
      obtain ⟨hname, hnames⟩ := List.forall_mem_cons.1 h
      rw [decoded, List.flatMap_cons, ← decoded, ih hnames, ofGroup_of_not_mem_comma hname,
        unbracketed, unbracketed, ← List.filter_append, ← List.map_append, unbracketed]
      rfl

theorem isPlain_iff_of_not_mem_comma {name : String} (h : ',' ∉ name.toList) :
    isPlain name ↔ '[' ∉ name.toList ∧ ']' ∉ name.toList := by
  rw [isPlain_iff]
  constructor
  · intro hall
    exact ⟨fun hc => absurd (hall _ hc).1 (by decide), fun hc => absurd (hall _ hc).1 (by decide)⟩
  · rintro ⟨hopen, hclose⟩ c hc
    have hne : c ≠ '[' ∧ c ≠ ']' := ⟨fun he => hopen (he ▸ hc), fun he => hclose (he ▸ hc)⟩
    refine ⟨?_, fun he => h (he ▸ hc)⟩
    rw [isBracket, beq_false_of_ne hne.1, beq_false_of_ne hne.2]
    rfl

theorem read_columns (hequality : Renders row.equalityColumns equality)
    (hinequality : Renders row.inequalityColumns inequality)
    (hincluded : Renders row.includedColumns included) (h : MissingIndex.classify? t row = some i) :
    ∃ d, IndexDefinition.read i.suggestion.toList = some d ∧
      d.keys = (decoded (equality ++ inequality)).map String.toList ∧
      d.included = (decoded included).map String.toList := by
  have hkeys := keys_of_renders hequality hinequality
  have hlist : row.included = decoded included := columns_of_renders hincluded
  exact ⟨row.definition, read_suggestion h, by rw [definition, hkeys], by rw [definition, hlist]⟩

/-- There is a suggestion exactly when the brackets of a key column leave a name. Its columns are
the names without brackets, and the names themselves exactly when there are no brackets in them. -/
theorem suggestion_columns_iff (t : Thresholds) (row : MissingStat)
    (hequality : Renders row.equalityColumns equality)
    (hinequality : Renders row.inequalityColumns inequality)
    (hincluded : Renders row.includedColumns included)
    (htight : ∀ name ∈ (equality ++ inequality) ++ included, Tight name.toList)
    (hcomma : ∀ name ∈ (equality ++ inequality) ++ included, ',' ∉ name.toList)
    (hne : equality ++ inequality ≠ []) :
    ((∃ i, MissingIndex.classify? t row = some i) ↔ unbracketed (equality ++ inequality) ≠ []) ∧
    (∀ i, MissingIndex.classify? t row = some i →
      ∃ d, IndexDefinition.read i.suggestion.toList = some d ∧
        d.keys = (unbracketed (equality ++ inequality)).map String.toList ∧
        d.included = (unbracketed included).map String.toList) ∧
    ((∃ i d, MissingIndex.classify? t row = some i ∧
        IndexDefinition.read i.suggestion.toList = some d ∧
        d.keys = (equality ++ inequality).map String.toList ∧
        d.included = included.map String.toList) ↔
      ∀ name ∈ (equality ++ inequality) ++ included, '[' ∉ name.toList ∧ ']' ∉ name.toList) := by
  obtain ⟨htightKeys, htightIncluded⟩ := List.forall_mem_append.1 htight
  obtain ⟨hcommaKeys, hcommaIncluded⟩ := List.forall_mem_append.1 hcomma
  have hkeys := keys_of_renders hequality hinequality
  have hexists : (∃ i, MissingIndex.classify? t row = some i) ↔
      decoded (equality ++ inequality) ≠ [] := by
    rw [← hkeys]
    constructor
    · rintro ⟨i, hi⟩
      exact (classify?_eq_some_iff.1 hi).1
    · exact fun h => (exists_classify? t row h).imp fun _ hi => hi.1
  have hread : ∀ i, MissingIndex.classify? t row = some i → _ :=
    fun i hi => read_columns hequality hinequality hincluded hi
  have hinjective : Function.Injective (List.map String.toList) :=
    List.map_injective_iff.2 fun _ _ => String.toList_inj.1
  have hplain : (∀ name ∈ (equality ++ inequality) ++ included,
      '[' ∉ name.toList ∧ ']' ∉ name.toList) ↔
        decoded (equality ++ inequality) = equality ++ inequality ∧ decoded included = included := by
    rw [decoded_eq_self_iff htightKeys, decoded_eq_self_iff htightIncluded, ← List.forall_mem_append]
    exact forall₂_congr fun name hname => (isPlain_iff_of_not_mem_comma (hcomma name hname)).symm
  rw [← decoded_eq_unbracketed hcommaKeys, ← decoded_eq_unbracketed hcommaIncluded, hplain]
  refine ⟨hexists, hread, ?_⟩
  constructor
  · rintro ⟨i, d, hi, hd, hdkeys, hdincluded⟩
    obtain ⟨d', hd', hkeys', hincluded'⟩ := hread i hi
    obtain rfl := Option.some.inj (hd.symm.trans hd')
    exact ⟨hinjective (hkeys'.symm.trans hdkeys), hinjective (hincluded'.symm.trans hdincluded)⟩
  · rintro ⟨hself, hself'⟩
    obtain ⟨i, hi⟩ := hexists.2 (by rwa [hself])
    obtain ⟨d, hd, hdkeys, hdincluded⟩ := hread i hi
    exact ⟨i, d, hi, hd, by rw [hdkeys, hself], by rw [hdincluded, hself']⟩

theorem suggestion_columns_dueDate : ∃ i d,
    MissingIndex.classify? {} (onOrders (some "[Id]") (some "[Due date], [Día]") (some "[Note]")) =
      some i ∧ IndexDefinition.read i.suggestion.toList = some d ∧
    d.keys = ["Id".toList, "Due date".toList, "Día".toList] ∧ d.included = ["Note".toList] := by
  have hequality : Renders (some "[Id]") ["Id"] := by decide
  have hinequality : Renders (some "[Due date], [Día]") ["Due date", "Día"] := by decide
  have hincluded : Renders (some "[Note]") ["Note"] := by decide
  have hiff := suggestion_columns_iff {}
    (onOrders (some "[Id]") (some "[Due date], [Día]") (some "[Note]")) hequality hinequality
    hincluded (by decide) (by decide) (by decide)
  exact hiff.2.2.2 (by decide)

/-- A closing bracket in a name is lost, and the suggestion is for a column of another name. -/
theorem suggestion_bracketedColumn :
    Tight "a]b".toList ∧ Renders (some "[a]]b]") ["a]b"] ∧
    ∃ i d, MissingIndex.classify? {} (onOrders (some "[a]]b]") none none) = some i ∧
      i.suggestion =
        "CREATE NONCLUSTERED INDEX [IX_Orders_ab] ON [Shop].[dbo].[Orders] ([ab]);" ∧
      IndexDefinition.read i.suggestion.toList = some d ∧ d.keys = ["ab".toList] ∧
      d.keys ≠ ["a]b".toList] := by
  obtain ⟨i, hi, hsuggestion⟩ :=
    exists_classify? {} (onOrders (some "[a]]b]") none none) (by decide)
  exact ⟨by decide, by decide, i, _, hi, hsuggestion.trans (by decide), read_suggestion hi,
    by decide, by decide⟩

/-- A name is cut at a comma, also inside its brackets. -/
theorem suggestion_commaColumn :
    Tight "Last, First".toList ∧ Renders (some "[Last, First]") ["Last, First"] ∧
    ∃ i d, MissingIndex.classify? {} (onOrders (some "[Last, First]") none none) = some i ∧
      IndexDefinition.read i.suggestion.toList = some d ∧
      d.keys = ["Last".toList, "First".toList] := by
  have hrenders : Renders (some "[Last, First]") ["Last, First"] := by decide
  have hnone : Renders none [] := by decide
  obtain ⟨i, hi, -⟩ :=
    exists_classify? {} (onOrders (some "[Last, First]") none none) (by decide)
  obtain ⟨d, hd, hkeys, -⟩ := read_columns hrenders hnone hnone hi
  exact ⟨by decide, hrenders, i, d, hi, hd, hkeys.trans (by decide)⟩

end MissingStat

end IndexTuning
