import IndexTuning.Proofs.Scripts
import IndexTuning.Proofs.Sql.Fit
import IndexTuning.Proofs.Text.Search

namespace IndexTuning

open Sql Text

namespace Sql.Identifier

variable {group : String} {column : String}

theorem ofGroup_spec (h : column ∈ ofGroup group) :
    Tight column.toList ∧ ∀ c ∈ column.toList, isBracket c = false ∧ c ≠ ',' := by
  rw [ofGroup] at h
  obtain ⟨t, ht, rfl⟩ := List.mem_map.1 h
  obtain ⟨ht, hne⟩ := List.mem_filter.1 ht
  obtain ⟨piece, hpiece, rfl⟩ := List.mem_map.1 ht
  obtain ⟨hcomma, hmem⟩ := mem_of_mem_splitAtChar hpiece
  rw [String.toList_ofList]
  refine ⟨tight_trim (of_decide_eq_true hne), fun c hc => ?_⟩
  have hc' := mem_of_mem_trimWhere hc
  have hbracket := (List.mem_filter.1 (hmem c hc')).2
  refine ⟨by simpa using hbracket, ?_⟩
  rintro rfl
  exact hcomma hc'

theorem bare_column (h : column ∈ ofGroup group) : bare column.toList = column.toList := by
  obtain ⟨htight, hchars⟩ := ofGroup_spec h
  apply bare_of_tight htight
  intro hhead
  have hopen := (hchars '[' (List.mem_of_head? hhead)).1
  exact absurd hopen (by decide)

theorem ofGroup_of_plain (htight : Tight column.toList)
    (h : ∀ c ∈ column.toList, isBracket c = false ∧ c ≠ ',') : ofGroup column = [column] := by
  have hcomma : ',' ∉ column.toList := fun hmem => (h ',' hmem).2 rfl
  have hbrackets : (column.toList.filter fun c => !isBracket c) = column.toList :=
    List.filter_eq_self.2 fun c hc => by simp [(h c hc).1]
  simp [ofGroup, hbrackets, splitAtChar_of_not_mem hcomma, htight.trim_eq, htight.ne_nil]

end Sql.Identifier

namespace MissingIndex

variable {keys equality inequality : List String}

def joinedName (table : String) (keys : List String) : String :=
  "IX_" ++ table ++ "_" ++ "_".intercalate keys

/-- A name does not show where the equality columns end. -/
theorem indexName_eq (table : String) (h : equality ++ inequality ≠ []) :
    indexName table equality inequality =
      Identifier.fit (joinedName table (equality ++ inequality)) := by
  simp only [indexName, joinedName]
  by_cases he : equality = []
  · have hi : inequality ≠ [] := by
      rintro rfl
      exact h (by rw [he, List.nil_append])
    rw [if_pos he, if_neg hi, he, List.nil_append, String.append_empty, ← String.append_assoc]
  · by_cases hi : inequality = []
    · rw [if_neg he, if_pos hi, hi, List.append_nil, String.append_empty, ← String.append_assoc]
    · rw [if_neg he, if_neg hi, String.intercalate_append_of_ne_nil he hi]
      simp only [String.append_assoc]

theorem tight_joinedName (table : String) (hne : keys ≠ []) (h : ∀ c ∈ keys, Tight c.toList) :
    Tight (joinedName table keys).toList := by
  have hkeys : Solid ("_".intercalate keys).toList.reverse := by
    induction keys with
    | nil => exact absurd rfl hne
    | cons c cs ih =>
        by_cases hcs : cs = []
        · rw [hcs, String.intercalate_singleton]
          exact (h c List.mem_cons_self).2
        · rw [String.intercalate_cons_of_ne_nil hcs, String.toList_append, List.reverse_append]
          exact (ih hcs fun d hd => h d (List.mem_cons_of_mem c hd)).append
  have hstart : Solid "IX_".toList := by decide
  rw [joinedName, String.toList_append, String.toList_append, String.toList_append]
  exact Tight.append (hstart.append.append) hkeys

theorem head?_joinedName (table : String) (keys : List String) :
    (joinedName table keys).toList.head? = some 'I' := by
  simp [joinedName]

theorem bare_fit_joinedName (table : String) (hne : keys ≠ []) (h : ∀ c ∈ keys, Tight c.toList) :
    Identifier.bare (Identifier.fit (joinedName table keys)).toList =
      (Identifier.fit (joinedName table keys)).toList := by
  apply Identifier.bare_of_tight (Identifier.tight_fit (tight_joinedName table hne h))
  rw [Identifier.head?_fit, head?_joinedName]
  decide

end MissingIndex

namespace MissingStat

variable {t : Thresholds} {row : MissingStat} {i : MissingIndex}

def keys (row : MissingStat) : List String :=
  MissingIndex.columns row.equalityColumns ++ MissingIndex.columns row.inequalityColumns

def included (row : MissingStat) : List String := MissingIndex.columns row.includedColumns

def indexName (row : MissingStat) : String := MissingIndex.joinedName row.table row.keys

def suggestion (row : MissingStat) : String :=
  MissingIndex.createStatement (Identifier.fit row.indexName) row.database row.schema row.table
    row.keys row.included

theorem exists_group_of_mem_keys {c : String} (h : c ∈ row.keys) :
    ∃ group, c ∈ Identifier.ofGroup group :=
  (List.mem_append.1 h).elim (⟨_, ·⟩) (⟨_, ·⟩)

theorem tight_of_mem_keys {c : String} (h : c ∈ row.keys) : Tight c.toList := by
  obtain ⟨group, hc⟩ := exists_group_of_mem_keys h
  exact (Identifier.ofGroup_spec hc).1

theorem classify?_eq_some_iff : MissingIndex.classify? t row = some i ↔ row.keys ≠ [] ∧
    i = { database := row.database
          schema := row.schema
          table := row.table
          name := Identifier.fit row.indexName
          seeks := row.seeks
          averageCost := row.averageCost
          averageImpact := row.averageImpact
          estimatedSizeKb := MissingIndex.estimateSizeKb row.seeks row.averageCost
          action := .forCounts t row.seeks row.averageImpact
          suggestion := row.suggestion } := by
  by_cases h : row.keys = []
  · have hgroups := List.append_eq_nil_iff.1 h
    simp [MissingIndex.classify?, hgroups, h]
  · have hgroups := mt List.append_eq_nil_iff.2 h
    have hname := MissingIndex.indexName_eq row.table h
    rw [MissingIndex.classify?]
    simp only [if_neg hgroups, hname, Option.some.injEq]
    rw [eq_comm]
    exact ⟨fun hi => ⟨h, hi⟩, fun hi => hi.2⟩

theorem names_suggestion (h : MissingIndex.classify? t row = some i) :
    Identifier.names i.suggestion.toList = (Identifier.fit row.indexName).toList ::
      (Identifier.bares [row.database, row.schema, row.table] ++
        (row.keys ++ row.included).map String.toList) := by
  obtain ⟨hne, rfl⟩ := classify?_eq_some_iff.1 h
  have hname := MissingIndex.bare_fit_joinedName row.table hne fun _ => tight_of_mem_keys
  have hcolumns : Identifier.bares (row.keys ++ row.included) =
      (row.keys ++ row.included).map String.toList := by
    apply List.map_congr_left
    intro c hc
    rcases List.mem_append.1 hc with hc | hc
    · obtain ⟨group, hc⟩ := exists_group_of_mem_keys hc
      exact Identifier.bare_column hc
    · exact Identifier.bare_column hc
  rw [suggestion, (MissingIndex.spells_createStatement _ _ _ _ hne _).names_eq, ← hcolumns]
  simp only [Identifier.bares, List.map_append, List.map_cons, List.map_nil, indexName, hname]
  rfl

end MissingStat

end IndexTuning
