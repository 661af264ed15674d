import IndexTuning.Proofs.ColumnGroups

namespace IndexTuning

open Sql Text

namespace MissingStat

variable {t : Thresholds} {row : MissingStat} {i : MissingIndex}

/-- The index has the name that its columns call for, within the length of an identifier, and its
suggestion read back says what the row says. -/
structure IsSuggestedBy (row : MissingStat) (i : MissingIndex) : Prop where
  short : i.name.length ≤ 128
  whole : row.indexName.length ≤ 128 → i.name = row.indexName
  cut : 128 < row.indexName.length → ∃ digits,
    i.name.toList = row.indexName.toList.take 119 ++ '_' :: digits ∧ digits.length = 8 ∧
    ∀ c ∈ digits, c ∈ "0123456789ABCDEF".toList
  keyed : row.keys ≠ []
  reads : ∃ d, IndexDefinition.read i.suggestion.toList = some d ∧ d.name = i.name.toList ∧
    Identifier.Unwraps row.database.toList d.database ∧
    Identifier.Unwraps row.schema.toList d.schema ∧
    Identifier.Unwraps row.table.toList d.table ∧
    d.keys = row.keys.map String.toList ∧ d.included = row.included.map String.toList
  clause : ∃ rest, IndexDefinition.behindKeys i.suggestion.toList = some rest ∧
    (") INCLUDE (".toList <+: rest ↔ row.included ≠ [])

/-- A name is cut only where it is too long, and what stands in brackets is what a server takes it
for. -/
theorem suggestion_isWellFormed (h : MissingIndex.classify? t row = some i) :
    row.IsSuggestedBy i := by
  obtain ⟨hne, rfl⟩ := classify?_eq_some_iff.1 h
  have hkeys : row.definition.keys ≠ [] := by simpa [definition] using hne
  constructor
  case short => exact Identifier.length_fit_le row.indexName
  case whole => exact Identifier.fit_of_le
  case cut =>
    intro hlong
    exact ⟨Identifier.mark row.indexName, Identifier.toList_fit_of_lt hlong,
      Identifier.length_mark _, fun c hc => Digest.mem_digits_of_mem_hex hc⟩
  case keyed => exact hne
  case reads =>
    exact ⟨row.definition, read_suggestion h, by rw [definition], Identifier.unwraps_bare _,
      Identifier.unwraps_bare _, Identifier.unwraps_bare _, rfl, rfl⟩
  case clause =>
    have hincludes := IndexDefinition.includes_ending_iff row.definition.included
    refine ⟨_, ?_, hincludes.trans (by simp [definition])⟩
    rw [toList_suggestion hne]
    exact IndexDefinition.behindKeys_text row.definition hkeys

def bracketed : MissingStat where
  database := "Sh]op"
  schema := " [d.b] "
  table := "T],[x"
  equalityColumns := some "[A], [B c]"
  inequalityColumns := none
  includedColumns := some "[D]"
  uniqueCompiles := 1
  seeks := 90000
  scans := 0
  averageCost := 2
  averageImpact := 95

theorem suggestion_isWellFormed_bracketed : ∃ i,
    MissingIndex.classify? {} bracketed = some i ∧ bracketed.IsSuggestedBy i ∧
    i.suggestion = "CREATE NONCLUSTERED INDEX [IX_T]],[x_A_B c] ON [Sh]]op].[d.b].[T]],[x] " ++
      "([A], [B c]) INCLUDE ([D]);" := by
  obtain ⟨i, hi, hsuggestion⟩ := exists_classify? {} bracketed (by decide)
  exact ⟨i, hi, suggestion_isWellFormed hi, hsuggestion.trans (by decide)⟩

end MissingStat

end IndexTuning
