import IndexTuning.Proofs.Answer.Section
import IndexTuning.Proofs.Sql.Script

namespace IndexTuning

namespace Text

variable {s word : List Char} {n : Nat} {needle : Needle}

/-- A character of the text begins at the offset, or the text ends there. -/
def IsBoundary (n : Nat) (s : List Char) : Prop := ∃ u v, s = u ++ v ∧ (utf8 u).length = n

namespace Needle

/-- The bytes at the offset are those of the needle up to the case of ASCII letters. -/
def StandsAt (needle : Needle) (s : List Char) (n : Nat) : Prop :=
  (((utf8 s).drop n).take needle.bytes.length).map lowerByte = needle.bytes.map lowerByte

theorem standsAt_iff : needle.StandsAt s n ↔ beginsWithBytes needle.bytes ((utf8 s).drop n) := by
  rw [StandsAt, beginsWithBytes_iff, List.prefix_iff_eq_take, List.length_map, ← List.map_take,
    eq_comm]

theorem find?_eq_some_iff : needle.find? s = some n ↔
    needle.StandsAt s n ∧ ∀ k < n, ¬ needle.StandsAt s k := by
  simp only [standsAt_iff]
  exact findBytes?_eq_some_iff needle.bytes_ne_nil

theorem find?_eq_none_iff : needle.find? s = none ↔ ∀ k, ¬ needle.StandsAt s k := by
  simp only [standsAt_iff]
  exact findBytes?_eq_none_iff needle.bytes_ne_nil

theorem StandsAt.exists_text (h : needle.StandsAt s n) (hbytes : needle.bytes = utf8 word) :
    ∃ u m v, s = u ++ (m ++ v) ∧ (utf8 u).length = n ∧
      (utf8 m).length = needle.bytes.length ∧ m.map Char.toLower = word.map Char.toLower := by
  have hword : word.map Char.toLower ≠ [] := by
    intro hnil
    obtain rfl := List.map_eq_nil_iff.1 hnil
    exact needle.bytes_ne_nil hbytes
  obtain ⟨y, hy⟩ := beginsWithBytes_iff.1 (standsAt_iff.1 h)
  have hn : n ≤ (utf8 s).length := by
    by_contra hlong
    rw [List.drop_eq_nil_of_le (by omega), List.map_nil] at hy
    exact needle.bytes_ne_nil (List.map_eq_nil_iff.1 (List.append_eq_nil_iff.1 hy).1)
  have hlower : utf8 (s.map Char.toLower) =
      ((utf8 s).take n).map lowerByte ++ (utf8 (word.map Char.toLower) ++ y) := by
    rw [← map_lowerByte_utf8, ← map_lowerByte_utf8, ← hbytes, hy, ← List.map_append,
      List.take_append_drop]
  obtain ⟨u', v', hs, hu'⟩ := exists_of_utf8_eq hword hlower
  obtain ⟨u, r, rfl, rfl, hr⟩ := List.map_eq_append_iff.1 hs
  obtain ⟨m, v, rfl, hm, -⟩ := List.map_eq_append_iff.1 hr
  refine ⟨u, m, v, rfl, ?_, ?_, hm⟩
  · rw [← length_utf8_map_toLower, hu', List.length_map, List.length_take, Nat.min_eq_left hn]
  · rw [length_utf8_of_map_toLower hm, hbytes]

theorem StandsAt.isBoundary (h : needle.StandsAt s n) (hbytes : needle.bytes = utf8 word) :
    IsBoundary n s ∧ IsBoundary (n + needle.bytes.length) s := by
  obtain ⟨u, m, v, rfl, hu, hm, -⟩ := h.exists_text hbytes
  refine ⟨⟨u, m ++ v, rfl, hu⟩, ⟨u ++ m, v, (List.append_assoc u m v).symm, ?_⟩⟩
  rw [utf8_append, List.length_append, hu, hm]

theorem ofString?_of_ne {word : String} (h : word ≠ "") :
    ∃ needle, ofString? word = some needle ∧ needle.bytes = utf8 word.toList := by
  have hbytes : utf8 word.toList ≠ [] := by
    intro hnil
    apply h
    cases hw : word.toList with
    | nil => exact String.toList_eq_nil_iff.1 hw
    | cons c w =>
        rw [hw, utf8_cons] at hnil
        exact absurd (List.append_eq_nil_iff.1 hnil).1 String.utf8EncodeChar_ne_nil
  exact ⟨⟨utf8 word.toList, hbytes⟩, dif_pos hbytes, rfl⟩

end Needle

end Text

namespace Answer

open Text

variable {s word : List Char} {n : Nat} {marker : Needle}

def IsBody (s body : List Char) : Prop :=
  (∃ r, s = body ++ (rule ++ r) ∧ ¬ rule <:+: body ++ rule.dropLast) ∨ (body = s ∧ ¬ rule <:+: s)

theorem isBody_upToRule (s : List Char) : IsBody s (upToRule s) := by
  by_cases h : rule <:+: s
  · obtain ⟨body, r, rfl, hbody⟩ := exists_first_place (by decide) h
    rw [upToRule_append hbody]
    exact Or.inl ⟨r, rfl, hbody⟩
  · exact Or.inr ⟨upToRule_of_absent h, h⟩

/-- The section, with a slice inside of a character told apart from a marker that is absent: there
is no value at all then. -/
def slicedSection? (marker : Needle) (text : List Char) : Option (Option (List Char)) :=
  match marker.find? text with
  | none => some none
  | some start =>
    (dropBytes? (start + marker.bytes.length) text).map fun rest => some (trim (upToRule rest))

theorem slicedSection?_of_find? {u v : List Char} (hfind : marker.find? (u ++ v) = some n)
    (hu : (utf8 u).length = n + marker.bytes.length) :
    slicedSection? marker (u ++ v) = some (some (trim (upToRule v))) := by
  rw [slicedSection?, hfind]
  dsimp only
  rw [← hu, dropBytes?_append, Option.map_some]

/-- What the search for a marker gives, and what is cut out of the text with it. -/
structure IsCutWhole (marker : Needle) (text : List Char) : Prop where
  found : ∀ n, marker.find? text = some n ↔
    marker.StandsAt text n ∧ ∀ k < n, ¬ marker.StandsAt text k
  absent : marker.find? text = none ↔ ∀ n, ¬ marker.StandsAt text n
  boundaries : ∀ n, marker.find? text = some n →
    IsBoundary n text ∧ IsBoundary (n + marker.bytes.length) text
  sliced : slicedSection? marker text = some (sectionAfter? marker text)
  unmarked : marker.find? text = none → sectionAfter? marker text = none
  marked : ∀ n, marker.find? text = some n → ∃ u v body, text = u ++ v ∧
    (utf8 u).length = n + marker.bytes.length ∧ IsBody v body ∧
    sectionAfter? marker text = some (trim body)

theorem isCutWhole (hbytes : marker.bytes = utf8 word) (text : List Char) :
    IsCutWhole marker text := by
  have hboundaries {n : Nat} (hn : marker.find? text = some n) :
      IsBoundary n text ∧ IsBoundary (n + marker.bytes.length) text :=
    (Needle.find?_eq_some_iff.1 hn).1.isBoundary hbytes
  have hnone (h : marker.find? text = none) : sectionAfter? marker text = none := by
    rw [sectionAfter?, h]
    rfl
  refine ⟨fun n => Needle.find?_eq_some_iff, Needle.find?_eq_none_iff, fun n => hboundaries, ?_,
    hnone, ?_⟩
  · cases h : marker.find? text with
    | none => rw [hnone h, slicedSection?, h]
    | some n =>
        obtain ⟨-, u, v, rfl, hu⟩ := hboundaries h
        rw [slicedSection?_of_find? h hu, sectionAfter?_append h hu.symm]
  · intro n hn
    obtain ⟨-, u, v, rfl, hu⟩ := hboundaries hn
    exact ⟨u, v, upToRule v, rfl, hu, isBody_upToRule v, sectionAfter?_append hn hu.symm⟩

end Answer

namespace Sql.Statement

open Text

/-- Reads a line as `isSeparator` does, by its bytes. There is no value where the line would be
sliced inside of a character. -/
def slicedSeparator? (line : List Char) : Option Bool :=
  let t := trim line
  if beginsWith "GO" (String.ofList t) then
    (dropBytes? 2 t).map fun rest => (trim rest).all Char.isDigit
  else some false

theorem beginsWith_go {t : List Char} : beginsWith "GO" (String.ofList t) ↔
    ∃ c d v, t = c :: d :: v ∧ c.toLower = 'g' ∧ d.toLower = 'o' := by
  rw [beginsWith, beginsWithBytes_utf8_iff, String.toList_ofList (l := t)]
  constructor
  · rintro ⟨m, v, rfl, hm⟩
    obtain ⟨c, m, rfl, hc, hm⟩ := List.map_eq_cons_iff.1 hm
    obtain ⟨d, m, rfl, hd, hm⟩ := List.map_eq_cons_iff.1 hm
    obtain rfl := List.map_eq_nil_iff.1 hm
    exact ⟨c, d, v, rfl, hc, hd⟩
  · rintro ⟨c, d, v, rfl, hc, hd⟩
    refine ⟨[c, d], v, rfl, ?_⟩
    rw [List.map_cons, List.map_cons, hc, hd]
    rfl

theorem dropBytes?_go {c d : Char} (hc : c.toLower = 'g') (hd : d.toLower = 'o') (v : List Char) :
    dropBytes? 2 (c :: d :: v) = some v := by
  have hlower : [c, d].map Char.toLower = "GO".toList.map Char.toLower := by
    rw [List.map_cons, List.map_cons, hc, hd]
    rfl
  have hlength : (utf8 [c, d]).length = 2 := length_utf8_of_map_toLower hlower
  rw [← hlength]
  exact dropBytes?_append [c, d] v

theorem slicedSeparator?_eq (line : List Char) : slicedSeparator? line = some (isSeparator line) := by
  by_cases h : beginsWith "GO" (String.ofList (trim line))
  · obtain ⟨c, d, v, ht, hc, hd⟩ := beginsWith_go.1 h
    rw [slicedSeparator?, if_pos h, ht, dropBytes?_go hc hd, Option.map_some, isSeparator, ht]
    simp [hc, hd]
  · have hnot : isSeparator line = false := by
      rw [← Bool.not_eq_true]
      intro hsep
      obtain ⟨c, d, v, ht, hc, hd, -⟩ := exists_of_isSeparator hsep
      exact h (beginsWith_go.2 ⟨c, d, v, ht, hc, hd⟩)
    rw [slicedSeparator?, if_neg h, hnot]

end Sql.Statement

open Text Answer Sql.Statement

/-- No search for the bytes of a word leads to a slice inside of a character. -/
theorem slices_areWhole :
    (∀ word : String, word ≠ "" → ∃ marker, Needle.ofString? word = some marker ∧
      marker.bytes = utf8 word.toList ∧ ∀ text, IsCutWhole marker text) ∧
    ∀ line, slicedSeparator? line = some (isSeparator line) := by
  refine ⟨fun word hword => ?_, slicedSeparator?_eq⟩
  obtain ⟨marker, hmarker, hbytes⟩ := Needle.ofString?_of_ne hword
  exact ⟨marker, hmarker, hbytes, isCutWhole hbytes⟩

def umlauts : List Char := "Äpfel: === größe ===\n ≥ 3 € \n=== Ende".toList

def umlautMarker : Needle := ⟨utf8 "=== Größe ===".toList, by decide +kernel⟩

theorem slices_areWhole_umlauts :
    "=== Größe ===" ≠ "" ∧ Needle.ofString? "=== Größe ===" = some umlautMarker ∧
    umlautMarker.find? umlauts = some 8 ∧ umlautMarker.bytes.length = 15 ∧
    (IsBoundary 8 umlauts ∧ IsBoundary 23 umlauts) ∧
    slicedSection? umlautMarker umlauts = some (some "≥ 3 €".toList) ∧
    slicedSeparator? " Go 5\n".toList = some true ∧ slicedSeparator? "Gö".toList = some false := by
  have hne : "=== Größe ===" ≠ "" := by decide
  have hmarker : Needle.ofString? "=== Größe ===" = some umlautMarker :=
    dif_pos umlautMarker.bytes_ne_nil
  have hfind : umlautMarker.find? umlauts = some 8 := by decide +kernel
  have hlength : umlautMarker.bytes.length = 15 := by decide +kernel
  obtain ⟨marker, hword, -, hcut⟩ := slices_areWhole.1 "=== Größe ===" hne
  obtain rfl : umlautMarker = marker := Option.some.inj (hmarker.symm.trans hword)
  have hboundaries := (hcut umlauts).boundaries 8 hfind
  rw [hlength] at hboundaries
  refine ⟨hne, hmarker, hfind, hlength, hboundaries, ?_, ?_, ?_⟩
  · rw [(hcut umlauts).sliced]
    decide +kernel
  · rw [slices_areWhole.2]
    decide +kernel
  · rw [slices_areWhole.2]
    decide +kernel

end IndexTuning
