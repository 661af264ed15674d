import IndexTuning.Proofs.Text.Fold
import IndexTuning.Proofs.Text.Search
import IndexTuning.Text.Bytes
import Mathlib.Data.Nat.Find

namespace IndexTuning.Text

variable {a b : List Char} {c : Char} {n : Nat} {s t word : List UInt8}

theorem utf8_append (a b : List Char) : utf8 (a ++ b) = utf8 a ++ utf8 b := List.flatMap_append

theorem utf8_cons (c : Char) (a : List Char) : utf8 (c :: a) = String.utf8EncodeChar c ++ utf8 a :=
  List.flatMap_cons

theorem length_utf8_cons (c : Char) (a : List Char) :
    (utf8 (c :: a)).length = c.utf8Size + (utf8 a).length := by
  rw [utf8_cons, List.length_append, String.length_utf8EncodeChar]

theorem dropBytes?_append (a b : List Char) : dropBytes? (utf8 a).length (a ++ b) = some b := by
  induction a with
  | nil =>
      change dropBytes? 0 b = some b
      rw [dropBytes?]
  | cons c a ih =>
      have hpos := c.utf8Size_pos
      obtain ⟨n, hn⟩ : ∃ n, c.utf8Size + (utf8 a).length = n + 1 :=
        ⟨_, (Nat.sub_add_cancel (by omega)).symm⟩
      rw [length_utf8_cons, hn, List.cons_append, dropBytes?, if_pos (by omega), ← ih]
      congr 1
      omega

theorem beginsWithBytes_iff :
    beginsWithBytes word s ↔ word.map lowerByte <+: s.map lowerByte := by
  induction word generalizing s with
  | nil => simp [beginsWithBytes]
  | cons w word ih =>
      cases s with
      | nil => simp [beginsWithBytes]
      | cons b s => simp [beginsWithBytes, List.cons_prefix_cons, ih]

theorem findBytes?_eq_some_iff (hw : word ≠ []) : findBytes? word s = some n ↔
    beginsWithBytes word (s.drop n) ∧ ∀ k < n, ¬ beginsWithBytes word (s.drop k) := by
  induction s generalizing n with
  | nil =>
      obtain ⟨w, word, rfl⟩ := List.exists_cons_of_ne_nil hw
      simp [findBytes?, beginsWithBytes]
  | cons b s ih =>
      rw [findBytes?]
      by_cases hb : beginsWithBytes word (b :: s)
      · rw [if_pos hb, Option.some.injEq]
        constructor
        · rintro rfl
          exact ⟨hb, fun k hk => absurd hk (Nat.not_lt_zero k)⟩
        · rintro ⟨-, hbefore⟩
          by_contra hn
          exact hbefore 0 (Nat.pos_of_ne_zero (Ne.symm hn)) hb
      · rw [if_neg hb]
        cases n with
        | zero => simp [hb]
        | succ n =>
            rw [Nat.forall_lt_succ_left]
            simp [hb, ih]

theorem findBytes?_eq_none_iff (hw : word ≠ []) : findBytes? word s = none ↔
    ∀ k, ¬ beginsWithBytes word (s.drop k) := by
  constructor
  · intro hnone k hk
    -- Where the word stands at all, it stands at a least place, which is found.
    have hex : ∃ k, beginsWithBytes word (s.drop k) := ⟨k, hk⟩
    have hfirst := (findBytes?_eq_some_iff hw).2
      ⟨Nat.find_spec hex, fun j hj => Nat.find_min hex hj⟩
    rw [hnone] at hfirst
    exact absurd hfirst (by simp)
  · intro h
    rw [Option.eq_none_iff_forall_ne_some]
    intro n hn
    exact h n ((findBytes?_eq_some_iff hw).1 hn).1

theorem findBytes?_eq_none (h : ¬ word.map lowerByte <:+: s.map lowerByte) :
    findBytes? word s = none := by
  have hw : word ≠ [] := by
    rintro rfl
    exact h List.nil_infix
  rw [findBytes?_eq_none_iff hw]
  intro k hk
  have hbegins := beginsWithBytes_iff.1 hk
  rw [List.map_drop] at hbegins
  exact h (hbegins.isInfix.trans (List.drop_suffix k _).isInfix)

/-- A word is found where it stands when it does not begin before. -/
theorem findBytes?_append (hw : word ≠ []) (ht : word.map lowerByte <+: t.map lowerByte)
    (h : ¬ word.map lowerByte <:+: s.map lowerByte ++ (word.map lowerByte).dropLast) :
    findBytes? word (s ++ t) = some s.length := by
  rw [findBytes?_eq_some_iff hw, List.drop_left]
  refine ⟨beginsWithBytes_iff.2 ht, fun k hk hb => h ?_⟩
  obtain ⟨v, hv⟩ := ht
  have hbegins := beginsWithBytes_iff.1 hb
  rw [List.drop_append_of_le_length (Nat.le_of_lt hk), List.map_append, ← hv] at hbegins
  have hne : (s.drop k).map lowerByte ≠ [] := by simpa using hk
  refine (prefix_append_dropLast hne hbegins).isInfix.trans (List.IsSuffix.isInfix ?_)
  refine ⟨(s.take k).map lowerByte, ?_⟩
  rw [← List.append_assoc, ← List.map_append, List.take_append_drop]

theorem exists_findBytes? (hw : word ≠ []) (h : word.map lowerByte <:+: s.map lowerByte) :
    ∃ u v, s = u ++ v ∧ findBytes? word s = some u.length ∧ word.map lowerByte <+: v.map lowerByte ∧
      ¬ word.map lowerByte <:+: u.map lowerByte ++ (word.map lowerByte).dropLast := by
  obtain ⟨x, y, hs, hx⟩ := exists_first_place (by simpa using hw) h
  obtain ⟨u, v, rfl, rfl, hv⟩ := List.map_eq_append_iff.1 hs
  have hprefix : word.map lowerByte <+: v.map lowerByte := ⟨y, hv.symm⟩
  exact ⟨u, v, rfl, findBytes?_append hw hprefix hx, hprefix, hx⟩

theorem Needle.occursIn_iff (needle : Needle) (a : List Char) :
    needle.occursIn a ↔ needle.bytes.map lowerByte <:+: (utf8 a).map lowerByte := by
  rw [Needle.occursIn, Needle.find?]
  by_cases h : needle.bytes.map lowerByte <:+: (utf8 a).map lowerByte
  · obtain ⟨u, v, -, hfind, -⟩ := exists_findBytes? needle.bytes_ne_nil h
    simp [hfind, h]
  · simp [findBytes?_eq_none h, h]

theorem lowerByte_of_le {b : UInt8} (h : 128 ≤ b.toNat) : lowerByte b = b := by
  have hb : ¬ (65 ≤ b ∧ b ≤ 90) := by
    simp only [UInt8.le_iff_toNat_le]
    simp
    omega
  exact if_neg hb

theorem le_of_mem_utf8EncodeChar (hc : 128 ≤ c.toNat) :
    ∀ b ∈ String.utf8EncodeChar c, 128 ≤ b.toNat := by
  have hv : c.val.toNat = c.toNat := rfl
  fun_cases String.utf8EncodeChar with
  | _ => simp; omega

theorem toLower_of_le (hc : 128 ≤ c.toNat) : c.toLower = c := by
  have hv : c.val.toNat = c.toNat := rfl
  refine dif_neg ?_
  simp only [UInt32.le_iff_toNat_le, ge_iff_le]
  rintro ⟨-, h⟩
  have hz : 'Z'.val.toNat = 90 := rfl
  omega

theorem map_lowerByte_utf8EncodeChar (c : Char) :
    (String.utf8EncodeChar c).map lowerByte = String.utf8EncodeChar c.toLower := by
  by_cases hc : c.toNat < 128
  · revert hc
    revert c
    apply forall_ascii
    decide +kernel
  · have hle := Nat.le_of_not_lt hc
    rw [toLower_of_le hle]
    have hbytes : ∀ b ∈ String.utf8EncodeChar c, lowerByte b = b := fun b hb =>
      lowerByte_of_le (le_of_mem_utf8EncodeChar hle b hb)
    rw [List.map_congr_left hbytes, List.map_id']

theorem map_lowerByte_utf8 (a : List Char) :
    (utf8 a).map lowerByte = utf8 (a.map Char.toLower) := by
  simp only [utf8, List.map_flatMap, List.flatMap_map, map_lowerByte_utf8EncodeChar]

theorem length_utf8_map_toLower (a : List Char) :
    (utf8 (a.map Char.toLower)).length = (utf8 a).length := by
  rw [← map_lowerByte_utf8, List.length_map]

theorem length_utf8_of_map_toLower (h : a.map Char.toLower = b.map Char.toLower) :
    (utf8 a).length = (utf8 b).length := by
  rw [← length_utf8_map_toLower a, h, length_utf8_map_toLower]

theorem prefix_of_utf8 (h : utf8 a <+: utf8 b) : a <+: b := by
  obtain ⟨r, hr⟩ := h
  apply List.isPrefix_of_utf8Encode_append_eq_utf8Encode r.toByteArray
  rw [List.utf8Encode, List.utf8Encode, ← List.toByteArray_append]
  exact congrArg List.toByteArray hr

theorem beginsWithBytes_utf8_iff : beginsWithBytes (utf8 b) (utf8 a) ↔
    ∃ m v, a = m ++ v ∧ m.map Char.toLower = b.map Char.toLower := by
  rw [beginsWithBytes_iff, map_lowerByte_utf8, map_lowerByte_utf8]
  constructor
  · intro h
    obtain ⟨y, hy⟩ := prefix_of_utf8 h
    obtain ⟨m, v, rfl, hm, -⟩ := List.map_eq_append_iff.1 hy.symm
    exact ⟨m, v, rfl, hm⟩
  · rintro ⟨m, v, rfl, hm⟩
    rw [List.map_append, hm, utf8_append]
    exact List.prefix_append _ _

/-- Only the first byte of a character looks like one. -/
theorem eq_nil_of_utf8EncodeChar_eq {u r : List UInt8} {x : UInt8}
    (h : String.utf8EncodeChar c = u ++ x :: r) (hx : x.IsUTF8FirstByte) : u = [] := by
  have hlt : u.length < (String.utf8EncodeChar c).length := by
    rw [h, List.length_append, List.length_cons]
    omega
  have hget : (String.utf8EncodeChar c)[u.length] = x := by simp [h]
  have hfirst := @UInt8.isUTF8FirstByte_getElem_utf8EncodeChar c u.length hlt
  rw [hget] at hfirst
  exact List.length_eq_zero_iff.1 (hfirst.1 hx)

theorem exists_utf8EncodeChar (c : Char) :
    ∃ x r, String.utf8EncodeChar c = x :: r ∧ x.IsUTF8FirstByte := by
  obtain ⟨x, r, h⟩ := List.exists_cons_of_ne_nil (String.utf8EncodeChar_ne_nil (c := c))
  refine ⟨x, r, h, ?_⟩
  have hlt : 0 < (String.utf8EncodeChar c).length := by rw [h, List.length_cons]; omega
  have hfirst := (@UInt8.isUTF8FirstByte_getElem_utf8EncodeChar c 0 hlt).2 rfl
  simpa [h] using hfirst

/-- Where the bytes of a text stand in those of another one, its characters do. -/
theorem exists_of_utf8_eq {x y : List UInt8} (ha : a ≠ []) (h : utf8 b = x ++ (utf8 a ++ y)) :
    ∃ u v, b = u ++ (a ++ v) ∧ utf8 u = x := by
  obtain ⟨d, a, rfl⟩ := List.exists_cons_of_ne_nil ha
  obtain ⟨z, r, hd, hz⟩ := exists_utf8EncodeChar d
  have hbegins : utf8 (d :: a) = z :: (r ++ utf8 a) := by
    rw [utf8_cons, hd, List.cons_append]
  induction b generalizing x with
  | nil =>
      rw [hbegins] at h
      exact absurd h.symm (by simp [utf8])
  | cons c b ih =>
      rcases List.append_eq_append_iff.1 ((utf8_cons c b).symm.trans h).symm with
        ⟨w, hw, hrest⟩ | ⟨w, rfl, hrest⟩
      · cases w with
        | nil =>
            obtain ⟨u, v, rfl, hu⟩ := ih (x := []) hrest.symm
            refine ⟨c :: u, v, rfl, ?_⟩
            rw [utf8_cons, hu, List.append_nil, hw, List.append_nil]
        | cons y' w =>
            -- the text begins inside this character, so it begins where the character does
            rw [hbegins] at hrest
            obtain ⟨rfl, -⟩ := List.cons_eq_cons.1 hrest
            obtain rfl := eq_nil_of_utf8EncodeChar_eq hw hz
            obtain ⟨v, hv⟩ := prefix_of_utf8 ⟨y, h.symm⟩
            exact ⟨[], v, hv.symm, rfl⟩
      · obtain ⟨u, v, rfl, rfl⟩ := ih hrest
        exact ⟨c :: u, v, rfl, utf8_cons c u⟩

theorem utf8_infix_iff (ha : a ≠ []) : utf8 a <:+: utf8 b ↔ a <:+: b := by
  constructor
  · rintro ⟨x, y, h⟩
    rw [List.append_assoc] at h
    obtain ⟨u, v, rfl, -⟩ := exists_of_utf8_eq ha h.symm
    exact ⟨u, v, List.append_assoc u a v⟩
  · rintro ⟨u, v, rfl⟩
    rw [utf8_append, utf8_append]
    exact List.infix_append _ _ _

theorem Needle.occursIn_text {needle : Needle} (h : needle.bytes = utf8 b) (a : List Char) :
    needle.occursIn a ↔ b.map Char.toLower <:+: a.map Char.toLower := by
  have hb : b.map Char.toLower ≠ [] := by
    intro hnil
    obtain rfl := List.map_eq_nil_iff.1 hnil
    exact needle.bytes_ne_nil h
  rw [needle.occursIn_iff, h, map_lowerByte_utf8, map_lowerByte_utf8, utf8_infix_iff hb]

end IndexTuning.Text
