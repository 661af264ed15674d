import IndexTuning.FileTree

namespace IndexTuning

namespace Encoding

variable {bs rest : List UInt8} {s : List Char} {us : List UInt16} {u v : UInt16} {c : Char}
  {mark : ByteOrderMark}

theorem isHighSurrogate_iff : isHighSurrogate u ↔ 0xD800 ≤ u.toNat ∧ u.toNat < 0xDC00 := by
  simp [isHighSurrogate, UInt16.le_iff_toNat_le, UInt16.lt_iff_toNat_lt]

theorem isLowSurrogate_iff : isLowSurrogate u ↔ 0xDC00 ≤ u.toNat ∧ u.toNat < 0xE000 := by
  simp [isLowSurrogate, UInt16.le_iff_toNat_le, UInt16.lt_iff_toNat_lt]

theorem toNat_ofNat_of_valid {n : Nat} (h : n.isValidChar) : (Char.ofNat n).toNat = n := by
  rw [Char.ofNat, dif_pos h]
  rfl

theorem charsOfUnits?_cons (hh : ¬ isHighSurrogate u) (hl : ¬ isLowSurrogate u)
    (us : List UInt16) :
    charsOfUnits? (u :: us) = (charsOfUnits? us).map (Char.ofNat u.toNat :: ·) := by
  cases us with
  | nil => simp [charsOfUnits?, hh, hl]
  | cons v us => rw [charsOfUnits?, if_neg hh, if_neg hl]

theorem charsOfUnits?_pair (hu : isHighSurrogate u) (hv : isLowSurrogate v) (us : List UInt16) :
    charsOfUnits? (u :: v :: us) = (charsOfUnits? us).map (charOfPair u v :: ·) := by
  rw [charsOfUnits?, if_pos hu, if_pos hv]

theorem toNat_cases (c : Char) : c.toNat < 0xD800 ∨ 0xDFFF < c.toNat ∧ c.toNat < 0x110000 := by
  have h := c.valid
  rwa [UInt32.isValidChar, Nat.isValidChar] at h

theorem toNat_charOfPair (hu : isHighSurrogate u) (hv : isLowSurrogate v) :
    (charOfPair u v).toNat = 0x10000 + (u.toNat - 0xD800) * 0x400 + (v.toNat - 0xDC00) := by
  rw [isHighSurrogate_iff] at hu
  rw [isLowSurrogate_iff] at hv
  apply toNat_ofNat_of_valid
  rw [Nat.isValidChar]
  omega

theorem unitsOfChar_charOfPair (hu : isHighSurrogate u) (hv : isLowSurrogate v) :
    unitsOfChar (charOfPair u v) = [u, v] := by
  have hn := toNat_charOfPair hu hv
  rw [isHighSurrogate_iff] at hu
  rw [isLowSurrogate_iff] at hv
  have hlarge : ¬ (charOfPair u v).toNat < 0x10000 := by omega
  rw [unitsOfChar]
  simp only [if_neg hlarge, List.cons.injEq, and_true]
  constructor
  · rw [← UInt16.toNat_inj, UInt16.toNat_ofNat_of_lt' (by rw [hn, UInt16.size]; omega), hn]
    omega
  · rw [← UInt16.toNat_inj, UInt16.toNat_ofNat_of_lt' (by rw [hn, UInt16.size]; omega), hn]
    omega

theorem unitsOfChar_ofNat (hu : ¬ isHighSurrogate u) (hl : ¬ isLowSurrogate u) :
    unitsOfChar (Char.ofNat u.toNat) = [u] := by
  rw [isHighSurrogate_iff] at hu
  rw [isLowSurrogate_iff] at hl
  have hlt := u.toNat_lt
  have hn : (Char.ofNat u.toNat).toNat = u.toNat := by
    apply toNat_ofNat_of_valid
    rw [Nat.isValidChar]
    omega
  rw [unitsOfChar, hn]
  simp only [if_pos hlt, UInt16.ofNat_toNat]

theorem exists_pair (h : 0x10000 ≤ c.toNat) : ∃ u v, unitsOfChar c = [u, v] ∧
    isHighSurrogate u ∧ isLowSurrogate v ∧ charOfPair u v = c := by
  have hc := toNat_cases c
  have hu : (UInt16.ofNat (0xD800 + (c.toNat - 0x10000) / 0x400)).toNat =
      0xD800 + (c.toNat - 0x10000) / 0x400 := by
    apply UInt16.toNat_ofNat_of_lt'
    rw [UInt16.size]
    omega
  have hv : (UInt16.ofNat (0xDC00 + (c.toNat - 0x10000) % 0x400)).toNat =
      0xDC00 + (c.toNat - 0x10000) % 0x400 := by
    apply UInt16.toNat_ofNat_of_lt'
    rw [UInt16.size]
    omega
  refine ⟨_, _, if_neg (Nat.not_lt_of_le h), ?_, ?_, ?_⟩
  · rw [isHighSurrogate_iff, hu]
    omega
  · rw [isLowSurrogate_iff, hv]
    omega
  · rw [charOfPair, hu, hv]
    have hn : 0x10000 + (0xD800 + (c.toNat - 0x10000) / 0x400 - 0xD800) * 0x400 +
        (0xDC00 + (c.toNat - 0x10000) % 0x400 - 0xDC00) = c.toNat := by omega
    rw [hn, Char.ofNat_toNat]

theorem charsOfUnits?_unitsOfChar (c : Char) (us : List UInt16) :
    charsOfUnits? (unitsOfChar c ++ us) = (charsOfUnits? us).map (c :: ·) := by
  have hc := toNat_cases c
  by_cases hsmall : c.toNat < 0x10000
  · have hn : (UInt16.ofNat c.toNat).toNat = c.toNat := UInt16.toNat_ofNat_of_lt' hsmall
    have hunits : unitsOfChar c = [UInt16.ofNat c.toNat] := if_pos hsmall
    rw [hunits, List.singleton_append, charsOfUnits?_cons, hn, Char.ofNat_toNat]
    · rw [isHighSurrogate_iff, hn]
      omega
    · rw [isLowSurrogate_iff, hn]
      omega
  · obtain ⟨u, v, hunits, hu, hv, hpair⟩ := exists_pair (Nat.le_of_not_lt hsmall)
    rw [hunits, List.cons_append, List.singleton_append, charsOfUnits?_pair hu hv, hpair]

/-- Code units are read exactly when a text is written in them, and as that text. -/
theorem charsOfUnits?_eq_some : charsOfUnits? us = some s ↔ us = s.flatMap unitsOfChar := by
  constructor
  · intro h
    induction us using charsOfUnits?.induct generalizing s with
    | case1 =>
        obtain rfl := Option.some.inj h
        rfl
    | case2 u hu =>
        rw [charsOfUnits?, if_pos hu] at h
        exact absurd h (by simp)
    | case3 u hu =>
        rw [charsOfUnits?, if_neg hu] at h
        obtain rfl := Option.some.inj h
        rw [Bool.or_eq_true, not_or] at hu
        rw [List.flatMap_singleton, unitsOfChar_ofNat hu.1 hu.2]
    | case4 u v us hu hv ih =>
        rw [charsOfUnits?_pair hu hv] at h
        obtain ⟨t, ht, rfl⟩ := Option.map_eq_some_iff.1 h
        rw [List.flatMap_cons, unitsOfChar_charOfPair hu hv, ← ih ht]
        rfl
    | case5 u v us hu hv =>
        rw [charsOfUnits?, if_pos hu, if_neg hv] at h
        exact absurd h (by simp)
    | case6 u v us hu hl =>
        rw [charsOfUnits?, if_neg hu, if_pos hl] at h
        exact absurd h (by simp)
    | case7 u v us hu hl ih =>
        rw [charsOfUnits?_cons hu hl] at h
        obtain ⟨t, ht, rfl⟩ := Option.map_eq_some_iff.1 h
        rw [List.flatMap_cons, unitsOfChar_ofNat hu hl, ← ih ht]
        rfl
  · rintro rfl
    induction s with
    | nil => rfl
    | cons c s ih => rw [List.flatMap_cons, charsOfUnits?_unitsOfChar, ih, Option.map_some]

def Splits (join : UInt8 → UInt8 → UInt16) (split : UInt16 → UInt8 × UInt8) : Prop :=
  ∀ a b u, join a b = u ↔ split u = (a, b)

theorem unitsOfBytes?_eq_some {join : UInt8 → UInt8 → UInt16} {split : UInt16 → UInt8 × UInt8}
    (h : Splits join split) :
    unitsOfBytes? join bs = some us ↔ bs = us.flatMap fun u => [(split u).1, (split u).2] := by
  induction bs using unitsOfBytes?.induct generalizing us with
  | case1 =>
      cases us with
      | nil => exact iff_of_true rfl rfl
      | cons u us => exact iff_of_false (by simp [unitsOfBytes?]) (by simp)
  | case2 a =>
      cases us with
      | nil => exact iff_of_false (by simp [unitsOfBytes?]) (by simp)
      | cons u us => exact iff_of_false (by simp [unitsOfBytes?]) (by simp)
  | case3 a b bs ih =>
      rw [unitsOfBytes?, Option.map_eq_some_iff]
      cases us with
      | nil => exact iff_of_false (by simp) (by simp)
      | cons u us =>
          rw [List.flatMap_cons, List.cons_append, List.cons_append, List.nil_append]
          constructor
          · rintro ⟨vs, hvs, heq⟩
            obtain ⟨hu, rfl⟩ := List.cons_eq_cons.1 heq
            rw [(h a b u).1 hu, ← ih.1 hvs]
          · intro heq
            simp only [List.cons.injEq] at heq
            obtain ⟨rfl, rfl, hbs⟩ := heq
            exact ⟨us, ih.2 hbs, by rw [(h _ _ u).2 rfl]⟩

theorem toNat_unitOfBytes (low high : UInt8) :
    (unitOfBytes low high).toNat = 256 * high.toNat + low.toNat := by
  have hlow : low.toNat < 2 ^ 8 := low.toNat_lt
  have hhigh := high.toNat_lt
  have hshift : (high.toUInt16 <<< 8).toNat = 2 ^ 8 * high.toNat := by
    rw [UInt16.toNat_shiftLeft, UInt8.toNat_toUInt16, Nat.shiftLeft_eq, Nat.mul_comm]
    apply Nat.mod_eq_of_lt
    change 2 ^ 8 * high.toNat < 2 ^ 16
    omega
  rw [unitOfBytes, UInt16.toNat_or, hshift, UInt8.toNat_toUInt16,
    ← Nat.two_pow_add_eq_or_of_lt hlow]

theorem splits_unitOfBytes : Splits unitOfBytes bytesOfUnit := by
  intro low high u
  have hu := u.toNat_lt
  have hlow := low.toNat_lt
  have hhigh := high.toNat_lt
  have hshift : (u >>> 8).toNat = u.toNat / 256 := by
    rw [UInt16.toNat_shiftRight]
    exact Nat.shiftRight_eq_div_pow _ _
  rw [bytesOfUnit, Prod.mk.injEq, ← UInt16.toNat_inj, ← UInt8.toNat_inj, ← UInt8.toNat_inj,
    toNat_unitOfBytes, UInt16.toNat_toUInt8, UInt16.toNat_toUInt8, hshift]
  omega

theorem Splits.swap {join : UInt8 → UInt8 → UInt16} {split : UInt16 → UInt8 × UInt8}
    (h : Splits join split) : Splits (fun a b => join b a) fun u => ((split u).2, (split u).1) := by
  intro a b u
  rw [h b a u, Prod.ext_iff, Prod.mk.injEq]
  exact And.comm

theorem unitsOfBytes?_bind_eq_some {join : UInt8 → UInt8 → UInt16}
    {split : UInt16 → UInt8 × UInt8} (h : Splits join split) :
    (unitsOfBytes? join bs).bind charsOfUnits? = some s ↔
      bs = (s.flatMap unitsOfChar).flatMap fun u => [(split u).1, (split u).2] := by
  rw [Option.bind_eq_some_iff]
  constructor
  · rintro ⟨us, hus, hs⟩
    rw [← charsOfUnits?_eq_some.1 hs]
    exact (unitsOfBytes?_eq_some h).1 hus
  · intro hbs
    exact ⟨_, (unitsOfBytes?_eq_some h).2 hbs, charsOfUnits?_eq_some.2 rfl⟩

theorem fromUTF8?_eq_some {b : ByteArray} {t : String} :
    String.fromUTF8? b = some t ↔ b = t.toByteArray := by
  rw [String.fromUTF8?]
  split
  · rename_i hb
    rw [Option.some.injEq, ← String.toByteArray_inj]
    exact Iff.rfl
  · rename_i hb
    refine iff_of_false (by simp) ?_
    rintro rfl
    exact hb t.isValidUTF8

theorem utf8?_eq_some : utf8? bs = some s ↔ bs = ByteOrderMark.utf8.encode s := by
  have hbytes (t : String) : t.toByteArray = (ByteOrderMark.utf8.encode t.toList).toByteArray :=
    String.utf8Encode_toList.symm
  rw [utf8?, Option.map_eq_some_iff]
  constructor
  · rintro ⟨t, ht, rfl⟩
    rwa [fromUTF8?_eq_some, hbytes, List.toByteArray_inj] at ht
  · rintro rfl
    refine ⟨String.ofList s, ?_, String.toList_ofList⟩
    rw [fromUTF8?_eq_some, hbytes, String.toList_ofList]

/-- In each encoding the bytes that are read are those that some text is written in. -/
theorem ByteOrderMark.decode?_eq_some : mark.decode? bs = some s ↔ bs = mark.encode s := by
  cases mark with
  | utf8 => exact utf8?_eq_some
  | utf16Little => exact unitsOfBytes?_bind_eq_some splits_unitOfBytes
  | utf16Big => exact unitsOfBytes?_bind_eq_some splits_unitOfBytes.swap

namespace ByteOrderMark

theorem read?_append (mark : ByteOrderMark) (rest : List UInt8) :
    read? (mark.bytes ++ rest) = some (mark, rest) := by
  cases mark <;> rfl

theorem read?_eq_none : read? bs = none ↔ ∀ mark : ByteOrderMark, ¬ mark.bytes <+: bs := by
  constructor
  · rintro h mark ⟨rest, rfl⟩
    rw [read?_append] at h
    exact absurd h (by simp)
  · intro h
    rw [read?, List.findSome?_eq_none_iff]
    intro mark _
    exact if_neg fun hp => h mark (List.isPrefixOf_iff_prefix.1 hp)

theorem bytes_append_encode (s : List Char) :
    utf8.bytes ++ utf8.encode s = utf8.encode (byteOrderMark :: s) := rfl

end ByteOrderMark

/-- The bytes are a text in UTF-8. -/
def IsUtf8 (bs : List UInt8) : Prop := ∃ s, bs = ByteOrderMark.utf8.encode s

theorem utf8?_eq_none : utf8? bs = none ↔ ¬ IsUtf8 bs := by
  rw [Option.eq_none_iff_forall_ne_some, IsUtf8, not_exists]
  exact forall_congr' fun s => not_congr utf8?_eq_some

theorem not_isUtf8_cons {b : UInt8} (hb : ¬ b.IsUTF8FirstByte) (bs : List UInt8) :
    ¬ IsUtf8 (b :: bs) := by
  rintro ⟨s, hs⟩
  have hvalid : (b :: bs).toByteArray.IsValidUTF8 := ⟨s, congrArg List.toByteArray hs⟩
  have hfirst := hvalid.isUTF8FirstByte_getElem_zero (by simp)
  rw [List.getElem_toByteArray] at hfirst
  exact hb hfirst

theorem not_isUtf8_of_mark (h : mark ≠ .utf8) (rest : List UInt8) :
    ¬ IsUtf8 (mark.bytes ++ rest) := by
  cases mark with
  | utf8 => exact absurd rfl h
  | utf16Little => exact not_isUtf8_cons (by decide) _
  | utf16Big => exact not_isUtf8_cons (by decide) _

theorem decode?_utf8 (s : List Char) :
    decode? (ByteOrderMark.utf8.encode s) = some (s.dropWhile (· == byteOrderMark)) := by
  rw [decode?, utf8?_eq_some.2 rfl]

theorem decode?_marked (h : ¬ IsUtf8 (mark.bytes ++ rest)) :
    decode? (mark.bytes ++ rest) = mark.decode? rest := by
  rw [decode?, utf8?_eq_none.2 h, ByteOrderMark.read?_append]

theorem decode?_unmarked (h : ¬ IsUtf8 bs) (hmark : ∀ mark : ByteOrderMark, ¬ mark.bytes <+: bs) :
    decode? bs = some (bs.map windowsChar) := by
  rw [decode?, utf8?_eq_none.2 h, ByteOrderMark.read?_eq_none.2 hmark]

theorem ByteOrderMark.decode?_eq_none : mark.decode? rest = none ↔ ∀ s, rest ≠ mark.encode s := by
  rw [Option.eq_none_iff_forall_ne_some]
  exact forall_congr' fun s => not_congr decode?_eq_some

/-- The bytes begin with a mark, and no text in its encoding stands behind it. -/
def IsBroken (bs : List UInt8) : Prop :=
  ∃ (mark : ByteOrderMark) (rest : List UInt8), bs = mark.bytes ++ rest ∧
    ∀ s, rest ≠ mark.encode s

theorem decode?_eq_none : decode? bs = none ↔ ¬ IsUtf8 bs ∧ IsBroken bs := by
  constructor
  · intro h
    have hutf8 : ¬ IsUtf8 bs := by
      rintro ⟨s, rfl⟩
      rw [decode?_utf8] at h
      exact absurd h (by simp)
    refine ⟨hutf8, ?_⟩
    by_cases hmark : ∀ mark : ByteOrderMark, ¬ mark.bytes <+: bs
    · rw [decode?_unmarked hutf8 hmark] at h
      exact absurd h (by simp)
    · simp only [Classical.not_forall, Classical.not_not] at hmark
      obtain ⟨mark, rest, rfl⟩ := hmark
      rw [decode?_marked hutf8] at h
      exact ⟨mark, rest, rfl, ByteOrderMark.decode?_eq_none.1 h⟩
  · rintro ⟨hutf8, mark, rest, rfl, hrest⟩
    rw [decode?_marked hutf8]
    exact ByteOrderMark.decode?_eq_none.2 hrest

/-- A text as a file holds it: in UTF-8, or behind the mark of its encoding. -/
def written : Option ByteOrderMark → List Char → List UInt8
  | none, s => ByteOrderMark.utf8.encode s
  | some mark, s => mark.bytes ++ mark.encode s

theorem decode?_written (hs : s.head? ≠ some byteOrderMark) (form : Option ByteOrderMark) :
    decode? (written form s) = some s := by
  have hdrop : s.dropWhile (· == byteOrderMark) = s := by
    cases s with
    | nil => rfl
    | cons c s => exact List.dropWhile_cons_of_neg fun hc => hs (congrArg some (beq_iff_eq.1 hc))
  cases form with
  | none => rw [written, decode?_utf8, hdrop]
  | some mark =>
      by_cases h : mark = .utf8
      · rw [written, h, ByteOrderMark.bytes_append_encode, decode?_utf8,
          List.dropWhile_cons_of_pos (by rfl), hdrop]
      · rw [written, decode?_marked (not_isUtf8_of_mark h _)]
        exact ByteOrderMark.decode?_eq_some.2 rfl

end Encoding

namespace Files

open Encoding

variable {σ : Type} {files : Files (StateM σ)} {path : String} {w t : σ} {bs : List UInt8}

theorem run_readSql (h : (files.bytesOf path).run w = (.ok bs, t)) :
    (files.readSql path).run.run w =
      match decode? bs with
      | some text => (.ok (String.ofList text), t)
      | none => (.error (.unreadableFile path .undecodable), t) := by
  rw [readSql, ExceptT.run_mk, StateT.run_bind, h]
  dsimp only [Id.run, bind]
  cases decode? bs <;> rfl

/-- A file that can be read gives back the text that was written in it, and one character for each
byte where it names no encoding. It is refused exactly if it is no UTF-8 and what stands behind its
mark is no text in the encoding of that mark. -/
theorem readSql_decodes (h : (files.bytesOf path).run w = (.ok bs, t)) :
    (∀ (s : String) form, s.toList.head? ≠ some byteOrderMark → bs = written form s.toList →
      (files.readSql path).run.run w = (.ok s, t)) ∧
    (¬ IsUtf8 bs → (∀ mark : ByteOrderMark, ¬ mark.bytes <+: bs) →
      (files.readSql path).run.run w = (.ok (String.ofList (bs.map windowsChar)), t)) ∧
    ((∃ e, (files.readSql path).run.run w = (.error e, t)) ↔ ¬ IsUtf8 bs ∧ IsBroken bs) := by
  have hrun := run_readSql h
  refine ⟨?_, ?_, ?_⟩
  · rintro s form hs rfl
    rw [hrun, decode?_written hs form]
    dsimp only
    rw [String.ofList_toList]
  · intro hutf8 hmark
    rw [hrun, decode?_unmarked hutf8 hmark]
  · rw [hrun, ← decode?_eq_none]
    cases decode? bs with
    | none => exact iff_of_true ⟨_, rfl⟩ rfl
    | some text => exact iff_of_false (fun ⟨e, he⟩ => nomatch he) (by simp)

def twoFiles : FileTree where
  files :=
    [(["whole.sql".toList], written (some .utf16Little) "SELECT N'é😀'".toList),
      (["broken.sql".toList], [0xFE, 0xFF, 0xD8, 0x3D])]

theorem readSql_decodes_surrogates :
    let files := FileTree.access id fun t _ => t
    (files.bytesOf "whole.sql").run twoFiles =
      (.ok (written (some .utf16Little) "SELECT N'é😀'".toList), twoFiles) ∧
    (files.readSql "whole.sql").run.run twoFiles = (.ok "SELECT N'é😀'", twoFiles) ∧
    (files.bytesOf "broken.sql").run twoFiles = (.ok [0xFE, 0xFF, 0xD8, 0x3D], twoFiles) ∧
    ∃ e, (files.readSql "broken.sql").run.run twoFiles = (.error e, twoFiles) := by
  intro files
  have hwhole : (files.bytesOf "whole.sql").run twoFiles =
      (.ok (written (some .utf16Little) "SELECT N'é😀'".toList), twoFiles) := rfl
  have hbroken : (files.bytesOf "broken.sql").run twoFiles =
      (.ok [0xFE, 0xFF, 0xD8, 0x3D], twoFiles) := rfl
  refine ⟨hwhole, ?_, hbroken, ?_⟩
  · exact (readSql_decodes hwhole).1 _ _ (by decide) rfl
  · refine (readSql_decodes hbroken).2.2.2 ⟨?_, .utf16Big, [0xD8, 0x3D], rfl, ?_⟩
    · have hmark : ByteOrderMark.utf16Big ≠ .utf8 := by decide
      exact not_isUtf8_of_mark hmark [0xD8, 0x3D]
    · exact ByteOrderMark.decode?_eq_none.1 (by decide)

end Files

end IndexTuning
