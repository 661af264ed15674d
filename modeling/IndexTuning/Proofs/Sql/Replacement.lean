import IndexTuning.Proofs.Sql.Confinement

namespace IndexTuning.Sql.Procedure

open Text

def readParts : Nat → List Char → List (List Char) × List Char
  | 0, s => ([], s)
  | n + 1, s =>
    match readQualified s with
    | some (part, rest) => (part :: (readParts n rest).1, (readParts n rest).2)
    | none => ([], s)

/-- Reads a name to its end, as the server does: its parts and the text behind it. -/
def readWhole (s : List Char) : Option (List (List Char) × List Char) :=
  (readPart s).map fun p => (p.1 :: (readParts 3 p.2).1, (readParts 3 p.2).2)

/-- The name is read to its end in front of a text, and no bracket follows, which would be part of
it. -/
def IsWhole (name last after : List Char) : Prop :=
  (∃ parts, readWhole (name ++ after) = some (parts, after) ∧ parts.getLast? = some last) ∧
    ∀ c ∈ after.head?, isBracket c = false

/-- The text is renamed by putting the quoted new name, in the schema of new procedures, in the place
of the whole name behind the first heading. -/
structure Header.IsRenamed (h : Header) (last sql renamed : List Char) (name : String)
    (now : Timestamp) : Prop where
  text : sql = h.before ++ (h.keywords ++ (h.name ++ h.after))
  keywords : IsHeading h.keywords
  first : ∀ u v, h.before = u ++ v → v ≠ [] → ¬ Opens (v ++ (h.keywords ++ (h.name ++ h.after)))
  whole : IsWhole h.name last h.after
  replaced : renamed = h.before ++ (h.keywords ++ ("dbo.".toList ++
    ((Identifier.quote name).toList ++ h.after)))
  fresh : name.toList = freshOf last now
  read : name? (String.ofList renamed) = some ⟨some "dbo", name⟩
  fits : last.length ≤ Identifier.maxLength → name.length ≤ Identifier.maxLength

/-- The name, as far as the first blank or parenthesis, is the whole name and ends in the current
one, the template does not change the new one, no closing bracket is in it, and it is not too long
unless the current one was. -/
structure Header.IsReplaceable (h : Header) (current : String) (now : Timestamp) : Prop where
  whole : ∃ parts, readWhole (h.name ++ h.after) = some (parts, h.after) ∧
    parts.getLast? = some current.toList
  kept : h.replacement (freshName current now) = (Identifier.quote (freshName current now)).toList
  closed : ']' ∉ current.toList
  fits : current.length ≤ Identifier.maxLength →
    (freshName current now).length ≤ Identifier.maxLength

variable {s sql renamed n y z last : List Char} {h h' : Header} {name : String} {now : Timestamp}
  {current : Name}

theorem isNameChar_of_isNamePart {c : Char} (hc : Statement.isNamePart c) : isNameChar c := by
  have hb : isBlank c = false := by
    cases hb : isBlank c with
    | false => rfl
    | true => rw [Statement.isNamePart_of_isBlank hb] at hc; exact absurd hc (by decide)
  have hp : c ≠ '(' := by
    rintro rfl
    exact absurd hc (by decide)
  simp [isNameChar, hb, hp]

theorem head_of_readWhole {p : List (List Char) × List Char} (hs : readWhole s = some p) :
    s.head?.any isNameChar := by
  obtain ⟨q, hq, -⟩ := Option.map_eq_some_iff.1 hs
  unfold readPart at hq
  split at hq
  · rfl
  · rfl
  · rw [readRegular] at hq
    split at hq
    · exact absurd hq (by simp)
    · rename_i ht
      cases s with
      | nil => exact absurd rfl ht
      | cons c s =>
          rw [List.head?_cons, Option.any_some]
          apply isNameChar_of_isNamePart
          by_contra hc
          exact ht (List.takeWhile_cons_of_neg hc)

theorem Header.IsRenamed.header?_eq (hr : h.IsRenamed last sql renamed name now) :
    header? sql = some ⟨h.before, h.keywords, (h.name ++ h.after).takeWhile isNameChar,
      (h.name ++ h.after).dropWhile isNameChar⟩ := by
  obtain ⟨parts, hread, -⟩ := hr.whole.1
  rw [hr.text]
  exact header?_of_first hr.keywords (head_of_readWhole hread) hr.first

theorem getLast?_of_ofParts? {parts : List (List Char)} (h : Name.ofParts? parts = some current) :
    parts.getLast? = some current.name.toList := by
  unfold Name.ofParts? at h
  split at h
  · exact absurd h (by simp)
  · exact absurd h (by simp)
  · rename_i name qualifiers _ hr
    obtain rfl := Option.some.inj h
    rw [← List.head?_reverse, hr, List.head?_cons, String.toList_ofList]

theorem getLast?_of_nameParts (h : Name.ofParts? (nameParts s) = some current) :
    (splitAtChar '.' s).getLast?.map (trimWhere isBracket) = some current.name.toList := by
  rw [← List.getLast?_map]
  exact getLast?_of_ofParts? h

/-- No text stands between the new name and what follows the old one: it would be read as part of
the new name. -/
theorem Header.IsFirst.nothing_between (hh : h.IsFirst sql)
    (hc : Name.ofParts? (nameParts h.name) = some current) (hz : h.name = n ++ z)
    (hb : ∀ c ∈ z.head?, isBracket c = false)
    (hread : name? (String.ofList (h.before ++ (h.keywords ++
      (placed (Identifier.doubleClosing (freshOf current.name.toList now)) ++ (z ++ h.after))))) =
        some ⟨some "dbo", freshName current.name now⟩) : z = [] := by
  have hpart := isPart_freshOf now hc hh.name
  let q := '[' :: (Identifier.doubleClosing (freshOf current.name.toList now) ++ [']'])
  have hq : '.' ∉ q := by simp [q, hpart.doubleClosing.undotted]
  have hname : ∀ c ∈ placed (Identifier.doubleClosing (freshOf current.name.toList now)) ++ z,
      isNameChar c := by
    refine List.forall_mem_append.2 ⟨hpart.doubleClosing.name_placed, fun c hm => hh.name c ?_⟩
    rw [hz]
    exact List.mem_append_right n hm
  have hends := hh.takeWhile_append hname
  rw [List.append_assoc] at hends
  have hheader := hh.replaced (show
    (placed (Identifier.doubleClosing (freshOf current.name.toList now)) ++
      (z ++ h.after)).head?.any isNameChar from rfl)
  have hlast : (splitAtChar '.' (q ++ z)).getLast?.map (trimWhere isBracket) =
      some (freshOf current.name.toList now) := by
    rw [name?, String.toList_ofList, hheader, Option.bind_some, hends] at hread
    have hl := getLast?_of_nameParts hread
    rw [placed_append, getLast?_splitAtChar_append, toList_freshName] at hl
    exact hl
  by_cases hdot : '.' ∈ z
  · obtain ⟨z₁, z₂, rfl⟩ := List.append_of_mem hdot
    have hcurrent := getLast?_of_nameParts hc
    rw [hz, ← List.append_assoc, getLast?_splitAtChar_append] at hcurrent
    rw [← List.append_assoc, getLast?_splitAtChar_append, hcurrent] at hlast
    exact absurd (Option.some.inj hlast).symm freshOf_ne
  · rw [splitAtChar_of_not_mem (by simp [hq, hdot]), List.getLast?_singleton, Option.map_some] at hlast
    cases z with
    | nil => rfl
    | cons c z =>
        have hlong := length_lt_trimWhere (p := isBracket) (u := ['[']) (v := z)
          (a := Identifier.doubleClosing (freshOf current.name.toList now) ++ [']'])
          (List.forall_mem_singleton.2 rfl) (by simp) ?_ (hb c rfl)
        · have hdouble := Identifier.length_le_doubleClosing (freshOf current.name.toList now)
          have hl := congrArg List.length (Option.some.inj hlast)
          simp only [q, List.cons_append, List.nil_append, List.append_assoc, List.length_append,
            List.length_singleton] at hlong hl
          omega
        · obtain ⟨d, r, hd⟩ := List.exists_cons_of_ne_nil hpart.doubleClosing.ne
          have hhead := hpart.doubleClosing.head
          rw [hd] at hhead ⊢
          exact hhead

theorem rename_eq_ok_iff {sql renamed : String} : rename sql now = .ok (renamed, name) ↔
    ∃ h n, header? sql.toList = some h ∧ Name.ofParts? (nameParts h.name) = some n ∧
      renamed = String.ofList (h.rename name) ∧ name = freshName n.name now := by
  have hr : rename sql now = .ok (renamed, name) ↔ rename? sql now = some (renamed, name) := by
    rw [rename]
    cases rename? sql now <;> simp
  rw [hr, rename?]
  constructor
  · intro hrun
    obtain ⟨h, hh, hrun⟩ := Option.bind_eq_some_iff.1 hrun
    obtain ⟨n, hn, hrun⟩ := Option.bind_eq_some_iff.1 hrun
    obtain ⟨rfl, rfl⟩ := Prod.mk.inj (Option.some.inj hrun)
    exact ⟨h, n, hh, hn, rfl, rfl⟩
  · rintro ⟨h, n, hh, hn, rfl, rfl⟩
    rw [hh, Option.bind_eq_bind, Option.bind_some, hn]
    rfl

theorem placed_eq (d t : List Char) :
    "dbo.".toList ++ ('[' :: (d ++ [']']) ++ t) = placed d ++ t := by
  have hdbo : "dbo.".toList = "dbo".toList ++ ['.'] := by decide
  rw [placed_append, hdbo, List.append_assoc, List.singleton_append]

theorem Header.IsFirst.quoted_eq (hh : h.IsFirst sql)
    (hc : Name.ofParts? (nameParts h.name) = some current) (t : List Char) :
    "dbo.".toList ++ ((Identifier.quote (freshName current.name now)).toList ++ t) =
      placed (Identifier.doubleClosing (freshOf current.name.toList now)) ++ t := by
  rw [hh.quote_freshName hc, Identifier.bracket, placed_eq]

theorem Header.IsFirst.isRenamed (hh : h.IsFirst sql)
    (hc : Name.ofParts? (nameParts h.name) = some current) (hr : h.IsReplaceable current.name now) :
    h.IsRenamed current.name.toList sql (h.rename (freshName current.name now))
      (freshName current.name now) now where
  text := hh.text
  keywords := hh.keywords
  first := hh.first
  whole := by
    refine ⟨hr.whole, fun c hm => ?_⟩
    cases hb : isBracket c with
    | false => rfl
    | true =>
        simp only [isBracket, Bool.or_eq_true, beq_iff_eq] at hb
        have hafter := hh.after c hm
        rcases hb with rfl | rfl <;> exact absurd hafter (by decide)
  replaced := by rw [hh.quoted_eq hc, hh.rename_kept hc hr.kept]
  fresh := toList_freshName _ _
  read := by
    have hpart := isPart_freshOf now hc hh.name
    have hclosed : ']' ∉ freshOf current.name.toList now := not_mem_freshOf hr.closed (by decide)
    rw [hh.rename_kept hc hr.kept, Identifier.doubleClosing_of_not_mem hclosed,
      hh.name?_placed hpart, ← toList_freshName, String.ofList_toList]
  fits := by
    rw [String.length_toList]
    exact hr.fits

theorem Header.IsFirst.mem_quote (hh : h.IsFirst sql)
    (hc : Name.ofParts? (nameParts h.name) = some current) {c : Char}
    (hm : c ∈ (Identifier.quote (freshName current.name now)).toList) : isNameChar c := by
  apply (isPart_freshOf now hc hh.name).doubleClosing.name_placed
  rw [hh.quote_freshName hc, Identifier.bracket] at hm
  exact List.mem_append_right _ (List.mem_cons_of_mem _ hm)

/-- A text behind the new name that is not the one behind the old name would begin inside one of
them. -/
theorem Header.IsFirst.eq_after (hh : h.IsFirst sql)
    (hc : Name.ofParts? (nameParts h.name) = some current)
    (htext : n ++ y = h.name ++ h.after) (hy : ∀ c ∈ y.head?, isBracket c = false)
    (hreplaced : h.replacement (freshName current.name now) ++ h.after =
      (Identifier.quote (freshName current.name now)).toList ++ y)
    (hread : name? (String.ofList (h.before ++ (h.keywords ++
      (placed (Identifier.doubleClosing (freshOf current.name.toList now)) ++ y)))) =
        some ⟨some "dbo", freshName current.name now⟩) : y = h.after := by
  rcases List.append_eq_append_iff.1 htext with ⟨z, hname, rfl⟩ | ⟨z, -, hafter⟩
  · have hhead : ∀ c ∈ z.head?, isBracket c = false := by
      intro c hm
      apply hy c
      rw [List.head?_append, Option.mem_def.1 hm]
      rfl
    rw [hh.nothing_between hc hname hhead hread, List.nil_append]
  · cases z with
    | nil => exact hafter.symm
    | cons c z =>
        rw [hafter, ← List.append_assoc] at hreplaced
        have hm : c ∈ (Identifier.quote (freshName current.name now)).toList := by
          rw [← List.append_cancel_right hreplaced]
          simp
        have hchar := hh.mem_quote hc hm
        rw [hh.after c (by rw [hafter]; rfl)] at hchar
        exact absurd hchar (by decide)

theorem Header.IsFirst.isReplaceable (hh : h.IsFirst sql)
    (hc : Name.ofParts? (nameParts h.name) = some current)
    (hr : h'.IsRenamed last sql (h.rename (freshName current.name now))
      (freshName current.name now) now) : h.IsReplaceable current.name now := by
  obtain ⟨hbefore, hkeywords, -⟩ := Header.mk.inj
    (Option.some.inj ((header?_eq_some.2 hh).symm.trans hr.header?_eq))
  have hlast : current.name.toList = last :=
    freshOf_injective ((toList_freshName _ _).symm.trans hr.fresh)
  have htext := hr.text.symm.trans hh.text
  have hreplaced := hr.replaced
  have hread := hr.read
  rw [hreplaced, ← hbefore, ← hkeywords, hh.quoted_eq hc] at hread
  rw [← hbefore, ← hkeywords, List.append_cancel_left_eq, List.append_cancel_left_eq] at htext
  rw [h.rename_eq, ← hbefore, ← hkeywords, hh.quoted_eq hc, List.append_cancel_left_eq,
    List.append_cancel_left_eq, placed_append, List.append_cancel_left_eq, List.cons.injEq,
    ← Identifier.bracket, ← hh.quote_freshName hc] at hreplaced
  have hafter := hh.eq_after hc htext hr.whole.2 hreplaced.2 hread
  have hkept := hreplaced.2
  rw [hafter, List.append_cancel_right_eq] at hkept
  refine ⟨?_, hkept, ?_, ?_⟩
  · rw [← htext, hlast, ← hafter]
    exact hr.whole.1
  · have hpart := isPart_freshOf now hc hh.name
    rw [hafter, hh.name?_placed hpart.doubleClosing] at hread
    have hname := congrArg String.toList (Name.mk.inj (Option.some.inj hread)).2
    rw [String.toList_ofList, toList_freshName] at hname
    have hclosed := Identifier.not_mem_of_doubleClosing_eq hname
    exact fun hm => hclosed (subset_freshOf _ now hm)
  · have hfits := hr.fits
    rw [← hlast, String.length_toList] at hfits
    exact hfits

def RenamesNameOnly (sql renamed name : String) (now : Timestamp) : Prop :=
  ∃ (h : Header) (last : List Char), h.IsRenamed last sql.toList renamed.toList name now

/-- A renaming touches only the name exactly if the search finds the whole name and the name can be
put back as it is. -/
theorem rename_nameOnly_iff {sql renamed name : String} {now : Timestamp}
    (hr : rename sql now = .ok (renamed, name)) :
    RenamesNameOnly sql renamed name now ↔
      ∃ h n, header? sql.toList = some h ∧ Name.ofParts? (nameParts h.name) = some n ∧
        h.IsReplaceable n.name now := by
  obtain ⟨h, n, hh, hn, rfl, rfl⟩ := rename_eq_ok_iff.1 hr
  have hfirst := header?_eq_some.1 hh
  constructor
  · rintro ⟨h', last, hrenamed⟩
    rw [String.toList_ofList] at hrenamed
    exact ⟨h, n, hh, hn, hfirst.isReplaceable hn hrenamed⟩
  · rintro ⟨h', n', hh', hn', hreplaceable⟩
    obtain rfl := Option.some.inj (hh.symm.trans hh')
    obtain rfl := Option.some.inj (hn.symm.trans hn')
    refine ⟨h, n.name.toList, ?_⟩
    rw [String.toList_ofList]
    exact hfirst.isRenamed hn hreplaceable

theorem rename_nameOnly_getOrders :
    rename "CREATE OR ALTER PROC [Sales].[GetOrders](@Id INT) AS SELECT 1" ⟨2024, 1, 2, 3, 4, 5⟩ =
      .ok ("CREATE OR ALTER PROC dbo.[GetOrders_Opt_20240102030405](@Id INT) AS SELECT 1",
        "GetOrders_Opt_20240102030405") ∧
    RenamesNameOnly "CREATE OR ALTER PROC [Sales].[GetOrders](@Id INT) AS SELECT 1"
      "CREATE OR ALTER PROC dbo.[GetOrders_Opt_20240102030405](@Id INT) AS SELECT 1"
      "GetOrders_Opt_20240102030405" ⟨2024, 1, 2, 3, 4, 5⟩ := by
  have hr : rename "CREATE OR ALTER PROC [Sales].[GetOrders](@Id INT) AS SELECT 1"
      ⟨2024, 1, 2, 3, 4, 5⟩ =
        .ok ("CREATE OR ALTER PROC dbo.[GetOrders_Opt_20240102030405](@Id INT) AS SELECT 1",
          "GetOrders_Opt_20240102030405") := by rfl
  refine ⟨hr, (rename_nameOnly_iff hr).2 ⟨⟨[], "CREATE OR ALTER PROC ".toList,
    "[Sales].[GetOrders]".toList, "(@Id INT) AS SELECT 1".toList⟩, ⟨some "Sales", "GetOrders"⟩,
    by rfl, by decide +kernel, ⟨["Sales".toList, "GetOrders".toList], ?_⟩, ?_, ?_, ?_⟩⟩
  · decide +kernel
  · decide +kernel
  · decide +kernel
  · decide +kernel

/-- The search ends a name at its first blank, which inside brackets is part of the name. -/
theorem rename_getOrders_blank :
    rename "CREATE PROCEDURE [dbo].[Get Orders] AS SELECT 1" ⟨2024, 1, 2, 3, 4, 5⟩ =
      .ok ("CREATE PROCEDURE dbo.[Get_Opt_20240102030405] Orders] AS SELECT 1",
        "Get_Opt_20240102030405") ∧
    ¬ RenamesNameOnly "CREATE PROCEDURE [dbo].[Get Orders] AS SELECT 1"
      "CREATE PROCEDURE dbo.[Get_Opt_20240102030405] Orders] AS SELECT 1"
      "Get_Opt_20240102030405" ⟨2024, 1, 2, 3, 4, 5⟩ := by
  have hh : header? "CREATE PROCEDURE [dbo].[Get Orders] AS SELECT 1".toList =
      some ⟨[], "CREATE PROCEDURE ".toList, "[dbo].[Get".toList,
        " Orders] AS SELECT 1".toList⟩ := by rfl
  have hn : Name.ofParts? (nameParts "[dbo].[Get".toList) = some ⟨some "dbo", "Get"⟩ := by
    decide +kernel
  have hwhole : readWhole ("[dbo].[Get".toList ++ " Orders] AS SELECT 1".toList) =
      some (["dbo".toList, "Get Orders".toList], " AS SELECT 1".toList) := by decide +kernel
  refine ⟨by rfl, ?_⟩
  rintro ⟨h, last, hr⟩
  have hreplaceable : Header.IsReplaceable _ "Get" ⟨2024, 1, 2, 3, 4, 5⟩ :=
    (header?_eq_some.1 hh).isReplaceable hn hr
  obtain ⟨parts, hread, -⟩ := hreplaceable.whole
  have hrest : " AS SELECT 1".toList = " Orders] AS SELECT 1".toList :=
    congrArg Prod.snd (Option.some.inj (hwhole.symm.trans hread))
  exact absurd hrest (by decide)

end IndexTuning.Sql.Procedure
