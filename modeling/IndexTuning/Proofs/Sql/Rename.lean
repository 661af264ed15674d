import IndexTuning.Proofs.Sql.Created
import IndexTuning.Proofs.Sql.Identifier
import IndexTuning.Proofs.Text.Search
import IndexTuning.Proofs.Text.Template
import IndexTuning.Proofs.Timestamp

namespace IndexTuning.Sql.Procedure

open Text

def freshOf (name : List Char) (now : Timestamp) : List Char :=
  name ++ "_Opt_".toList ++ now.compact.toList

/-- Drops the procedure of that name in the schema of new procedures, and nothing else. -/
def dropOf (name : List Char) : String :=
  "IF OBJECT_ID('dbo." ++ String.ofList (Literal.escape name) ++
    "', 'P') IS NOT NULL DROP PROCEDURE [dbo]." ++ String.ofList (Identifier.bracket name) ++ ";"

theorem toList_freshName (name : String) (now : Timestamp) :
    (freshName name now).toList = freshOf name.toList now := by
  rw [freshName, String.toList_append, String.toList_append, freshOf]

def isFreshChar (c : Char) : Bool := Timestamp.isStampChar c || c.isAlpha || c == '_'

theorem isFreshChar_of_mem_mark {now : Timestamp} {c : Char}
    (h : c ∈ "_Opt_".toList ++ now.compact.toList) : isFreshChar c := by
  rcases List.mem_append.1 h with h | h
  · exact List.all_eq_true.1 (show "_Opt_".toList.all isFreshChar by decide) c h
  · simp [isFreshChar, Timestamp.isStampChar_of_mem_compact h]

theorem mem_freshOf {name : List Char} {now : Timestamp} {c : Char}
    (h : c ∈ freshOf name now) : c ∈ name ∨ isFreshChar c := by
  rw [freshOf, List.append_assoc] at h
  exact (List.mem_append.1 h).imp_right isFreshChar_of_mem_mark

theorem subset_freshOf (name : List Char) (now : Timestamp) : name ⊆ freshOf name now := by
  rw [freshOf, List.append_assoc]
  exact List.subset_append_left _ _

theorem not_mem_freshOf {name : List Char} {now : Timestamp} {c : Char} (h : c ∉ name)
    (hc : isFreshChar c = false) : c ∉ freshOf name now := by
  intro hm
  rcases mem_freshOf hm with hm | hm
  · exact h hm
  · rw [hc] at hm
    exact absurd hm (by decide)

theorem isFreshChar_of_getLast? {name : List Char} {now : Timestamp} {c : Char}
    (hc : c ∈ (freshOf name now).getLast?) : isFreshChar c := by
  refine isFreshChar_of_mem_mark (show c ∈ "_Opt_".toList ++ now.compact.toList from ?_)
  rw [freshOf, List.append_assoc, List.getLast?_append, Option.mem_def] at hc
  apply List.mem_of_getLast?
  cases hl : ("_Opt_".toList ++ now.compact.toList).getLast? with
  | none => exact absurd (List.getLast?_eq_none_iff.1 hl) (by simp)
  | some d => rwa [hl] at hc

/-- A text that is one part of a name when brackets stand around it. -/
structure IsPart (d : List Char) : Prop where
  ne : d ≠ []
  name : ∀ c ∈ d, isNameChar c
  undotted : '.' ∉ d
  head : ∀ c ∈ d.head?, isBracket c = false
  last : ∀ c ∈ d.getLast?, isBracket c = false

variable {d : List Char}

theorem IsPart.doubleClosing (hd : IsPart d) : IsPart (Identifier.doubleClosing d) where
  ne h := by
    have hh := Identifier.head?_doubleClosing d
    rw [h] at hh
    exact hd.ne (List.head?_eq_none_iff.1 hh.symm)
  name c hc := hd.name c (Identifier.mem_of_mem_doubleClosing hc)
  undotted h := hd.undotted (Identifier.mem_of_mem_doubleClosing h)
  head := by rw [Identifier.head?_doubleClosing]; exact hd.head
  last := by rw [Identifier.getLast?_doubleClosing]; exact hd.last

theorem isBlank_of_isNameChar {c : Char} (h : isNameChar c) : isBlank c = false := by
  rw [isNameChar, Bool.and_eq_true] at h
  simpa using h.1

theorem solid_of_name {s : List Char} (hne : s ≠ []) (h : ∀ c ∈ s, isNameChar c) : Solid s := by
  obtain ⟨c, s, rfl⟩ := List.exists_cons_of_ne_nil hne
  exact solid_iff.2 ⟨c, s, rfl, isBlank_of_isNameChar (h c List.mem_cons_self)⟩

theorem tight_of_name {s : List Char} (hne : s ≠ []) (h : ∀ c ∈ s, isNameChar c) : Tight s :=
  ⟨solid_of_name hne h, solid_of_name (by simpa using hne) fun c hc => h c (List.mem_reverse.1 hc)⟩

theorem IsPart.tight (hd : IsPart d) : Tight d := tight_of_name hd.ne hd.name

theorem IsPart.quote (hd : IsPart d) :
    (Identifier.quote (String.ofList d)).toList = Identifier.bracket d := by
  have hh : d.head? ≠ some '[' := fun h => absurd (hd.head '[' h) (by decide)
  rw [Identifier.quote, String.toList_ofList, String.toList_ofList,
    Identifier.bare_of_tight hd.tight hh]

def placed (d : List Char) : List Char := "dbo".toList ++ '.' :: '[' :: (d ++ [']'])

theorem IsPart.nameParts (hd : IsPart d) : nameParts (placed d) = ["dbo".toList, d] := by
  have hdbo : '.' ∉ "dbo".toList := by decide
  have hrest : '.' ∉ '[' :: (d ++ [']']) := by simp [hd.undotted]
  have htrim : trimWhere isBracket ('[' :: (d ++ [']'])) = d :=
    trimWhere_between (u := ['[']) (v := [']']) (List.forall_mem_singleton.2 rfl)
      (List.forall_mem_singleton.2 rfl) hd.ne hd.head hd.last
  rw [Procedure.nameParts, placed, splitAtChar_append hdbo, splitAtChar_of_not_mem hrest,
    List.map_cons, List.map_cons, htrim, List.map_nil]
  rfl

theorem IsPart.name_placed (hd : IsPart d) : ∀ c ∈ placed d, isNameChar c := by
  intro c hc
  simp only [placed, toList_dbo, List.mem_append, List.mem_cons, List.not_mem_nil, or_false] at hc
  rcases hc with (rfl | rfl | rfl) | rfl | rfl | hc | rfl
  · decide
  · decide
  · decide
  · decide
  · decide
  · exact hd.name c hc
  · decide

theorem Header.IsFirst.takeWhile_append {sql : List Char} {h : Header} (hh : h.IsFirst sql)
    {text : List Char} (ht : ∀ c ∈ text, isNameChar c) :
    (text ++ h.after).takeWhile isNameChar = text := by
  rw [List.takeWhile_append_of_pos ht]
  cases hafter : h.after with
  | nil => rw [List.takeWhile_nil, List.append_nil]
  | cons c after =>
      have hc := hh.after c (by rw [hafter]; rfl)
      rw [List.takeWhile_cons_of_neg (by simp [hc]), List.append_nil]

/-- The name that is read off the renamed text ends where the part was put. -/
theorem Header.IsFirst.placed_ends {sql : List Char} {h : Header} (hh : h.IsFirst sql)
    (hd : IsPart d) : (placed d ++ h.after).takeWhile isNameChar = placed d ∧
      (placed d ++ h.after).dropWhile isNameChar = h.after :=
  ⟨hh.takeWhile_append hd.name_placed, dropWhile_append_of_head isNameChar hd.name_placed hh.after⟩

theorem Header.IsFirst.name?_placed {sql : List Char} {h : Header} (hh : h.IsFirst sql)
    (hd : IsPart d) : name? (String.ofList (h.before ++ (h.keywords ++ (placed d ++ h.after)))) =
      some ⟨some "dbo", String.ofList d⟩ := by
  obtain ⟨ht, -⟩ := hh.placed_ends hd
  have hfirst := hh.replaced (show (placed d ++ h.after).head?.any isNameChar from rfl)
  rw [name?, String.toList_ofList, hfirst, Option.bind_some, ht, hd.nameParts]
  obtain ⟨c, d, rfl⟩ := List.exists_cons_of_ne_nil hd.ne
  rfl

theorem guard_intro (t : String) :
    "IF OBJECT_ID('" ++ ("dbo" ++ ("." ++ t)) = "IF OBJECT_ID('dbo." ++ t := by
  have h : "IF OBJECT_ID('" ++ "dbo" ++ "." = "IF OBJECT_ID('dbo." := by decide
  rw [← String.append_assoc, ← String.append_assoc, h]

theorem guard_target (t : String) :
    "', 'P') IS NOT NULL DROP PROCEDURE " ++ ("[dbo]" ++ ("." ++ t)) =
      "', 'P') IS NOT NULL DROP PROCEDURE [dbo]." ++ t := by
  have h : "', 'P') IS NOT NULL DROP PROCEDURE " ++ "[dbo]" ++ "." =
    "', 'P') IS NOT NULL DROP PROCEDURE [dbo]." := by decide
  rw [← String.append_assoc, ← String.append_assoc, h]

theorem Header.IsFirst.dropGuard?_placed {sql : List Char} {h : Header} (hh : h.IsFirst sql)
    (hd : IsPart d) :
    dropGuard? (String.ofList (h.before ++ (h.keywords ++ (placed d ++ h.after)))) =
      some (dropOf d) := by
  have hquote : Identifier.quote (String.ofList d) = String.ofList (Identifier.bracket d) := by
    rw [← hd.quote, String.ofList_toList]
  have hescaped : Literal.escaped "dbo" = "dbo" := by decide
  have hschema : Identifier.quote "dbo" = "[dbo]" := by decide
  unfold dropGuard? dropOf
  rw [hh.name?_placed hd, Option.map_some]
  simp only [Option.getD_some, hescaped, hschema, hquote, String.append_assoc, guard_intro,
    guard_target]
  rw [Literal.escaped, String.toList_ofList]

theorem dropOf_injective {a b : List Char} (h : dropOf a = dropOf b) : a = b := by
  have hmiddle : ∃ r, "', 'P') IS NOT NULL DROP PROCEDURE [dbo].".toList = '\'' :: ',' :: r :=
    ⟨"', 'P') IS NOT NULL DROP PROCEDURE [dbo].".toList.drop 2, by decide⟩
  obtain ⟨r, hr⟩ := hmiddle
  have hl := congrArg String.toList h
  unfold dropOf at hl
  simp only [String.toList_append, String.toList_ofList, List.append_assoc, hr,
    List.cons_append] at hl
  have hread := congrArg Literal.readBody (List.append_cancel_left hl)
  rw [Literal.readBody_escape _ _ (by simp), Literal.readBody_escape _ _ (by simp)] at hread
  exact (Prod.mk.inj (Option.some.inj hread)).1

theorem freshOf_injective {a b : List Char} {now : Timestamp} (h : freshOf a now = freshOf b now) :
    a = b := by
  simp only [freshOf, List.append_assoc] at h
  exact List.append_cancel_right h

theorem freshOf_ne {a : List Char} {now : Timestamp} : freshOf a now ≠ a := by
  intro h
  have hl := congrArg List.length h
  simp [freshOf] at hl

theorem isNameChar_of_isFreshChar {c : Char} (h : isFreshChar c) : isNameChar c := by
  have hb : isBlank c = false := by
    cases hb : isBlank c with
    | false => rfl
    | true =>
        have := forall_isBlank (fun c => isFreshChar c = false) (by decide) c hb
        rw [h] at this
        exact this
  have hp : c ≠ '(' := by
    rintro rfl
    exact absurd h (by decide)
  simp [isNameChar, hb, hp]

theorem isBracket_of_isFreshChar {c : Char} (h : isFreshChar c) : isBracket c = false := by
  cases hb : isBracket c with
  | false => rfl
  | true =>
      simp only [isBracket, Bool.or_eq_true, beq_iff_eq] at hb
      rcases hb with rfl | rfl
      · exact absurd h (by decide)
      · exact absurd h (by decide)

theorem Name.mem_of_ofParts? {parts : List (List Char)} {n : Name} (h : ofParts? parts = some n) :
    n.name.toList ≠ [] ∧ n.name.toList ∈ parts ∧ ∀ schema ∈ n.schema, schema.toList ∈ parts := by
  unfold ofParts? at h
  split at h
  · exact absurd h (by simp)
  · exact absurd h (by simp)
  · rename_i name qualifiers hne hr
    obtain rfl := Option.some.inj h
    have hparts : parts = (name :: qualifiers).reverse := by rw [← hr, List.reverse_reverse]
    rw [hparts]
    refine ⟨by simpa using hne, by simp, ?_⟩
    intro schema hs
    obtain ⟨q, hq, rfl⟩ := Option.map_eq_some_iff.1 hs
    have hmem := List.mem_of_head? hq
    simp [hmem]

theorem mem_nameParts {s p : List Char} (h : p ∈ nameParts s) :
    (∀ c ∈ p, c ∈ s) ∧ '.' ∉ p ∧ ∀ c ∈ p.head?, isBracket c = false := by
  obtain ⟨q, hq, rfl⟩ := List.mem_map.1 h
  obtain ⟨hdot, hmem⟩ := mem_of_mem_splitAtChar hq
  exact ⟨fun c hc => hmem c (mem_of_mem_trimWhere hc), fun hd => hdot (mem_of_mem_trimWhere hd),
    head?_trimWhere isBracket q⟩

theorem lastPart_spec {s : List Char} {current : Name}
    (h : Name.ofParts? (nameParts s) = some current) : current.name.toList ≠ [] ∧
      (∀ c ∈ current.name.toList, c ∈ s) ∧ '.' ∉ current.name.toList ∧
        ∀ c ∈ current.name.toList.head?, isBracket c = false := by
  obtain ⟨hne, hmem, -⟩ := Name.mem_of_ofParts? h
  exact ⟨hne, mem_nameParts hmem⟩

theorem isPart_freshOf {s : List Char} {current : Name} (now : Timestamp)
    (h : Name.ofParts? (nameParts s) = some current) (hs : ∀ c ∈ s, isNameChar c) :
    IsPart (freshOf current.name.toList now) := by
  obtain ⟨hne, hmem, hdot, hhead⟩ := lastPart_spec h
  refine ⟨?_, ?_, not_mem_freshOf hdot (by decide), ?_, fun c hc =>
    isBracket_of_isFreshChar (isFreshChar_of_getLast? hc)⟩
  · simp [freshOf]
  · intro c hc
    rcases mem_freshOf hc with hc | hc
    · exact hs c (hmem c hc)
    · exact isNameChar_of_isFreshChar hc
  · obtain ⟨d, n, hd⟩ := List.exists_cons_of_ne_nil hne
    rw [hd] at hhead
    rw [hd, freshOf, List.append_assoc, List.cons_append]
    exact hhead

end IndexTuning.Sql.Procedure
