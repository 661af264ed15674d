import IndexTuning.Proofs.Sql.Rename

namespace IndexTuning.Sql.Procedure

open Text

variable {sql : List Char} {h : Header} {now : Timestamp}

theorem Header.IsFirst.created?_outside (hh : h.IsFirst sql)
    (hm : (Mode.code.after h.before).isComment = false) :
    created? .code sql = readName (h.name ++ h.after) := by
  have hn : (h.name ++ h.after).head?.any isNameChar := by
    obtain ⟨c, name, hc⟩ := List.exists_cons_of_ne_nil hh.name_ne
    rw [hc]
    exact hh.name c (by rw [hc]; exact List.mem_cons_self)
  rw [hh.text, created?_append hh.first, created?_heading hm hh.keywords hn]

/-- A comment that runs on behind the first heading hides it, whatever its name is. -/
theorem Header.IsFirst.created?_inside (hh : h.IsFirst sql)
    (hm : (Mode.code.after h.before).isComment)
    (hs : ∀ c ∈ h.keywords ++ h.name, c ≠ '\n' ∧ c ≠ '*') :
    created? .code sql = created? (Mode.code.after h.before).settled h.after := by
  rw [hh.text, created?_append hh.first, created?_comment hm hh.keywords hs]

def Header.replacement (h : Header) (name : String) : List Char :=
  Template.expand [h.keywords ++ h.name, h.keywords, h.name] (Identifier.quote name).toList

theorem Header.rename_eq (h : Header) (name : String) : h.rename name =
    h.before ++ (h.keywords ++ ("dbo".toList ++ '.' :: (h.replacement name ++ h.after))) := by
  have hdbo : "dbo.".toList = "dbo".toList ++ ['.'] := by decide
  simp only [Header.rename, Header.replacement, hdbo, List.append_assoc, List.cons_append,
    List.nil_append]

theorem placed_append (d t : List Char) :
    placed d ++ t = "dbo".toList ++ '.' :: ('[' :: (d ++ [']']) ++ t) := by
  simp [placed]

theorem head?_after_ne (hh : h.IsFirst sql) : h.after.head? ≠ some ']' := by
  intro hc
  have := hh.after ']' hc
  exact absurd this (by decide)

theorem Header.IsFirst.created?_placed (hh : h.IsFirst sql)
    (hm : (Mode.code.after h.before).isComment = false) (d : List Char) :
    created? .code (h.before ++ (h.keywords ++ (placed (Identifier.doubleClosing d) ++ h.after))) =
      some ("dbo".toList :: d :: readRest 2 h.after) := by
  have hfirst := header?_eq_some.1 (hh.replaced
    (show (placed (Identifier.doubleClosing d) ++ h.after).head?.any isNameChar from rfl))
  rw [hfirst.created?_outside hm]
  dsimp only
  rw [List.takeWhile_append_dropWhile, placed_append]
  exact readName_bracket d (head?_after_ne hh)

/-- What the text creates, what the guard drops and what the renamed text creates agree on the fresh
name. -/
def Header.IsSafe (h : Header) (name : String) (sql : List Char) (now : Timestamp) : Prop :=
  ∃ d, (created? .code sql).bind List.getLast? = some d ∧
    dropGuard? (String.ofList (h.rename (freshName name now))) = some (dropOf (freshOf d now)) ∧
    created? .code (h.rename (freshName name now)) = some ["dbo".toList, freshOf d now]

/-- The renaming is faithful when the header stands outside comments, the server reads the name as
it is written, no closing bracket is in it, the template does not change it, and the text behind it
does not go on with the name. -/
structure Header.Faithful (h : Header) (name : String) (now : Timestamp) : Prop where
  outside : (Mode.code.after h.before).isComment = false
  read : (readName (h.name ++ h.after)).bind List.getLast? = some name.toList
  closed : ']' ∉ name.toList
  kept : h.replacement (freshName name now) = (Identifier.quote (freshName name now)).toList
  ended : readQualified h.after = none

variable {current : Name}

theorem Header.IsFirst.quote_freshName (hh : h.IsFirst sql)
    (hc : Name.ofParts? (nameParts h.name) = some current) :
    (Identifier.quote (freshName current.name now)).toList =
      Identifier.bracket (freshOf current.name.toList now) := by
  rw [← (isPart_freshOf now hc hh.name).quote, ← toList_freshName, String.ofList_toList]

theorem Header.IsFirst.rename_kept (hh : h.IsFirst sql)
    (hc : Name.ofParts? (nameParts h.name) = some current)
    (hk : h.replacement (freshName current.name now) =
      (Identifier.quote (freshName current.name now)).toList) :
    h.rename (freshName current.name now) = h.before ++ (h.keywords ++
      (placed (Identifier.doubleClosing (freshOf current.name.toList now)) ++ h.after)) := by
  rw [h.rename_eq, hk, hh.quote_freshName hc, placed_append]
  rfl

theorem readRest_eq_nil_iff {n : Nat} {s : List Char} :
    readRest (n + 1) s = [] ↔ readQualified s = none := by
  rw [readRest]
  cases readQualified s with
  | none => simp
  | some p => simp

theorem Header.IsFirst.isSafe (hh : h.IsFirst sql)
    (hc : Name.ofParts? (nameParts h.name) = some current) (hf : h.Faithful current.name now) :
    h.IsSafe current.name sql now := by
  have hpart := isPart_freshOf now hc hh.name
  have hclosed : ']' ∉ freshOf current.name.toList now := not_mem_freshOf hf.closed (by decide)
  have hd := Identifier.doubleClosing_of_not_mem hclosed
  refine ⟨current.name.toList, ?_, ?_, ?_⟩
  · rw [hh.created?_outside hf.outside]
    exact hf.read
  · rw [hh.rename_kept hc hf.kept, hd]
    exact hh.dropGuard?_placed hpart
  · rw [hh.rename_kept hc hf.kept, hh.created?_placed hf.outside,
      readRest_eq_nil_iff.2 hf.ended]

theorem not_mem_bracket {c : Char} {d : List Char} (hd : c ∉ d) (hc : isBracket c = false) :
    c ∉ Identifier.bracket d := by
  have hopen : c ≠ '[' := by
    rintro rfl
    exact absurd hc (by decide)
  have hclose : c ≠ ']' := by
    rintro rfl
    exact absurd hc (by decide)
  simp only [Identifier.bracket, List.mem_cons, List.mem_append, List.not_mem_nil, or_false,
    not_or]
  exact ⟨hopen, fun hm => hd (Identifier.mem_of_mem_doubleClosing hm), hclose⟩

theorem Header.IsFirst.kept_of_not_mem (hh : h.IsFirst sql) (now : Timestamp)
    (hc : Name.ofParts? (nameParts h.name) = some current) (hd : '$' ∉ h.name) :
    h.replacement (freshName current.name now) =
      (Identifier.quote (freshName current.name now)).toList := by
  obtain ⟨-, hmem, -, -⟩ := lastPart_spec hc
  apply Template.expand_of_not_mem
  rw [hh.quote_freshName hc]
  exact not_mem_bracket (not_mem_freshOf (fun hm => hd (hmem _ hm)) (by decide)) (by decide)

theorem Header.IsFirst.faithful_of_undollared (hh : h.IsFirst sql)
    (hc : Name.ofParts? (nameParts h.name) = some current)
    (hm : (Mode.code.after h.before).isComment = false) (hd : '$' ∉ h.name)
    (hsafe : h.IsSafe current.name sql now) :
    h.Faithful current.name now := by
  have hkept := hh.kept_of_not_mem now hc hd
  have hpart := isPart_freshOf now hc hh.name
  obtain ⟨name, hread, hguard, hcreated⟩ := hsafe
  rw [hh.created?_outside hm] at hread
  rw [hh.rename_kept hc hkept, hh.dropGuard?_placed hpart.doubleClosing] at hguard
  rw [hh.rename_kept hc hkept, hh.created?_placed hm] at hcreated
  have hdouble := dropOf_injective (Option.some.inj hguard)
  simp only [Option.some.injEq, List.cons.injEq, true_and] at hcreated
  obtain ⟨hfresh, hrest⟩ := hcreated
  obtain rfl := freshOf_injective hfresh
  have hclosed := Identifier.not_mem_of_doubleClosing_eq hdouble
  exact ⟨hm, hread, fun hmem => hclosed (subset_freshOf _ now hmem), hkept,
    readRest_eq_nil_iff.1 hrest⟩

theorem not_mem_of_isHeading {k : List Char} (hk : IsHeading k) : ']' ∉ k := by
  obtain ⟨words, hw, hs⟩ := hk.spelled
  intro hm
  rcases hs.forall_mem (fun w hw' => (headings_letters words hw w hw').2) ']' hm with h | h
  · exact absurd h (by decide)
  · exact absurd h (by decide)

theorem Header.IsFirst.faithful_of_unbracketed (hh : h.IsFirst sql)
    (hc : Name.ofParts? (nameParts h.name) = some current)
    (hm : (Mode.code.after h.before).isComment = false) (hb : ']' ∉ h.name)
    (hread : (readName (h.name ++ h.after)).bind List.getLast? = some current.name.toList)
    (hsafe : h.IsSafe current.name sql now) :
    h.Faithful current.name now := by
  obtain ⟨-, hmem, -, -⟩ := lastPart_spec hc
  have hclosed : ']' ∉ current.name.toList := fun hm => hb (hmem _ hm)
  have hfresh : ']' ∉ freshOf current.name.toList now := not_mem_freshOf hclosed (by decide)
  let groups := [h.keywords ++ h.name, h.keywords, h.name]
  let y := Template.expand groups (freshOf current.name.toList now)
  have hy : ']' ∉ y := by
    intro hmy
    rcases Template.mem_expandFrom hmy with hmy | ⟨g, hg, hmy⟩
    · exact hfresh hmy
    · have hk := not_mem_of_isHeading hh.keywords
      simp only [groups, List.mem_cons, List.not_mem_nil, or_false] at hg
      rcases hg with rfl | rfl | rfl
      · exact (List.mem_append.1 hmy).elim hk hb
      · exact hk hmy
      · exact hb hmy
  -- the brackets of the quoted name are no part of a reference, so only what is inside is expanded
  have hreplacement : h.replacement (freshName current.name now) = '[' :: (y ++ [']']) := by
    rw [Header.replacement, hh.quote_freshName hc, Identifier.bracket,
      Identifier.doubleClosing_of_not_mem hfresh, Template.expand, Template.expandFrom,
      if_pos (by decide), Template.expandFrom_concat (Nat.zero_le _)]
    rfl
  have hrename : h.rename (freshName current.name now) = h.before ++ (h.keywords ++
      (placed (Identifier.doubleClosing y) ++ h.after)) := by
    rw [h.rename_eq, hreplacement, placed_append, Identifier.doubleClosing_of_not_mem hy]
  obtain ⟨name, hread', -, hcreated⟩ := hsafe
  rw [hh.created?_outside hm, hread] at hread'
  obtain rfl := Option.some.inj hread'
  rw [hrename, hh.created?_placed hm] at hcreated
  simp only [Option.some.injEq, List.cons.injEq, true_and] at hcreated
  obtain ⟨hyf, hrest⟩ := hcreated
  refine ⟨hm, hread, hclosed, ?_, readRest_eq_nil_iff.1 hrest⟩
  rw [hreplacement, hyf, hh.quote_freshName hc, Identifier.bracket,
    Identifier.doubleClosing_of_not_mem hfresh]

theorem placed_stays {d : List Char} (hd : IsPart d) (hstar : '*' ∉ d) :
    ∀ c ∈ placed d, c ≠ '\n' ∧ c ≠ '*' := by
  intro c hc
  refine ⟨?_, ?_⟩
  · rintro rfl
    exact absurd (isBlank_of_isNameChar (hd.name_placed '\n' hc)) (by decide)
  · rintro rfl
    simp only [placed, toList_dbo, List.mem_append, List.mem_cons, List.not_mem_nil, or_false] at hc
    simp_all

theorem Header.IsFirst.created?_placed_inside (hh : h.IsFirst sql)
    (hm : (Mode.code.after h.before).isComment) {d : List Char}
    (hs : ∀ c ∈ h.keywords ++ placed d, c ≠ '\n' ∧ c ≠ '*') (hd : IsPart d) :
    created? .code (h.before ++ (h.keywords ++ (placed d ++ h.after))) =
      created? (Mode.code.after h.before).settled h.after := by
  have hfirst := header?_eq_some.1 (hh.replaced
    (show (placed d ++ h.after).head?.any isNameChar from rfl))
  obtain ⟨ht, hr⟩ := hh.placed_ends hd
  rw [ht, hr] at hfirst
  exact hfirst.created?_inside hm hs

theorem Header.IsFirst.not_isSafe_inside (hh : h.IsFirst sql)
    (hc : Name.ofParts? (nameParts h.name) = some current)
    (hm : (Mode.code.after h.before).isComment) (hd : '$' ∉ h.name)
    (hs : ∀ c ∈ h.keywords ++ h.name, c ≠ '\n' ∧ c ≠ '*') : ¬ h.IsSafe current.name sql now := by
  rintro ⟨name, hread, -, hcreated⟩
  have hkept := hh.kept_of_not_mem now hc hd
  have hpart := isPart_freshOf now hc hh.name
  obtain ⟨-, hmem, -, -⟩ := lastPart_spec hc
  have hplaced := placed_stays hpart.doubleClosing fun hstar => by
      refine not_mem_freshOf ?_ (by decide) (Identifier.mem_of_mem_doubleClosing hstar)
      exact fun hm => (hs '*' (List.mem_append_right _ (hmem _ hm))).2 rfl
  have hregion : ∀ c ∈ h.keywords ++ placed (Identifier.doubleClosing
      (freshOf current.name.toList now)), c ≠ '\n' ∧ c ≠ '*' := by
    intro c hc
    rcases List.mem_append.1 hc with hc | hc
    · exact hs c (List.mem_append_left _ hc)
    · exact hplaced c hc
  rw [hh.created?_inside hm hs] at hread
  rw [hh.rename_kept hc hkept, hh.created?_placed_inside hm hregion hpart.doubleClosing] at hcreated
  rw [hcreated] at hread
  exact freshOf_ne (Option.some.inj hread)

/-- The headers for which an unfaithful renaming cannot come out right by chance: in a comment one
that does not end there, and elsewhere a name without a dollar sign, or one without a closing
bracket that the server reads as it is written. -/
def Header.IsOrdinary (h : Header) (name : String) : Prop :=
  if (Mode.code.after h.before).isComment then
    '$' ∉ h.name ∧ ∀ c ∈ h.keywords ++ h.name, c ≠ '\n' ∧ c ≠ '*'
  else
    '$' ∉ h.name ∨
      ']' ∉ h.name ∧ (readName (h.name ++ h.after)).bind List.getLast? = some name.toList

theorem Header.IsFirst.faithful_of_isSafe (hh : h.IsFirst sql)
    (hc : Name.ofParts? (nameParts h.name) = some current) (ho : h.IsOrdinary current.name)
    (hsafe : h.IsSafe current.name sql now) :
    h.Faithful current.name now := by
  rw [Header.IsOrdinary] at ho
  split at ho
  · rename_i hm
    exact absurd hsafe (hh.not_isSafe_inside hc hm ho.1 ho.2)
  · rename_i hm
    rw [Bool.not_eq_true] at hm
    rcases ho with hd | ⟨hb, hread⟩
    · exact hh.faithful_of_undollared hc hm hd hsafe
    · exact hh.faithful_of_unbracketed hc hm hb hread hsafe

end IndexTuning.Sql.Procedure
