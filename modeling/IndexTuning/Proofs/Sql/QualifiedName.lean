import IndexTuning.Catalog
import IndexTuning.Proofs.Sql.Identifier
import IndexTuning.Proofs.Sql.Quoting
import IndexTuning.Sql.Procedure

namespace IndexTuning

open Sql Text

namespace Sql.Procedure

variable {s t u v left right schema name : List Char}

/-- The name is not empty, no blank ends it, and it has no brackets. -/
def IsUnbracketed (s : List Char) : Prop := Tight s ∧ ∀ c ∈ s, isBracket c = false

instance : Decidable (IsUnbracketed s) := @instDecidableAnd _ _ _ (List.decidableBAll _ s)

def withoutBrackets (s : List Char) : List Char := s.filter fun c => !isBracket c

theorem withoutBrackets_append (s t : List Char) :
    withoutBrackets (s ++ t) = withoutBrackets s ++ withoutBrackets t := List.filter_append s t

theorem withoutBrackets_dot (s : List Char) :
    withoutBrackets ('.' :: s) = '.' :: withoutBrackets s := List.filter_cons_of_pos (by decide)

theorem withoutBrackets_eq_nil (h : ∀ c ∈ s, isBracket c) : withoutBrackets s = [] := by
  rw [withoutBrackets, List.filter_eq_nil_iff]
  intro c hc
  simp [h c hc]

theorem withoutBrackets_eq_self (h : ∀ c ∈ s, isBracket c = false) : withoutBrackets s = s := by
  rw [withoutBrackets, List.filter_eq_self]
  intro c hc
  simp [h c hc]

theorem dot_not_mem (h : ∀ c ∈ s, isBracket c) : '.' ∉ s :=
  fun hc => absurd (h '.' hc) (by decide)

theorem splitQualified_eq (ht : Tight (u ++ '.' :: v)) (hu : '.' ∉ u) :
    splitQualified (String.ofList (u ++ '.' :: v)) =
      (String.ofList (withoutBrackets u), String.ofList (withoutBrackets v)) := by
  have hcut : cutAt? ['.'] (u ++ (['.'] ++ v)) = some (u, v) := by
    apply cutAt?_append (List.cons_ne_nil _ _)
    rw [List.dropLast_singleton, List.append_nil]
    exact fun h => hu (h.subset List.mem_cons_self)
  rw [List.singleton_append] at hcut
  rw [splitQualified, String.toList_ofList, ht.trim_eq, hcut]
  simp only [Identifier.withoutBrackets, String.toList_ofList, withoutBrackets]

/-- Two names with a dot between them, both in brackets or both as they are. -/
def qualify (left right schema name : List Char) : List Char :=
  left ++ (schema ++ (right ++ '.' :: (left ++ (name ++ right))))

theorem solid_append_of_brackets (h : ∀ c ∈ s, isBracket c) (ht : Solid t) : Solid (s ++ t) := by
  cases s with
  | nil => exact ht
  | cons c s =>
      have hc := h c List.mem_cons_self
      refine solid_iff.2 ⟨c, s ++ t, rfl, ?_⟩
      rw [isBracket, Bool.or_eq_true, beq_iff_eq, beq_iff_eq] at hc
      rcases hc with rfl | rfl
      · decide
      · decide

theorem tight_qualify (hleft : ∀ c ∈ left, isBracket c) (hright : ∀ c ∈ right, isBracket c)
    (hs : Tight schema) (hn : Tight name) : Tight (qualify left right schema name) := by
  have hfront : Solid (left ++ schema) := solid_append_of_brackets hleft hs.1
  have hback : Solid (name ++ right).reverse := by
    rw [List.reverse_append]
    exact solid_append_of_brackets (fun c hc => hright c (List.mem_reverse.1 hc)) hn.2
  have htext : qualify left right schema name =
      (left ++ schema) ++ ((right ++ '.' :: left) ++ (name ++ right)) := by
    simp [qualify]
  rw [htext]
  apply Tight.append hfront
  rw [List.reverse_append]
  exact hback.append

theorem splitQualified_of_not_mem (hleft : ∀ c ∈ left, isBracket c)
    (hright : ∀ c ∈ right, isBracket c) (hs : IsUnbracketed schema) (hn : IsUnbracketed name)
    (hdot : '.' ∉ schema) : splitQualified (String.ofList (qualify left right schema name)) =
      (String.ofList schema, String.ofList name) := by
  have ht := tight_qualify hleft hright hs.1 hn.1
  have htext : qualify left right schema name =
      (left ++ (schema ++ right)) ++ '.' :: (left ++ (name ++ right)) := by simp [qualify]
  have hfront : '.' ∉ left ++ (schema ++ right) := by
    simp [dot_not_mem hleft, dot_not_mem hright, hdot]
  rw [htext] at ht ⊢
  rw [splitQualified_eq ht hfront]
  simp only [withoutBrackets_append, withoutBrackets_eq_nil hleft, withoutBrackets_eq_nil hright,
    withoutBrackets_eq_self hs.2, withoutBrackets_eq_self hn.2, List.nil_append, List.append_nil]

/-- A schema with a dot is cut there, and what stands behind the dot goes to the name. -/
theorem splitQualified_of_dot (hleft : ∀ c ∈ left, isBracket c) (hright : ∀ c ∈ right, isBracket c)
    (hs : IsUnbracketed (u ++ '.' :: v)) (hn : IsUnbracketed name) (hu : '.' ∉ u) :
    splitQualified (String.ofList (qualify left right (u ++ '.' :: v) name)) =
      (String.ofList u, String.ofList (v ++ '.' :: name)) := by
  have ht := tight_qualify hleft hright hs.1 hn.1
  have htext : qualify left right (u ++ '.' :: v) name =
      (left ++ u) ++ '.' :: (v ++ (right ++ '.' :: (left ++ (name ++ right)))) := by
    simp [qualify]
  have hfront : '.' ∉ left ++ u := by simp [dot_not_mem hleft, hu]
  obtain ⟨hbu, hbv⟩ := List.forall_mem_append.1 hs.2
  have hbv := (List.forall_mem_cons.1 hbv).2
  rw [htext] at ht ⊢
  rw [splitQualified_eq ht hfront]
  simp only [withoutBrackets_append, withoutBrackets_dot, withoutBrackets_eq_nil hleft,
    withoutBrackets_eq_nil hright, withoutBrackets_eq_self hbu, withoutBrackets_eq_self hbv,
    withoutBrackets_eq_self hn.2, List.nil_append, List.append_nil]

theorem splitQualified_iff {q schema name : String} (hleft : ∀ c ∈ left, isBracket c)
    (hright : ∀ c ∈ right, isBracket c) (hs : IsUnbracketed schema.toList)
    (hn : IsUnbracketed name.toList)
    (hq : q.toList = qualify left right schema.toList name.toList) :
    (splitQualified q = (schema, name) ↔ '.' ∉ schema.toList) ∧
    ∀ u v, schema.toList = u ++ '.' :: v → '.' ∉ u →
      splitQualified q = (String.ofList u, String.ofList (v ++ '.' :: name.toList)) := by
  have htext : q = String.ofList (qualify left right schema.toList name.toList) := by
    rw [← hq, String.ofList_toList]
  have hcut : ∀ u v, schema.toList = u ++ '.' :: v → '.' ∉ u →
      splitQualified q = (String.ofList u, String.ofList (v ++ '.' :: name.toList)) := by
    intro u v hschema hu
    rw [htext, hschema]
    rw [hschema] at hs
    exact splitQualified_of_dot hleft hright hs hn hu
  refine ⟨⟨?_, ?_⟩, hcut⟩
  · intro h hdot
    obtain ⟨u, v, hschema, hu⟩ := List.eq_append_cons_of_mem hdot
    rw [hcut u v hschema hu, Prod.mk.injEq, ← String.toList_inj, String.toList_ofList, hschema] at h
    exact absurd h.1 (by simp)
  · intro hdot
    rw [htext, splitQualified_of_not_mem hleft hright hs hn hdot, String.ofList_toList,
      String.ofList_toList]

end Sql.Procedure

namespace ProcedureInfo

open Procedure

variable {p : ProcedureInfo}

def quotedName (p : ProcedureInfo) : String :=
  Identifier.quote p.schema ++ "." ++ Identifier.quote p.name

theorem toList_qualifiedName (p : ProcedureInfo) :
    p.qualifiedName.toList = qualify [] [] p.schema.toList p.name.toList := by
  simp [qualifiedName, qualify]

theorem toList_quote_of_isUnbracketed {s : String} (h : IsUnbracketed s.toList) :
    (Identifier.quote s).toList = '[' :: (s.toList ++ [']']) := by
  have hnot {c : Char} (hc : isBracket c) : c ∉ s.toList := fun hm => absurd hc (by simp [h.2 c hm])
  have hopen : s.toList.head? ≠ some '[' := fun hh => hnot (by decide) (List.mem_of_mem_head? hh)
  rw [Identifier.toList_quote, Identifier.bracket, Identifier.bare_of_tight h.1 hopen,
    Identifier.doubleClosing_of_not_mem (hnot (by decide))]

theorem toList_quotedName (hs : IsUnbracketed p.schema.toList) (hn : IsUnbracketed p.name.toList) :
    p.quotedName.toList = qualify ['['] [']'] p.schema.toList p.name.toList := by
  simp [quotedName, qualify, toList_quote_of_isUnbracketed hs, toList_quote_of_isUnbracketed hn]

/-- A procedure is found again under its name in brackets, and under the name that lists show,
exactly when its schema has no dot. The first dot of a schema counts as the one behind it. -/
theorem splitQualified_names_iff (p : ProcedureInfo) (hs : IsUnbracketed p.schema.toList)
    (hn : IsUnbracketed p.name.toList) :
    (splitQualified p.quotedName = (p.schema, p.name) ↔ '.' ∉ p.schema.toList) ∧
    (splitQualified p.qualifiedName = (p.schema, p.name) ↔ '.' ∉ p.schema.toList) ∧
    ∀ u v, p.schema.toList = u ++ '.' :: v → '.' ∉ u →
      splitQualified p.quotedName = (String.ofList u, String.ofList (v ++ '.' :: p.name.toList)) ∧
      splitQualified p.qualifiedName =
        (String.ofList u, String.ofList (v ++ '.' :: p.name.toList)) := by
  have hopen : ∀ c ∈ ['['], isBracket c := by simp [isBracket]
  have hclose : ∀ c ∈ [']'], isBracket c := by simp [isBracket]
  have hnone : ∀ c ∈ ([] : List Char), isBracket c := by simp
  obtain ⟨hquoted, hquoted'⟩ := splitQualified_iff hopen hclose hs hn (toList_quotedName hs hn)
  obtain ⟨hlisted, hlisted'⟩ := splitQualified_iff hnone hnone hs hn p.toList_qualifiedName
  exact ⟨hquoted, hlisted, fun u v hp hu => ⟨hquoted' u v hp hu, hlisted' u v hp hu⟩⟩

def monthlyReport : ProcedureInfo := ⟨"Shop", "ACME\\jo", "Report.2024 v2", false⟩

theorem splitQualified_names_monthlyReport :
    IsUnbracketed monthlyReport.schema.toList ∧ IsUnbracketed monthlyReport.name.toList ∧
    monthlyReport.quotedName = "[ACME\\jo].[Report.2024 v2]" ∧
    splitQualified "[ACME\\jo].[Report.2024 v2]" = ("ACME\\jo", "Report.2024 v2") ∧
    splitQualified "ACME\\jo.Report.2024 v2" = ("ACME\\jo", "Report.2024 v2") := by
  have hs : IsUnbracketed monthlyReport.schema.toList := by decide
  have hn : IsUnbracketed monthlyReport.name.toList := by decide
  have hquoted : monthlyReport.quotedName = "[ACME\\jo].[Report.2024 v2]" := by decide +kernel
  have hlisted : monthlyReport.qualifiedName = "ACME\\jo.Report.2024 v2" := by decide +kernel
  obtain ⟨hq, hl, -⟩ := splitQualified_names_iff monthlyReport hs hn
  rw [hquoted] at hq
  rw [hlisted] at hl
  exact ⟨hs, hn, hquoted, hq.2 (by decide), hl.2 (by decide)⟩

/-- A schema named after an account in a domain ends for the reader inside its brackets. -/
theorem splitQualified_domainAccount :
    let p : ProcedureInfo := ⟨"Shop", "DOMAIN.user", "GetOrders", false⟩
    IsUnbracketed p.schema.toList ∧ IsUnbracketed p.name.toList ∧
      p.quotedName = "[DOMAIN.user].[GetOrders]" ∧
      splitQualified p.quotedName = ("DOMAIN", "user.GetOrders") ∧
      splitQualified p.quotedName ≠ (p.schema, p.name) := by
  decide +kernel

end ProcedureInfo

end IndexTuning
