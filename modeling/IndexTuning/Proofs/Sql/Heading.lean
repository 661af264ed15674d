import IndexTuning.Proofs.Text.Scan
import IndexTuning.Sql.Procedure
import Mathlib.Data.List.Chain

namespace IndexTuning.Sql.Procedure

open Text Scanner

def headings : List (List String) :=
  [["CREATE", "PROC"], ["CREATE", "PROCEDURE"], ["CREATE", "OR", "ALTER", "PROC"],
    ["CREATE", "OR", "ALTER", "PROCEDURE"]]

/-- The keywords in front of a procedure's name with the blanks behind them. -/
def IsHeading (s : List Char) : Prop :=
  ∃ create choice procedure, s = create ++ (choice ++ procedure) ∧ Spelled ["CREATE"] create ∧
    (choice = [] ∨ Spelled ["OR", "ALTER"] choice) ∧
    (Spelled ["PROC"] procedure ∨ Spelled ["PROCEDURE"] procedure)

/-- The keywords that create a procedure, with nothing behind the last one. -/
def IsKeywords (k : List Char) : Prop :=
  ∃ create choice procedure, k = create ++ (choice ++ procedure) ∧ Spelled ["CREATE"] create ∧
    (choice = [] ∨ Spelled ["OR", "ALTER"] choice) ∧
    (procedure.map fold = "PROC".toList.map fold ∨
      procedure.map fold = "PROCEDURE".toList.map fold)

theorem IsHeading.exists_keywords {s : List Char} (h : IsHeading s) :
    ∃ k v, s = k ++ v ∧ IsKeywords k ∧ Blanks v := by
  obtain ⟨create, choice, procedure, rfl, hcreate, hc, hp⟩ := h
  obtain ⟨p, v, rfl, hp, hv⟩ : ∃ p v, procedure = p ++ v ∧
      (p.map fold = "PROC".toList.map fold ∨ p.map fold = "PROCEDURE".toList.map fold) ∧
      Blanks v := by
    rcases hp with hp | hp
    · obtain ⟨p, v, rfl, hp, hv⟩ := spelled_singleton_iff.1 hp
      exact ⟨p, v, rfl, Or.inl hp, hv⟩
    · obtain ⟨p, v, rfl, hp, hv⟩ := spelled_singleton_iff.1 hp
      exact ⟨p, v, rfl, Or.inr hp, hv⟩
  exact ⟨create ++ (choice ++ p), v, by simp only [List.append_assoc],
    ⟨create, choice, p, rfl, hcreate, hc, hp⟩, hv⟩

theorem IsHeading.spelled {s : List Char} (h : IsHeading s) :
    ∃ words ∈ headings, Spelled words s := by
  obtain ⟨create, choice, procedure, rfl, hc, rfl | ho, hp | hp⟩ := h
  · exact ⟨_, by simp [headings], hc.append hp⟩
  · exact ⟨_, by simp [headings], hc.append hp⟩
  · exact ⟨_, by simp [headings], hc.append (ho.append hp)⟩
  · exact ⟨_, by simp [headings], hc.append (ho.append hp)⟩

theorem headings_letters : ∀ words ∈ headings, ∀ w ∈ words,
    w ≠ "" ∧ w.toList.all isLatinLetter := by decide

variable {s r : List Char}

theorem spelled_of_procedure
    (h : (keyword "PROC" >=> optional (keyword "EDURE") >=> blanks) s = some r) :
    ∃ u, s = u ++ r ∧ (Spelled ["PROC"] u ∨ Spelled ["PROCEDURE"] u) := by
  obtain ⟨s₁, h₁, h⟩ := comp_eq_some.1 h
  obtain ⟨s₂, h₂, h₃⟩ := comp_eq_some.1 h
  obtain ⟨u, rfl, hu⟩ := keyword_eq_some.1 h₁
  obtain ⟨v, rfl, hv, -⟩ := blanks_eq_some.1 h₃
  rcases optional_eq_some.1 h₂ with h₂ | ⟨-, rfl⟩
  · obtain ⟨u', rfl, hu'⟩ := keyword_eq_some.1 h₂
    refine ⟨(u ++ u') ++ (v ++ []), by simp, Or.inr (Spelled.nil.cons ?_ hv)⟩
    rw [List.map_append, hu, hu']
    decide
  · exact ⟨u ++ (v ++ []), by simp, Or.inl (Spelled.nil.cons hu hv)⟩

theorem heading_of_read (h : (createProcedure >=> blanks) s = some r) :
    ∃ u, s = u ++ r ∧ IsHeading u := by
  obtain ⟨s₆, hcreate, h₆⟩ := comp_eq_some.1 h
  obtain ⟨s₁, h₁, hcreate⟩ := comp_eq_some.1 hcreate
  obtain ⟨s₂, h₂, hcreate⟩ := comp_eq_some.1 hcreate
  obtain ⟨s₃, h₃, hcreate⟩ := comp_eq_some.1 hcreate
  obtain ⟨s₅, h₄, h₅⟩ := comp_eq_some.1 hcreate
  obtain ⟨u, rfl, hu⟩ := spelled_of_word (comp_eq_some.2 ⟨s₁, h₁, h₂⟩)
  obtain ⟨w, rfl, hw⟩ := spelled_of_procedure (comp_eq_some.2 ⟨s₅, h₄, comp_eq_some.2 ⟨s₆, h₅, h₆⟩⟩)
  rcases optional_eq_some.1 h₃ with hor | ⟨-, rfl⟩
  · obtain ⟨t₁, ho, halter⟩ := comp_eq_some.1 hor
    obtain ⟨t₂, hob, halter⟩ := comp_eq_some.1 halter
    obtain ⟨v₁, rfl, hv₁⟩ := spelled_of_word (comp_eq_some.2 ⟨t₁, ho, hob⟩)
    obtain ⟨v₂, rfl, hv₂⟩ := spelled_of_word halter
    exact ⟨u ++ ((v₁ ++ v₂) ++ w), by simp, u, v₁ ++ v₂, w, rfl, hu, Or.inr (hv₁.append hv₂), hw⟩
  · exact ⟨u ++ w, by simp, u, [], w, rfl, hu, Or.inl rfl, hw⟩

theorem head_of_spelled {word : String} {words : List String} (h : Spelled (word :: words) s)
    (hw : word ≠ "") : (s ++ r).head?.map fold = word.toList.head?.map fold := by
  obtain ⟨u, v, t, rfl, hu, -, -⟩ := spelled_cons_iff.1 h
  rw [List.append_assoc]
  exact head_of_keyword (keyword_eq_some.2 ⟨u, rfl, hu⟩) hw

theorem nonblank_of_spelled {word : String} {words : List String} (h : Spelled (word :: words) s)
    (hw : word ≠ "") (hl : isLatinLetter (word.toList.head?.getD 'a')) :
    ∀ c ∈ (s ++ r).head?, isBlank c = false := by
  intro c hc
  have hh := head_of_spelled (r := r) h hw
  rw [Option.mem_def.1 hc] at hh
  cases hd : word.toList.head? with
  | none => rw [hd] at hh; exact absurd hh (by simp)
  | some d =>
      rw [hd] at hh hl
      apply isBlank_of_isLatinLetter
      rw [isLatinLetter, show fold c = fold d from Option.some.inj hh]
      exact hl

theorem fold_of_isBlank {c : Char} (h : isBlank c) : fold c ∉ "ceor".toList :=
  forall_isBlank (fun c => fold c ∉ "ceor".toList) (by decide) c h

theorem head_of_procedure {p : List Char}
    (h : p.map fold = "PROC".toList.map fold ∨ p.map fold = "PROCEDURE".toList.map fold) :
    (p ++ r).head?.map fold = some 'p' := by
  rcases h with h | h
  · exact head_of_keyword (keyword_eq_some.2 ⟨p, rfl, h⟩) (by decide)
  · exact head_of_keyword (keyword_eq_some.2 ⟨p, rfl, h⟩) (by decide)

theorem nonblank_of_fold {c : Char} (h : s.head?.map fold = some c) (hc : c.isLower) :
    ∀ d ∈ s.head?, isBlank d = false := by
  intro d hd
  rw [Option.mem_def.1 hd] at h
  exact isBlank_of_isLatinLetter (isLatinLetter_of_fold (Option.some.inj h) hc)

theorem read_procedure {p : List Char} (hr : ∀ c ∈ r.head?, isLatinLetter c = false)
    (h : p.map fold = "PROC".toList.map fold ∨ p.map fold = "PROCEDURE".toList.map fold) :
    (keyword "PROC" >=> optional (keyword "EDURE")) (p ++ r) = some r := by
  rcases h with h | h
  · have hne : keyword "EDURE" r = none := by
      apply keyword_eq_none (by decide)
      intro he
      cases hc : r.head? with
      | none => rw [hc] at he; exact absurd he (by simp)
      | some c =>
          rw [hc] at he
          have hl := hr c hc
          rw [isLatinLetter, Option.some.inj he] at hl
          exact absurd hl (by decide)
    exact comp_eq_some.2 ⟨r, keyword_eq_some.2 ⟨p, rfl, h⟩, optional_eq_some.2 (Or.inr ⟨hne, rfl⟩)⟩
  · have hp : (p.take 4).map fold = "PROC".toList.map fold := by
      rw [List.map_take, h]
      decide
    have hd : (p.drop 4).map fold = "EDURE".toList.map fold := by
      rw [List.map_drop, h]
      decide
    have hk : keyword "PROC" (p ++ r) = some (p.drop 4 ++ r) :=
      keyword_eq_some.2 ⟨p.take 4, by rw [← List.append_assoc, List.take_append_drop], hp⟩
    exact comp_eq_some.2 ⟨_, hk, optional_eq_some.2 (Or.inl (keyword_eq_some.2 ⟨_, rfl, hd⟩))⟩

theorem read_choice {choice : List Char} (hc : choice = [] ∨ Spelled ["OR", "ALTER"] choice)
    (hs : s.head?.map fold = some 'p') :
    optional (keyword "OR" >=> blanks >=> keyword "ALTER" >=> blanks) (choice ++ s) = some s := by
  rcases hc with rfl | hc
  · refine optional_eq_some.2 (Or.inr ⟨?_, rfl⟩)
    have hor : keyword "OR" s = none := by
      apply keyword_eq_none (by decide)
      rw [hs]
      decide
    exact Option.bind_eq_none_iff.2 fun t ht => absurd (hor.symm.trans ht) (by simp)
  · obtain ⟨u, v, t, rfl, hu, hv, ht⟩ := spelled_cons_iff.1 hc
    have hn := nonblank_of_spelled (r := s) ht (by decide) (by decide)
    obtain ⟨u', v', rfl, hu', hv'⟩ := spelled_singleton_iff.1 ht
    simp only [List.append_assoc] at hn ⊢
    obtain ⟨hk', hb'⟩ := read_word hu' hv' (nonblank_of_fold hs (by decide))
    obtain ⟨hk, hb⟩ := read_word hu hv hn
    exact optional_eq_some.2 (Or.inl
      (comp_eq_some.2 ⟨_, hk, comp_eq_some.2 ⟨_, hb, comp_eq_some.2 ⟨_, hk', hb'⟩⟩⟩))

theorem IsKeywords.read {k : List Char} (hk : IsKeywords k)
    (hr : ∀ c ∈ r.head?, isLatinLetter c = false) : createProcedure (k ++ r) = some r := by
  obtain ⟨create, choice, p, rfl, hcreate, hc, hp⟩ := hk
  have hhead : (p ++ r).head?.map fold = some 'p' := head_of_procedure hp
  have hn : ∀ c ∈ (choice ++ (p ++ r)).head?, isBlank c = false := by
    rcases hc with rfl | hc
    · exact nonblank_of_fold hhead (by decide)
    · exact nonblank_of_spelled hc (by decide) (by decide)
  obtain ⟨u, v, rfl, hu, hv⟩ := spelled_singleton_iff.1 hcreate
  obtain ⟨hread, hb⟩ := read_word hu hv hn
  simp only [List.append_assoc]
  exact comp_eq_some.2 ⟨_, hread, comp_eq_some.2 ⟨_, hb,
    comp_eq_some.2 ⟨_, read_choice hc hhead, read_procedure hr hp⟩⟩⟩

theorem IsKeywords.begins {k : List Char} (hk : IsKeywords k) : ∃ c t, k = c :: t ∧ fold c = 'c' := by
  obtain ⟨create, choice, p, rfl, hcreate, -⟩ := hk
  obtain ⟨u, v, rfl, hu, -⟩ := spelled_singleton_iff.1 hcreate
  obtain ⟨c, u, rfl⟩ := List.exists_cons_of_ne_nil (ne_nil_of_map_fold hu (by decide))
  exact ⟨c, _, rfl, (List.cons_eq_cons.1 hu).1⟩

theorem IsKeywords.solid_reverse {k : List Char} (hk : IsKeywords k) : Solid k.reverse := by
  obtain ⟨create, choice, p, rfl, -, -, hp⟩ := hk
  have hs : p ≠ [] ∧ ∀ c ∈ p, isLatinLetter c := by
    rcases hp with hp | hp
    · exact ⟨ne_nil_of_map_fold hp (by decide), isLatinLetter_of_map_fold hp (by decide)⟩
    · exact ⟨ne_nil_of_map_fold hp (by decide), isLatinLetter_of_map_fold hp (by decide)⟩
  rw [List.reverse_append, List.reverse_append, List.append_assoc]
  exact Solid.append (solid_of_forall (by simpa using hs.1) fun c hc =>
    isBlank_of_isLatinLetter (hs.2 c (List.mem_reverse.1 hc)))

theorem IsKeywords.holdsHeader {k : List Char} (hk : IsKeywords k)
    (hr : r.head?.any isWord = false) : holdsHeader (k ++ r) := by
  have hread : headerWord none (k ++ r) = some ((), r) := by
    have hletter : ∀ c ∈ r.head?, isLatinLetter c = false := by
      intro c hc
      rw [Option.mem_def.1 hc, Option.any_some] at hr
      cases hl : isLatinLetter c with
      | false => rfl
      | true => exact absurd (isWord_of_isLatinLetter hl) (by simp [hr])
    simp [headerWord, hk.read hletter, hr]
  obtain ⟨c, t, rfl, -⟩ := hk.begins
  rw [Procedure.holdsHeader, Reader.first?, List.cons_append, Reader.firstFrom?, ← List.cons_append,
    hread]
  rfl

theorem read_of_heading {u : List Char} (hu : IsHeading u)
    (hr : ∀ c ∈ r.head?, isBlank c = false) : (createProcedure >=> blanks) (u ++ r) = some r := by
  obtain ⟨k, v, rfl, hk, hv⟩ := hu.exists_keywords
  have hv' : ∀ c ∈ (v ++ r).head?, isLatinLetter c = false := by
    obtain ⟨c, v, rfl⟩ := List.exists_cons_of_ne_nil hv.1
    intro d hd
    obtain rfl : c = d := Option.some.inj hd
    exact isLatinLetter_of_isBlank (hv.2 c List.mem_cons_self)
  rw [List.append_assoc]
  exact comp_eq_some.2 ⟨_, hk.read hv', blanks_eq_some.2 ⟨v, rfl, hv, hr⟩⟩

/-- No keyword but the first begins like it: behind its first character no `C` precedes an `R`. -/
def Apart (x y : Char) : Prop := ¬ (x = 'c' ∧ y = 'r')

instance : DecidableRel Apart := fun _ _ => inferInstanceAs (Decidable (¬ _))

theorem apart_of_isBlank_left {c : Char} (h : isBlank c) (y : Char) : Apart (fold c) y := by
  rintro ⟨hc, -⟩
  have := fold_of_isBlank h
  rw [hc] at this
  exact this (by decide)

theorem apart_of_isBlank_right {c : Char} (h : isBlank c) (x : Char) : Apart x (fold c) := by
  rintro ⟨-, hc⟩
  have := fold_of_isBlank h
  rw [hc] at this
  exact this (by decide)

theorem isChain_blanks_append {v t : List Char} (hv : ∀ c ∈ v, isBlank c)
    (ht : List.IsChain Apart (t.map fold)) : List.IsChain Apart ((v ++ t).map fold) := by
  induction v with
  | nil => exact ht
  | cons c v ih =>
      rw [List.cons_append, List.map_cons, List.isChain_cons]
      exact ⟨fun y _ => apart_of_isBlank_left (hv c List.mem_cons_self) y,
        ih fun d hd => hv d (List.mem_cons_of_mem c hd)⟩

theorem isChain_word_append {u v t : List Char} (hu : List.IsChain Apart (u.map fold))
    (hv : Blanks v) (ht : List.IsChain Apart (t.map fold)) :
    List.IsChain Apart ((u ++ (v ++ t)).map fold) := by
  rw [List.map_append, List.isChain_append]
  refine ⟨hu, isChain_blanks_append hv.2 ht, ?_⟩
  intro x _ y hy
  obtain ⟨c, v, rfl⟩ := List.exists_cons_of_ne_nil hv.1
  obtain rfl : fold c = y := by simpa using hy
  exact apart_of_isBlank_right (hv.2 c List.mem_cons_self) x

theorem isChain_spelled {words : List String} (h : Spelled words s)
    (hw : ∀ w ∈ words, List.IsChain Apart (w.toList.map fold)) :
    List.IsChain Apart (s.map fold) := by
  induction h with
  | nil => exact List.isChain_nil
  | cons hu hv _ ih =>
      apply isChain_word_append _ hv (ih fun w hm => hw w (List.mem_cons_of_mem _ hm))
      rw [hu]
      exact hw _ List.mem_cons_self

theorem IsHeading.first_word (h : IsHeading s) : ∃ u v t words, s = u ++ (v ++ t) ∧
    u.map fold = "CREATE".toList.map fold ∧ Blanks v ∧ Spelled words t ∧
    ∀ w ∈ words, List.IsChain Apart (w.toList.map fold) := by
  obtain ⟨words, hw, hs⟩ := h.spelled
  simp only [headings, List.mem_cons, List.not_mem_nil, or_false] at hw
  rcases hw with rfl | rfl | rfl | rfl
  all_goals
    obtain ⟨u, v, t, rfl, hu, hv, ht⟩ := spelled_cons_iff.1 hs
    exact ⟨u, v, t, _, rfl, hu, hv, ht, by decide⟩

theorem IsHeading.begins (h : IsHeading s) :
    ∃ c d t, s = c :: d :: t ∧ fold c = 'c' ∧ fold d = 'r' := by
  obtain ⟨u, v, t, -, rfl, hu, -, -, -⟩ := h.first_word
  obtain ⟨c, u, rfl⟩ := List.exists_cons_of_ne_nil (ne_nil_of_map_fold hu (by decide))
  obtain ⟨hc, hu⟩ := List.cons_eq_cons.1 hu
  cases u with
  | nil => exact absurd hu (by decide)
  | cons d u => exact ⟨c, d, _, rfl, hc, (List.cons_eq_cons.1 hu).1⟩

theorem IsHeading.isChain_tail (h : IsHeading s) : List.IsChain Apart (s.tail.map fold) := by
  obtain ⟨u, v, t, words, rfl, hu, hv, ht, hw⟩ := h.first_word
  obtain ⟨c, u, rfl⟩ := List.exists_cons_of_ne_nil (ne_nil_of_map_fold hu (by decide))
  apply isChain_word_append _ hv (isChain_spelled ht hw)
  rw [(List.cons_eq_cons.1 hu).2]
  decide

theorem IsHeading.not_inside {u k w : List Char} (hk : IsHeading k) (hu : u ≠ []) :
    ¬ IsHeading (u ++ (k ++ w)) := by
  intro h
  obtain ⟨c, d, t, rfl, hc, hd⟩ := hk.begins
  obtain ⟨x, u, rfl⟩ := List.exists_cons_of_ne_nil hu
  have hchain := h.isChain_tail
  simp only [List.cons_append, List.tail_cons, List.map_append, List.map_cons] at hchain
  exact (List.isChain_append_cons_cons.1 hchain).2.1 ⟨hc, hd⟩

def Opens (s : List Char) : Prop :=
  ∃ keywords rest, s = keywords ++ rest ∧ IsHeading keywords ∧ rest.head?.any isNameChar

theorem nonblank_of_isNameChar (h : r.head?.any isNameChar) :
    ∀ c ∈ r.head?, isBlank c = false := by
  intro c hc
  rw [Option.mem_def.1 hc, Option.any_some, isNameChar, Bool.and_eq_true] at h
  simpa using h.1

/-- Whether a heading begins before another one does not depend on the name behind that one. -/
theorem Opens.congr {u k name name' : List Char} (hk : IsHeading k) (hu : u ≠ [])
    (h : Opens (u ++ (k ++ name'))) :
    Opens (u ++ (k ++ name)) := by
  obtain ⟨keywords, rest, he, hh, hr⟩ := h
  rw [← List.append_assoc] at he ⊢
  rcases List.append_eq_append_iff.1 he with ⟨w, rfl, -⟩ | ⟨w, hw, hrest⟩
  · rw [List.append_assoc] at hh
    exact absurd hh (hk.not_inside hu)
  · cases w with
    | nil =>
        rw [List.append_nil] at hw
        rw [← hw] at hh
        have := hk.not_inside (w := []) hu
        rw [List.append_nil] at this
        exact absurd hh this
    | cons c w =>
        refine ⟨keywords, c :: w ++ name, ?_, hh, ?_⟩
        · rw [hw, List.append_assoc]
        · rw [hrest] at hr
          exact hr

theorem headerName_eq_some {before : Option Char} {t keywords name rest : List Char} :
    headerName before t = some ((keywords, name), rest) ↔ t = keywords ++ (name ++ rest) ∧
      IsHeading keywords ∧ name ≠ [] ∧ (∀ c ∈ name, isNameChar c) ∧
        ∀ c ∈ rest.head?, isNameChar c = false := by
  constructor
  · intro h
    obtain ⟨x, hx, h⟩ := Option.bind_eq_some_iff.1 h
    obtain ⟨y, hy, h⟩ := Option.bind_eq_some_iff.1 h
    obtain ⟨u, rfl, hu⟩ := heading_of_read hx
    obtain ⟨v, rfl, hv, hchars, hend⟩ := many1_eq_some.1 hy
    simp only [consumed_append, Option.some.injEq, Prod.mk.injEq] at h
    obtain ⟨⟨rfl, rfl⟩, rfl⟩ := h
    exact ⟨rfl, hu, hv, hchars, hend⟩
  · rintro ⟨rfl, hk, hne, hname, hend⟩
    have hn : (name ++ rest).head?.any isNameChar := by
      obtain ⟨c, name, rfl⟩ := List.exists_cons_of_ne_nil hne
      exact hname c List.mem_cons_self
    have hx := read_of_heading hk (nonblank_of_isNameChar hn)
    have hy : many1 isNameChar (name ++ rest) = some rest :=
      many1_eq_some.2 ⟨name, rfl, hne, hname, hend⟩
    simp only [headerName, hx, hy, Option.bind_eq_bind, Option.bind_some, consumed_append]

theorem headerName_eq_none_iff {before : Option Char} {t : List Char} :
    headerName before t = none ↔ ¬ Opens t := by
  constructor
  · rintro h ⟨keywords, rest, rfl, hk, hr⟩
    have hsome : headerName before (keywords ++ rest) =
        some ((keywords, rest.takeWhile isNameChar), rest.dropWhile isNameChar) := by
      refine headerName_eq_some.2 ⟨by rw [List.takeWhile_append_dropWhile], hk, ?_,
        fun c hc => List.mem_takeWhile_imp hc, head?_dropWhile_neg _ _⟩
      cases rest with
      | nil => exact absurd hr (by simp)
      | cons c rest => rw [List.takeWhile_cons_of_pos (by exact hr)]; exact List.cons_ne_nil _ _
    rw [h] at hsome
    exact absurd hsome (by simp)
  · intro h
    cases hn : headerName before t with
    | none => rfl
    | some p =>
        obtain ⟨⟨keywords, name⟩, rest⟩ := p
        obtain ⟨rfl, hk, hne, hname, -⟩ := headerName_eq_some.1 hn
        refine absurd ⟨keywords, name ++ rest, rfl, hk, ?_⟩ h
        obtain ⟨c, name, rfl⟩ := List.exists_cons_of_ne_nil hne
        exact hname c List.mem_cons_self

structure Header.IsFirst (h : Header) (sql : List Char) : Prop where
  text : sql = h.before ++ (h.keywords ++ (h.name ++ h.after))
  keywords : IsHeading h.keywords
  name_ne : h.name ≠ []
  name : ∀ c ∈ h.name, isNameChar c
  after : ∀ c ∈ h.after.head?, isNameChar c = false
  first : ∀ u v, h.before = u ++ v → v ≠ [] → ¬ Opens (v ++ (h.keywords ++ (h.name ++ h.after)))

theorem header?_eq_some {sql : List Char} {h : Header} : header? sql = some h ↔ h.IsFirst sql := by
  have hfirst : headerName.first? sql = some (h.before, (h.keywords, h.name), h.after) ↔
      Reader.Finds headerName none sql h.before (h.keywords, h.name) h.after :=
    Reader.first?_eq_some fun _ _ _ => rfl
  have hheader : header? sql = some h ↔
      headerName.first? sql = some (h.before, (h.keywords, h.name), h.after) := by
    rw [header?, Option.map_eq_some_iff]
    constructor
    · rintro ⟨⟨before, ⟨keywords, name⟩, after⟩, hf, rfl⟩
      exact hf
    · intro hf
      exact ⟨_, hf, rfl⟩
  rw [hheader, hfirst]
  constructor
  · rintro ⟨t, rfl, -, ht, hearlier⟩
    obtain ⟨rfl, hk, hne, hname, hend⟩ := headerName_eq_some.1 ht
    exact ⟨rfl, hk, hne, hname, hend,
      fun u v hu hv => headerName_eq_none_iff.1 (hearlier u v hu hv)⟩
  · rintro ⟨rfl, hk, hne, hname, hend, hearlier⟩
    refine ⟨_, rfl, ?_, headerName_eq_some.2 ⟨rfl, hk, hne, hname, hend⟩,
      fun u v hu hv => headerName_eq_none_iff.2 (hearlier u v hu hv)⟩
    obtain ⟨c, d, t, ht, -⟩ := hk.begins
    rw [ht]
    exact List.cons_ne_nil _ _

theorem header?_of_first {before keywords rest : List Char} (hk : IsHeading keywords)
    (hr : rest.head?.any isNameChar)
    (hfirst : ∀ u v, before = u ++ v → v ≠ [] → ¬ Opens (v ++ (keywords ++ rest))) :
    header? (before ++ (keywords ++ rest)) =
      some ⟨before, keywords, rest.takeWhile isNameChar, rest.dropWhile isNameChar⟩ := by
  refine header?_eq_some.2 ⟨by rw [List.takeWhile_append_dropWhile], hk, ?_,
    fun c hc => List.mem_takeWhile_imp hc, head?_dropWhile_neg _ _, ?_⟩
  · cases rest with
    | nil => exact absurd hr (by simp)
    | cons c rest =>
        rw [List.takeWhile_cons_of_pos (by exact hr)]
        exact List.cons_ne_nil _ _
  · rw [List.takeWhile_append_dropWhile]
    exact hfirst

/-- A text put in the place of the name leaves the header where it was. -/
theorem Header.IsFirst.replaced {sql : List Char} {h : Header} (hh : h.IsFirst sql)
    {text : List Char} (ht : text.head?.any isNameChar) :
    header? (h.before ++ (h.keywords ++ text)) =
      some ⟨h.before, h.keywords, text.takeWhile isNameChar, text.dropWhile isNameChar⟩ :=
  header?_of_first hh.keywords ht fun u v hu hv hopens =>
    hh.first u v hu hv (hopens.congr hh.keywords hv)

end IndexTuning.Sql.Procedure
