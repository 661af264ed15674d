import IndexTuning.Proofs.Text.Blank
import IndexTuning.Text.Scan
import Mathlib.Data.List.TakeWhile

namespace IndexTuning.Text

theorem dropFolded?_eq_some {word s r : List Char} :
    dropFolded? word s = some r ↔ ∃ u, s = u ++ r ∧ u.map fold = word.map fold := by
  induction word generalizing s with
  | nil =>
      simp only [dropFolded?, Option.some.injEq, List.map_nil, List.map_eq_nil_iff]
      exact ⟨fun h => ⟨[], h, rfl⟩, fun ⟨u, hs, hu⟩ => by rw [hs, hu, List.nil_append]⟩
  | cons w word ih =>
      cases s with
      | nil =>
          simp only [dropFolded?, reduceCtorEq, List.map_cons, false_iff, not_exists, not_and]
          intro u hs hu
          rw [(List.append_eq_nil_iff.1 hs.symm).1] at hu
          exact absurd hu (List.cons_ne_nil _ _).symm
      | cons c s =>
          by_cases h : fold w = fold c
          · rw [dropFolded?, if_pos h, ih]
            constructor
            · rintro ⟨u, rfl, hu⟩
              exact ⟨c :: u, rfl, by rw [List.map_cons, List.map_cons, hu, h]⟩
            · rintro ⟨u, hs, hu⟩
              cases u with
              | nil => exact absurd hu (List.cons_ne_nil _ _).symm
              | cons d u =>
                  obtain ⟨-, rfl⟩ := List.cons_eq_cons.1 hs
                  exact ⟨u, rfl, (List.cons_eq_cons.1 hu).2⟩
          · rw [dropFolded?, if_neg h]
            refine ⟨fun h => absurd h (by simp), ?_⟩
            rintro ⟨u, hs, hu⟩
            cases u with
            | nil => exact absurd hu (List.cons_ne_nil _ _).symm
            | cons d u =>
                obtain ⟨rfl, -⟩ := List.cons_eq_cons.1 hs
                exact absurd (List.cons_eq_cons.1 hu).1.symm h

def Blanks (s : List Char) : Prop := s ≠ [] ∧ ∀ c ∈ s, isBlank c

/-- The words stand one behind the other in any case, each with blanks behind it. -/
inductive Spelled : List String → List Char → Prop
  | nil : Spelled [] []
  | cons {word : String} {words : List String} {u v s : List Char} :
      u.map fold = word.toList.map fold → Blanks v → Spelled words s →
      Spelled (word :: words) (u ++ (v ++ s))

theorem spelled_cons_iff {word : String} {words : List String} {s : List Char} :
    Spelled (word :: words) s ↔ ∃ u v t, s = u ++ (v ++ t) ∧ u.map fold = word.toList.map fold ∧
      Blanks v ∧ Spelled words t := by
  constructor
  · intro h
    cases h with
    | cons hu hv ht => exact ⟨_, _, _, rfl, hu, hv, ht⟩
  · rintro ⟨u, v, t, rfl, hu, hv, ht⟩
    exact ht.cons hu hv

theorem spelled_singleton_iff {word : String} {s : List Char} :
    Spelled [word] s ↔ ∃ u v, s = u ++ v ∧ u.map fold = word.toList.map fold ∧ Blanks v := by
  rw [spelled_cons_iff]
  constructor
  · rintro ⟨u, v, t, rfl, hu, hv, ht⟩
    cases ht
    exact ⟨u, v, by rw [List.append_nil], hu, hv⟩
  · rintro ⟨u, v, rfl, hu, hv⟩
    exact ⟨u, v, [], by rw [List.append_nil], hu, hv, .nil⟩

theorem Spelled.append {words words' : List String} {s t : List Char} (hs : Spelled words s)
    (ht : Spelled words' t) : Spelled (words ++ words') (s ++ t) := by
  induction hs with
  | nil => exact ht
  | cons hu hv _ ih => simpa only [List.cons_append, List.append_assoc] using ih.cons hu hv

theorem isLatinLetter_of_map_fold {u word : List Char} (h : u.map fold = word.map fold)
    (hw : word.all isLatinLetter) : ∀ c ∈ u, isLatinLetter c := by
  intro c hc
  obtain ⟨d, hd, he⟩ := List.mem_map.1 (h ▸ List.mem_map_of_mem hc : fold c ∈ word.map fold)
  rw [isLatinLetter, ← he]
  exact List.all_eq_true.1 hw d hd

theorem Spelled.forall_mem {words : List String} {s : List Char} (h : Spelled words s)
    (hw : ∀ w ∈ words, w.toList.all isLatinLetter) :
    ∀ c ∈ s, isLatinLetter c ∨ isBlank c := by
  induction h with
  | nil => simp
  | cons hu hv _ ih =>
      intro c hc
      rcases List.mem_append.1 hc with hc | hc
      · exact Or.inl (isLatinLetter_of_map_fold hu (hw _ List.mem_cons_self) c hc)
      · rcases List.mem_append.1 hc with hc | hc
        · exact Or.inr (hv.2 c hc)
        · exact ih (fun w hm => hw w (List.mem_cons_of_mem _ hm)) c hc

theorem ne_nil_of_map_fold {u : List Char} {word : String}
    (h : u.map fold = word.toList.map fold) (hw : word ≠ "") : u ≠ [] := by
  rintro rfl
  exact hw (String.toList_eq_nil_iff.1 (List.map_eq_nil_iff.1 h.symm))

theorem Spelled.solid {words : List String} {s : List Char} (h : Spelled words s)
    (hne : words ≠ []) (hw : ∀ w ∈ words, w ≠ "" ∧ w.toList.all isLatinLetter) : Solid s := by
  cases h with
  | nil => exact absurd rfl hne
  | @cons word _ u _ _ hu _ _ =>
      obtain ⟨hword, hl⟩ := hw word List.mem_cons_self
      obtain ⟨c, u, rfl⟩ := List.exists_cons_of_ne_nil (ne_nil_of_map_fold hu hword)
      have hc := isLatinLetter_of_map_fold hu hl c List.mem_cons_self
      exact solid_iff.2 ⟨c, _, rfl, isBlank_of_isLatinLetter hc⟩

namespace Scanner

variable {f g : Scanner} {p : Char → Bool} {s r : List Char}

theorem comp_eq_some : (f >=> g) s = some r ↔ ∃ t, f s = some t ∧ g t = some r :=
  Option.bind_eq_some_iff

theorem keyword_eq_some {word : String} :
    keyword word s = some r ↔ ∃ u, s = u ++ r ∧ u.map fold = word.toList.map fold :=
  dropFolded?_eq_some

theorem many1_eq_some : many1 p s = some r ↔
    ∃ u, s = u ++ r ∧ u ≠ [] ∧ (∀ c ∈ u, p c) ∧ ∀ c ∈ r.head?, p c = false := by
  cases s with
  | nil =>
      simp only [many1, reduceCtorEq, false_iff, not_exists, not_and]
      intro u hs hu
      exact absurd (List.append_eq_nil_iff.1 hs.symm).1 hu
  | cons c s =>
      by_cases h : p c
      · simp only [many1, h, if_true, Option.some.injEq]
        constructor
        · rintro rfl
          refine ⟨c :: s.takeWhile p, by simp, by simp, ?_, head?_dropWhile_neg p s⟩
          simpa [h] using fun d hd => List.mem_takeWhile_imp hd
        · rintro ⟨u, hs, hu, hp, hr⟩
          have hd := dropWhile_append_of_head p hp hr
          rwa [← hs, List.dropWhile_cons_of_pos h] at hd
      · simp only [many1, h, Bool.false_eq_true, if_false, reduceCtorEq, false_iff, not_exists,
          not_and]
        intro u hs hu hp
        cases u with
        | nil => exact absurd rfl hu
        | cons d u =>
            obtain ⟨rfl, -⟩ := List.cons_eq_cons.1 hs
            exact absurd (hp c List.mem_cons_self) h

theorem many_eq_some : many p s = some r ↔
    ∃ u, s = u ++ r ∧ (∀ c ∈ u, p c) ∧ ∀ c ∈ r.head?, p c = false := by
  simp only [many, Option.some.injEq]
  constructor
  · rintro rfl
    exact ⟨s.takeWhile p, (List.takeWhile_append_dropWhile).symm,
      fun c hc => List.mem_takeWhile_imp hc, head?_dropWhile_neg p s⟩
  · rintro ⟨u, rfl, hp, hr⟩
    exact dropWhile_append_of_head p hp hr

theorem blanks_eq_some : blanks s = some r ↔
    ∃ u, s = u ++ r ∧ Blanks u ∧ ∀ c ∈ r.head?, isBlank c = false := by
  simp only [blanks, many1_eq_some, Blanks, and_assoc]

theorem char_eq_some {c : Char} : Scanner.char c s = some r ↔ s = c :: r := by
  cases s with
  | nil => simp [Scanner.char]
  | cons d s =>
      by_cases h : d = c
      · simp [Scanner.char, h]
      · simp [Scanner.char, h]

theorem optional_eq_some :
    optional f s = some r ↔ f s = some r ∨ f s = none ∧ r = s := by
  cases h : f s with
  | none => simp [optional, h, eq_comm]
  | some t => simp [optional, h]

theorem head_of_keyword {word : String} {s r : List Char} (h : keyword word s = some r)
    (hw : word ≠ "") : s.head?.map fold = word.toList.head?.map fold := by
  obtain ⟨u, rfl, hu⟩ := keyword_eq_some.1 h
  obtain ⟨c, u, rfl⟩ := List.exists_cons_of_ne_nil (ne_nil_of_map_fold hu hw)
  rw [← List.head?_map, ← List.head?_map, ← hu]
  rfl

theorem keyword_eq_none {word : String} (hw : word ≠ "")
    (h : s.head?.map fold ≠ word.toList.head?.map fold) : keyword word s = none := by
  cases hk : keyword word s with
  | none => rfl
  | some r => exact absurd (head_of_keyword hk hw) h

theorem read_word {word : String} {u v t : List Char} (hu : u.map fold = word.toList.map fold)
    (hv : Blanks v) (ht : ∀ c ∈ t.head?, isBlank c = false) :
    keyword word (u ++ (v ++ t)) = some (v ++ t) ∧ blanks (v ++ t) = some t :=
  ⟨keyword_eq_some.2 ⟨u, rfl, hu⟩, blanks_eq_some.2 ⟨v, rfl, hv, ht⟩⟩

theorem spelled_of_word {word : String} (h : (keyword word >=> blanks) s = some r) :
    ∃ u, s = u ++ r ∧ Spelled [word] u := by
  obtain ⟨t, hk, hb⟩ := comp_eq_some.1 h
  obtain ⟨u, rfl, hu⟩ := keyword_eq_some.1 hk
  obtain ⟨v, rfl, hv, -⟩ := blanks_eq_some.1 hb
  exact ⟨u ++ (v ++ []), by simp, Spelled.nil.cons hu hv⟩

theorem consumed_append (u r : List Char) : consumed (u ++ r) r = u := by
  rw [consumed, List.length_append, Nat.add_sub_cancel, List.take_left]

end Scanner

/-- The second text consists of parts of the first that satisfy `P`, in their order there and none
overlapping another. -/
inductive Pieces (P : List Char → Prop) : List Char → List (List Char) → Prop
  | done (s : List Char) : Pieces P s []
  | skip {c : Char} {s : List Char} {ps : List (List Char)} : Pieces P s ps → Pieces P (c :: s) ps
  | take {a s : List Char} {ps : List (List Char)} : P a → Pieces P s ps → Pieces P (a ++ s) (a :: ps)

theorem Pieces.forall {P : List Char → Prop} {s : List Char} {ps : List (List Char)}
    (h : Pieces P s ps) : ∀ a ∈ ps, P a := by
  induction h with
  | done => simp
  | skip _ ih => exact ih
  | take ha _ ih =>
      intro b hb
      rcases List.mem_cons.1 hb with rfl | hb
      · exact ha
      · exact ih b hb

theorem Pieces.mono {P Q : List Char → Prop} {s : List Char} {ps : List (List Char)}
    (h : Pieces P s ps) (hpq : ∀ a, P a → Q a) : Pieces Q s ps := by
  induction h with
  | done => exact .done _
  | skip _ ih => exact ih.skip
  | take ha _ ih => exact ih.take (hpq _ ha)

namespace Reader

variable {α : Type}

/-- A reader that does not look back yields a value behind the text `u` and nowhere before. -/
def Finds (read : Reader α) (before : Option Char) (s u : List Char) (a : α) (r : List Char) :
    Prop :=
  ∃ t, s = u ++ t ∧ t ≠ [] ∧ read before t = some (a, r) ∧
    ∀ u₁ u₂, u = u₁ ++ u₂ → u₂ ≠ [] → read before (u₂ ++ t) = none

variable {read : Reader α} {before : Option Char} {s u r r' : List Char} {a a' : α} {c : Char}

theorem finds_of_read (h : read before (c :: s) = some (a', r')) :
    Finds read before (c :: s) u a r ↔ [] = u ∧ a' = a ∧ r' = r := by
  constructor
  · rintro ⟨t, hs, -, ht, hearlier⟩
    cases u with
    | nil =>
        rw [List.nil_append] at hs
        rw [← hs, h] at ht
        obtain ⟨rfl, rfl⟩ := Prod.mk.inj (Option.some.inj ht)
        exact ⟨rfl, rfl, rfl⟩
    | cons d u =>
        have := hearlier [] (d :: u) rfl (List.cons_ne_nil d u)
        rw [← hs, h] at this
        exact absurd this (by simp)
  · rintro ⟨rfl, rfl, rfl⟩
    refine ⟨c :: s, rfl, List.cons_ne_nil c s, h, ?_⟩
    intro u₁ u₂ hu hne
    exact absurd (List.append_eq_nil_iff.1 hu.symm).2 hne

theorem finds_of_not_read (h : read before (c :: s) = none) :
    Finds read before (c :: s) u a r ↔ ∃ v, u = c :: v ∧ Finds read before s v a r := by
  constructor
  · rintro ⟨t, hs, hne, ht, hearlier⟩
    cases u with
    | nil =>
        rw [List.nil_append] at hs
        rw [← hs, h] at ht
        exact absurd ht (by simp)
    | cons d u =>
        obtain ⟨rfl, rfl⟩ := List.cons_eq_cons.1 hs
        refine ⟨u, rfl, t, rfl, hne, ht, ?_⟩
        intro u₁ u₂ hu
        exact hearlier (c :: u₁) u₂ (by rw [hu, List.cons_append])
  · rintro ⟨v, rfl, t, rfl, hne, ht, hearlier⟩
    refine ⟨t, rfl, hne, ht, ?_⟩
    intro u₁ u₂ hu
    cases u₁ with
    | nil =>
        rw [List.nil_append] at hu
        rw [← hu]
        exact fun _ => h
    | cons d u₁ => exact hearlier u₁ u₂ (List.cons_eq_cons.1 hu).2

theorem first?_eq_some (hread : ∀ b b' s, read b s = read b' s) :
    read.first? s = some (u, a, r) ↔ Finds read none s u a r := by
  have main (b : Option Char) : read.firstFrom? b s = some (u, a, r) ↔ Finds read none s u a r := by
    induction s generalizing b u with
    | nil =>
        simp only [firstFrom?, reduceCtorEq, false_iff]
        rintro ⟨t, hs, hne, -⟩
        exact hne (List.append_eq_nil_iff.1 hs.symm).2
    | cons c s ih =>
        rw [firstFrom?, hread b none]
        cases h : read none (c :: s) with
        | some p => simp only [finds_of_read h, Option.some.injEq, Prod.mk.injEq]
        | none =>
            simp only [finds_of_not_read h, Option.map_eq_some_iff, Prod.exists, Prod.mk.injEq]
            constructor
            · rintro ⟨v, a', r', hv, rfl, rfl, rfl⟩
              exact ⟨v, rfl, (ih _).1 hv⟩
            · rintro ⟨v, rfl, hv⟩
              exact ⟨v, a, r, (ih _).2 hv, rfl, rfl, rfl⟩
  exact main none

end Reader

end IndexTuning.Text
