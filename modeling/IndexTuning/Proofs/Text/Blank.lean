import IndexTuning.Proofs.Text.Fold
import IndexTuning.Text.Line
import IndexTuning.Text.Lowercase
import Mathlib.Data.List.TakeWhile

namespace IndexTuning.Text

variable {s t : List Char}

theorem isBlank_newline : isBlank '\n' := by decide

theorem isBlank_return : isBlank '\r' := by decide

theorem forall_blank_newline : ∀ c ∈ ['\n'], isBlank c := by
  intro c hc
  rw [List.mem_singleton.1 hc]
  exact isBlank_newline

theorem head?_dropWhile_neg (p : Char → Bool) (s : List Char) :
    ∀ c ∈ (s.dropWhile p).head?, p c = false := by
  intro c hc
  have h := List.head?_dropWhile_not p s
  rw [Option.mem_def.1 hc] at h
  exact h

theorem dropWhile_append_of_head (p : Char → Bool) {u r : List Char} (hu : ∀ c ∈ u, p c)
    (hr : ∀ c ∈ r.head?, p c = false) : (u ++ r).dropWhile p = r := by
  rw [List.dropWhile_append_of_pos hu]
  cases r with
  | nil => rfl
  | cons c r => rw [List.dropWhile_cons_of_neg (by simp [hr c rfl])]

/-- Removing from the ends what satisfies `p` leaves the part whose ends do not. -/
theorem trimWhere_between {p : Char → Bool} {u d v : List Char} (hu : ∀ c ∈ u, p c)
    (hv : ∀ c ∈ v, p c) (hne : d ≠ []) (hh : ∀ c ∈ d.head?, p c = false)
    (hl : ∀ c ∈ d.getLast?, p c = false) : trimWhere p (u ++ (d ++ v)) = d := by
  have hd : (u ++ (d ++ v)).dropWhile p = d ++ v := by
    apply dropWhile_append_of_head p hu
    obtain ⟨c, d, rfl⟩ := List.exists_cons_of_ne_nil hne
    exact hh
  have hr : (v.reverse ++ d.reverse).dropWhile p = d.reverse := by
    apply dropWhile_append_of_head p fun c hc => hv c (List.mem_reverse.1 hc)
    rw [List.head?_reverse]
    exact hl
  rw [trimWhere, hd, dropEndWhile, List.reverse_append, hr, List.reverse_reverse]

theorem exists_dropEndWhile (p : Char → Bool) (s : List Char) :
    ∃ v, s = dropEndWhile p s ++ v ∧ ∀ c ∈ v, p c := by
  refine ⟨(s.reverse.takeWhile p).reverse, ?_, ?_⟩
  · rw [dropEndWhile, ← List.reverse_append, List.takeWhile_append_dropWhile, List.reverse_reverse]
  · exact fun c hc => List.mem_takeWhile_imp (List.mem_reverse.1 hc)

theorem length_lt_trimWhere {p : Char → Bool} {u a v : List Char} {c : Char} (hu : ∀ d ∈ u, p d)
    (hne : a ≠ []) (ha : ∀ d ∈ a.head?, p d = false) (hc : p c = false) :
    a.length < (trimWhere p (u ++ (a ++ c :: v))).length := by
  have hd : (u ++ (a ++ c :: v)).dropWhile p = a ++ c :: v := by
    apply dropWhile_append_of_head p hu
    obtain ⟨d, a, rfl⟩ := List.exists_cons_of_ne_nil hne
    exact ha
  obtain ⟨t, ht, hp⟩ := exists_dropEndWhile p (a ++ c :: v)
  rw [trimWhere, hd]
  rcases List.append_eq_append_iff.1 ht with ⟨r, hr, hct⟩ | ⟨r, -, rfl⟩
  · cases r with
    | nil => exact absurd (hp c (by rw [← List.nil_append t, ← hct]; simp)) (by simp [hc])
    | cons d r =>
        rw [hr, List.length_append, List.length_cons]
        omega
  · exact absurd (hp c (by simp)) (by simp [hc])

theorem dropEndWhile_isPrefix (p : Char → Bool) (s : List Char) : dropEndWhile p s <+: s := by
  obtain ⟨v, hv, -⟩ := exists_dropEndWhile p s
  exact ⟨v, hv.symm⟩

theorem dropEndWhile_cons_of_neg {p : Char → Bool} {c : Char} (h : p c = false) (s : List Char) :
    ∃ r, dropEndWhile p (c :: s) = c :: r := by
  obtain ⟨t, ht⟩ := dropEndWhile_isPrefix p (c :: s)
  cases hd : dropEndWhile p (c :: s) with
  | nil =>
      rw [dropEndWhile, List.reverse_eq_nil_iff, List.dropWhile_eq_nil_iff] at hd
      exact absurd (hd c (by simp)) (by simp [h])
  | cons d r =>
      rw [hd] at ht
      obtain ⟨rfl, -⟩ := List.cons_eq_cons.1 ht
      exact ⟨r, rfl⟩

theorem mem_of_mem_trimWhere {p : Char → Bool} {c : Char} (h : c ∈ trimWhere p s) : c ∈ s :=
  (List.dropWhile_sublist p).subset ((dropEndWhile_isPrefix p _).subset h)

theorem head?_trimWhere (p : Char → Bool) (s : List Char) :
    ∀ c ∈ (trimWhere p s).head?, p c = false := by
  intro c hc
  obtain ⟨t, ht⟩ := dropEndWhile_isPrefix p (s.dropWhile p)
  apply head?_dropWhile_neg p s
  rw [← ht, List.head?_append, Option.mem_def]
  rw [trimWhere, Option.mem_def] at hc
  rw [hc]
  rfl

theorem trim_ne_nil {c : Char} (h : c ∈ s) (hc : isBlank c = false) : trim s ≠ [] := by
  have hd : s.dropWhile isBlank ≠ [] := by
    intro hd
    rw [List.dropWhile_eq_nil_iff] at hd
    exact absurd (hd c h) (by simp [hc])
  obtain ⟨d, t, ht⟩ := List.exists_cons_of_ne_nil hd
  have hhead := head?_dropWhile_neg isBlank s d (by rw [ht]; rfl)
  intro htrim
  rw [trim, trimWhere, dropEndWhile, List.reverse_eq_nil_iff, List.dropWhile_eq_nil_iff] at htrim
  exact absurd (htrim d (by rw [ht]; simp)) (by simp [hhead])

theorem lowercase_ne_nil (h : s ≠ []) : lowercase s ≠ [] := by
  obtain ⟨c, s, rfl⟩ := List.exists_cons_of_ne_nil h
  rw [lowercase, lowercaseAfter, lowerInContext]
  split
  · exact List.cons_ne_nil _ _
  · split <;> exact List.cons_ne_nil _ _

/-- The text begins with a character that is not blank. -/
def Solid (s : List Char) : Prop := s.head?.any fun c => !isBlank c

instance : Decidable (Solid s) := inferInstanceAs (Decidable (_ = true))

/-- Neither end of the text is blank. -/
def Tight (s : List Char) : Prop := Solid s ∧ Solid s.reverse

instance : Decidable (Tight s) := inferInstanceAs (Decidable (_ ∧ _))

theorem solid_iff : Solid s ↔ ∃ c r, s = c :: r ∧ isBlank c = false := by
  cases s with
  | nil => simp [Solid]
  | cons c s => simp [Solid]

theorem solid_of_forall (hne : s ≠ []) (h : ∀ c ∈ s, isBlank c = false) : Solid s := by
  obtain ⟨c, r, rfl⟩ := List.exists_cons_of_ne_nil hne
  exact solid_iff.2 ⟨c, r, rfl, h c List.mem_cons_self⟩

theorem Solid.append (h : Solid s) : Solid (s ++ t) := by
  obtain ⟨c, r, rfl, hb⟩ := solid_iff.1 h
  exact solid_iff.2 ⟨c, r ++ t, rfl, hb⟩

theorem Solid.ne_nil_of_reverse (h : Solid s.reverse) : s ≠ [] := by
  rintro rfl
  exact absurd h (by decide)

theorem Solid.dropWhile (h : Solid s) : s.dropWhile isBlank = s := by
  obtain ⟨c, r, rfl, hb⟩ := solid_iff.1 h
  rw [List.dropWhile_cons_of_neg (by simp [hb])]

theorem Tight.ne_nil (h : Tight s) : s ≠ [] := by
  obtain ⟨c, r, rfl, -⟩ := solid_iff.1 h.1
  exact List.cons_ne_nil c r

theorem Tight.trim_eq (h : Tight s) : trim s = s := by
  rw [trim, trimWhere, dropEndWhile, h.1.dropWhile, h.2.dropWhile, List.reverse_reverse]

theorem Tight.trim_between {u v : List Char} (h : Tight s) (hu : ∀ c ∈ u, isBlank c)
    (hv : ∀ c ∈ v, isBlank c) : trim (u ++ (s ++ v)) = s := by
  obtain ⟨c, r, hs, hc⟩ := solid_iff.1 h.1
  obtain ⟨d, q, hr, hd⟩ := solid_iff.1 h.2
  apply trimWhere_between hu hv h.ne_nil
  · intro e he
    rw [hs] at he
    obtain rfl := Option.some.inj he
    exact hc
  · intro e he
    rw [← List.head?_reverse, hr] at he
    obtain rfl := Option.some.inj he
    exact hd

theorem Tight.append (hs : Solid s) (ht : Solid t.reverse) : Tight (s ++ t) := by
  constructor
  · exact hs.append
  · rw [List.reverse_append]
    exact ht.append

theorem Solid.exists_of_append_eq {k r d v : List Char} (hk : Solid k.reverse)
    (hv : ∀ c ∈ v, isBlank c) (h : k ++ r = d ++ v) : ∃ w, d = k ++ w ∧ r = w ++ v := by
  rcases List.append_eq_append_iff.1 h with hw | ⟨w, rfl, rfl⟩
  · exact hw
  · rcases List.eq_nil_or_concat w with rfl | ⟨w, c, rfl⟩
    · exact ⟨[], by simp, rfl⟩
    · rw [List.concat_eq_append, List.reverse_append, List.reverse_concat] at hk
      have hc := hv c (by simp)
      exact absurd hk (by simp [Solid, hc])

theorem solid_reverse_trim (h : trim s ≠ []) : Solid (trim s).reverse := by
  have hhead := head?_dropWhile_neg isBlank (s.dropWhile isBlank).reverse
  rw [trim, trimWhere, dropEndWhile, Ne, List.reverse_eq_nil_iff] at h
  rw [trim, trimWhere, dropEndWhile, List.reverse_reverse]
  obtain ⟨c, r, hr⟩ := List.exists_cons_of_ne_nil h
  rw [hr] at hhead ⊢
  exact solid_iff.2 ⟨c, r, rfl, hhead c rfl⟩

theorem tight_trim (h : trim s ≠ []) : Tight (trim s) := by
  refine ⟨?_, solid_reverse_trim h⟩
  obtain ⟨c, r, hr⟩ := List.exists_cons_of_ne_nil h
  exact solid_iff.2 ⟨c, r, hr, head?_trimWhere isBlank s c (by rw [← trim, hr]; rfl)⟩

theorem exists_trim (s : List Char) :
    ∃ u v, s = u ++ (trim s ++ v) ∧ (∀ c ∈ u, isBlank c) ∧ ∀ c ∈ v, isBlank c := by
  obtain ⟨v, hv, hblank⟩ := exists_dropEndWhile isBlank (s.dropWhile isBlank)
  refine ⟨s.takeWhile isBlank, v, ?_, fun c hc => List.mem_takeWhile_imp hc, hblank⟩
  rw [trim, trimWhere, ← hv, List.takeWhile_append_dropWhile]

theorem trim_isInfix (s : List Char) : trim s <:+: s := by
  obtain ⟨u, v, hs, -, -⟩ := exists_trim s
  exact ⟨u, v, by rw [List.append_assoc, ← hs]⟩

theorem Solid.exists_trim (h : Solid s) : ∃ v, s = trim s ++ v ∧ ∀ c ∈ v, isBlank c := by
  have hv := exists_dropEndWhile isBlank s
  rwa [← h.dropWhile, ← trimWhere, ← trim, h.dropWhile] at hv

theorem trim_of_blank (h : ∀ c ∈ s, isBlank c) : trim s = [] := by
  rw [trim, trimWhere, List.dropWhile_eq_nil_iff.2 h]
  rfl

theorem blank_of_trim (h : trim s = []) : ∀ c ∈ s, isBlank c := by
  obtain ⟨u, v, hs, hu, hv⟩ := exists_trim s
  rw [h, List.nil_append] at hs
  rw [hs]
  exact List.forall_mem_append.2 ⟨hu, hv⟩

theorem trim_between {u v : List Char} (hu : ∀ c ∈ u, isBlank c) (hv : ∀ c ∈ v, isBlank c) :
    trim (u ++ (s ++ v)) = trim s := by
  obtain ⟨a, b, hs, ha, hb⟩ := exists_trim s
  have houter : u ++ (s ++ v) = (u ++ a) ++ (trim s ++ (b ++ v)) := by
    conv => lhs; rw [hs]
    simp only [List.append_assoc]
  have hleft := List.forall_mem_append.2 ⟨hu, ha⟩
  have hright := List.forall_mem_append.2 ⟨hb, hv⟩
  by_cases h : trim s = []
  · rw [houter, h, List.nil_append]
    exact trim_of_blank (List.forall_mem_append.2 ⟨hleft, hright⟩)
  · rw [houter]
    exact (tight_trim h).trim_between hleft hright

theorem trim_trim (s : List Char) : trim (trim s) = trim s := by
  by_cases h : trim s = []
  · rw [h]
    rfl
  · exact (tight_trim h).trim_eq

theorem count_trim {c : Char} (hc : isBlank c = false) (s : List Char) :
    (trim s).count c = s.count c := by
  obtain ⟨u, v, hs, hu, hv⟩ := exists_trim s
  have hzero {w : List Char} (hw : ∀ d ∈ w, isBlank d) : w.count c = 0 :=
    List.count_eq_zero.2 fun hm => absurd (hw c hm) (by simp [hc])
  have hcount := congrArg (List.count c) hs
  rw [List.count_append, List.count_append, hzero hu, hzero hv] at hcount
  omega

theorem tight_joinLines {ls : List (List Char)} (hne : ls ≠ []) (h : ∀ l ∈ ls, Tight l) :
    Tight (joinLines ls) := by
  induction ls with
  | nil => exact absurd rfl hne
  | cons l ls ih =>
      have hl := h l List.mem_cons_self
      by_cases hls : ls = []
      · rw [hls, joinLines, List.intercalate_singleton]
        exact hl
      · rw [joinLines, List.intercalate_cons_of_ne_nil hls]
        exact Tight.append hl.1.append (ih hls fun m hm => h m (List.mem_cons_of_mem l hm)).2

theorem blank_or_solid (s : List Char) : (∀ c ∈ s, isBlank c) ∨
    ∃ w c u, s = w ++ c :: u ∧ (∀ b ∈ w, isBlank b) ∧ isBlank c = false := by
  induction s with
  | nil => exact Or.inl (by simp)
  | cons c s ih =>
      cases hc : isBlank c with
      | false => exact Or.inr ⟨[], c, s, rfl, by simp, hc⟩
      | true =>
          rcases ih with hs | ⟨w, d, u, rfl, hw, hd⟩
          · exact Or.inl (List.forall_mem_cons.2 ⟨hc, hs⟩)
          · exact Or.inr ⟨c :: w, d, u, rfl, List.forall_mem_cons.2 ⟨hc, hw⟩, hd⟩

theorem isLatinLetter_of_isBlank {c : Char} (h : isBlank c) : isLatinLetter c = false :=
  forall_isBlank (fun c => isLatinLetter c = false) (by decide) c h

theorem isBlank_of_isLatinLetter {c : Char} (h : isLatinLetter c) : isBlank c = false := by
  cases hb : isBlank c with
  | false => rfl
  | true => exact absurd h (by simp [isLatinLetter_of_isBlank hb])

end IndexTuning.Text
