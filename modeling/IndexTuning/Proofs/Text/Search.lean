import IndexTuning.Text.Search

namespace IndexTuning.Text

variable {c : Char} {s t u v word new w : List Char}

theorem splitAtChar_of_not_mem (h : c ∉ s) : splitAtChar c s = [s] := by
  induction s with
  | nil => rfl
  | cons d s ih =>
      obtain ⟨hd, hs⟩ := List.ne_and_not_mem_of_not_mem_cons h
      rw [splitAtChar, if_neg (Ne.symm hd), ih hs]

theorem splitAtChar_ne_nil (c : Char) (s : List Char) : splitAtChar c s ≠ [] := by
  cases s with
  | nil => exact List.cons_ne_nil _ _
  | cons d s =>
      rw [splitAtChar]
      split
      · exact List.cons_ne_nil _ _
      · split <;> exact List.cons_ne_nil _ _

theorem splitAtChar_append_cons (c : Char) (s t : List Char) :
    splitAtChar c (s ++ c :: t) = splitAtChar c s ++ splitAtChar c t := by
  induction s with
  | nil => exact if_pos rfl
  | cons d s ih =>
      obtain ⟨p, ps, hs⟩ := List.exists_cons_of_ne_nil (splitAtChar_ne_nil c s)
      rw [List.cons_append, splitAtChar, splitAtChar, ih, hs]
      split <;> rfl

theorem splitAtChar_append (h : c ∉ s) : splitAtChar c (s ++ c :: t) = s :: splitAtChar c t := by
  rw [splitAtChar_append_cons, splitAtChar_of_not_mem h, List.singleton_append]

theorem mem_of_mem_splitAtChar {p : List Char} (h : p ∈ splitAtChar c s) :
    c ∉ p ∧ ∀ d ∈ p, d ∈ s := by
  induction s generalizing p with
  | nil =>
      obtain rfl := List.mem_singleton.1 h
      exact ⟨List.not_mem_nil, fun d hd => hd⟩
  | cons e s ih =>
      have hrest {q : List Char} (hq : q ∈ splitAtChar c s) : c ∉ q ∧ ∀ d ∈ q, d ∈ e :: s :=
        ⟨(ih hq).1, fun d hd => List.mem_cons_of_mem e ((ih hq).2 d hd)⟩
      rw [splitAtChar] at h
      split at h
      · rcases List.mem_cons.1 h with rfl | h
        · exact ⟨List.not_mem_nil, fun d hd => absurd hd List.not_mem_nil⟩
        · exact hrest h
      · rename_i he
        split at h
        · obtain rfl := List.mem_singleton.1 h
          exact ⟨by simpa using Ne.symm he, fun d hd => by simp_all⟩
        · rename_i q qs hq
          rcases List.mem_cons.1 h with rfl | h
          · obtain ⟨hc, hmem⟩ := hrest (hq ▸ List.mem_cons_self)
            refine ⟨by simp [Ne.symm he, hc], fun d hd => ?_⟩
            rcases List.mem_cons.1 hd with rfl | hd
            · exact List.mem_cons_self
            · exact hmem d hd
          · exact hrest (hq ▸ List.mem_cons_of_mem q h)

theorem getLast?_splitAtChar_append (c : Char) (s t : List Char) :
    (splitAtChar c (s ++ c :: t)).getLast? = (splitAtChar c t).getLast? := by
  rw [splitAtChar_append_cons, List.getLast?_append,
    List.getLast?_eq_some_getLast (splitAtChar_ne_nil c t), Option.some_or]

theorem dropWord?_eq_some {r : List Char} : dropWord? word s = some r ↔ s = word ++ r := by
  rw [dropWord?]
  constructor
  · intro h
    split at h
    · rename_i hp
      obtain ⟨t, rfl⟩ := List.isPrefixOf_iff_prefix.1 hp
      rw [← Option.some.inj h, List.drop_left]
    · exact absurd h (by simp)
  · rintro rfl
    rw [if_pos (List.isPrefixOf_iff_prefix.2 (List.prefix_append word r)), List.drop_left]

theorem dropWord?_eq_none (h : ¬ word <+: s) : dropWord? word s = none :=
  if_neg fun hp => h (List.isPrefixOf_iff_prefix.1 hp)

theorem replaceFrom_sublist (h : new.Sublist word) (k : Nat) (s : List Char) :
    (replaceFrom word new k s).Sublist (s.drop k) := by
  induction s generalizing k with
  | nil =>
      rw [replaceFrom]
      exact List.nil_sublist _
  | cons c s ih =>
      cases k with
      | succ k => exact ih k
      | zero =>
          rw [replaceFrom, List.drop_zero]
          split
          · rename_i hp
            obtain ⟨t, ht⟩ := List.isPrefixOf_iff_prefix.1 hp
            have hs := ih (word.length - 1)
            cases word with
            | nil =>
                obtain rfl := List.sublist_nil.1 h
                exact (hs.trans (List.drop_sublist _ s)).cons c
            | cons d word =>
                rw [List.cons_append] at ht
                obtain ⟨rfl, rfl⟩ := List.cons_eq_cons.1 ht
                rw [List.length_cons, Nat.add_sub_cancel, List.drop_left] at hs
                exact h.append hs
          · exact (ih 0).cons_cons c

theorem replaceAll_sublist (h : new.Sublist word) (s : List Char) :
    (replaceAll word new s).Sublist s :=
  replaceFrom_sublist h 0 s

theorem replaceAll_of_absent (h : ¬ word <:+: s) : replaceAll word new s = s := by
  induction s with
  | nil => rfl
  | cons c s ih =>
      have hp : ¬ word.isPrefixOf (c :: s) := fun hp =>
        h (List.isPrefixOf_iff_prefix.1 hp).isInfix
      have hs : ¬ word <:+: s := fun hs => h (hs.trans (List.suffix_cons c s).isInfix)
      rw [replaceAll, replaceFrom, if_neg hp, ← replaceAll, ih hs]

theorem infix_of_infix_append_cons (hc : c ∉ w) (h : w <:+: s ++ c :: t) :
    w <:+: s ∨ w <:+: t := by
  have hnil {v : List Char} (hv : v <+: c :: t) (hcv : c ∉ v) : v = [] := by
    cases v with
    | nil => rfl
    | cons d v =>
        obtain ⟨r, hr⟩ := hv
        obtain ⟨rfl, -⟩ := List.cons_eq_cons.1 hr
        exact absurd List.mem_cons_self hcv
  rcases List.infix_append_iff.1 h with h | h | ⟨u, v, rfl, hu, hv⟩
  · exact Or.inl h
  · rcases List.infix_cons_iff.1 h with h | h
    · rw [hnil h hc]
      exact Or.inl List.nil_infix
    · exact Or.inr h
  · rw [hnil hv fun h => hc (List.mem_append_right u h), List.append_nil]
    exact Or.inl hu.isInfix

theorem prefix_of_prefix_append (hv : ∀ c ∈ v, c ∉ w) (h : w <+: s ++ v) : w <+: s := by
  obtain ⟨r, hr⟩ := h
  rcases List.append_eq_append_iff.1 hr with ⟨a, rfl, -⟩ | ⟨b, rfl, rfl⟩
  · exact List.prefix_append w a
  · cases b with
    | nil => simp
    | cons c b => exact absurd (by simp) (hv c (by simp))

theorem infix_of_infix_append (hw : w ≠ []) (hv : ∀ c ∈ v, c ∉ w) (h : w <:+: s ++ v) :
    w <:+: s := by
  rcases List.infix_append_iff.1 h with h | h | ⟨a, b, rfl, ha, hb⟩
  · exact h
  · obtain ⟨c, w, rfl⟩ := List.exists_cons_of_ne_nil hw
    exact absurd List.mem_cons_self (hv c (h.subset List.mem_cons_self))
  · cases b with
    | nil =>
        rw [List.append_nil]
        exact ha.isInfix
    | cons c b => exact absurd (by simp) (hv c (hb.subset List.mem_cons_self))

/-- What begins in front of a word ends before that word does. -/
theorem prefix_append_dropLast {α : Type} {s w t : List α} (hs : s ≠ [])
    (h : w <+: s ++ (w ++ t)) : w <+: s ++ w.dropLast := by
  have hle : s ++ w.dropLast <+: s ++ (w ++ t) :=
    (List.prefix_append_right_inj s).2 ((List.dropLast_prefix w).trans (List.prefix_append w t))
  refine List.prefix_of_prefix_length_le h hle ?_
  have := List.length_pos_iff.2 hs
  rw [List.length_append, List.length_dropLast]
  omega

theorem cutAt?_append (hw : w ≠ []) (h : ¬ w <:+: s ++ w.dropLast) :
    cutAt? w (s ++ (w ++ t)) = some (s, t) := by
  induction s with
  | nil =>
      obtain ⟨d, w, rfl⟩ := List.exists_cons_of_ne_nil hw
      have hd : dropWord? (d :: w) (d :: (w ++ t)) = some t := dropWord?_eq_some.2 rfl
      rw [List.nil_append, List.cons_append, cutAt?, hd]
  | cons c s ih =>
      have hd : dropWord? w (c :: (s ++ (w ++ t))) = none := dropWord?_eq_none fun hp =>
        h (prefix_append_dropLast (List.cons_ne_nil c s) hp).isInfix
      have hs : ¬ w <:+: s ++ w.dropLast := fun hs => h (hs.trans (List.suffix_cons c _).isInfix)
      rw [List.cons_append, cutAt?, hd, ih hs, Option.map_some]

theorem cutAt?_eq_none (hw : w ≠ []) (h : ¬ w <:+: s) : cutAt? w s = none := by
  induction s with
  | nil => exact if_neg hw
  | cons c s ih =>
      have hd : dropWord? w (c :: s) = none := dropWord?_eq_none fun hp => h hp.isInfix
      rw [cutAt?, hd, ih fun hs => h (hs.trans (List.suffix_cons c s).isInfix), Option.map_none]

theorem exists_first_place {α : Type} {s w : List α} (hw : w ≠ []) (h : w <:+: s) :
    ∃ u v, s = u ++ (w ++ v) ∧ ¬ w <:+: u ++ w.dropLast := by
  induction s with
  | nil => exact absurd (List.infix_nil.1 h) hw
  | cons c s ih =>
      by_cases hp : w <+: c :: s
      · obtain ⟨v, hv⟩ := hp
        refine ⟨[], v, hv.symm, fun hi => ?_⟩
        have hle := hi.length_le
        have := List.length_pos_iff.2 hw
        rw [List.nil_append, List.length_dropLast] at hle
        omega
      · obtain ⟨u, v, rfl, hu⟩ := ih ((List.infix_cons_iff.1 h).resolve_left hp)
        refine ⟨c :: u, v, rfl, fun hi => ?_⟩
        rcases List.infix_cons_iff.1 hi with hi | hi
        · have hle : w.dropLast <+: w ++ v :=
            (List.dropLast_prefix w).trans (List.prefix_append w v)
          exact hp (hi.trans ((List.prefix_append_right_inj (c :: u)).2 hle))
        · exact hu hi

/-- A word that is first found in front of a place where it stands reaches into that place, so that
an end of it is also its beginning. -/
theorem exists_border {α : Type} {w x r u v : List α} (huv : u ++ v = x ++ (w ++ r))
    (hv : w <+: v) (hu : ¬ w <:+: u ++ w.dropLast) (h : w <:+: x ++ w.dropLast)
    (hx : ¬ w <:+: x) : ∃ y z, x = u ++ y ∧ w = y ++ z ∧ y ≠ [] ∧ z ≠ [] ∧ z <+: w := by
  rcases List.append_eq_append_iff.1 huv with ⟨y, rfl, rfl⟩ | ⟨y, rfl, hy⟩
  · -- the place found lies in front: the word does not end before the other place begins
    have hshort : y.length < w.length := by
      refine Nat.lt_of_not_le fun hlong => ?_
      have hwy : w <+: y := List.prefix_of_prefix_length_le hv (List.prefix_append y _) hlong
      exact hx (hwy.isInfix.trans (List.suffix_append u y).isInfix)
    obtain ⟨z, rfl⟩ :=
      List.prefix_of_prefix_length_le (List.prefix_append y _) hv (Nat.le_of_lt hshort)
    have hz : z <+: (y ++ z) ++ r := (List.prefix_append_right_inj y).1 hv
    refine ⟨y, z, rfl, rfl, ?_, ?_, List.prefix_of_prefix_length_le hz (List.prefix_append _ r) ?_⟩
    · rintro rfl
      rw [List.append_nil] at h
      exact hu h
    · rintro rfl
      simp at hshort
    · simp
  · -- the place found lies behind: then the word would have been found before
    have hless : w.dropLast <+: y ++ w.dropLast := by
      have hleft : w.dropLast <+: y ++ v :=
        (List.dropLast_prefix w).trans (hy ▸ List.prefix_append w r)
      have hright : y ++ w.dropLast <+: y ++ v :=
        (List.prefix_append_right_inj y).2 ((List.dropLast_prefix w).trans hv)
      exact List.prefix_of_prefix_length_le hleft hright (by simp)
    have hinfix := h.trans ((List.prefix_append_right_inj x).2 hless).isInfix
    rw [← List.append_assoc] at hinfix
    exact absurd hinfix hu

theorem cutAt?_eq_some (h : cutAt? w s = some (u, v)) : s = u ++ (w ++ v) := by
  induction s generalizing u with
  | nil =>
      rw [cutAt?] at h
      split at h
      · rename_i hw
        obtain ⟨rfl, rfl⟩ := Prod.mk.inj (Option.some.inj h)
        rw [hw]
        rfl
      · exact absurd h (by simp)
  | cons c s ih =>
      rw [cutAt?] at h
      split at h
      · rename_i rest hrest
        obtain ⟨rfl, rfl⟩ := Prod.mk.inj (Option.some.inj h)
        rw [List.nil_append]
        exact dropWord?_eq_some.1 hrest
      · obtain ⟨⟨u', v'⟩, hcut, huv⟩ := Option.map_eq_some_iff.1 h
        obtain ⟨rfl, rfl⟩ := Prod.mk.inj huv
        exact congrArg (c :: ·) (ih hcut)

theorem fst_cutAt?_append (hw : w ≠ []) (hv : ∀ c ∈ v, c ∉ w) :
    (cutAt? w (s ++ v)).map Prod.fst = (cutAt? w s).map Prod.fst := by
  by_cases h : w <:+: s
  · obtain ⟨a, b, rfl, ha⟩ := exists_first_place hw h
    rw [List.append_assoc, List.append_assoc, cutAt?_append hw ha, cutAt?_append hw ha]
    rfl
  · rw [cutAt?_eq_none hw h, cutAt?_eq_none hw fun hi => h (infix_of_infix_append hw hv hi)]

theorem dropWord?_append (hv : ∀ c ∈ v, c ∉ w) :
    dropWord? w (s ++ v) = (dropWord? w s).map (· ++ v) := by
  by_cases h : w <+: s
  · obtain ⟨r, rfl⟩ := h
    rw [dropWord?_eq_some.2 rfl, Option.map_some, List.append_assoc, dropWord?_eq_some.2 rfl]
  · rw [dropWord?_eq_none h, dropWord?_eq_none fun hp => h (prefix_of_prefix_append hv hp)]
    rfl

theorem occursIn_iff (hw : w ≠ []) : occursIn w s ↔ w <:+: s := by
  rw [occursIn]
  by_cases h : w <:+: s
  · obtain ⟨u, v, rfl, hu⟩ := exists_first_place hw h
    rw [cutAt?_append hw hu]
    exact iff_of_true rfl h
  · rw [cutAt?_eq_none hw h]
    exact iff_of_false (by simp) h

theorem infix_of_mem_splitOnP {α : Type} {p : α → Bool} {w s : List α} (h : w ∈ s.splitOnP p) :
    w <:+: s := by
  have hhead : ∀ t : List α, ∃ q qs, t.splitOnP p = q :: qs ∧ q <+: t := by
    intro t
    induction t with
    | nil => exact ⟨[], [], List.splitOnP_nil, List.nil_prefix⟩
    | cons c t ih =>
        obtain ⟨q, qs, hq, hp⟩ := ih
        rw [List.splitOnP_cons_eq_if_modifyHead]
        split
        · exact ⟨[], _, rfl, List.nil_prefix⟩
        · exact ⟨c :: q, qs, by rw [hq]; rfl, List.cons_prefix_cons.2 ⟨rfl, hp⟩⟩
  induction s with
  | nil =>
      obtain rfl := List.mem_singleton.1 h
      exact List.nil_infix
  | cons c s ih =>
      rw [List.splitOnP_cons_eq_if_modifyHead] at h
      split at h
      · rcases List.mem_cons.1 h with rfl | h
        · exact List.nil_infix
        · exact List.infix_cons (ih h)
      · obtain ⟨q, qs, hq, hp⟩ := hhead s
        rw [hq] at h ih
        rcases List.mem_cons.1 h with rfl | h
        · exact (List.cons_prefix_cons.2 ⟨rfl, hp⟩).isInfix
        · exact List.infix_cons (ih (List.mem_cons_of_mem q h))

end IndexTuning.Text
