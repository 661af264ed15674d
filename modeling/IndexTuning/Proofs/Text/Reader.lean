import IndexTuning.Proofs.Text.Scan

namespace IndexTuning.Text

namespace Scanner

variable {f g : Scanner} {p : Char → Bool} {c : Char} {a b r s x : List Char}

def Shortens (f : Scanner) : Prop := ∀ s r, f s = some r → r <:+ s

theorem Shortens.comp (hf : Shortens f) (hg : Shortens g) : Shortens (f >=> g) := by
  intro s r h
  obtain ⟨t, ht, hr⟩ := comp_eq_some.1 h
  exact (hg t r hr).trans (hf s t ht)

theorem Shortens.orElse (hf : Shortens f) (hg : Shortens g) :
    Shortens fun s => f s <|> g s := by
  intro s r h
  change (f s <|> g s) = some r at h
  cases hfs : f s with
  | none =>
      rw [hfs] at h
      exact hg s r h
  | some t =>
      rw [hfs] at h
      exact hf s r (hfs.trans h)

theorem Shortens.optional (hf : Shortens f) : Shortens (optional f) := by
  intro s r h
  rcases optional_eq_some.1 h with h | ⟨-, rfl⟩
  · exact hf s r h
  · exact List.suffix_rfl

theorem shortens_char (c : Char) : Shortens (Scanner.char c) := by
  intro s r h
  exact ⟨[c], (char_eq_some.1 h).symm⟩

theorem shortens_many1 (p : Char → Bool) : Shortens (many1 p) := by
  intro s r h
  obtain ⟨u, hu, -⟩ := many1_eq_some.1 h
  exact ⟨u, hu.symm⟩

/-- Text behind the scanned text is left over and changes nothing else. -/
def LocalAt (f : Scanner) (x s : List Char) : Prop := f (s ++ x) = (f s).map (· ++ x)

theorem LocalAt.comp (hf : LocalAt f x s) (hg : ∀ r, f s = some r → LocalAt g x r) :
    LocalAt (f >=> g) x s := by
  change (f (s ++ x)).bind g = ((f s).bind g).map (· ++ x)
  rw [hf]
  cases h : f s with
  | none => rfl
  | some r => exact hg r h

theorem LocalAt.orElse (hf : LocalAt f x s) (hg : LocalAt g x s) :
    LocalAt (fun s => f s <|> g s) x s := by
  change (f (s ++ x) <|> g (s ++ x)) = (f s <|> g s).map (· ++ x)
  rw [hf, hg]
  cases f s <;> rfl

theorem LocalAt.optional (hf : LocalAt f x s) : LocalAt (optional f) x s := by
  change some ((f (s ++ x)).getD (s ++ x)) = some ((f s).getD s ++ x)
  rw [hf]
  cases f s <;> rfl

theorem localAt_char (h : s ≠ [] ∨ x.head? ≠ some c) : LocalAt (Scanner.char c) x s := by
  cases s with
  | nil =>
      cases x with
      | nil => rfl
      | cons d x =>
          have hd : d ≠ c := fun hd => h.elim (absurd rfl) (absurd (congrArg some hd))
          exact if_neg hd
  | cons d s =>
      rw [LocalAt, List.cons_append, Scanner.char, Scanner.char]
      split <;> rfl

theorem localAt_keyword {word : String} (hword : word.toList.all isLatinLetter)
    (h : ∀ c ∈ x.head?, isLatinLetter c = false) (s : List Char) :
    LocalAt (keyword word) x s := by
  rw [LocalAt, keyword]
  generalize word.toList = w at hword
  induction w generalizing s with
  | nil => rfl
  | cons d w ih =>
      rw [List.all_cons, Bool.and_eq_true] at hword
      cases s with
      | nil =>
          cases x with
          | nil => rfl
          | cons c x =>
              have hne : fold d ≠ fold c := by
                intro heq
                have hc := h c rfl
                rw [isLatinLetter, ← heq, ← isLatinLetter, hword.1] at hc
                exact Bool.noConfusion hc
              exact if_neg hne
      | cons c s =>
          rw [List.cons_append, dropFolded?, dropFolded?]
          split
          · exact ih s hword.2
          · rfl

theorem localAt_many1 (h : (∃ c ∈ s, p c = false) ∨ ∀ c ∈ x.head?, p c = false) :
    LocalAt (many1 p) x s := by
  have hend : (∀ c ∈ s, p c) → ∀ c ∈ x.head?, p c = false := by
    intro hs
    rcases h with ⟨c, hc, hp⟩ | hx
    · rw [hs c hc] at hp
      exact Bool.noConfusion hp
    · exact hx
  cases s with
  | nil =>
      cases x with
      | nil => rfl
      | cons d x => exact if_neg (by simp [hend (by simp) d rfl])
  | cons d s =>
      rw [LocalAt, List.cons_append, many1, many1]
      by_cases hd : p d
      · rw [if_pos hd, if_pos hd, Option.map_some, List.dropWhile_append]
        split
        · rename_i hempty
          rw [List.isEmpty_iff] at hempty
          have hall : ∀ c ∈ d :: s, p c :=
            List.forall_mem_cons.2 ⟨hd, List.dropWhile_eq_nil_iff.1 hempty⟩
          have hx := dropWhile_append_of_head p (List.forall_mem_nil _) (hend hall)
          rw [List.nil_append] at hx
          rw [hempty, hx, List.nil_append]
        · rfl
      · rw [if_neg hd, if_neg hd]
        rfl

theorem localAt_closed (hx : (x.dropWhile p).head? ≠ some c) (s : List Char) :
    LocalAt (many1 p >=> Scanner.char c) x s := by
  -- Either the run ends in `s`, or nothing is read, since `s` and what follows close nothing.
  by_cases hs : ∃ d ∈ s, p d = false
  · apply (localAt_many1 (Or.inl hs)).comp
    intro r hr
    apply localAt_char
    left
    rintro rfl
    obtain ⟨u, hu, -, hp, -⟩ := many1_eq_some.1 hr
    obtain ⟨d, hd, hnot⟩ := hs
    rw [hu, List.append_nil] at hd
    rw [hp d hd] at hnot
    exact Bool.noConfusion hnot
  · have hall : ∀ d ∈ s, p d := by
      intro d hd
      exact Bool.not_eq_false _ ▸ fun hp => hs ⟨d, hd, hp⟩
    have hshort : (many1 p >=> Scanner.char c) s = none := by
      rw [Option.eq_none_iff_forall_ne_some]
      intro r hr
      obtain ⟨t, ht, hclose⟩ := comp_eq_some.1 hr
      obtain ⟨u, hu, -, -, hhead⟩ := many1_eq_some.1 ht
      obtain rfl := char_eq_some.1 hclose
      have hc : p c := hall c (by simp [hu])
      rw [hhead c rfl] at hc
      exact Bool.noConfusion hc
    have hlong : (many1 p >=> Scanner.char c) (s ++ x) = none := by
      rw [Option.eq_none_iff_forall_ne_some]
      intro r hr
      obtain ⟨t, ht, hclose⟩ := comp_eq_some.1 hr
      obtain rfl := char_eq_some.1 hclose
      obtain ⟨u, hu, -, hp, hhead⟩ := many1_eq_some.1 ht
      have hdrop := dropWhile_append_of_head p hp hhead
      rw [← hu, List.dropWhile_append_of_pos hall] at hdrop
      exact hx (by rw [hdrop]; rfl)
    rw [LocalAt, hshort, hlong, Option.map_none]

/-- On a text that ends in `a` the scanner does not look behind that end, and what it leaves ends
in `b`. -/
def Carries (f : Scanner) (a b : List Char) : Prop :=
  ∀ s, a <:+ s → (∀ x, LocalAt f x s) ∧ ∀ r, f s = some r → b <:+ r

theorem Carries.comp {d : List Char} (hf : Carries f a b) (hg : Carries g b d) :
    Carries (f >=> g) a d := by
  intro s hs
  obtain ⟨hlocal, hrest⟩ := hf s hs
  refine ⟨fun x => (hlocal x).comp fun r hr => (hg r (hrest r hr)).1 x, fun r h => ?_⟩
  obtain ⟨t, ht, hr⟩ := comp_eq_some.1 h
  exact (hg t (hrest t ht)).2 r hr

theorem Carries.mono {d : List Char} (hf : Carries f a b) (hd : d <:+ b) : Carries f a d :=
  fun s hs => ⟨(hf s hs).1, fun r hr => hd.trans ((hf s hs).2 r hr)⟩

theorem Carries.optional (hf : Carries f a a) : Carries (optional f) a a := by
  intro s hs
  refine ⟨fun x => ((hf s hs).1 x).optional, fun r h => ?_⟩
  rcases optional_eq_some.1 h with h | ⟨-, rfl⟩
  · exact (hf s hs).2 r h
  · exact hs

theorem suffix_of_not_mem {u r : List Char} (hc : c ∉ u) (h : c :: b <:+ u ++ r) :
    c :: b <:+ r := by
  induction u with
  | nil => exact h
  | cons d u ih =>
      obtain ⟨hd, hu⟩ := List.ne_and_not_mem_of_not_mem_cons hc
      rw [List.cons_append, List.suffix_cons_iff] at h
      rcases h with h | h
      · exact absurd (List.cons.inj h).1 hd
      · exact ih hu h

theorem localAt_keyword_of_mem {word : String} (hword : word.toList.all isLatinLetter)
    (hc : isLatinLetter c = false) (hs : c ∈ s) : LocalAt (keyword word) x s := by
  rw [LocalAt, keyword]
  generalize word.toList = w at hword
  induction w generalizing s with
  | nil => rfl
  | cons d w ih =>
      rw [List.all_cons, Bool.and_eq_true] at hword
      cases s with
      | nil => exact absurd hs List.not_mem_nil
      | cons e s =>
          rw [List.cons_append, dropFolded?, dropFolded?]
          split
          · rename_i hfold
            have hne : c ≠ e := by
              rintro rfl
              rw [isLatinLetter, ← hfold, ← isLatinLetter, hword.1] at hc
              exact Bool.noConfusion hc
            exact ih ((List.mem_cons.1 hs).resolve_left hne) hword.2
          · rfl

theorem carries_keyword {word : String} (hword : word.toList.all isLatinLetter)
    (hc : isLatinLetter c = false) (b : List Char) : Carries (keyword word) (c :: b) (c :: b) := by
  intro s hs
  refine ⟨fun x => localAt_keyword_of_mem hword hc (hs.mem List.mem_cons_self), fun r h => ?_⟩
  obtain ⟨u, rfl, hu⟩ := keyword_eq_some.1 h
  refine suffix_of_not_mem (fun hmem => ?_) hs
  rw [isLatinLetter_of_map_fold hu hword c hmem] at hc
  exact Bool.noConfusion hc

theorem carries_many1 (hp : p c = false) (b : List Char) : Carries (many1 p) (c :: b) (c :: b) := by
  intro s hs
  refine ⟨fun x => localAt_many1 (Or.inl ⟨c, hs.mem List.mem_cons_self, hp⟩), fun r h => ?_⟩
  obtain ⟨u, rfl, -, hu, -⟩ := many1_eq_some.1 h
  exact suffix_of_not_mem (fun hmem => absurd (hu c hmem) (by simp [hp])) hs

theorem carries_many (hp : p c = false) (b : List Char) : Carries (many p) (c :: b) (c :: b) := by
  intro s hs
  refine ⟨fun x => ?_, fun r h => ?_⟩
  · have hne : s.dropWhile p ≠ [] := fun hnil =>
      absurd (List.dropWhile_eq_nil_iff.1 hnil c (hs.mem List.mem_cons_self)) (by simp [hp])
    rw [LocalAt, many, many, List.dropWhile_append, if_neg (by simpa using hne), Option.map_some]
  · obtain ⟨u, rfl, hu, -⟩ := many_eq_some.1 h
    exact suffix_of_not_mem (fun hmem => absurd (hu c hmem) (by simp [hp])) hs

theorem carries_char (c : Char) (b : List Char) : Carries (Scanner.char c) (c :: b) b := by
  intro s hs
  refine ⟨fun x => localAt_char (Or.inl ?_), fun r h => ?_⟩
  · rintro rfl
    exact absurd (List.suffix_nil.1 hs) (List.cons_ne_nil c b)
  · obtain rfl := char_eq_some.1 h
    rcases List.suffix_cons_iff.1 hs with heq | hrest
    · obtain rfl := (List.cons.inj heq).2
      exact List.suffix_rfl
    · exact (List.suffix_cons c b).trans hrest

end Scanner

namespace Reader

variable {α : Type} {read : Reader α} {a : α} {before : Option Char} {c : Char}
  {s t u x : List Char}

theorem allFrom_cons_of_none (h : read before (c :: s) = none) :
    allFrom read 0 before (c :: s) = allFrom read 0 (some c) s := by
  rw [allFrom, h]

theorem allFrom_length_append (read : Reader α) (before : Option Char) (u s : List Char) :
    allFrom read u.length before (u ++ s) = allFrom read 0 (u.getLast?.or before) s := by
  induction u generalizing before with
  | nil => rfl
  | cons c u ih =>
      rw [List.cons_append, List.length_cons, allFrom, ih, List.getLast?_cons]
      cases u.getLast? <;> rfl

theorem allFrom_append_of_some (hne : u ≠ []) (h : read before (u ++ s) = some (a, s)) :
    allFrom read 0 before (u ++ s) = a :: allFrom read 0 u.getLast? s := by
  obtain ⟨c, u, rfl⟩ := List.exists_cons_of_ne_nil hne
  have hlength : (u ++ s).length - s.length = u.length := by
    rw [List.length_append, Nat.add_sub_cancel]
  rw [List.cons_append] at h ⊢
  rw [allFrom, h]
  simp only [hlength, allFrom_length_append, List.getLast?_cons]
  cases u.getLast? <;> rfl

theorem allFrom_append_of_none (h : ∀ c ∈ u, ∀ before s, read before (c :: s) = none) :
    allFrom read 0 before (u ++ s) = allFrom read 0 (u.getLast?.or before) s := by
  induction u generalizing before with
  | nil => rfl
  | cons c u ih =>
      obtain ⟨hc, hu⟩ := List.forall_mem_cons.1 h
      rw [List.cons_append, allFrom_cons_of_none (hc _ _), ih hu, List.getLast?_cons]
      cases u.getLast? <;> rfl

theorem allFrom_congr_before {before' : Option Char}
    (h : ∀ s, read before s = read before' s) (s : List Char) :
    allFrom read 0 before s = allFrom read 0 before' s := by
  cases s with
  | nil => rfl
  | cons c s => rw [allFrom, allFrom, h]

/-- Yields the place itself, with the character before it, and goes on where the search for the
values of `read` would. -/
def visit (read : Reader α) : Reader (Option Char × List Char) := fun before s =>
  match read before s with
  | some (_, rest) => some ((before, s), rest)
  | none => some ((before, s), s.tail)

theorem visit_cons_of_none (h : read before (c :: s) = none) :
    allFrom (visit read) 0 before (c :: s) =
      (before, c :: s) :: allFrom (visit read) 0 (some c) s := by
  have hread : visit read before ([c] ++ s) = some ((before, c :: s), s) := by
    rw [List.singleton_append, visit, h]
    rfl
  exact allFrom_append_of_some (List.cons_ne_nil c []) hread

theorem visit_append_of_some (hne : u ≠ []) (h : read before (u ++ s) = some (a, s)) :
    allFrom (visit read) 0 before (u ++ s) =
      (before, u ++ s) :: allFrom (visit read) 0 u.getLast? s := by
  apply allFrom_append_of_some hne
  rw [visit, h]

def Consumes (read : Reader α) : Prop :=
  ∀ before s a rest, read before s = some (a, rest) → ∃ u, u ≠ [] ∧ s = u ++ rest

theorem induct_search (hread : Consumes read) {motive : Option Char → List Char → Prop}
    (nil : ∀ before, motive before [])
    (pass : ∀ before c s, read before (c :: s) = none → motive (some c) s → motive before (c :: s))
    (behind : ∀ before u s a, u ≠ [] → read before (u ++ s) = some (a, s) →
      motive u.getLast? s → motive before (u ++ s))
    (before : Option Char) (s : List Char) : motive before s := by
  cases hs : s with
  | nil => exact nil before
  | cons c r =>
      cases h : read before (c :: r) with
      | none => exact pass before c r h (induct_search hread nil pass behind (some c) r)
      | some p =>
          obtain ⟨u, hne, hu⟩ := hread _ _ _ _ h
          have hrest := induct_search hread nil pass behind u.getLast? p.2
          rw [hu] at h ⊢
          exact behind before u p.2 p.1 hne h hrest
termination_by s.length
decreasing_by
  · exact Nat.lt_succ_self _
  · have := List.length_pos_iff.2 hne
    rw [hu, List.length_append]
    omega

theorem all_pieces {read : Reader (List Char)} {P : List Char → Prop}
    (hread : ∀ before s a rest, read before s = some (a, rest) → s = a ++ rest ∧ a ≠ [] ∧ P a)
    (s : List Char) : Pieces P s (read.all s) := by
  have hconsumes : Consumes read := by
    intro before s a rest h
    obtain ⟨hs, hne, -⟩ := hread _ _ _ _ h
    exact ⟨a, hne, hs⟩
  have main (before : Option Char) (s : List Char) : Pieces P s (allFrom read 0 before s) := by
    induction before, s using induct_search hconsumes with
    | nil before => exact Pieces.done []
    | pass before c s h ih =>
        rw [allFrom_cons_of_none h]
        exact ih.skip
    | behind before u s a hne h ih =>
        obtain ⟨hs, -, hp⟩ := hread _ _ _ _ h
        obtain rfl := List.append_cancel_right hs
        rw [allFrom_append_of_some hne h]
        exact ih.take hp
  exact main none s

theorem allFrom_map {β : Type} {read' : Reader β} (f : α → β)
    (h : ∀ before s, read' before s = (read before s).map fun p => (f p.1, p.2)) (skip : Nat)
    (before : Option Char) (s : List Char) :
    allFrom read' skip before s = (allFrom read skip before s).map f := by
  induction s generalizing skip before with
  | nil => rfl
  | cons c s ih =>
      cases skip with
      | succ k => exact ih k (some c)
      | zero =>
          rw [allFrom, allFrom, h]
          cases read before (c :: s) with
          | none => exact ih 0 (some c)
          | some p => exact congrArg (f p.1 :: ·) (ih _ (some c))

theorem exists_of_mem_allFrom {skip : Nat} (h : a ∈ allFrom read skip before s) :
    ∃ before' t r, read before' t = some (a, r) := by
  induction s generalizing skip before with
  | nil => exact absurd h List.not_mem_nil
  | cons c s ih =>
      cases skip with
      | succ k => exact ih h
      | zero =>
          rw [allFrom] at h
          cases hread : read before (c :: s) with
          | none =>
              rw [hread] at h
              exact ih h
          | some p =>
              rw [hread] at h
              rcases List.mem_cons.1 h with rfl | h
              · exact ⟨before, c :: s, p.2, hread⟩
              · exact ih h

def located (read : Reader α) : Reader (α × List Char) := fun before s =>
  (read before s).map fun p => (p, p.2)

theorem allFrom_located (read : Reader α) (skip : Nat) (before : Option Char) (s : List Char) :
    (allFrom (located read) skip before s).map Prod.fst = allFrom read skip before s := by
  symm
  apply allFrom_map
  intro before s
  rw [located, Option.map_map]
  exact (congrFun Option.map_id _).symm

theorem exists_of_mem_located (hread : Consumes read) {p : α × List Char}
    (h : p ∈ allFrom (located read) 0 before s) :
    ∃ u v, s = u ++ (v ++ p.2) ∧ read (u.getLast?.or before) (v ++ p.2) = some p := by
  induction before, s using induct_search hread with
  | nil before => exact absurd h List.not_mem_nil
  | pass before c s hnone ih =>
      rw [allFrom_cons_of_none (by rw [located, hnone, Option.map_none])] at h
      obtain ⟨u, v, hs, hp⟩ := ih h
      refine ⟨c :: u, v, by rw [hs, List.cons_append], ?_⟩
      rw [List.getLast?_cons]
      cases hu : u.getLast? <;> rwa [hu] at hp
  | behind before u s a hne hsome ih =>
      rw [allFrom_append_of_some hne (by rw [located, hsome, Option.map_some])] at h
      rcases List.mem_cons.1 h with rfl | h
      · exact ⟨[], u, rfl, hsome⟩
      · obtain ⟨u', v, hs, hp⟩ := ih h
        refine ⟨u ++ u', v, by rw [hs, List.append_assoc], ?_⟩
        obtain ⟨d, hd⟩ := Option.isSome_iff_exists.1 (List.getLast?_isSome.2 hne)
        rw [List.getLast?_append, hd]
        rw [hd] at hp
        cases hu : u'.getLast? <;> rwa [hu] at hp

def LocalAt (read : Reader α) (x : List Char) (before : Option Char) (s : List Char) : Prop :=
  read before (s ++ x) = (read before s).map fun p => (p.1, p.2 ++ x)

/-- The search through a text and what follows falls apart where the two meet. -/
theorem allFrom_append (hread : Consumes read)
    (hlocal : ∀ p ∈ allFrom (visit read) 0 before s, LocalAt read x p.1 p.2) :
    allFrom read 0 before (s ++ x) =
      allFrom read 0 before s ++ allFrom read 0 (s.getLast?.or before) x := by
  induction before, s using induct_search hread with
  | nil before => rfl
  | pass before c s h ih =>
      rw [visit_cons_of_none h] at hlocal
      obtain ⟨hhere, hlater⟩ := List.forall_mem_cons.1 hlocal
      have hx : read before (c :: (s ++ x)) = none := by
        rw [← List.cons_append, hhere, h, Option.map_none]
      rw [List.cons_append, allFrom_cons_of_none hx, allFrom_cons_of_none h, ih hlater,
        List.getLast?_cons]
      cases s.getLast? <;> rfl
  | behind before u s a hne h ih =>
      rw [visit_append_of_some hne h] at hlocal
      obtain ⟨hhere, hlater⟩ := List.forall_mem_cons.1 hlocal
      have hx : read before (u ++ (s ++ x)) = some (a, s ++ x) := by
        rw [← List.append_assoc, hhere, h, Option.map_some]
      rw [List.append_assoc, allFrom_append_of_some hne hx, allFrom_append_of_some hne h,
        ih hlater, List.getLast?_append, List.cons_append]
      cases s.getLast? with
      | some c => rfl
      | none =>
          obtain ⟨d, hd⟩ := Option.isSome_iff_exists.1 (List.getLast?_isSome.2 hne)
          rw [hd]
          rfl

end Reader

end IndexTuning.Text
