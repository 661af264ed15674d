import IndexTuning.Proofs.Text.Scan
import IndexTuning.Sql.Statement

namespace IndexTuning.Sql

open Text

namespace Mode

theorem ofCode_eq_code {c : Char} (h : isLatinLetter c ∨ isBlank c) : ofCode c = code := by
  unfold ofCode
  split
  all_goals first
    | rfl
    | exact absurd h (by decide)

theorem code_after_plain {s : List Char} (h : ∀ c ∈ s, isLatinLetter c ∨ isBlank c) :
    code.after s = code := by
  induction s with
  | nil => rfl
  | cons c s ih =>
      rw [after_cons, show code.step c = code from ofCode_eq_code (h c List.mem_cons_self)]
      exact ih fun d hd => h d (List.mem_cons_of_mem c hd)

end Mode

namespace Statement

variable {m : Mode} {s t : List Char}

/-- No semicolon of the text is read in code. -/
def Unbroken (m : Mode) (s : List Char) : Prop :=
  ∀ u v, s = u ++ ';' :: v → (m.after u).inCode = false

theorem unbroken_of_not_mem (h : ';' ∉ s) : Unbroken m s := by
  rintro u v rfl
  exact absurd (List.mem_append_right u List.mem_cons_self) h

theorem unbroken_cons {c : Char} :
    Unbroken m (c :: s) ↔ ¬ (c = ';' ∧ m.inCode) ∧ Unbroken (m.step c) s := by
  constructor
  · intro h
    refine ⟨?_, fun u v hs => h (c :: u) v (by rw [hs, List.cons_append])⟩
    rintro ⟨rfl, hm⟩
    exact absurd (h [] s rfl) (by simp [hm])
  · rintro ⟨hc, hs⟩ u v huv
    cases u with
    | nil =>
        obtain ⟨rfl, -⟩ := List.cons_eq_cons.1 huv
        simpa using hc
    | cons d u =>
        obtain ⟨rfl, rfl⟩ := List.cons_eq_cons.1 huv
        exact hs u v rfl

theorem unbroken_append :
    Unbroken m (s ++ t) ↔ Unbroken m s ∧ Unbroken (m.after s) t := by
  induction s generalizing m with
  | nil => simp [unbroken_of_not_mem]
  | cons c s ih => rw [List.cons_append, unbroken_cons, unbroken_cons, ih, Mode.after_cons, and_assoc]

theorem segments_cons_of_not {c : Char} (h : ¬ (c = ';' ∧ m.inCode)) {p : List Char}
    {ps : List (List Char)} (hs : segments (m.step c) s = p :: ps) :
    segments m (c :: s) = (c :: p) :: ps := by
  rw [segments, if_neg h, hs]

theorem segments_ne_nil (m : Mode) (s : List Char) : segments m s ≠ [] := by
  cases s with
  | nil => exact List.cons_ne_nil _ _
  | cons c s =>
      rw [segments]
      split
      · exact List.cons_ne_nil _ _
      · split <;> exact List.cons_ne_nil _ _

/-- A text is one statement with its semicolon when only the last semicolon is read in code. -/
theorem segments_concat_semicolon :
    segments m (s ++ [';']) = [s ++ [';'], []] ↔ Unbroken m s ∧ (m.after s).inCode := by
  induction s generalizing m with
  | nil =>
      by_cases h : m.inCode <;> simp [segments, h, unbroken_of_not_mem]
  | cons c s ih =>
      rw [List.cons_append, unbroken_cons, Mode.after_cons, and_assoc, ← ih]
      by_cases h : c = ';' ∧ m.inCode
      · rw [segments, if_pos h]
        simp [h]
      · obtain ⟨p, ps, hs⟩ := List.exists_cons_of_ne_nil (segments_ne_nil (m.step c) (s ++ [';']))
        rw [segments_cons_of_not h hs, hs]
        simp [h]

theorem after_concat_semicolon (h : (m.after s).inCode) : m.after (s ++ [';']) = .code := by
  rw [Mode.after_append]
  generalize m.after s = m' at h
  revert h
  cases m' <;> decide

def isNamePart (c : Char) : Bool := isWord c || c == '@' || c == '#' || c == '$'

/-- The runs of name characters that are read in code; `word` is the one under way. -/
def wordsFrom (m : Mode) (word : List Char) : List Char → List (List Char)
  | [] => if word = [] then [] else [word]
  | c :: s =>
    if m.inCode ∧ isNamePart c then wordsFrom (m.step c) (word ++ [c]) s
    else if word = [] then wordsFrom (m.step c) [] s
    else word :: wordsFrom (m.step c) [] s

def words (s : List Char) : List (List Char) := wordsFrom .code [] s

theorem isNamePart_of_isBlank {c : Char} (h : isBlank c) : isNamePart c = false :=
  forall_isBlank (fun c => isNamePart c = false) (by decide +kernel) c h

theorem wordsFrom_letters {u word : List Char} (hu : ∀ c ∈ u, isLatinLetter c) :
    wordsFrom .code word (u ++ s) = wordsFrom .code (word ++ u) s := by
  induction u generalizing word with
  | nil => rw [List.nil_append, List.append_nil]
  | cons c u ih =>
      have hc := hu c List.mem_cons_self
      rw [List.cons_append, wordsFrom, if_pos ⟨rfl, by simp [isNamePart, isWord_of_isLatinLetter hc]⟩,
        show Mode.code.step c = .code from Mode.ofCode_eq_code (Or.inl hc),
        ih fun d hd => hu d (List.mem_cons_of_mem c hd), List.append_assoc, List.singleton_append]

theorem wordsFrom_blanks {v : List Char} (hv : ∀ c ∈ v, isBlank c) :
    wordsFrom .code [] (v ++ s) = words s := by
  induction v with
  | nil => rfl
  | cons c v ih =>
      have hc := hv c List.mem_cons_self
      rw [List.cons_append, wordsFrom, if_neg (by simp [isNamePart_of_isBlank hc]), if_pos rfl,
        show Mode.code.step c = .code from Mode.ofCode_eq_code (Or.inr hc)]
      exact ih fun d hd => hv d (List.mem_cons_of_mem c hd)

theorem words_word_append {u v : List Char} (hu : u ≠ []) (hl : ∀ c ∈ u, isLatinLetter c)
    (hv : v ≠ []) (hb : ∀ c ∈ v, isBlank c) : words (u ++ (v ++ s)) = u :: words s := by
  obtain ⟨c, v, rfl⟩ := List.exists_cons_of_ne_nil hv
  have hc := hb c List.mem_cons_self
  rw [words, wordsFrom_letters hl, List.nil_append, List.cons_append, wordsFrom,
    if_neg (by simp [isNamePart_of_isBlank hc]), if_neg hu,
    show Mode.code.step c = .code from Mode.ofCode_eq_code (Or.inr hc),
    wordsFrom_blanks fun d hd => hb d (List.mem_cons_of_mem c hd)]

theorem wordsFrom_concat_semicolon {word : List Char} :
    wordsFrom m word (s ++ [';']) = wordsFrom m word s := by
  induction s generalizing m word with
  | nil =>
      have h : ¬ (m.inCode ∧ isNamePart ';') := fun h => absurd h.2 (by decide)
      rw [List.nil_append, wordsFrom.eq_2, if_neg h]
      rfl
  | cons c s ih => simp only [List.cons_append, wordsFrom, ih]

theorem words_spelled_append {keywords : List String} {u : List Char} (h : Spelled keywords u)
    (hw : ∀ w ∈ keywords, w ≠ "" ∧ w.toList.all isLatinLetter) :
    ∃ us, words (u ++ s) = us ++ words s ∧
      us.map (·.map fold) = keywords.map (·.toList.map fold) := by
  induction h with
  | nil => exact ⟨[], rfl, rfl⟩
  | @cons word keywords u v t hu hv _ ih =>
      obtain ⟨us, hs, hus⟩ := ih fun w hm => hw w (List.mem_cons_of_mem _ hm)
      have hword := hw word List.mem_cons_self
      have hne := ne_nil_of_map_fold hu hword.1
      refine ⟨u :: us, ?_, ?_⟩
      · rw [List.append_assoc, List.append_assoc,
          words_word_append hne (isLatinLetter_of_map_fold hu hword.2) hv.1 hv.2, hs,
          List.cons_append]
      · rw [List.map_cons, List.map_cons, hu, hus]

end Statement

end IndexTuning.Sql
