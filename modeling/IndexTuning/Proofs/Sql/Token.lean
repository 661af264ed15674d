import IndexTuning.Proofs.Sql.Created

namespace IndexTuning.Sql

open Text

namespace Mode

variable {m : Mode} {c : Char}

/-- A literal or a name in brackets or double quotes is open. -/
def isQuoted : Mode → Bool
  | literal | quotedName | bracketName => true
  | _ => false

/-- Blanks leave the mode as it is. -/
def isSteady : Mode → Bool
  | code | literal | quotedName | bracketName | blockComment => true
  | _ => false

theorem step_blank (hm : m.isSteady) (hc : isBlank c) : m.step c = m := by
  have hne (d : Char) (hd : isBlank d = false) : c ≠ d := by
    rintro rfl
    exact absurd hc (by simp [hd])
  cases m with
  | code => exact ofCode_eq_code (Or.inr hc)
  | literal => exact if_neg (hne '\'' (by decide))
  | quotedName => exact if_neg (hne '"' (by decide))
  | bracketName => exact if_neg (hne ']' (by decide))
  | blockComment => exact if_neg (hne '*' (by decide))
  | _ => exact absurd hm (by decide)

theorem after_blanks {s : List Char} (hm : m.isSteady) (hs : ∀ c ∈ s, isBlank c) :
    m.after s = m := by
  induction s with
  | nil => rfl
  | cons c s ih =>
      rw [after_cons, step_blank hm (hs c List.mem_cons_self)]
      exact ih fun d hd => hs d (List.mem_cons_of_mem c hd)

theorem isSteady_of_isQuoted (hm : m.isQuoted) : m.isSteady := by
  cases m <;> simp_all [isQuoted, isSteady]

theorem isSteady_step_newline (m : Mode) : (m.step '\n').isSteady := by
  cases m <;> decide

theorem step_return_newline (m : Mode) : (m.step '\r').step '\n' = m.step '\n' := by
  cases m <;> decide

theorem isQuoted_step_blank (hc : isBlank c) : (m.step c).isQuoted = m.isQuoted := by
  have hcode : ofCode c = code := ofCode_eq_code (Or.inr hc)
  cases hm : m.isQuoted with
  | true => rw [step_blank (isSteady_of_isQuoted hm) hc, hm]
  | false =>
      cases m with
      | literal | quotedName | bracketName => exact absurd hm (by decide)
      | code => rw [step, hcode]; rfl
      | bracketEnd =>
          rw [step]
          split
          · rename_i h
            rw [h] at hc
            exact absurd hc (by decide)
          · rw [hcode]; rfl
      | blockStar =>
          rw [step]
          split
          · rfl
          · split <;> rfl
      | _ =>
          simp only [step, hcode]
          split <;> rfl

theorem isQuoted_step_newline (m : Mode) : (m.step '\n').isQuoted = m.isQuoted :=
  isQuoted_step_blank isBlank_newline

theorem isQuoted_step_return (m : Mode) : (m.step '\r').isQuoted = m.isQuoted :=
  isQuoted_step_blank isBlank_return

end Mode

inductive TokenKind
  | word
  | symbol
  | quoted
  deriving DecidableEq

/-- A piece of the text that means something. Operators are read character by character. -/
structure Token where
  kind : TokenKind
  text : List Char
  deriving DecidableEq

namespace Token

/-- What a character read in a mode belongs to, if it is neither a blank between tokens nor part of
a comment. A hyphen or slash needs a look at the character behind it. -/
def kind? (m : Mode) (c : Char) (next : Option Char) : Option TokenKind :=
  if m.isQuoted || (m.step c).isQuoted then some .quoted
  else if m.isComment || (m.step c).isComment || isBlank c ||
      (m.step c = .dash && next = some '-') || (m.step c = .slash && next = some '*') then none
  else if Statement.isNamePart c then some .word
  else some .symbol

def marks (m : Mode) : List Char → List (Option TokenKind × Char)
  | [] => []
  | c :: s => (kind? m c s.head?, c) :: marks (m.step c) s

def leading : List (Option TokenKind × Char) → Option TokenKind
  | [] => none
  | (k, _) :: _ => k

def attach (c : Char) : List Token → List Token
  | [] => []
  | t :: ts => { t with text := c :: t.text } :: ts

def collect : List (Option TokenKind × Char) → List Token
  | [] => []
  | (none, _) :: x => collect x
  | (some k, c) :: x =>
    if leading x = some k ∧ k ≠ .symbol then attach c (collect x) else ⟨k, [c]⟩ :: collect x

def tokensFrom (m : Mode) (s : List Char) : List Token := collect (marks m s)

def tokens (s : List Char) : List Token := tokensFrom .code s

variable {m : Mode} {c : Char} {s t : List Char} {x y : List (Option TokenKind × Char)}

theorem kind?_of_isQuoted (hm : m.isQuoted) (c : Char) (next : Option Char) :
    kind? m c next = some .quoted := by
  rw [kind?, hm]
  rfl

theorem kind?_of_isBlank (hm : m.isQuoted = false) (hc : isBlank c) (next : Option Char) :
    kind? m c next = none := by
  rw [kind?, Mode.isQuoted_step_blank hc, hm, if_neg (by decide), if_pos (by simp [hc])]

theorem kind?_eq_of_next {next : Option Char} (h : next ≠ some '-' ∧ next ≠ some '*')
    (m : Mode) (c : Char) : kind? m c next = kind? m c none := by
  simp [kind?, h.1, h.2]

theorem map_snd_marks (m : Mode) (s : List Char) : (marks m s).map Prod.snd = s := by
  induction s generalizing m with
  | nil => rfl
  | cons c s ih => rw [marks, List.map_cons, ih]

theorem marks_append (ht : t.head? ≠ some '-' ∧ t.head? ≠ some '*') :
    marks m (s ++ t) = marks m s ++ marks (m.after s) t := by
  induction s generalizing m with
  | nil => rfl
  | cons c s ih =>
      have hnext : kind? m c (s ++ t).head? = kind? m c s.head? := by
        cases s with
        | nil => exact kind?_eq_of_next ht m c
        | cons d s => rfl
      rw [List.cons_append, marks, hnext, ih]
      rfl

theorem collect_of_leading {k : TokenKind} (h : leading x = some k) :
    ∃ text ts, collect x = ⟨k, text⟩ :: ts ∧ text.map (Prod.mk (some k)) <+: x := by
  induction x with
  | nil => exact absurd h (by simp [leading])
  | cons a x ih =>
      obtain ⟨_, c⟩ := a
      obtain rfl : _ = some k := h
      rw [collect]
      split
      · rename_i hk
        obtain ⟨text, ts, hx, hpre⟩ := ih hk.1
        rw [hx]
        exact ⟨c :: text, ts, rfl, (List.prefix_cons_inj _).2 hpre⟩
      · exact ⟨[c], collect x, rfl, (List.prefix_cons_inj _).2 (List.nil_prefix)⟩

theorem infix_of_mem_collect {u : Token} (h : u ∈ collect x) :
    u.text.map (Prod.mk (some u.kind)) <:+: x := by
  induction x with
  | nil => exact absurd h List.not_mem_nil
  | cons a x ih =>
      obtain ⟨k, c⟩ := a
      cases k with
      | none => exact List.infix_cons (ih h)
      | some k =>
          rw [collect] at h
          split at h
          · rename_i hk
            obtain ⟨text, ts, hx, hpre⟩ := collect_of_leading hk.1
            rw [hx] at h ih
            rcases List.mem_cons.1 h with rfl | h
            · exact ((List.prefix_cons_inj _).2 hpre).isInfix
            · exact List.infix_cons (ih (List.mem_cons_of_mem _ h))
          · rcases List.mem_cons.1 h with rfl | h
            · exact ((List.prefix_cons_inj _).2 List.nil_prefix).isInfix
            · exact List.infix_cons (ih h)

theorem infix_of_mem_tokensFrom {u : Token} (h : u ∈ tokensFrom m s) : u.text <:+: s := by
  have hmap := (infix_of_mem_collect h).map Prod.snd
  rw [map_snd_marks, List.map_map] at hmap
  simpa [Function.comp_def] using hmap

theorem collect_append_layout (c : Char) :
    collect (x ++ (none, c) :: y) = collect x ++ collect y := by
  induction x with
  | nil => rfl
  | cons a x ih =>
      obtain ⟨k, d⟩ := a
      have hlead : leading (x ++ (none, c) :: y) = leading x := by
        cases x <;> rfl
      cases k with
      | none => exact ih
      | some k =>
          rw [List.cons_append, collect, collect, hlead, ih]
          split
          · rename_i hk
            obtain ⟨text, ts, hx, -⟩ := collect_of_leading hk.1
            rw [hx]
            rfl
          · rfl

theorem tokensFrom_append_blank (hm : (m.after s).isQuoted = false) (hc : isBlank c) :
    tokensFrom m (s ++ c :: t) = tokensFrom m s ++ tokensFrom ((m.after s).step c) t := by
  have hnext : (c :: t).head? ≠ some '-' ∧ (c :: t).head? ≠ some '*' := by
    rw [List.head?_cons]
    constructor
    all_goals
      intro h
      obtain rfl := Option.some.inj h
      exact absurd hc (by decide)
  rw [tokensFrom, marks_append hnext, marks, kind?_of_isBlank hm hc, collect_append_layout]
  rfl

theorem tokensFrom_blanks (hm : m.isSteady) (hq : m.isQuoted = false) (hs : ∀ c ∈ s, isBlank c) :
    tokensFrom m (s ++ t) = tokensFrom m t := by
  induction s with
  | nil => rfl
  | cons c s ih =>
      have hc := hs c List.mem_cons_self
      have hsep := tokensFrom_append_blank (m := m) (s := []) (t := s ++ t) hq hc
      rw [Mode.after_nil, Mode.step_blank hm hc] at hsep
      exact hsep.trans (ih fun d hd => hs d (List.mem_cons_of_mem c hd))

def visible (x : List (Option TokenKind × Char)) : List Char :=
  (x.filter (·.1.isSome)).map Prod.snd

theorem flatMap_text_attach {c : Char} {ts : List Token} (h : ts ≠ []) :
    (attach c ts).flatMap text = c :: ts.flatMap text := by
  obtain ⟨t, ts, rfl⟩ := List.exists_cons_of_ne_nil h
  rfl

theorem flatMap_text_collect (x : List (Option TokenKind × Char)) :
    (collect x).flatMap text = visible x := by
  induction x with
  | nil => rfl
  | cons a x ih =>
      obtain ⟨k, c⟩ := a
      cases k with
      | none => exact ih
      | some k =>
          have hvisible : visible ((some k, c) :: x) = c :: visible x := rfl
          rw [collect, hvisible, ← ih]
          split
          · rename_i hk
            obtain ⟨text, ts, hx, -⟩ := collect_of_leading hk.1
            exact flatMap_text_attach (by simp [hx])
          · rfl

theorem visible_append (x y : List (Option TokenKind × Char)) :
    visible (x ++ y) = visible x ++ visible y := by
  rw [visible, List.filter_append, List.map_append]
  rfl

theorem visible_marks (m : Mode) (s : List Char) :
    visible (marks m s) = (tokensFrom m s).flatMap text :=
  (flatMap_text_collect _).symm

theorem visible_blank_cons (hm : m.isQuoted = false) (hc : isBlank c) (s : List Char) :
    visible (marks m (c :: s)) = visible (marks (m.step c) s) := by
  rw [marks, kind?_of_isBlank hm hc]
  rfl

theorem visible_quoted_cons (hm : m.isQuoted) (c : Char) (s : List Char) :
    visible (marks m (c :: s)) = c :: visible (marks (m.step c) s) := by
  rw [marks, kind?_of_isQuoted hm]
  rfl

theorem visible_quoted_blanks (hm : m.isQuoted) (hs : ∀ c ∈ s, isBlank c) :
    visible (marks m (s ++ t)) = s ++ visible (marks m t) := by
  induction s with
  | nil => rfl
  | cons c s ih =>
      have hstep := Mode.step_blank (Mode.isSteady_of_isQuoted hm) (hs c List.mem_cons_self)
      rw [List.cons_append, visible_quoted_cons hm, hstep,
        ih fun d hd => hs d (List.mem_cons_of_mem c hd), List.cons_append]

end Token

/-- No line feed of the text is read in a literal or a quoted name. -/
def BreaksOutside (m : Mode) (s : List Char) : Prop :=
  ∀ u v, s = u ++ '\n' :: v → (m.after u).isQuoted = false

theorem breaksOutside_of_not_mem {m : Mode} {s : List Char} (h : '\n' ∉ s) :
    BreaksOutside m s := by
  rintro u v rfl
  exact absurd (List.mem_append_right u List.mem_cons_self) h

theorem breaksOutside_append {m : Mode} {l t : List Char} (hl : '\n' ∉ l) :
    BreaksOutside m (l ++ '\n' :: t) ↔
      (m.after l).isQuoted = false ∧ BreaksOutside ((m.after l).step '\n') t := by
  constructor
  · intro h
    refine ⟨h l t rfl, fun u v ht => ?_⟩
    have hu := h (l ++ '\n' :: u) v (by rw [ht, List.append_assoc, List.cons_append])
    rwa [Mode.after_append, Mode.after_cons] at hu
  · rintro ⟨hbreak, ht⟩ u v huv
    rcases List.append_eq_append_iff.1 huv with ⟨as, rfl, has⟩ | ⟨bs, rfl, hbs⟩
    · cases as with
      | nil => rwa [List.append_nil]
      | cons a as =>
          obtain rfl := (List.cons_eq_cons.1 has).1
          have hrest := ht as v (List.cons_eq_cons.1 has).2
          rwa [Mode.after_append, Mode.after_cons]
    · cases bs with
      | nil => rwa [List.append_nil] at hbreak
      | cons b bs =>
          obtain ⟨rfl, -⟩ := List.cons_eq_cons.1 hbs
          exact absurd (List.mem_append_right u List.mem_cons_self) hl

end IndexTuning.Sql
