import IndexTuning.Proofs.Sql.Comment
import IndexTuning.Proofs.Text.Blank
import IndexTuning.Proofs.Text.Search

namespace IndexTuning.Sql.Comment

open Text

/-- A block comment in front of a text. It ends at the first place where it can, and one that is
not closed runs to the end. -/
def IsBlock (b rest : List Char) : Prop :=
  ∃ body, ¬ ['*', '/'] <:+: body ∧
    (b = '/' :: '*' :: (body ++ ['*', '/']) ∨ b = '/' :: '*' :: body ∧ rest = [])

/-- A part of a line in which no block comment begins. -/
def InLine (s : List Char) : Prop := ¬ ['/', '*'] <:+: s ∧ ∀ c ∈ s, isLineBreak c = false

instance {s : List Char} : Decidable (InLine s) :=
  @instDecidableAnd _ _ _ (List.decidableBAll _ s)

/-- What stands behind the dashes of a line comment, in front of a text. The comment goes on to the
first line break outside of the block comments that begin in it. -/
inductive IsLineBody : List Char → List Char → Prop
  | last {s rest} (hs : InLine s) (hrest : ∀ c ∈ rest.head?, isLineBreak c) : IsLineBody s rest
  | block {s b l rest} (hs : InLine s) (hb : IsBlock b (l ++ rest)) (hl : IsLineBody l rest) :
      IsLineBody (s ++ (b ++ l)) rest

/-- A comment that is removed, as it stands in the text. -/
inductive Removed
  | block (source : List Char)
  | line (source : List Char)

namespace Removed

def source : Removed → List Char
  | block b => b
  | line l => l

def trace : Removed → List Char
  | block _ => [' ']
  | line _ => []

def StandsBefore : Removed → List Char → Prop
  | block b, rest => IsBlock b rest
  | line l, rest => ∃ body, l = '-' :: '-' :: body ∧ IsLineBody body rest

end Removed

/-- A text as the pieces before, between and behind its comments. -/
inductive Reading
  | last (s : List Char)
  | before (s : List Char) (c : Removed) (r : Reading)

namespace Reading

def source : Reading → List Char
  | last s => s
  | before s c r => s ++ (c.source ++ r.source)

def kept : Reading → List Char
  | last s => s
  | before s c r => s ++ (c.trace ++ r.kept)

/-- Each comment begins at the first place where one can and ends where it must. -/
def IsValid : Reading → Prop
  | last s => Silent s
  | before s c r => Silent (s ++ c.source.head?.toList) ∧ c.StandsBefore r.source ∧ r.IsValid

end Reading

variable {c : Char} {s t b l rest body : List Char} {r : Reading}

theorem exists_first_opening (h : ¬ Silent s) :
    ∃ u c d t, s = u ++ c :: d :: t ∧ Silent (u ++ [c]) ∧
      (c = '/' ∧ d = '*' ∨ c = '-' ∧ d = '-') := by
  induction s using List.reverseRecOn with
  | nil => exact absurd List.isChain_nil h
  | append_singleton s d ih =>
      by_cases hs : Silent s
      · rcases List.eq_nil_or_concat s with rfl | ⟨u, c, rfl⟩
        · exact absurd (List.isChain_singleton d) h
        · rw [List.concat_eq_append] at hs h
          refine ⟨u, c, d, [], by simp, hs, ?_⟩
          by_contra hnot
          rw [not_or] at hnot
          apply h
          rw [List.append_assoc]
          exact List.isChain_split.2 ⟨hs, List.isChain_pair.2 hnot⟩
      · obtain ⟨u, c, e, t, rfl, hu, hopen⟩ := ih hs
        exact ⟨u, c, e, t ++ [d], by simp, hu, hopen⟩

theorem not_mem_of_isLineBreak (hc : isLineBreak c) : c ∉ ['/', '*', '-'] := by
  have hc : c = '\r' ∨ c = '\n' := by simpa [isLineBreak] using hc
  rcases hc with rfl | rfl <;> decide

theorem silent_append_of_break (hs : Silent s) (hrest : Silent rest)
    (hbreak : ∀ c ∈ rest.head?, isLineBreak c) : Silent (s ++ rest) := by
  cases rest with
  | nil => rwa [List.append_nil]
  | cons c rest =>
      have hc := not_mem_of_isLineBreak (hbreak c rfl)
      exact (silent_append_cons hc).2 ⟨hs, hrest.tail⟩

theorem dropBlocks_opening (s : List Char) :
    dropBlocks false ('/' :: '*' :: s) = ' ' :: dropBlocks true s := by
  rw [dropBlocks, if_neg Bool.false_ne_true, if_pos ⟨rfl, rfl⟩]

namespace IsBlock

theorem head?_append (h : IsBlock b rest) : (b ++ t).head? = some '/' := by
  obtain ⟨body, -, rfl | ⟨rfl, -⟩⟩ := h <;> rfl

theorem dropBlocks_append (h : IsBlock b rest) :
    dropBlocks false (b ++ rest) = ' ' :: dropBlocks false rest := by
  obtain ⟨body, hbody, rfl | ⟨rfl, rfl⟩⟩ := h
  · rw [List.cons_append, List.cons_append, dropBlocks_opening, List.append_assoc]
    exact congrArg (' ' :: ·) (dropBlocks_body hbody rest)
  · rw [List.append_nil, dropBlocks_opening, dropBlocks_unclosed hbody]
    rfl

end IsBlock

theorem exists_isBlock (s : List Char) :
    ∃ b rest, '/' :: '*' :: s = b ++ rest ∧ IsBlock b rest ∧ rest.length ≤ s.length := by
  by_cases h : ['*', '/'] <:+: s
  · obtain ⟨u, v, rfl, hu⟩ := exists_first_place (by decide) h
    refine ⟨'/' :: '*' :: (u ++ ['*', '/']), v, by simp, ⟨u, ?_, Or.inl rfl⟩, by simp; omega⟩
    exact fun hi => hu (hi.trans (List.prefix_append u _).isInfix)
  · exact ⟨'/' :: '*' :: s, [], by simp, ⟨s, h, Or.inr ⟨rfl, rfl⟩⟩, by simp⟩

namespace IsLineBody

theorem isLineBreak_of_mem_head? (h : IsLineBody l rest) : ∀ c ∈ rest.head?, isLineBreak c := by
  induction h with
  | last hs hrest => exact hrest
  | block hs hb hl ih => exact ih

/-- Without its block comments a line comment has no line break left. -/
theorem dropBlocks_append (h : IsLineBody l rest) :
    ∃ m, (∀ c ∈ m, isLineBreak c = false) ∧
      dropBlocks false (l ++ rest) = m ++ dropBlocks false rest := by
  induction h with
  | @last s rest hs hrest =>
      have hstar : rest.head? ≠ some '*' := fun h => absurd (hrest '*' h) (by decide)
      exact ⟨s, hs.2, dropBlocks_append_of_absent hs.1 hstar⟩
  | @block s b l rest hs hb hl ih =>
      obtain ⟨m, hm, hdrop⟩ := ih
      have hstar : (b ++ (l ++ rest)).head? ≠ some '*' := by simp [hb.head?_append]
      refine ⟨s ++ ' ' :: m, ?_, ?_⟩
      · intro c hc
        rcases List.mem_append.1 hc with hc | hc
        · exact hs.2 c hc
        · rcases List.mem_cons.1 hc with rfl | hc
          · decide
          · exact hm c hc
      · rw [List.append_assoc, List.append_assoc, dropBlocks_append_of_absent hs.1 hstar,
          hb.dropBlocks_append, hdrop, List.append_assoc, List.cons_append]

end IsLineBody

theorem exists_line (s : List Char) : ∃ line rest, s = line ++ rest ∧
    (∀ c ∈ line, isLineBreak c = false) ∧ ∀ c ∈ rest.head?, isLineBreak c := by
  refine ⟨s.takeWhile fun c => !isLineBreak c, s.dropWhile fun c => !isLineBreak c,
    List.takeWhile_append_dropWhile.symm, ?_, ?_⟩
  · intro c hc
    simpa using List.mem_takeWhile_imp hc
  · intro c hc
    simpa using head?_dropWhile_neg _ s c hc

theorem exists_isLineBody (s : List Char) : ∃ l rest, s = l ++ rest ∧ IsLineBody l rest := by
  induction hn : s.length using Nat.strong_induction_on generalizing s with
  | _ n ih =>
      subst hn
      obtain ⟨line, after, rfl, hline, hafter⟩ := exists_line s
      by_cases h : ['/', '*'] <:+: line
      · -- the line comment goes on behind its first block comment
        obtain ⟨u, v, rfl, hu⟩ := exists_first_place (by decide) h
        obtain ⟨b, t, hb, hblock, hlen⟩ := exists_isBlock (v ++ after)
        have hshort : t.length < (u ++ (['/', '*'] ++ v) ++ after).length := by
          simp at hlen ⊢
          omega
        obtain ⟨l, rest, rfl, hl⟩ := ih t.length hshort t rfl
        have hin : InLine u := ⟨fun hi => hu (hi.trans (List.prefix_append u _).isInfix),
          fun c hc => hline c (List.mem_append_left _ hc)⟩
        refine ⟨u ++ (b ++ l), rest, ?_, IsLineBody.block hin hblock hl⟩
        simpa using hb
      · exact ⟨line, after, rfl, IsLineBody.last ⟨h, hline⟩ hafter⟩

theorem head?_dropBlocks_of_break (h : ∀ c ∈ rest.head?, isLineBreak c) :
    (dropBlocks false rest).head? = rest.head? := by
  cases rest with
  | nil => rfl
  | cons c rest =>
      have hslash : c ≠ '/' := by
        rintro rfl
        exact absurd (h '/' rfl) (by decide)
      rw [dropBlocks_cons_of_ne hslash]
      rfl

theorem head?_dropLines_of_break (h : ∀ c ∈ rest.head?, isLineBreak c) :
    (dropLines false rest).head? = rest.head? := by
  cases rest with
  | nil => rfl
  | cons c rest =>
      rw [dropLines_cons_of_isLineBreak (h c rfl)]
      rfl

theorem head?_strip_of_break (h : ∀ c ∈ rest.head?, isLineBreak c) :
    (strip rest).head? = rest.head? := by
  have hblocks := head?_dropBlocks_of_break h
  rw [strip, head?_dropLines_of_break (hblocks ▸ h), hblocks]

theorem strip_append_block (hs : Silent s) (hb : IsBlock b rest) :
    strip (s ++ (b ++ rest)) = s ++ ' ' :: strip rest := by
  have hstar : (b ++ rest).head? ≠ some '*' := by simp [hb.head?_append]
  have hblank : Silent (s ++ (' ' :: dropBlocks false rest).head?.toList) :=
    (silent_append_cons (by decide)).2 ⟨hs, List.isChain_nil⟩
  rw [strip, dropBlocks_append_of_absent (silent_iff.1 hs).2 hstar,
    hb.dropBlocks_append, dropLines_append_of_silent hblank]
  rfl

theorem strip_append_line (hs : Silent (s ++ ['-'])) (hl : IsLineBody body rest) :
    strip (s ++ ('-' :: '-' :: body ++ rest)) = s ++ strip rest := by
  obtain ⟨m, hm, hdrop⟩ := hl.dropBlocks_append
  have hbreak := hl.isLineBreak_of_mem_head?
  rw [← head?_dropBlocks_of_break hbreak] at hbreak
  have hdash : ∀ c ∈ '-' :: m, isLineBreak c = false := List.forall_mem_cons.2 ⟨by decide, hm⟩
  -- the first pass leaves the dashes and everything up to the line break on one line
  rw [strip, dropBlocks_append_of_absent (silent_iff.1 hs.left).2 (by simp),
    List.cons_append, List.cons_append, dropBlocks_cons_of_ne (by decide),
    dropBlocks_cons_of_ne (by decide), hdrop, dropLines_append_of_silent hs, dropLines,
    if_neg Bool.false_ne_true, if_pos ⟨rfl, rfl⟩, ← List.cons_append,
    dropLines_append_of_break hdash hbreak]
  rfl

namespace Reading

theorem strip_source (h : r.IsValid) : strip r.source = r.kept := by
  induction r with
  | last s => exact strip_of_silent h
  | before s c r ih =>
      obtain ⟨hs, hc, hr⟩ := h
      rw [source, kept, ← ih hr]
      cases c with
      | block b => exact strip_append_block hs.left hc
      | line l =>
          obtain ⟨body, rfl, hbody⟩ := hc
          exact strip_append_line hs hbody

theorem silent_kept (h : r.IsValid) : Silent r.kept := by
  induction r with
  | last s => exact h
  | before s c r ih =>
      obtain ⟨hs, hc, hr⟩ := h
      cases c with
      | block b => exact (silent_append_cons (by decide)).2 ⟨hs.left, ih hr⟩
      | line l =>
          -- nothing stands between the pieces, but the second is empty or begins with a line break
          obtain ⟨body, rfl, hbody⟩ := hc
          have hbreak := hbody.isLineBreak_of_mem_head?
          rw [← head?_strip_of_break hbreak, strip_source hr] at hbreak
          exact silent_append_of_break hs.left (ih hr) hbreak

end Reading

theorem exists_reading (s : List Char) : ∃ r : Reading, r.IsValid ∧ r.source = s := by
  induction hn : s.length using Nat.strong_induction_on generalizing s with
  | _ n ih =>
      subst hn
      by_cases h : Silent s
      · exact ⟨.last s, h, rfl⟩
      · obtain ⟨u, c, d, t, rfl, hu, ⟨rfl, rfl⟩ | ⟨rfl, rfl⟩⟩ := exists_first_opening h
        · obtain ⟨b, rest, hb, hblock, hlen⟩ := exists_isBlock t
          obtain ⟨r, hr, rfl⟩ := ih rest.length (by simp; omega) rest rfl
          have hslash : b.head? = some '/' := by simpa using hblock.head?_append (t := [])
          refine ⟨.before u (.block b) r, ⟨?_, hblock, hr⟩, congrArg (u ++ ·) hb.symm⟩
          rw [Removed.source, hslash]
          exact hu
        · obtain ⟨l, rest, rfl, hl⟩ := exists_isLineBody t
          obtain ⟨r, hr, rfl⟩ := ih rest.length (by simp; omega) rest rfl
          exact ⟨.before u (.line ('-' :: '-' :: l)) r, ⟨hu, ⟨l, rfl, hl⟩, hr⟩, rfl⟩

theorem silent_strip (s : List Char) : Silent (strip s) := by
  obtain ⟨r, hr, rfl⟩ := exists_reading s
  rw [r.strip_source hr]
  exact r.silent_kept hr

/-- No comment is left and none is made where the pieces meet. -/
theorem stripped_isFixedPoint (sql : String) :
    (¬ "/*".toList <:+: (stripped sql).toList ∧ ¬ "--".toList <:+: (stripped sql).toList) ∧
    stripped (stripped sql) = stripped sql ∧
    (∃ r : Reading, r.IsValid ∧ r.source = sql.toList) ∧
    (∀ r : Reading, r.IsValid → r.source = sql.toList → (stripped sql).toList = r.kept) ∧
    (¬ "/*".toList <:+: sql.toList → ¬ "--".toList <:+: sql.toList → stripped sql = sql) := by
  have hlist : (stripped sql).toList = strip sql.toList := String.toList_ofList
  have hfix : ∀ t : String, Silent t.toList → stripped t = t := by
    intro t ht
    rw [stripped, strip_of_silent ht, String.ofList_toList]
  have hsilent : Silent (stripped sql).toList := hlist ▸ silent_strip sql.toList
  obtain ⟨hline, hblock⟩ := silent_iff.1 hsilent
  refine ⟨⟨hblock, hline⟩, hfix _ hsilent, exists_reading _, ?_, ?_⟩
  · intro r hr hsource
    rw [hlist, ← hsource, r.strip_source hr]
  · intro hblock hline
    exact hfix sql (silent_iff.2 ⟨hline, hblock⟩)

theorem stripped_isFixedPoint_acrossLines :
    (∃ r : Reading, r.IsValid ∧ r.source = "A-/*/-*/-B -- /* C\n*/ D\n/E".toList ∧
      stripped "A-/*/-*/-B -- /* C\n*/ D\n/E" = "A- -B \n/E") ∧
    ¬ "/*".toList <:+: "A - B / C * D".toList ∧ ¬ "--".toList <:+: "A - B / C * D".toList ∧
    stripped "A - B / C * D" = "A - B / C * D" := by
  have hopen : ¬ "/*".toList <:+: "A - B / C * D".toList := by decide +kernel
  have hdash : ¬ "--".toList <:+: "A - B / C * D".toList := by decide +kernel
  obtain ⟨-, -, -, hkept, -⟩ := stripped_isFixedPoint "A-/*/-*/-B -- /* C\n*/ D\n/E"
  obtain ⟨-, -, -, -, hplain⟩ := stripped_isFixedPoint "A - B / C * D"
  have hfirst : IsBlock "/*/-*/".toList "-B -- /* C\n*/ D\n/E".toList :=
    ⟨"/-".toList, by decide +kernel, Or.inl (by decide +kernel)⟩
  have hinner : IsBlock "/* C\n*/".toList " D\n/E".toList :=
    ⟨" C\n".toList, by decide +kernel, Or.inl (by decide +kernel)⟩
  have hend : IsLineBody " D".toList "\n/E".toList :=
    IsLineBody.last (by decide +kernel) (by simp [isLineBreak])
  have hbody : IsLineBody " /* C\n*/ D".toList "\n/E".toList :=
    IsLineBody.block (s := " ".toList) (by decide +kernel) hinner hend
  have hlast : Silent "\n/E".toList := by decide +kernel
  let r : Reading := .before "A-".toList (.block "/*/-*/".toList)
    (.before "-B ".toList (.line "-- /* C\n*/ D".toList) (.last "\n/E".toList))
  have hr : r.IsValid := ⟨by decide +kernel, hfirst, by decide +kernel, ⟨_, rfl, hbody⟩, hlast⟩
  refine ⟨⟨r, hr, by decide +kernel, ?_⟩, hopen, hdash, hplain hopen hdash⟩
  apply String.toList_injective
  rw [hkept r hr (by decide +kernel)]
  decide +kernel

end IndexTuning.Sql.Comment
