import IndexTuning.Sql.Lexer
import IndexTuning.Sql.TableScan
import Mathlib.Data.List.Chain
import Mathlib.Data.List.Infix

namespace IndexTuning.Sql

namespace Comment

variable {c d : Char} {p q s t body : List Char} {inside : Bool}

/-- Whether a left-to-right scan for block comments alone ends inside one. -/
def blockOpen (inside : Bool) : List Char → Bool
  | [] => inside
  | [_] => inside
  | c :: d :: s =>
    if inside then
      if c = '*' ∧ d = '/' then blockOpen false s else blockOpen true (d :: s)
    else if c = '/' ∧ d = '*' then blockOpen true s
    else blockOpen false (d :: s)

/-- Whether a left-to-right scan for line comments alone ends inside one. -/
def lineOpen (inside : Bool) : List Char → Bool
  | [] => inside
  | c :: s =>
    if inside then
      if isLineBreak c then lineOpen false s else lineOpen true s
    else if c = '-' ∧ s.head? = some '-' then lineOpen true s
    else lineOpen false s

theorem dropBlocks_cons_of_ne (hc : c ≠ '/') (s : List Char) :
    dropBlocks false (c :: s) = c :: dropBlocks false s := by
  cases s with
  | nil => rfl
  | cons d s => rw [dropBlocks, if_neg Bool.false_ne_true, if_neg fun h => hc h.1]

theorem dropBlocks_cons_of_head (hs : s.head? ≠ some '*') (c : Char) :
    dropBlocks false (c :: s) = c :: dropBlocks false s := by
  cases s with
  | nil => rfl
  | cons d s =>
      rw [dropBlocks, if_neg Bool.false_ne_true, if_neg fun h => hs (by rw [h.2]; rfl)]

theorem dropBlocks_append_of_absent (hs : ¬ ['/', '*'] <:+: s) (ht : t.head? ≠ some '*') :
    dropBlocks false (s ++ t) = s ++ dropBlocks false t := by
  induction s with
  | nil => rfl
  | cons c s ih =>
      have hrest := ih fun h => hs (List.infix_cons h)
      cases s with
      | nil => exact dropBlocks_cons_of_head ht c
      | cons d s =>
          have hopen : ¬ (c = '/' ∧ d = '*') := by
            rintro ⟨rfl, rfl⟩
            exact hs ⟨[], s, rfl⟩
          rw [List.cons_append, List.cons_append, dropBlocks, if_neg Bool.false_ne_true,
            if_neg hopen, ← List.cons_append, hrest]
          rfl

theorem dropBlocks_append (hs : blockOpen inside s = false) (ht : t.head? ≠ some '*') :
    dropBlocks inside (s ++ t) = dropBlocks inside s ++ dropBlocks false t := by
  induction inside, s using blockOpen.induct with
  | case1 inside =>
      obtain rfl : inside = false := hs
      rfl
  | case2 inside c =>
      obtain rfl : inside = false := hs
      exact dropBlocks_cons_of_head ht c
  | case3 c d s hclose ih =>
      rw [blockOpen, if_pos rfl, if_pos hclose] at hs
      rw [List.cons_append, List.cons_append, dropBlocks, dropBlocks, if_pos rfl, if_pos hclose,
        if_pos rfl, if_pos hclose, ih hs]
  | case4 c d s hclose ih =>
      rw [blockOpen, if_pos rfl, if_neg hclose] at hs
      rw [List.cons_append, List.cons_append, dropBlocks, dropBlocks, if_pos rfl, if_neg hclose,
        if_pos rfl, if_neg hclose, ← List.cons_append, ih hs]
  | case5 inside c d s hin hopen ih =>
      rw [blockOpen, if_neg hin, if_pos hopen] at hs
      rw [List.cons_append, List.cons_append, dropBlocks, dropBlocks, if_neg hin, if_pos hopen,
        if_neg hin, if_pos hopen, ih hs, List.cons_append]
  | case6 inside c d s hin hopen ih =>
      rw [blockOpen, if_neg hin, if_neg hopen] at hs
      rw [List.cons_append, List.cons_append, dropBlocks, dropBlocks, if_neg hin, if_neg hopen,
        if_neg hin, if_neg hopen, ← List.cons_append, ih hs, List.cons_append]

/-- An open block comment goes on to the first place where it can end. -/
theorem dropBlocks_append_of_open (h : ¬ ['*', '/'] <:+: body) (ht : t.head? ≠ some '/') :
    dropBlocks true (body ++ t) = dropBlocks true t := by
  induction body with
  | nil => rfl
  | cons c body ih =>
      have hrest := ih fun hin => h (List.infix_cons hin)
      have hnot : ¬ (c = '*' ∧ (body ++ t).head? = some '/') := by
        rintro ⟨rfl, hslash⟩
        cases body with
        | nil => exact ht hslash
        | cons d body =>
            obtain rfl := Option.some.inj hslash
            exact h ⟨[], body, rfl⟩
      rw [List.cons_append, ← hrest]
      cases hr : body ++ t with
      | nil => rfl
      | cons d r =>
          rw [hr] at hnot
          rw [dropBlocks, if_pos rfl, if_neg fun hcut => hnot ⟨hcut.1, congrArg some hcut.2⟩]

theorem dropBlocks_body (h : ¬ ['*', '/'] <:+: body) (s : List Char) :
    dropBlocks true (body ++ '*' :: '/' :: s) = dropBlocks false s :=
  (dropBlocks_append_of_open h (by simp)).trans rfl

theorem dropBlocks_unclosed (h : ¬ ['*', '/'] <:+: body) : dropBlocks true body = [] := by
  have hopen := dropBlocks_append_of_open (t := []) h (by simp)
  rwa [List.append_nil] at hopen

theorem mem_of_mem_dropBlocks (h : c ∈ dropBlocks inside s) : c = ' ' ∨ c ∈ s := by
  induction inside, s using blockOpen.induct with
  | case1 => exact absurd h List.not_mem_nil
  | case2 inside d =>
      cases inside with
      | true => exact absurd h List.not_mem_nil
      | false => exact Or.inr h
  | case3 d e s hclose ih =>
      rw [dropBlocks, if_pos rfl, if_pos hclose] at h
      exact (ih h).imp_right fun hm => List.mem_cons_of_mem d (List.mem_cons_of_mem e hm)
  | case4 d e s hclose ih =>
      rw [dropBlocks, if_pos rfl, if_neg hclose] at h
      exact (ih h).imp_right (List.mem_cons_of_mem d)
  | case5 inside d e s hin hopen ih =>
      rw [dropBlocks, if_neg hin, if_pos hopen] at h
      rcases List.mem_cons.1 h with rfl | h
      · exact Or.inl rfl
      · exact (ih h).imp_right fun hm => List.mem_cons_of_mem d (List.mem_cons_of_mem e hm)
  | case6 inside d e s hin hopen ih =>
      rw [dropBlocks, if_neg hin, if_neg hopen] at h
      rcases List.mem_cons.1 h with rfl | h
      · exact Or.inr List.mem_cons_self
      · exact (ih h).imp_right (List.mem_cons_of_mem d)

theorem dropLines_append (ht : t.head? ≠ some '-') : dropLines inside (s ++ t) =
    dropLines inside s ++ dropLines (lineOpen inside s) t := by
  induction inside, s using lineOpen.induct with
  | case1 => rfl
  | case2 c s hbreak ih =>
      rw [List.cons_append, dropLines, dropLines, lineOpen, if_pos rfl, if_pos hbreak, if_pos rfl,
        if_pos hbreak, if_pos rfl, if_pos hbreak, ih, List.cons_append]
  | case3 c s hbreak ih =>
      rw [List.cons_append, dropLines, dropLines, lineOpen, if_pos rfl, if_neg hbreak, if_pos rfl,
        if_neg hbreak, if_pos rfl, if_neg hbreak, ih]
  | case4 inside c s hin hdash ih =>
      have hdash' : c = '-' ∧ (s ++ t).head? = some '-' :=
        ⟨hdash.1, by rw [List.head?_append, hdash.2]; rfl⟩
      rw [List.cons_append, dropLines, dropLines, lineOpen, if_neg hin, if_pos hdash', if_neg hin,
        if_pos hdash, if_neg hin, if_pos hdash, ih]
  | case5 inside c s hin hdash ih =>
      have hdash' : ¬ (c = '-' ∧ (s ++ t).head? = some '-') := by
        rintro ⟨hc, hhead⟩
        cases s with
        | nil => exact ht hhead
        | cons d s => exact hdash ⟨hc, hhead⟩
      rw [List.cons_append, dropLines, dropLines, lineOpen, if_neg hin, if_neg hdash', if_neg hin,
        if_neg hdash, if_neg hin, if_neg hdash, ih, List.cons_append]

theorem dropLines_cons_of_isLineBreak (hc : isLineBreak c) (inside : Bool) (s : List Char) :
    dropLines inside (c :: s) = c :: dropLines false s := by
  cases inside with
  | true => rw [dropLines, if_pos rfl, if_pos hc]
  | false =>
      have hdash : c ≠ '-' := by
        rintro rfl
        exact absurd hc (by decide)
      rw [dropLines, if_neg Bool.false_ne_true, if_neg fun h => hdash h.1]

theorem dropLines_append_of_break (hs : ∀ c ∈ s, isLineBreak c = false)
    (ht : ∀ c ∈ t.head?, isLineBreak c) : dropLines true (s ++ t) = dropLines false t := by
  induction s with
  | nil =>
      cases t with
      | nil => rfl
      | cons c t =>
          rw [List.nil_append, dropLines_cons_of_isLineBreak (ht c rfl),
            dropLines_cons_of_isLineBreak (ht c rfl)]
  | cons c s ih =>
      obtain ⟨hc, hs⟩ := List.forall_mem_cons.1 hs
      rw [List.cons_append, dropLines, if_pos rfl, if_neg (by simp [hc]), ih hs]

theorem dropLines_body (h : ∀ c ∈ body, isLineBreak c = false) (s : List Char) :
    dropLines true (body ++ '\n' :: s) = '\n' :: dropLines false s := by
  have hbreak : isLineBreak '\n' := rfl
  rw [dropLines_append_of_break h (by simpa using hbreak), dropLines_cons_of_isLineBreak hbreak]

def Silent (s : List Char) : Prop :=
  s.IsChain fun c d => ¬ (c = '/' ∧ d = '*') ∧ ¬ (c = '-' ∧ d = '-')

instance : Decidable (Silent s) :=
  inferInstanceAs (Decidable (s.IsChain fun c d => ¬ (c = '/' ∧ d = '*') ∧ ¬ (c = '-' ∧ d = '-')))

theorem silent_of_not_infix (hline : ¬ ['-', '-'] <:+: s) (hblock : ¬ ['/', '*'] <:+: s) :
    Silent s := by
  induction s with
  | nil => exact List.isChain_nil
  | cons c s ih =>
      refine List.isChain_cons.2 ⟨?_, ih (fun h => hline (List.infix_cons h))
        fun h => hblock (List.infix_cons h)⟩
      intro d hd
      rw [List.eq_cons_of_mem_head? hd] at hline hblock
      constructor
      · rintro ⟨rfl, rfl⟩
        exact hblock ⟨[], s.tail, rfl⟩
      · rintro ⟨rfl, rfl⟩
        exact hline ⟨[], s.tail, rfl⟩

theorem silent_iff : Silent s ↔ ¬ ['-', '-'] <:+: s ∧ ¬ ['/', '*'] <:+: s := by
  constructor
  · intro h
    constructor
    · intro hline
      have hpair : Silent ['-', '-'] := List.IsChain.infix h hline
      exact (List.isChain_pair.1 hpair).2 ⟨rfl, rfl⟩
    · intro hblock
      have hpair : Silent ['/', '*'] := List.IsChain.infix h hblock
      exact (List.isChain_pair.1 hpair).1 ⟨rfl, rfl⟩
  · rintro ⟨hline, hblock⟩
    exact silent_of_not_infix hline hblock

theorem Silent.left (h : Silent (s ++ t)) : Silent s :=
  List.IsChain.infix h (List.prefix_append s t).isInfix

theorem dropBlocks_of_silent (h : Silent s) : dropBlocks false s = s := by
  have happ := dropBlocks_append_of_absent (t := []) (silent_iff.1 h).2 (by simp)
  rwa [List.append_nil, dropBlocks, List.append_nil] at happ

theorem dropLines_append_of_silent (h : Silent (s ++ t.head?.toList)) :
    dropLines false (s ++ t) = s ++ dropLines false t := by
  induction s with
  | nil => rfl
  | cons c s ih =>
      obtain ⟨hhead, hs⟩ := List.isChain_cons.1 h
      have hline : ¬ (c = '-' ∧ (s ++ t).head? = some '-') := by
        rintro ⟨hc, hd⟩
        refine (hhead '-' ?_).2 ⟨hc, rfl⟩
        cases s with
        | nil => simpa using hd
        | cons d s => exact hd
      rw [List.cons_append, dropLines, if_neg Bool.false_ne_true, if_neg hline, ih hs]
      rfl

theorem dropLines_of_silent (h : Silent s) : dropLines false s = s := by
  have happ := dropLines_append_of_silent (t := []) (by simpa using h)
  rwa [List.append_nil, dropLines, List.append_nil] at happ

theorem strip_of_silent (h : Silent s) : strip s = s := by
  rw [strip, dropBlocks_of_silent h, dropLines_of_silent h]

theorem silent_append_cons (hc : c ∉ ['/', '*', '-']) :
    Silent (s ++ c :: t) ↔ Silent s ∧ Silent t := by
  simp only [List.mem_cons, List.not_mem_nil, or_false, not_or] at hc
  obtain ⟨hslash, hstar, hdash⟩ := hc
  rw [Silent, List.isChain_append, List.isChain_cons]
  constructor
  · rintro ⟨hs, ⟨-, ht⟩, -⟩
    exact ⟨hs, ht⟩
  · rintro ⟨hs, ht⟩
    refine ⟨hs, ⟨?_, ht⟩, ?_⟩
    · exact fun _ _ => ⟨fun h => hslash h.1, fun h => hdash h.1⟩
    · intro _ _ d hd
      obtain rfl := Option.some.inj hd
      exact ⟨fun h => hstar h.2, fun h => hdash h.2⟩

theorem silent_append_of_forall (hs : ∀ c ∈ s, c ∉ ['/', '*', '-']) :
    Silent (s ++ t) ↔ Silent t := by
  induction s with
  | nil => exact Iff.rfl
  | cons c s ih =>
      obtain ⟨hc, hs⟩ := List.forall_mem_cons.1 hs
      rw [List.cons_append, ← List.nil_append (c :: (s ++ t)), silent_append_cons hc, ih hs]
      exact and_iff_right List.isChain_nil

theorem strip_block (hp : blockOpen false p = false) (hbody : ¬ ['*', '/'] <:+: body)
    (q : List Char) :
    strip (p ++ ('/' :: '*' :: (body ++ '*' :: '/' :: q))) = strip (p ++ ' ' :: q) := by
  rw [strip, strip, dropBlocks_append hp (by simp), dropBlocks_append hp (by simp), dropBlocks,
    if_neg Bool.false_ne_true, if_pos ⟨rfl, rfl⟩, dropBlocks_body hbody,
    dropBlocks_cons_of_ne (by decide)]

/-- A line comment behind a blank is worth nothing, if no block comment that it opens goes on
behind it. -/
theorem strip_line (hp : blockOpen false p = false) (hbreak : ∀ c ∈ body, isLineBreak c = false)
    (hbody : blockOpen false body = false) (q : List Char) :
    strip (p ++ (' ' :: '-' :: '-' :: (body ++ '\n' :: q))) = strip (p ++ ' ' :: '\n' :: q) := by
  have hdropped : ∀ c ∈ dropBlocks false body, isLineBreak c = false := by
    intro c hc
    rcases mem_of_mem_dropBlocks hc with rfl | hm
    · decide
    · exact hbreak c hm
  have hblank : (' ' :: '-' :: '-' :: (dropBlocks false body ++ '\n' :: dropBlocks false q)).head? ≠
      some '-' := by simp
  have hend : (' ' :: '\n' :: dropBlocks false q).head? ≠ some '-' := by simp
  have hfirst : dropBlocks false (p ++ (' ' :: '-' :: '-' :: (body ++ '\n' :: q))) =
      dropBlocks false p ++
        (' ' :: '-' :: '-' :: (dropBlocks false body ++ '\n' :: dropBlocks false q)) := by
    rw [dropBlocks_append hp (by simp), dropBlocks_cons_of_ne (by decide),
      dropBlocks_cons_of_ne (by decide), dropBlocks_cons_of_ne (by decide),
      dropBlocks_append hbody (by simp), dropBlocks_cons_of_ne (by decide)]
  have hsecond : dropBlocks false (p ++ ' ' :: '\n' :: q) =
      dropBlocks false p ++ ' ' :: '\n' :: dropBlocks false q := by
    rw [dropBlocks_append hp (by simp), dropBlocks_cons_of_ne (by decide),
      dropBlocks_cons_of_ne (by decide)]
  rw [strip, strip, hfirst, hsecond, dropLines_append hblank, dropLines_append hend]
  -- Behind an open line comment the dashes belong to its body, and elsewhere they open one.
  cases lineOpen false (dropBlocks false p) with
  | true =>
      have hline : ∀ c ∈ ' ' :: '-' :: '-' :: dropBlocks false body, isLineBreak c = false := by
        simp only [List.mem_cons]
        rintro c (rfl | rfl | rfl | hc)
        · decide
        · decide
        · decide
        · exact hdropped c hc
      have h := dropLines_body hline (dropBlocks false q)
      simp only [List.cons_append] at h
      rw [h]
      rfl
  | false =>
      have hline : ∀ c ∈ '-' :: dropBlocks false body, isLineBreak c = false := by
        simp only [List.mem_cons]
        rintro c (rfl | hc)
        · decide
        · exact hdropped c hc
      have h := dropLines_body hline (dropBlocks false q)
      simp only [List.cons_append] at h
      rw [dropLines, if_neg Bool.false_ne_true, if_neg fun h => absurd h.1 (by decide), dropLines,
        if_neg Bool.false_ne_true, if_pos ⟨rfl, rfl⟩, h]
      rfl

end Comment

namespace TableScan

open Comment

theorem extract_congr {s t : String} (h : strip s.toList = strip t.toList)
    (database : Option String) : extract s database = extract t database := by
  rw [extract, extract, tablesIn, tablesIn, h]

/-- Where no block comment is open, a block comment counts as a blank, and a line comment that closes
the block comments it opens counts as nothing. -/
theorem extract_commented {p : String} (hp : blockOpen false p.toList = false) (q : String)
    (database : Option String) :
    (∀ body : String, ¬ "*/".toList <:+: body.toList →
      extract (p ++ "/*" ++ body ++ "*/" ++ q) database = extract (p ++ " " ++ q) database) ∧
    ∀ body : String, '\r' ∉ body.toList → '\n' ∉ body.toList →
      blockOpen false body.toList = false →
      extract (p ++ " --" ++ body ++ "\n" ++ q) database =
        extract (p ++ " " ++ "\n" ++ q) database := by
  constructor
  · intro body hbody
    apply extract_congr
    have h := strip_block hp hbody q.toList
    simpa [String.toList_append] using h
  · intro body hreturn hfeed hclosed
    apply extract_congr
    have hbreak : ∀ c ∈ body.toList, isLineBreak c = false := by
      intro c hc
      have hr : c ≠ '\r' := ne_of_mem_of_not_mem hc hreturn
      have hn : c ≠ '\n' := ne_of_mem_of_not_mem hc hfeed
      simp [isLineBreak, hr, hn]
    have h := strip_line hp hbreak hclosed q.toList
    simpa [String.toList_append] using h

theorem extract_commented_betweenWords :
    blockOpen false "SELECT * /* -- */ FROM".toList = false ∧
    ¬ "*/".toList <:+: "-- dbo.Ghost /*".toList ∧
    '\r' ∉ " dbo.Ghost /* x */".toList ∧ '\n' ∉ " dbo.Ghost /* x */".toList ∧
    blockOpen false " dbo.Ghost /* x */".toList = false ∧
    extract ("SELECT * /* -- */ FROM" ++ "/*" ++ "-- dbo.Ghost /*" ++ "*/" ++ " dbo.Orders") none =
      [⟨none, "dbo", "Orders"⟩] ∧
    extract ("SELECT * /* -- */ FROM" ++ " --" ++ " dbo.Ghost /* x */" ++ "\n" ++ " dbo.Orders")
      none = [⟨none, "dbo", "Orders"⟩] := by
  have hp : blockOpen false "SELECT * /* -- */ FROM".toList = false := by decide +kernel
  have hblock : ¬ "*/".toList <:+: "-- dbo.Ghost /*".toList := by decide +kernel
  have hreturn : '\r' ∉ " dbo.Ghost /* x */".toList := by decide +kernel
  have hfeed : '\n' ∉ " dbo.Ghost /* x */".toList := by decide +kernel
  have hline : blockOpen false " dbo.Ghost /* x */".toList = false := by decide +kernel
  obtain ⟨hfirst, hsecond⟩ := extract_commented hp " dbo.Orders" none
  refine ⟨hp, hblock, hreturn, hfeed, hline, ?_, ?_⟩
  · rw [hfirst _ hblock]
    decide +kernel
  · rw [hsecond _ hreturn hfeed hline]
    decide +kernel

/-- A block comment that a line comment opens goes on behind the line, whether the text that follows
or the text before holds the line comment. -/
theorem extract_opened_in_line :
    (Mode.code.after "SELECT 1".toList = .code ∧ "SELECT 1".toList.getLast? = some '1' ∧
      '\r' ∉ " /* see below".toList ∧ '\n' ∉ " /* see below".toList ∧
      extract ("SELECT 1" ++ " --" ++ " /* see below" ++ "\n" ++ "SELECT * FROM dbo.Orders") none =
        [] ∧
      extract ("SELECT 1" ++ " " ++ "\n" ++ "SELECT * FROM dbo.Orders") none =
        [⟨none, "dbo", "Orders"⟩]) ∧
    Mode.code.after "-- /*\n".toList = .code ∧ "-- /*\n".toList.getLast? = some '\n' ∧
      extract ("-- /*\n" ++ "/*" ++ "" ++ "*/" ++ "\nSELECT * FROM dbo.Orders") none =
        [⟨none, "dbo", "Orders"⟩] ∧
      extract ("-- /*\n" ++ " " ++ "\nSELECT * FROM dbo.Orders") none = [] := by
  decide +kernel

end TableScan

end IndexTuning.Sql
