import IndexTuning.Proofs.Sql.Statement
import IndexTuning.Proofs.Text.Reader
import IndexTuning.Sql.IndexDdl

namespace IndexTuning.Sql.IndexDdl

open Text Scanner

/-- A statement that `statement` reads, cut where its pattern changes. The head holds the keywords
before the name, and the target runs from `ON` to the bracket that opens the columns. -/
structure Parts where
  head : List Char
  name : List Char
  gap : List Char
  target : List Char
  columns : List Char
  tail : List Char

namespace Parts

def start (p : Parts) : List Char := p.name ++ p.gap ++ p.target

def finish (p : Parts) : List Char := p.columns ++ ')' :: p.tail

def body (p : Parts) : List Char := p.start ++ p.finish

def text (p : Parts) : List Char := p.head ++ p.body ++ [';']

end Parts

def headings : List (List String) :=
  [["CREATE", "INDEX"], ["CREATE", "NONCLUSTERED", "INDEX"], ["CREATE", "UNIQUE", "INDEX"],
    ["CREATE", "UNIQUE", "NONCLUSTERED", "INDEX"]]

theorem headings_letters : ∀ words ∈ headings, ∀ w ∈ words,
    w ≠ "" ∧ w.toList.all isLatinLetter := by decide

structure IsTarget (s : List Char) : Prop where
  shape : ∃ on object space, s = on ++ object ++ space ++ ['('] ∧ Spelled ["ON"] on ∧
    object ≠ [] ∧ (∀ c ∈ object, isObjectChar c) ∧ ∀ c ∈ space, isBlank c

structure Parts.WellShaped (p : Parts) : Prop where
  head : ∃ words ∈ headings, Spelled words p.head
  name_ne : p.name ≠ []
  name : ∀ c ∈ p.name, isIndexNameChar c
  target : IsTarget p.target
  columns_ne : p.columns ≠ []
  columns : ')' ∉ p.columns
  tail : ';' ∉ p.tail

variable {s r : List Char}

theorem spelled_of_createIndex (h : createIndex s = some r) :
    ∃ head, s = head ++ r ∧ ∃ words ∈ headings, Spelled words head := by
  have word {w : String} {s r} (h : (keyword w >=> blanks) s = some r) := spelled_of_word h
  obtain ⟨s₁, h₁, h⟩ : ∃ t, (keyword "CREATE" >=> blanks) s = some t ∧
      (optional (keyword "UNIQUE" >=> blanks) >=> optional (keyword "NONCLUSTERED" >=> blanks) >=>
        keyword "INDEX" >=> blanks) t = some r := by
    obtain ⟨t₀, hk, h⟩ := comp_eq_some.1 h
    obtain ⟨t, hb, h⟩ := comp_eq_some.1 h
    exact ⟨t, comp_eq_some.2 ⟨t₀, hk, hb⟩, h⟩
  obtain ⟨s₂, h₂, h⟩ := comp_eq_some.1 h
  obtain ⟨s₃, h₃, h₄⟩ := comp_eq_some.1 h
  obtain ⟨u₁, rfl, hu₁⟩ := word h₁
  obtain ⟨u₄, rfl, hu₄⟩ := word h₄
  rcases optional_eq_some.1 h₂ with h₂ | ⟨-, rfl⟩
  · obtain ⟨u₂, rfl, hu₂⟩ := word h₂
    rcases optional_eq_some.1 h₃ with h₃ | ⟨-, rfl⟩
    · obtain ⟨u₃, rfl, hu₃⟩ := word h₃
      exact ⟨u₁ ++ (u₂ ++ (u₃ ++ u₄)), by simp, _, by simp [headings],
        hu₁.append (hu₂.append (hu₃.append hu₄))⟩
    · exact ⟨u₁ ++ (u₂ ++ u₄), by simp, _, by simp [headings], hu₁.append (hu₂.append hu₄)⟩
  · rcases optional_eq_some.1 h₃ with h₃ | ⟨-, rfl⟩
    · obtain ⟨u₃, rfl, hu₃⟩ := word h₃
      exact ⟨u₁ ++ (u₃ ++ u₄), by simp, _, by simp [headings], hu₁.append (hu₃.append hu₄)⟩
    · exact ⟨u₁ ++ u₄, by simp, _, by simp [headings], hu₁.append hu₄⟩

theorem parts_of_target (h : target s = some r) :
    ∃ t columns tail, s = t ++ (columns ++ ')' :: tail) ++ ';' :: r ∧ IsTarget t ∧
      columns ≠ [] ∧ ')' ∉ columns ∧ ';' ∉ tail := by
  obtain ⟨s₁, h₁, h⟩ : ∃ t, (keyword "ON" >=> blanks) s = some t ∧ (many1 isObjectChar >=>
      many isBlank >=> Scanner.char '(' >=> many1 (· != ')') >=> Scanner.char ')' >=>
      many (· != ';') >=> Scanner.char ';') t = some r := by
    obtain ⟨t₀, hk, h⟩ := comp_eq_some.1 h
    obtain ⟨t, hb, h⟩ := comp_eq_some.1 h
    exact ⟨t, comp_eq_some.2 ⟨t₀, hk, hb⟩, h⟩
  obtain ⟨s₂, h₂, h⟩ := comp_eq_some.1 h
  obtain ⟨s₃, h₃, h⟩ := comp_eq_some.1 h
  obtain ⟨s₄, h₄, h⟩ := comp_eq_some.1 h
  obtain ⟨s₅, h₅, h⟩ := comp_eq_some.1 h
  obtain ⟨s₆, h₆, h⟩ := comp_eq_some.1 h
  obtain ⟨s₇, h₇, h₈⟩ := comp_eq_some.1 h
  obtain ⟨on, rfl, hon⟩ := spelled_of_word h₁
  obtain ⟨object, rfl, hne, hobject, -⟩ := many1_eq_some.1 h₂
  obtain ⟨space, rfl, hspace, -⟩ := many_eq_some.1 h₃
  obtain rfl := char_eq_some.1 h₄
  obtain ⟨columns, rfl, hcne, hcolumns, -⟩ := many1_eq_some.1 h₅
  obtain rfl := char_eq_some.1 h₆
  obtain ⟨tail, rfl, htail, -⟩ := many_eq_some.1 h₇
  obtain rfl := char_eq_some.1 h₈
  refine ⟨on ++ object ++ space ++ ['('], columns, tail, by simp,
    ⟨on, object, space, rfl, hon, hne, hobject, hspace⟩, hcne, ?_, ?_⟩
  · exact fun hm => by simpa using hcolumns _ hm
  · exact fun hm => by simpa using htail _ hm

theorem target_of_firstTarget? (h : firstTarget? s = some r) :
    ∃ gap t, s = gap ++ t ∧ target t = some r := by
  induction s with
  | nil => exact absurd h (by simp [firstTarget?])
  | cons c s ih =>
      rw [firstTarget?] at h
      cases ht : target (c :: s) with
      | some r' =>
          rw [ht] at h
          obtain rfl : r' = r := Option.some.inj h
          exact ⟨[], c :: s, rfl, ht⟩
      | none =>
          rw [ht] at h
          obtain ⟨gap, t, rfl, htarget⟩ := ih h
          exact ⟨c :: gap, t, rfl, htarget⟩

theorem target_behind_name {name rest : List Char} (hn : many1 isIndexNameChar name = some rest)
    (h : (firstTarget? rest <|> if 3 ≤ (consumed name rest).length then
      target (name.drop ((consumed name rest).length - 2)) else none) = some r) :
    ∃ n gap t, name = n ++ gap ++ t ∧ n ≠ [] ∧ (∀ c ∈ n, isIndexNameChar c) ∧
      target t = some r := by
  obtain ⟨n, rfl, hne, hchars, -⟩ := many1_eq_some.1 hn
  rw [consumed_append] at h
  cases hf : firstTarget? rest with
  | some r' =>
      rw [hf] at h
      obtain rfl : r' = r := Option.some.inj h
      obtain ⟨gap, t, rfl, ht⟩ := target_of_firstTarget? hf
      exact ⟨n, gap, t, by simp, hne, hchars, ht⟩
  | none =>
      rw [hf] at h
      by_cases hl : 3 ≤ n.length
      · rw [if_pos hl] at h
        refine ⟨n.take (n.length - 2), [], _, ?_, ?_, fun c hc => hchars c (List.mem_of_mem_take hc), h⟩
        · rw [List.append_nil, List.drop_append_of_le_length (by omega), ← List.append_assoc,
            List.take_append_drop]
        · rw [← List.length_pos_iff, List.length_take]
          omega
      · rw [if_neg hl] at h
        exact absurd h (by simp)

theorem parts_of_statement (h : statement s = some r) :
    ∃ p : Parts, p.WellShaped ∧ s = p.text ++ r := by
  obtain ⟨name, hc, hname⟩ := Option.bind_eq_some_iff.1 h
  obtain ⟨rest, hn, hrest⟩ := Option.bind_eq_some_iff.1 hname
  obtain ⟨head, rfl, hhead⟩ := spelled_of_createIndex hc
  obtain ⟨n, gap, place, rfl, hne, hchars, hplace⟩ := target_behind_name hn hrest
  obtain ⟨t, columns, tail, rfl, htarget, hcne, hcolumns, htail⟩ := parts_of_target hplace
  refine ⟨⟨head, n, gap, t, columns, tail⟩,
    ⟨hhead, hne, hchars, htarget, hcne, hcolumns, htail⟩, ?_⟩
  simp only [Parts.text, Parts.body, Parts.start, Parts.finish, List.append_assoc,
    List.singleton_append]

theorem pieces_statements (text : List Char) :
    Pieces (fun f => ∃ p : Parts, p.WellShaped ∧ f = p.text) text (statements text) := by
  apply Reader.all_pieces
  intro before s f rest h
  obtain ⟨rest', hs, he⟩ := Option.map_eq_some_iff.1 h
  obtain ⟨rfl, rfl⟩ := Prod.mk.inj he
  obtain ⟨p, hp, rfl⟩ := parts_of_statement hs
  rw [consumed_append]
  exact ⟨rfl, by simp [Parts.text], p, hp, rfl⟩

theorem tight_of_mem_statements {text f : List Char} (h : f ∈ statements text) : Tight f := by
  obtain ⟨p, hp, rfl⟩ := (pieces_statements text).forall f h
  obtain ⟨words, hw, hs⟩ := hp.head
  apply Tight.append
  · apply Solid.append
    apply hs.solid
    · rintro rfl
      exact absurd hw (by decide)
    · exact headings_letters words hw
  · decide

/-- The reserved words that begin a statement. The others that do so need a semicolon before them. -/
def statementWords : List String :=
  ["ADD", "ALTER", "BACKUP", "BEGIN", "BREAK", "BULK", "CHECKPOINT", "CLOSE", "COMMIT", "CONTINUE",
    "CREATE", "DBCC", "DEALLOCATE", "DECLARE", "DELETE", "DENY", "DROP", "DUMP", "EXEC", "EXECUTE",
    "FETCH", "GOTO", "GRANT", "IF", "INSERT", "KILL", "LOAD", "MERGE", "OPEN", "PRINT", "RAISERROR",
    "READTEXT", "RECONFIGURE", "RESTORE", "RETURN", "REVERT", "REVOKE", "ROLLBACK", "SAVE",
    "SELECT", "SET", "SETUSER", "SHUTDOWN", "TRUNCATE", "UPDATE", "UPDATETEXT", "USE", "WAITFOR",
    "WHILE", "WRITETEXT"]

def beginsStatement (word : List Char) : Bool :=
  statementWords.any fun w => w.toList.map fold == word.map fold

/-- The text is one complete statement that creates an index and nothing else. -/
structure IsStatement (f : List Char) : Prop where
  shape : ∃ p : Parts, p.WellShaped ∧ f = p.text
  ends : Statement.segments .code f = [f, []]
  closed : Mode.code.after f = .code
  unseparated : ∀ l ∈ linesWithBreaks f, Statement.isSeparator l = false
  alone : ((Statement.words f).filter beginsStatement).length = 1

/-- Nothing between the head and the last semicolon ends the statement, leaves that semicolon
inside a literal, a name or a comment, or begins another statement. -/
structure Parts.IsClean (p : Parts) : Prop where
  gap : Statement.Unbroken (Mode.code.after p.name) p.gap
  columns : Statement.Unbroken (Mode.code.after p.start) p.columns
  closed : (Mode.code.after p.body).inCode
  unseparated : ∀ l ∈ linesWithBreaks p.text, Statement.isSeparator l = false
  alone : ∀ w ∈ Statement.words p.body, beginsStatement w = false

theorem headings_begin : ∀ words ∈ headings,
    (words.filter fun w => beginsStatement w.toList) = ["CREATE"] := by decide

namespace Parts

variable {p : Parts}

theorem WellShaped.after_head (hp : p.WellShaped) : Mode.code.after p.head = .code := by
  obtain ⟨words, hw, hs⟩ := hp.head
  apply Mode.code_after_plain
  exact hs.forall_mem fun w hm => (headings_letters words hw w hm).2

theorem WellShaped.head_unbroken (hp : p.WellShaped) : ';' ∉ p.head := by
  obtain ⟨words, hw, hs⟩ := hp.head
  intro hm
  rcases hs.forall_mem (fun w hm => (headings_letters words hw w hm).2) ';' hm with h | h
  · exact absurd h (by decide)
  · exact absurd h (by decide)

theorem WellShaped.target_unbroken (hp : p.WellShaped) : ';' ∉ p.target := by
  obtain ⟨on, object, space, he, hon, -, hobject, hspace⟩ := hp.target.shape
  rw [he]
  intro hm
  simp only [List.mem_append, List.mem_singleton] at hm
  rcases hm with ((hm | hm) | hm) | hm
  · rcases hon.forall_mem (by decide) ';' hm with h | h
    · exact absurd h (by decide)
    · exact absurd h (by decide)
  · exact absurd (hobject ';' hm) (by decide)
  · exact absurd (hspace ';' hm) (by decide)
  · exact absurd hm (by decide)

/-- A semicolon in code can only stand in the gap or among the columns. -/
theorem WellShaped.body_unbroken_iff (hp : p.WellShaped) :
    Statement.Unbroken .code p.body ↔ Statement.Unbroken (Mode.code.after p.name) p.gap ∧
      Statement.Unbroken (Mode.code.after p.start) p.columns := by
  have hname : ';' ∉ p.name := fun hm => absurd (hp.name ';' hm) (by decide)
  have htail : ';' ∉ ')' :: p.tail := by
    rw [List.mem_cons, not_or]
    exact ⟨by decide, hp.tail⟩
  have hn {m : Mode} := Statement.unbroken_of_not_mem (m := m) hname
  have ht {m : Mode} := Statement.unbroken_of_not_mem (m := m) hp.target_unbroken
  have hr {m : Mode} := Statement.unbroken_of_not_mem (m := m) htail
  simp only [body, start, finish, Statement.unbroken_append, hn, ht, hr, true_and, and_true]

theorem WellShaped.ends_iff (hp : p.WellShaped) :
    Statement.segments .code p.text = [p.text, []] ↔
      Statement.Unbroken .code p.body ∧ (Mode.code.after p.body).inCode := by
  rw [text, Statement.segments_concat_semicolon, Statement.unbroken_append, Mode.after_append,
    hp.after_head]
  simp only [Statement.unbroken_of_not_mem hp.head_unbroken, true_and]

theorem beginsStatement_congr {u v : List Char} (h : u.map fold = v.map fold) :
    beginsStatement u = beginsStatement v := by
  rw [beginsStatement, beginsStatement, h]

theorem length_filter_beginsStatement {us : List (List Char)} {words : List String}
    (h : us.map (·.map fold) = words.map (·.toList.map fold)) :
    (us.filter beginsStatement).length =
      (words.filter fun w => beginsStatement w.toList).length := by
  induction us generalizing words with
  | nil => rw [List.map_eq_nil_iff.1 h.symm]; rfl
  | cons u us ih =>
      cases words with
      | nil => exact absurd h (List.cons_ne_nil _ _)
      | cons w words =>
          obtain ⟨hw, hs⟩ := List.cons_eq_cons.1 h
          rw [List.filter_cons, List.filter_cons, beginsStatement_congr hw]
          split
          · rw [List.length_cons, List.length_cons, ih hs]
          · exact ih hs

theorem WellShaped.alone_iff (hp : p.WellShaped) :
    ((Statement.words p.text).filter beginsStatement).length = 1 ↔
      ∀ w ∈ Statement.words p.body, beginsStatement w = false := by
  obtain ⟨words, hw, hs⟩ := hp.head
  obtain ⟨us, he, hus⟩ := Statement.words_spelled_append (s := p.body ++ [';']) hs
    (headings_letters words hw)
  have hb : Statement.words (p.body ++ [';']) = Statement.words p.body :=
    Statement.wordsFrom_concat_semicolon
  rw [text, List.append_assoc, he, hb, List.filter_append, List.length_append,
    length_filter_beginsStatement hus, headings_begin words hw]
  simp [List.filter_eq_nil_iff]

theorem WellShaped.isStatement_iff (hp : p.WellShaped) : IsStatement p.text ↔ p.IsClean := by
  constructor
  · intro h
    obtain ⟨hu, hc⟩ := hp.ends_iff.1 h.ends
    obtain ⟨hg, hcol⟩ := hp.body_unbroken_iff.1 hu
    exact ⟨hg, hcol, hc, h.unseparated, hp.alone_iff.1 h.alone⟩
  · intro h
    refine ⟨⟨p, hp, rfl⟩, hp.ends_iff.2 ⟨hp.body_unbroken_iff.2 ⟨h.gap, h.columns⟩, h.closed⟩, ?_,
      h.unseparated, hp.alone_iff.2 h.alone⟩
    apply Statement.after_concat_semicolon
    rw [Mode.after_append, hp.after_head]
    exact h.closed

end Parts

/-- The extraction puts together disjoint parts of the text in their order there, each of the shape
of a statement that creates an index. All of them are such statements exactly when each is clean. -/
theorem extract_isStatement_iff (text : String) :
    extract text = String.ofList (joinLines (statements text.toList)) ∧
    Pieces (fun f => ∃ p : Parts, p.WellShaped ∧ f = p.text ∧ (IsStatement f ↔ p.IsClean))
      text.toList (statements text.toList) ∧
    ((∀ f ∈ statements text.toList, IsStatement f) ↔
      ∀ p : Parts, p.WellShaped → p.text ∈ statements text.toList → p.IsClean) := by
  have hpieces := pieces_statements text.toList
  refine ⟨rfl, ?_, ?_⟩
  · apply hpieces.mono
    rintro f ⟨p, hp, rfl⟩
    exact ⟨p, hp, rfl, hp.isStatement_iff⟩
  · constructor
    · intro h p hp hm
      exact hp.isStatement_iff.1 (h _ hm)
    · intro h f hf
      obtain ⟨p, hp, rfl⟩ := hpieces.forall f hf
      exact hp.isStatement_iff.2 (h p hp hf)

def proseDraft : String :=
  "CREATE INDEX suggestions follow; DROP TABLE dbo.Audit;\n" ++
    "CREATE INDEX IX_Orders_Id ON dbo.Orders (Id);"

/-- Prose that begins like a statement carries the statements behind it along. -/
theorem extract_proseDraft : extract proseDraft = proseDraft ∧
    "DROP TABLE dbo.Audit;".toList ∈ Statement.ofScript (extract proseDraft).toList ∧
    ¬ ∀ f ∈ statements proseDraft.toList, IsStatement f := by
  have hs : statements proseDraft.toList = [proseDraft.toList] := by decide +kernel
  have he : extract proseDraft = proseDraft := by
    rw [extract, hs, joinLines, List.intercalate_singleton, String.ofList_toList]
  refine ⟨he, ?_, fun h => ?_⟩
  · rw [he]
    decide +kernel
  · have := (h proseDraft.toList (by rw [hs]; exact List.mem_cons_self)).ends
    revert this
    decide +kernel

end IndexTuning.Sql.IndexDdl
