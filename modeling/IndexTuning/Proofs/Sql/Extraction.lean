import IndexTuning.Catalog.Memory
import IndexTuning.Deployment
import IndexTuning.Proofs.Sql.IndexDdl
import IndexTuning.Proofs.Text.Line

namespace IndexTuning

namespace Sql.IndexDdl

open Text Scanner

variable {s r x y z u f name rest : List Char}

/-- A target stops at the semicolon behind its columns, wherever the scan for it begins. -/
theorem carries_target (columns tail z : List Char) :
    Carries target ('(' :: (columns ++ ')' :: (tail ++ ';' :: z))) z := by
  have hclose : ')' :: (tail ++ ';' :: z) <:+ columns ++ ')' :: (tail ++ ';' :: z) :=
    List.suffix_append _ _
  have hend : ';' :: z <:+ tail ++ ';' :: z := List.suffix_append _ _
  exact (carries_keyword (by decide) (by decide) _).comp <|
    (carries_many1 (by decide) _).comp <| (carries_many1 (by decide) _).comp <|
    (carries_many (by decide) _).comp <| ((carries_char '(' _).mono hclose).comp <|
    (carries_many1 (by decide) _).comp <| ((carries_char ')' _).mono hend).comp <|
    (carries_many (by decide) _).comp (carries_char ';' z)

theorem carries_createIndex : Carries createIndex [';'] [';'] := by
  have hword (word : String) (hword : word.toList.all isLatinLetter) :
      Carries (keyword word >=> blanks) [';'] [';'] :=
    (carries_keyword hword (by decide) []).comp (carries_many1 (by decide) [])
  exact (carries_keyword (by decide) (by decide) []).comp <|
    (carries_many1 (by decide) []).comp <| (hword "UNIQUE" (by decide)).optional.comp <|
    (hword "NONCLUSTERED" (by decide)).optional.comp (hword "INDEX" (by decide))

/-- The text of a target. The scan for a target that begins in front of it does not look behind
it. -/
structure IsCore (core : List Char) : Prop where
  ne_nil : core ≠ []
  scanned : target core = some []
  carried : ∀ u w x, LocalAt target x (u ++ (core ++ w))

theorem exists_core_of_target (h : target s = some r) : ∃ core, s = core ++ r ∧ IsCore core := by
  obtain ⟨t, columns, tail, rfl, ⟨on, object, space, rfl, -⟩, -⟩ := parts_of_target h
  let core := on ++ object ++ space ++ ['('] ++ (columns ++ ')' :: tail) ++ [';']
  have hcarried (u w x : List Char) : LocalAt target x (u ++ (core ++ w)) := by
    have hend : '(' :: (columns ++ ')' :: (tail ++ ';' :: w)) <:+ u ++ (core ++ w) :=
      ⟨u ++ (on ++ object ++ space), by simp [core]⟩
    exact ((carries_target columns tail w) _ hend).1 x
  have hcore : on ++ object ++ space ++ ['('] ++ (columns ++ ')' :: tail) ++ ';' :: r =
      core ++ r := by simp [core]
  have hscanned : (target core).map (· ++ r) = some r := by
    have hlocal := hcarried [] [] r
    rw [List.nil_append, List.append_nil] at hlocal
    rw [← hlocal, ← hcore, h]
  obtain ⟨left, hleft, hnil⟩ := Option.map_eq_some_iff.1 hscanned
  obtain rfl := List.append_left_eq_self.1 hnil
  exact ⟨core, hcore, by simp [core], hleft, hcarried⟩

theorem IsCore.target_append (h : IsCore u) (x : List Char) : target (u ++ x) = some x := by
  have hlocal := h.carried [] [] x
  rw [List.nil_append, List.append_nil] at hlocal
  rw [hlocal, h.scanned]
  rfl

theorem IsCore.firstTarget? (h : IsCore u) (gap w x : List Char) :
    LocalAt firstTarget? x (gap ++ (u ++ w)) ∧ firstTarget? (gap ++ (u ++ w)) ≠ none := by
  induction gap with
  | nil =>
      obtain ⟨c, v, hv⟩ := List.exists_cons_of_ne_nil h.ne_nil
      have hfirst (w : List Char) : IndexDdl.firstTarget? (u ++ w) = some w := by
        have hw := h.target_append w
        rw [hv, List.cons_append] at hw ⊢
        rw [IndexDdl.firstTarget?, hw]
        rfl
      rw [List.nil_append, LocalAt, List.append_assoc, hfirst, hfirst]
      exact ⟨rfl, by simp⟩
  | cons c gap ih =>
      have hlocal := h.carried (c :: gap) w x
      rw [LocalAt, List.cons_append, List.cons_append] at hlocal
      rw [LocalAt, List.cons_append, List.cons_append, IndexDdl.firstTarget?,
        IndexDdl.firstTarget?, hlocal]
      cases target (c :: (gap ++ (u ++ w))) with
      | none => exact ih
      | some r => exact ⟨rfl, by simp⟩

theorem exists_core_of_firstTarget? (h : firstTarget? s = some r) :
    ∃ gap core, s = gap ++ (core ++ r) ∧ IsCore core := by
  obtain ⟨gap, t, rfl, ht⟩ := target_of_firstTarget? h
  obtain ⟨core, rfl, hcore⟩ := exists_core_of_target ht
  exact ⟨gap, core, rfl, hcore⟩

theorem firstTarget?_append_of_some (h : firstTarget? s = some r) (x : List Char) :
    firstTarget? (s ++ x) = some (r ++ x) := by
  obtain ⟨gap, core, rfl, hcore⟩ := exists_core_of_firstTarget? h
  rw [(hcore.firstTarget? gap r x).1, h]
  rfl

theorem firstTarget?_append_ne_none (h : firstTarget? s ≠ none) (u : List Char) :
    firstTarget? (u ++ s) ≠ none := by
  obtain ⟨r, hr⟩ := Option.ne_none_iff_exists'.1 h
  obtain ⟨gap, core, rfl, hcore⟩ := exists_core_of_firstTarget? hr
  rw [← List.append_assoc u]
  exact (hcore.firstTarget? (u ++ gap) r []).2

theorem firstTarget?_of_append (h : firstTarget? (u ++ r) = some r) :
    firstTarget? u = some [] := by
  obtain ⟨gap, core, hu, hcore⟩ := exists_core_of_firstTarget? h
  rw [← List.append_assoc] at hu
  obtain rfl := List.append_cancel_right hu
  have hlocal := (hcore.firstTarget? gap [] r).1
  rw [List.append_nil] at hlocal
  obtain ⟨left, hleft, hnil⟩ := Option.map_eq_some_iff.1 (hlocal.symm.trans h)
  obtain rfl := List.append_left_eq_self.1 hnil
  exact hleft

theorem target_of_append (h : target (u ++ r) = some r) (x : List Char) :
    target (u ++ x) = some x := by
  obtain ⟨core, hu, hcore⟩ := exists_core_of_target h
  obtain rfl := List.append_cancel_right hu
  exact hcore.target_append x

theorem statement_append (hend : [';'] <:+ f) : (∀ x, statement (f ++ x) = none) ∨
    ∃ name rest, ∀ x, statement (f ++ x) = (firstTarget? (rest ++ x) <|>
      if 3 ≤ (consumed name rest).length then
        target (name.drop ((consumed name rest).length - 2) ++ x)
      else none) := by
  obtain ⟨hcreate, hleft⟩ := carries_createIndex f hend
  cases hname : createIndex f with
  | none =>
      left
      intro x
      rw [statement, hcreate x, hname]
      rfl
  | some name =>
      obtain ⟨hmany, -⟩ := carries_many1 (p := isIndexNameChar) (by decide) [] name
        (hleft name hname)
      cases hrest : many1 isIndexNameChar name with
      | none =>
          left
          intro x
          have hmany := hmany x
          rw [LocalAt, hrest] at hmany
          rw [statement, hcreate x, hname]
          exact congrArg (Option.bind · _) hmany
      | some rest =>
          obtain ⟨u, rfl, -⟩ := many1_eq_some.1 hrest
          refine Or.inr ⟨u ++ rest, rest, fun x => ?_⟩
          have hmany := hmany x
          rw [LocalAt, hrest] at hmany
          have hdrop : (u ++ (rest ++ x)).drop (u.length - 2) =
              (u ++ rest).drop (u.length - 2) ++ x := by
            rw [← List.append_assoc, List.drop_append_of_le_length]
            rw [List.length_append]
            omega
          rw [statement, hcreate x, hname]
          refine (congrArg (Option.bind · _) hmany).trans ?_
          dsimp only [Option.map_some, Option.bind_some]
          rw [consumed_append, List.append_assoc, consumed_append, hdrop]

/-- A statement stands for itself. With a target in the text behind it, it is read up to its own
semicolon whatever that text is replaced by: without one it may have had to give up the end of its
name. -/
theorem statement_replace (h : statement (f ++ r) = some r) :
    statement f = some [] ∧ (firstTarget? r ≠ none → ∀ x, statement (f ++ x) = some x) := by
  have hend : [';'] <:+ f := by
    obtain ⟨p, -, hp⟩ := parts_of_statement h
    obtain rfl := List.append_cancel_right hp
    exact List.suffix_append _ _
  rcases statement_append hend with hnone | ⟨name, rest, hread⟩
  · rw [hnone] at h
    exact absurd h (by simp)
  · rw [hread] at h
    cases hfirst : firstTarget? (rest ++ r) with
    | some left =>
        rw [hfirst] at h
        obtain rfl := Option.some.inj h
        have hrest := firstTarget?_of_append hfirst
        have hall (x : List Char) : statement (f ++ x) = some x := by
          rw [hread, firstTarget?_append_of_some hrest]
          rfl
        have halone := hall []
        rw [List.append_nil] at halone
        exact ⟨halone, fun _ => hall⟩
    | none =>
        refine ⟨?_, fun hr => absurd hfirst (firstTarget?_append_ne_none hr rest)⟩
        have hrest : firstTarget? rest = none := by
          cases hsome : firstTarget? rest with
          | none => rfl
          | some left =>
              rw [firstTarget?_append_of_some hsome] at hfirst
              exact absurd hfirst (by simp)
        have halone := hread []
        rw [List.append_nil, List.append_nil, hrest] at halone
        rw [halone]
        rw [hfirst] at h
        change (if _ then _ else none) = _ at h
        change (if _ then _ else none) = _
        split at h
        · rename_i hlong
          rw [if_pos hlong]
          exact target_of_append h []
        · exact absurd h (by simp)

theorem firstTarget?_of_statement (h : statement s = some r) : firstTarget? s ≠ none := by
  obtain ⟨name, hc, hname⟩ := Option.bind_eq_some_iff.1 h
  obtain ⟨rest, hn, hrest⟩ := Option.bind_eq_some_iff.1 hname
  obtain ⟨head, rfl, -⟩ := spelled_of_createIndex hc
  obtain ⟨n, gap, place, rfl, -, -, hplace⟩ := target_behind_name hn hrest
  obtain ⟨core, rfl, hcore⟩ := exists_core_of_target hplace
  rw [← List.append_assoc]
  exact (hcore.firstTarget? (head ++ (n ++ gap)) r []).2

theorem statementText_eq_some {before : Option Char} (h : statementText before s = some (u, r)) :
    s = u ++ r ∧ u ≠ [] ∧ statement s = some r := by
  obtain ⟨r', hr, hpair⟩ := Option.map_eq_some_iff.1 h
  obtain ⟨rfl, rfl⟩ := Prod.mk.inj hpair
  obtain ⟨p, -, rfl⟩ := parts_of_statement hr
  rw [consumed_append]
  exact ⟨rfl, by simp [Parts.text], hr⟩

theorem statementText_of_statement (before : Option Char) (h : statement (u ++ r) = some r) :
    statementText before (u ++ r) = some (u, r) := by
  rw [statementText, h, Option.map_some, consumed_append]

theorem consumes_statementText : Reader.Consumes statementText := by
  intro before s u r h
  obtain ⟨hs, hne, -⟩ := statementText_eq_some h
  exact ⟨u, hne, hs⟩

theorem firstTarget?_of_statements {before : Option Char}
    (h : Reader.allFrom statementText 0 before s ≠ []) : firstTarget? s ≠ none := by
  induction before, s using Reader.induct_search consumes_statementText with
  | nil before => exact absurd rfl h
  | pass before c s hnone ih =>
      rw [Reader.allFrom_cons_of_none hnone] at h
      exact firstTarget?_append_ne_none (ih h) [c]
  | behind before u s a hne hsome ih =>
      exact firstTarget?_of_statement (statementText_eq_some hsome).2.2

theorem statementText_newline (before : Option Char) (s : List Char) :
    statementText before ('\n' :: s) = none := by
  have hkeyword : keyword "CREATE" ('\n' :: s) = none := keyword_eq_none (by decide) (by
    rw [List.head?_cons]
    decide)
  have hcreate : createIndex ('\n' :: s) = none := by
    rw [Option.eq_none_iff_forall_ne_some]
    intro r hr
    obtain ⟨t, ht, -⟩ := comp_eq_some.1 hr
    exact absurd (hkeyword.symm.trans ht) (by simp)
  rw [statementText, statement, hcreate]
  rfl

theorem statements_joinLines (before before' : Option Char) (s : List Char) :
    Reader.allFrom statementText 0 before' (joinLines (Reader.allFrom statementText 0 before s)) =
      Reader.allFrom statementText 0 before s := by
  induction before, s using Reader.induct_search consumes_statementText generalizing before' with
  | nil before => rfl
  | pass before c s hnone ih =>
      rw [Reader.allFrom_cons_of_none hnone]
      exact ih before'
  | behind before u s a hne hsome ih =>
      obtain ⟨hu, -, hstatement⟩ := statementText_eq_some hsome
      obtain rfl := List.append_cancel_right hu
      obtain ⟨halone, hwith⟩ := statement_replace hstatement
      rw [Reader.allFrom_append_of_some hne hsome]
      by_cases hrest : Reader.allFrom statementText 0 u.getLast? s = []
      · have hread : statement (u ++ []) = some [] := by rw [List.append_nil, halone]
        have hfound := Reader.allFrom_append_of_some hne (statementText_of_statement before' hread)
        rw [List.append_nil] at hfound
        rw [hrest, joinLines_singleton, hfound]
        rfl
      · have hread := hwith (firstTarget?_of_statements hrest)
          ('\n' :: joinLines (Reader.allFrom statementText 0 u.getLast? s))
        rw [joinLines_cons hrest,
          Reader.allFrom_append_of_some hne (statementText_of_statement before' hread),
          Reader.allFrom_cons_of_none (statementText_newline _ _), ih]

theorem extract_extract (text : String) : extract (extract text) = extract text := by
  rw [extract, extract, String.toList_ofList]
  exact congrArg (fun ls => String.ofList (joinLines ls)) (statements_joinLines none none _)

end Sql.IndexDdl

namespace BuildOptions

open Sql.IndexDdl

variable {m : Type → Type} [Monad m]

theorem generated_extracted [LawfulMonad m] (o : BuildOptions) {files files' : Files m}
    (h : ∀ path, o.generatedFile = some path →
      files'.readSql path = extract <$> files.readSql path) :
    o.generated files' = o.generated files := by
  rw [generated, generated]
  cases hpath : o.generatedFile with
  | none => rfl
  | some path =>
      dsimp only
      rw [h path hpath, Functor.map_map]
      simp only [extract_extract]

/-- Extraction finds again what it has found. A file that holds the statements of an answer builds
what the answer itself builds. -/
theorem build_extracted [LawfulMonad m] (o : BuildOptions) (pool : Pool m) (c : Catalog m)
    (files files' : Files m) :
    (∀ text, extract (extract text) = extract text) ∧
    ((∀ path, o.generatedFile = some path →
        files'.readSql path = extract <$> files.readSql path) →
      o.build pool c files' = o.build pool c files) := by
  refine ⟨extract_extract, fun h => ?_⟩
  rw [build, build, o.generated_extracted h]

def answering (text : String) : Files Id where
  bytesOf _ := pure (.ok (Text.utf8 text.toList))
  makeFolder _ := pure (.ok ())
  put _ _ := pure (.ok ())

def answer : String := "1. CREATE INDEX A ON T (X);\nThen create index [B] on U(Y);"

def statementsOnly : String := "CREATE INDEX A ON T (X);\ncreate index [B] on U(Y);"

def answerOptions : BuildOptions where
  database := "Shop"
  allDatabases := false
  generatedFile := some "answer.sql"
  useGenerated := true
  thresholds := {}

theorem readSql_answering {text : String}
    (h : Encoding.decode? (Text.utf8 text.toList) = some text.toList) (path : String) :
    (answering text).readSql path = pure text := by
  apply ExceptT.ext
  rw [Files.readSql, answering]
  simp only [ExceptT.run_mk, pure_bind, h, String.ofList_toList, ExceptT.run_pure]

theorem build_extracted_answer : extract answer = statementsOnly ∧ statementsOnly ≠ answer ∧
    answerOptions.build .inTurn (({} : MemoryCatalog).addDatabase "Shop").toCatalog
        (answering statementsOnly) =
      answerOptions.build .inTurn (({} : MemoryCatalog).addDatabase "Shop").toCatalog
        (answering answer) := by
  have hextract : extract answer = statementsOnly := by decide +kernel
  refine ⟨hextract, by decide, (build_extracted _ _ _ _ _).2 fun path _ => ?_⟩
  rw [readSql_answering (by decide +kernel), readSql_answering (by decide +kernel), map_pure,
    hextract]

end BuildOptions

end IndexTuning
