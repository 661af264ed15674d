import IndexTuning.Program
import IndexTuning.Proofs.Answer.Cleaning
import IndexTuning.Proofs.Text.Bytes

namespace IndexTuning

namespace Program

variable {m : Type → Type} [Monad m]

/-- What the command that saves a revision does with the text that `read` gives. -/
def saveText (host : Host m) (procedure : String) (read : ExceptT AdvisorError m String)
    (force : Bool) (out : Option String) (threshold : Float) : Run m Unit := do
  let (client, database) ← connect host
  let (schema, name) := Sql.Procedure.splitQualified procedure
  let current ← attempt (Context.definitionOf client.toCatalog database schema name)
  let text ← attempt read
  let now ← ExceptT.lift host.now
  let outcome ← attempt (Revision.save client.toExecutor (out.map host.files.folderSink) database
    current text ⟨threshold, force⟩ now)
  reportRevision host threshold outcome

theorem attempt_map [LawfulMonad m] {α β : Type} (f : α → β) (x : ExceptT AdvisorError m α) :
    attempt (f <$> x) = f <$> attempt x := by
  apply ExceptT.ext
  rw [ExceptT.run_map]
  change Except.mapError Failure.advisor <$> (f <$> x).run =
    Except.map f <$> Except.mapError Failure.advisor <$> x.run
  rw [ExceptT.run_map, Functor.map_map, Functor.map_map]
  refine congrArg (· <$> x.run) (funext fun result => ?_)
  cases result <;> rfl

theorem saveRevision_eq [LawfulMonad m] (host : Host m) (procedure revised : String) (force : Bool)
    (out : Option String) (threshold : Float) :
    saveRevision host procedure revised force out threshold =
      saveText host procedure (Answer.procedure <$> host.files.readSql revised) force out
        threshold := by
  simp only [saveRevision, saveText, attempt_map, bind_map_left]

end Program

namespace Answer

open Sql.Procedure Text

variable {p s t : List Char} {preamble text : String}

/-- An answer that marks its procedure as the prompt asks for. -/
def marked (preamble p : String) : String :=
  preamble ++ startMarker ++ "\n" ++ p ++ "\n" ++ endMarker

theorem toList_marked (preamble p : String) : (marked preamble p).toList =
    preamble.toList ++ (startMarker.toList ++ '\n' :: (p.toList ++ '\n' :: endMarker.toList)) := by
  simp [marked]

/-- The end of the preamble and the beginning of the marker make a marker. -/
def LeadsIn (preamble : String) : Prop :=
  startNeedle.occursIn (preamble.toList ++ startMarker.toList.dropLast)

def rule : List Char := "===".toList

def upToRule (s : List Char) : List Char := ((cutAt? rule s).map Prod.fst).getD s

theorem upToRule_append (h : ¬ rule <:+: s ++ rule.dropLast) : upToRule (s ++ (rule ++ t)) = s := by
  rw [upToRule, cutAt?_append (by decide) h]
  rfl

theorem upToRule_of_absent (h : ¬ rule <:+: s) : upToRule s = s := by
  rw [upToRule, cutAt?_eq_none (by decide) h]
  rfl

theorem sectionAfter?_append {needle : Needle} {n : Nat} (hfind : needle.find? (s ++ t) = some n)
    (hn : n + needle.bytes.length = (utf8 s).length) :
    sectionAfter? needle (s ++ t) = some (trim (upToRule t)) := by
  rw [sectionAfter?, hfind]
  dsimp only [Option.bind_eq_bind, Option.bind_some]
  rw [hn, dropBytes?_append, Option.bind_some, upToRule, rule]
  cases cutAt? "===".toList t with
  | none => rfl
  | some cut => rfl

theorem not_rule_append (h : ¬ rule <:+: s) (ht : ¬ rule <:+: t) : ¬ rule <:+: s ++ '\n' :: t :=
  fun hi => (infix_of_infix_append_cons (by decide) hi).elim h ht

theorem upToRule_body (p : List Char) :
    trim (upToRule ('\n' :: (p ++ '\n' :: endMarker.toList))) = trim (upToRule p) := by
  by_cases h : rule <:+: p
  · obtain ⟨a, b, rfl, ha⟩ := exists_first_place (by decide) h
    have hbefore : ¬ rule <:+: [] ++ '\n' :: (a ++ rule.dropLast) := not_rule_append (by decide) ha
    have htext : '\n' :: (a ++ (rule ++ b) ++ '\n' :: endMarker.toList) =
        ('\n' :: a) ++ (rule ++ (b ++ '\n' :: endMarker.toList)) := by simp
    rw [htext, upToRule_append hbefore, upToRule_append ha]
    have hblank := trim_between (s := a) (v := []) forall_blank_newline (by simp)
    rwa [List.append_nil] at hblank
  · have hbefore : ¬ rule <:+: [] ++ '\n' :: (p ++ '\n' :: rule.dropLast) :=
      not_rule_append (by decide) (not_rule_append h (by decide))
    have htext : '\n' :: (p ++ '\n' :: endMarker.toList) =
        ('\n' :: (p ++ ['\n'])) ++ (rule ++ " END SP_OPTIMIZED ===".toList) := by
      simp [rule, endMarker]
    rw [htext, upToRule_append (by simpa using hbefore), upToRule_of_absent h]
    exact trim_between forall_blank_newline forall_blank_newline

def markerBytes : List UInt8 := startNeedle.bytes.map lowerByte

theorem leadsIn_iff : LeadsIn preamble ↔
    markerBytes <:+: (utf8 preamble.toList).map lowerByte ++ markerBytes.dropLast := by
  have hmarker : (utf8 startMarker.toList.dropLast).map lowerByte = markerBytes.dropLast := by
    decide
  rw [LeadsIn, Needle.occursIn_iff, utf8_append, List.map_append, hmarker, markerBytes]

theorem sectionAfter?_marked (h : ¬ LeadsIn preamble) (p : String) :
    sectionAfter? startNeedle (marked preamble p).toList = some (trim (upToRule p.toList)) := by
  have hbytes : utf8 startMarker.toList = startNeedle.bytes := rfl
  rw [toList_marked, ← upToRule_body, ← List.append_assoc]
  apply sectionAfter?_append (n := (utf8 preamble.toList).length)
  · rw [Needle.find?, List.append_assoc, utf8_append]
    apply findBytes?_append startNeedle.bytes_ne_nil _ (leadsIn_iff.not.1 h)
    rw [utf8_append, hbytes, List.map_append]
    exact List.prefix_append _ _
  · rw [utf8_append, List.length_append, hbytes]

/-- The procedure in a marked answer is the text between the markers up to the first run of three
equals signs. -/
theorem procedure_marked (h : ¬ LeadsIn preamble) (p : String) :
    procedure (marked preamble p) = cleaned (String.ofList (upToRule p.toList)) := by
  rw [procedure, sectionAfter?_marked h, Option.getD_some, clean_trim, cleaned, String.toList_ofList]

/-- A marker that begins in another one shares with it equal signs only. -/
theorem border_marker {y z : List UInt8} (h : markerBytes = y ++ z) (hy : y ≠ []) (hz : z ≠ [])
    (hp : z <+: markerBytes) : y.length = 17 ∨ y.length = 18 ∨ y.length = 19 := by
  have hall : ∀ n < 20, n ≠ 0 → markerBytes.drop n <+: markerBytes → 17 ≤ n := by decide +kernel
  have hlength := congrArg List.length h
  rw [List.length_append, show markerBytes.length = 20 by decide] at hlength
  have hypos := List.length_pos_iff.2 hy
  have hzpos := List.length_pos_iff.2 hz
  have hdrop : markerBytes.drop y.length = z := by rw [h, List.drop_left]
  have := hall y.length (by omega) (by omega) (hdrop ▸ hp)
  omega

theorem sectionAfter?_of_leadsIn (hpre : startNeedle.occursIn preamble.toList = false)
    (h : LeadsIn preamble) (p : String) : ∃ b, b <:+: startMarker.toList ∧
      sectionAfter? startNeedle (marked preamble p).toList = some (trim b) := by
  have hx : ¬ markerBytes <:+: (utf8 preamble.toList).map lowerByte := by
    intro hi
    exact absurd ((Needle.occursIn_iff startNeedle _).2 hi) (by simp [hpre])
  have hbytes : utf8 startMarker.toList = startNeedle.bytes := rfl
  obtain ⟨r, hr⟩ : ∃ r, '\n' :: (p.toList ++ '\n' :: endMarker.toList) = r := ⟨_, rfl⟩
  have htext : (utf8 (marked preamble p).toList).map lowerByte =
      (utf8 preamble.toList).map lowerByte ++ (markerBytes ++ (utf8 r).map lowerByte) := by
    rw [toList_marked, hr, utf8_append, utf8_append, hbytes, List.map_append, List.map_append]
    rfl
  obtain ⟨u, v, huv, hfind, hv, hu⟩ := exists_findBytes? startNeedle.bytes_ne_nil
    (s := utf8 (marked preamble p).toList) (by
      rw [htext]
      exact ⟨_, _, by rw [List.append_assoc]; rfl⟩)
  rw [huv, List.map_append] at htext
  obtain ⟨y, z, hxy, hyz, hy, hz, hp⟩ := exists_border htext hv hu (leadsIn_iff.1 h) hx
  have hlength : u.length + y.length = (utf8 preamble.toList).length := by
    have := congrArg List.length hxy
    simpa using this.symm
  have hsplit {m b : List Char} (hm : startMarker.toList = m ++ (b ++ rule))
      (hn : (utf8 m).length + y.length = 20) (hb : ¬ rule <:+: b ++ rule.dropLast) :
      sectionAfter? startNeedle (marked preamble p).toList = some (trim b) := by
    have hmarked : (marked preamble p).toList =
        (preamble.toList ++ m) ++ (b ++ (rule ++ r)) := by
      rw [toList_marked, hr, hm]
      simp only [List.append_assoc]
    have hn' : u.length + startNeedle.bytes.length = (utf8 (preamble.toList ++ m)).length := by
      rw [utf8_append, List.length_append, ← hlength, show startNeedle.bytes.length = 20 by decide]
      omega
    rw [hmarked] at hfind ⊢
    rw [sectionAfter?_append hfind hn', upToRule_append hb]
  rcases border_marker hyz hy hz hp with h17 | h18 | h19
  · exact ⟨" SP_OPTIMIZED ".toList, by decide +kernel,
      hsplit (m := "===".toList) (by decide +kernel) (by rw [h17]; decide +kernel) (by decide +kernel)⟩
  · exact ⟨"= SP_OPTIMIZED ".toList, by decide +kernel,
      hsplit (m := "==".toList) (by decide +kernel) (by rw [h18]; decide +kernel) (by decide +kernel)⟩
  · exact ⟨"== SP_OPTIMIZED ".toList, by decide +kernel,
      hsplit (m := "=".toList) (by decide +kernel) (by rw [h19]; decide +kernel) (by decide +kernel)⟩

theorem IsPlain.clean_upToRule_ne (h : IsPlain p) (hr : rule <:+: p) :
    clean (upToRule p) ≠ clean p := by
  obtain ⟨a, b, rfl, ha⟩ := exists_first_place (by decide) hr
  intro heq
  have hkept : IsKept '=' := ⟨by decide, by decide, by decide⟩
  have hcount := h.count_clean hkept
  rw [← heq, upToRule_append ha, List.count_append, List.count_append,
    show rule.count '=' = 3 by decide] at hcount
  have hle := (clean_sublist a).count_le '='
  omega

theorem IsPlain.exists_mem_clean (h : IsPlain p) : ∃ c ∈ clean p, fold c = 'c' := by
  obtain ⟨k, r, rfl, hk, -⟩ := h.begins
  obtain ⟨c, k, rfl, hc⟩ := hk.begins
  have hl := isLatinLetter_of_fold hc (by decide)
  have hdot : c ≠ '.' := by
    rintro rfl
    exact absurd hc (by decide)
  have hcount := h.count_clean
    ⟨isBlank_of_isLatinLetter hl, isDecimalDigit_of_isLatinLetter hl, hdot⟩
  refine ⟨c, List.count_pos_iff.1 ?_, hc⟩
  rw [hcount]
  exact List.count_pos_iff.2 List.mem_cons_self

/-- The text between the markers arrives whole, where a revision is suggested and where a file with
one is saved. `act` is what the generator does before it answers, or the reading of the file. -/
structure IsReadWhole (preamble p : String) : Prop where
  suggested : ∀ {m : Type → Type} [Monad m] [LawfulMonad m] (g : Generator m) (x : Context)
    (act : ExceptT AdvisorError m Unit),
    g.generate x.revisionPrompt = (fun _ => marked preamble p) <$> act →
      x.suggestRevision g = (fun _ => cleaned p) <$> act
  saved : ∀ {m : Type → Type} [Monad m] [LawfulMonad m] (host : Host m) (name file : String)
    (act : ExceptT AdvisorError m Unit) (force : Bool) (out : Option String) (threshold : Float),
    host.files.readSql file = (fun _ => marked preamble p) <$> act →
      Program.saveRevision host name file force out threshold =
        Program.saveText host name ((fun _ => cleaned p) <$> act) force out threshold

theorem isReadWhole_iff : IsReadWhole preamble text ↔
    procedure (marked preamble text) = cleaned text := by
  constructor
  · intro h
    have hpure := h.suggested (m := Id) ⟨fun _ => pure (marked preamble text)⟩
      ⟨"", "", [], [], [], []⟩ (pure ()) rfl
    exact Except.ok.inj hpure
  · intro h
    have hmap {m : Type → Type} [Monad m] [LawfulMonad m] (act : ExceptT AdvisorError m Unit) :
        procedure <$> (fun _ => marked preamble text) <$> act = (fun _ => cleaned text) <$> act := by
      rw [Functor.map_map, h]
    refine ⟨fun g x act hg => ?_, fun host name file act force out threshold hread => ?_⟩
    · rw [Context.suggestRevision, hg, hmap]
    · rw [Program.saveRevision_eq, hread, hmap]

/-- A marked section without a run of three equals signs in it is read whole behind every preamble
that does not lead into the marker, and a plain procedure only so. -/
theorem marked_isReadWhole (hpre : startNeedle.occursIn preamble.toList = false) :
    (¬ LeadsIn preamble → ¬ rule <:+: text.toList → IsReadWhole preamble text) ∧
    (IsPlain text.toList → IsReadWhole preamble text →
      ¬ LeadsIn preamble ∧ ¬ rule <:+: text.toList) := by
  constructor
  · intro hlead hrule
    rw [isReadWhole_iff, procedure_marked hlead, upToRule_of_absent hrule, String.ofList_toList]
  · intro hplain hread
    rw [isReadWhole_iff] at hread
    have hlead : ¬ LeadsIn preamble := by
      intro hlead
      obtain ⟨b, hb, hsection⟩ := sectionAfter?_of_leadsIn hpre hlead text
      rw [procedure, hsection, Option.getD_some, cleaned, String.ofList_inj] at hread
      obtain ⟨c, hc, hfold⟩ := hplain.exists_mem_clean
      rw [← hread] at hc
      have hmem := hb.subset ((trim_isInfix b).subset ((clean_sublist _).subset hc))
      have hnot : 'c' ∉ startMarker.toList.map fold := by decide +kernel
      exact hnot (List.mem_map.2 ⟨c, hmem, hfold⟩)
    refine ⟨hlead, fun hrule => hplain.clean_upToRule_ne hrule ?_⟩
    rw [procedure_marked hlead, cleaned, cleaned, String.ofList_inj, String.toList_ofList] at hread
    exact hread

theorem isReadWhole_plain : IsPlain "CREATE PROCEDURE p AS\nSELECT 1".toList ∧
    IsReadWhole "Here it is:\n" "CREATE PROCEDURE p AS\nSELECT 1" := by
  have hplain : IsPlain "CREATE PROCEDURE p AS\nSELECT 1".toList :=
    ⟨⟨_, " p AS\nSELECT 1".toList, by decide +kernel, isKeywords_createProcedure, by decide,
      by decide +kernel⟩, by decide +kernel, by decide +kernel⟩
  have hpre : startNeedle.occursIn "Here it is:\n".toList = false := by decide +kernel
  refine ⟨hplain, (marked_isReadWhole hpre).1 ?_ ?_⟩
  · rw [LeadsIn]
    decide +kernel
  · decide +kernel

def banner : String := "CREATE PROCEDURE p AS\n-- ==== totals ====\nSELECT 1"

/-- A comment with a line drawn in it ends the section. -/
theorem not_isReadWhole_banner : startNeedle.occursIn "Here it is:\n".toList = false ∧
    startNeedle.occursIn banner.toList = false ∧ cleaned banner = banner ∧
    procedure (marked "Here it is:\n" banner) = "CREATE PROCEDURE p AS\n--" ∧
    ¬ IsReadWhole "Here it is:\n" banner := by
  have hcut : procedure (marked "Here it is:\n" banner) = "CREATE PROCEDURE p AS\n--" := by
    decide +kernel
  have hclean : cleaned banner = banner := by decide +kernel
  refine ⟨by decide +kernel, by decide +kernel, hclean, hcut, ?_⟩
  rw [isReadWhole_iff, hcut, hclean]
  decide

end Answer

end IndexTuning
