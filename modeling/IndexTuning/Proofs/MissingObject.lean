import IndexTuning.Proofs.Deployment
import IndexTuning.Proofs.Text.Bytes

namespace IndexTuning

open Text Revision

namespace AdvisorError

/-- The longest runs of digits in a text. -/
def numbersIn (s : List Char) : List (List Char) := s.splitOnP fun c => !c.isDigit

/-- The server says of a statement that its object is missing: by the number of that error, or in
its words in capital or small letters. -/
def ReportsMissing : AdvisorError → Prop
  | statement _ _ message =>
    missingObjectCode ∈ numbersIn message.toList ∨
      "does not exist".toList <:+: message.toList.map Char.toLower
  | _ => False

/-- The digits of that error stand in a longer number, and nothing tells of a missing object. -/
def HidesNumber : AdvisorError → Prop
  | statement database sql message =>
    missingObjectCode <:+: message.toList ∧ ¬ ReportsMissing (statement database sql message)
  | _ => False

theorem HidesNumber.not_reportsMissing {e : AdvisorError} (h : e.HidesNumber) :
    ¬ e.ReportsMissing := by
  cases e with
  | statement database sql message => exact h.2
  | _ => exact h.elim

theorem isMissingObject_iff (e : AdvisorError) :
    e.isMissingObject ↔ e.ReportsMissing ∨ e.HidesNumber := by
  cases e with
  | statement database sql message =>
      have hnumber : missingObjectCode ∈ numbersIn message.toList →
          missingObjectCode <:+: message.toList := infix_of_mem_splitOnP
      rw [isMissingObject, Bool.or_eq_true, occursIn_iff (by decide),
        Needle.occursIn_text (b := "does not exist".toList) rfl]
      have hword : "does not exist".toList.map Char.toLower = "does not exist".toList := by decide
      rw [hword]
      simp only [ReportsMissing, HidesNumber]
      tauto
  | _ => exact iff_of_false (by simp [isMissingObject]) (by simp [ReportsMissing, HidesNumber])

end AdvisorError

namespace Artifact

variable {a : Artifact} {answer : History → Except AdvisorError Unit} {database : String}

def guardAlone (a : Artifact) (database : String) : History := [(database, a.guardSql)]

def guardAndCreate (a : Artifact) (database : String) : History :=
  [(database, a.guardSql), (database, a.createSql)]

/-- The result of a deployment and all that it sent. -/
def deployed (a : Artifact) (answer : History → Except AdvisorError Unit) (database : String) :
    Except AdvisorError Unit × History :=
  (a.deploy (recorder answer) database).run []

/-- A deployment passes over a guard whose object is missing, and over nothing else. -/
structure PassesOnlyMissing (a : Artifact) (answer : History → Except AdvisorError Unit)
    (database : String) : Prop where
  sends : (a.deployed answer database).2 = a.guardAlone database ∨
    (a.deployed answer database).2 = a.guardAndCreate database
  creates : (a.deployed answer database).2 = a.guardAndCreate database ↔
    answer (a.guardAlone database) = .ok () ∨
      ∃ e, answer (a.guardAlone database) = .error e ∧ e.ReportsMissing
  succeeds : (a.deployed answer database).1 = .ok () ↔
    (a.deployed answer database).2 = a.guardAndCreate database ∧
      answer (a.guardAndCreate database) = .ok ()
  returns : ∀ e, answer (a.guardAlone database) = .error e → ¬ e.ReportsMissing →
    a.deployed answer database = (.error e, a.guardAlone database)

theorem deployed_eq (a : Artifact) (answer : History → Except AdvisorError Unit)
    (database : String) : a.deployed answer database =
      if goesOn (answer (a.guardAlone database)) then
        (answer (a.guardAndCreate database), a.guardAndCreate database)
      else (answer (a.guardAlone database), a.guardAlone database) :=
  a.run_deploy answer database

theorem guardAlone_ne (a : Artifact) (database : String) :
    a.guardAlone database ≠ a.guardAndCreate database := by
  simp [guardAlone, guardAndCreate]

theorem passesOnlyMissing_of_passed (hgo : goesOn (answer (a.guardAlone database)))
    (h : answer (a.guardAlone database) = .ok () ∨
      ∃ e, answer (a.guardAlone database) = .error e ∧ e.ReportsMissing) :
    a.PassesOnlyMissing answer database := by
  have hd := deployed_eq a answer database
  rw [if_pos hgo] at hd
  refine ⟨?_, ?_, ?_, ?_⟩
  · rw [hd]
    exact Or.inr rfl
  · rw [hd]
    exact iff_of_true rfl h
  · rw [hd]
    exact (and_iff_right rfl).symm
  · intro e he hm
    rcases h with hok | ⟨e', he', hm'⟩
    · rw [he] at hok
      exact absurd hok (by simp)
    · rw [he] at he'
      obtain rfl := Except.error.inj he'
      exact absurd hm' hm

theorem passesOnlyMissing_of_returned {e : AdvisorError}
    (he : answer (a.guardAlone database) = .error e) (hgo : e.isMissingObject = false)
    (hm : ¬ e.ReportsMissing) : a.PassesOnlyMissing answer database := by
  have hd := deployed_eq a answer database
  rw [he, goesOn, if_neg (by simp [hgo])] at hd
  refine ⟨?_, ?_, ?_, ?_⟩
  · rw [hd]
    exact Or.inl rfl
  · rw [hd, he]
    refine iff_of_false (guardAlone_ne a database) ?_
    rintro (hok | ⟨e', he', hm'⟩)
    · exact absurd hok (by simp)
    · obtain rfl := Except.error.inj he'
      exact hm hm'
  · rw [hd]
    exact iff_of_false (by simp) fun h => guardAlone_ne a database h.1
  · intro e' he' _
    rw [he] at he'
    obtain rfl := Except.error.inj he'
    exact hd

/-- A deployment goes as it should exactly when the guard does not fail with a message that has the
digits of the error for a missing object in a longer number only. -/
theorem deploy_passesOnlyMissing_iff (a : Artifact) (answer : History → Except AdvisorError Unit)
    (database : String) : a.PassesOnlyMissing answer database ↔
      ∀ e, answer (a.guardAlone database) = .error e → ¬ e.HidesNumber := by
  constructor
  · intro h e he hhides
    have hgo : goesOn (answer (a.guardAlone database)) := by
      rw [he]
      exact e.isMissingObject_iff.2 (Or.inr hhides)
    have hsent := congrArg Prod.snd (deployed_eq a answer database)
    rw [if_pos hgo] at hsent
    rcases h.creates.1 hsent with hok | ⟨e', he', hm⟩
    · rw [he] at hok
      exact absurd hok (by simp)
    · rw [he] at he'
      obtain rfl := Except.error.inj he'
      exact hhides.not_reportsMissing hm
  · intro h
    cases hanswer : answer (a.guardAlone database) with
    | ok _ =>
        refine passesOnlyMissing_of_passed ?_ (Or.inl hanswer)
        rw [hanswer]
        rfl
    | error e =>
        by_cases hm : e.ReportsMissing
        · refine passesOnlyMissing_of_passed ?_ (Or.inr ⟨e, hanswer, hm⟩)
          rw [hanswer]
          exact e.isMissingObject_iff.2 (Or.inl hm)
        · have hmissing := not_congr e.isMissingObject_iff
          rw [not_or] at hmissing
          refine passesOnlyMissing_of_returned hanswer ?_ hm
          exact Bool.eq_false_iff.2 (hmissing.2 ⟨hm, h e hanswer⟩)

def lockTimeout : AdvisorError :=
  .statement "Sales" dropGuard "Lock request time out period exceeded on object 1937012."

def refusing (e : AdvisorError) : History → Except AdvisorError Unit
  | [_] => .error e
  | _ => .ok ()

/-- A lock that was not granted counts as a missing procedure, and the deployment goes on. -/
theorem deploy_lockTimeout :
    let a := ofCombined "ALTER INDEX [IX] ON [S].[dbo].[T] REBUILD;"
    a.deployed (refusing lockTimeout) "Sales" = (.ok (), a.guardAndCreate "Sales") ∧
      ¬ lockTimeout.ReportsMissing ∧ ¬ a.PassesOnlyMissing (refusing lockTimeout) "Sales" := by
  intro a
  have hreports : ¬ lockTimeout.ReportsMissing := by
    rintro (h | h)
    · exact absurd h (by decide +kernel)
    · exact absurd h (by decide +kernel)
  refine ⟨rfl, hreports, fun h => ?_⟩
  rcases h.creates.1 rfl with hok | ⟨e, he, hm⟩
  · exact absurd hok (by simp [guardAlone, refusing])
  · obtain rfl := Except.error.inj he
    exact hreports hm

end Artifact

end IndexTuning
