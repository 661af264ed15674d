import IndexTuning.Proofs.Revision

namespace IndexTuning.Revision

open Sql Sql.Procedure

inductive Request
  | send (database sql : String)
  | write (name text : String)
  deriving DecidableEq, Repr

abbrev Trace := List Request

/-- An executor and, if files are wanted, a sink. What they answer to a request may depend on all
that they were asked before. -/
structure Surroundings where
  execute : Trace → Except AdvisorError Unit
  store : Option (Trace → Except AdvisorError String)

def ask {α : Type} (answer : Trace → Except AdvisorError α) (r : Request) :
    ExceptT AdvisorError (StateM Trace) α :=
  ExceptT.mk fun asked => (answer (asked ++ [r]), asked ++ [r])

namespace Surroundings

def executor (w : Surroundings) : Executor (StateM Trace) where
  execute database sql := ask w.execute (.send database sql)

def sink (w : Surroundings) : Option (Sink (StateM Trace)) :=
  w.store.map fun answer => ⟨fun name text => ask answer (.write name text)⟩

def cleared (w : Surroundings) (database sql : String) : Except AdvisorError Unit :=
  match dropGuard? sql with
  | some guard => settle (w.execute [.send database guard])
  | none => .ok ()

def stored (w : Surroundings) (t : Trace) : Except AdvisorError (Option String) :=
  match w.store with
  | some answer => (answer t).map some
  | none => .ok none

def writes (w : Surroundings) (name text : String) : Trace :=
  if w.store.isSome then [.write name text] else []

end Surroundings

def guards (database sql : String) : Trace := ((dropGuard? sql).map (.send database)).toList

def creation (database sql : String) : Trace := guards database sql ++ [.send database sql]

structure Proposal where
  database : String
  current : String
  revised : String
  options : Options
  now : Timestamp

namespace Proposal

def verdict (p : Proposal) : Similarity.Verdict :=
  Similarity.compare p.current p.revised p.options.threshold

/-- The result of a run and all that it asked for on the way. -/
def run (p : Proposal) (w : Surroundings) : Except AdvisorError Outcome × Trace :=
  (save w.executor w.sink p.database p.current p.revised p.options p.now).run []

def requests (p : Proposal) (w : Surroundings) (sql name : String) : Trace :=
  creation p.database sql ++ w.writes (name ++ ".sql") sql

def IsUnchanged (p : Proposal) : Prop :=
  Text.lowercase (Text.trim p.current.toList) = Text.lowercase (Text.trim p.revised.toList)

/-- The revision changes nothing, changes too much, or creates no procedure. -/
def IsHeld (p : Proposal) : Prop :=
  p.IsUnchanged ∨ (p.verdict.isSimilar = false ∧ p.options.force = false) ∨ name? p.revised = none

end Proposal

variable {database sql name revised guard : String} {w : Surroundings} {t : Trace}
  {verdict : Similarity.Verdict} {now : Timestamp} {p : Proposal}

theorem run_ask {α : Type} (answer : Trace → Except AdvisorError α) (r : Request) :
    (ask answer r).run t = (answer (t ++ [r]), t ++ [r]) := rfl

theorem run_send : (w.executor.execute database sql).run t =
    (w.execute (t ++ [.send database sql]), t ++ [.send database sql]) := rfl

theorem run_dropEarlier : (dropEarlier w.executor database sql).run [] =
    (w.cleared database sql, guards database sql) := by
  rw [dropEarlier, guards, Surroundings.cleared]
  cases dropGuard? sql with
  | none => rfl
  | some guard => exact run_drop run_send

theorem run_storeIn : (storeIn w.sink name sql).run t =
    (w.stored (t ++ w.writes (name ++ ".sql") sql), t ++ w.writes (name ++ ".sql") sql) := by
  rw [Surroundings.sink, Surroundings.stored, Surroundings.writes]
  cases w.store with
  | none =>
      rw [Option.isSome_none, if_neg (by decide), List.append_nil]
      rfl
  | some answer =>
      rw [Option.isSome_some, if_pos rfl, Option.map_some, storeIn, map_eq_pure_bind, run_bind]
      dsimp only
      rw [run_ask]
      cases answer (t ++ [.write (name ++ ".sql") sql]) <;> rfl

theorem run_creation : (do
      w.executor.execute database sql
      let path ← storeIn w.sink name sql
      return Outcome.saved name verdict path : ExceptT AdvisorError (StateM Trace) _).run t =
    match w.execute (t ++ [.send database sql]) with
    | .ok () =>
      let whole := t ++ [.send database sql] ++ w.writes (name ++ ".sql") sql
      ((w.stored whole).map (Outcome.saved name verdict), whole)
    | .error e => (.error e, t ++ [.send database sql]) := by
  rw [run_bind, run_send]
  cases w.execute (t ++ [.send database sql]) with
  | error e => rfl
  | ok a =>
      dsimp only
      rw [run_bind, run_storeIn]
      cases w.stored (t ++ [.send database sql] ++ w.writes (name ++ ".sql") sql) <;> rfl

theorem rename?_eq_none_iff : rename? revised now = none ↔ name? revised = none := by
  rw [rename?, name?]
  cases header? revised.toList with
  | none => exact iff_of_true rfl rfl
  | some h =>
      rw [Option.bind_eq_bind, Option.bind_some, Option.bind_some]
      cases Name.ofParts? (nameParts h.name) with
      | none => exact iff_of_true rfl rfl
      | some n => exact iff_of_false (Option.some_ne_none _) (Option.some_ne_none _)

theorem refusal?_eq_none_iff : refusal? p.current p.revised p.verdict p.options.force = none ↔
    ¬ p.IsUnchanged ∧ ¬ (p.verdict.isSimilar = false ∧ p.options.force = false) := by
  rw [refusal?, Similarity.review, Proposal.IsUnchanged]
  by_cases hsame : Text.lowercase (Text.trim p.current.toList) =
      Text.lowercase (Text.trim p.revised.toList)
  · simp [hsame]
  · cases hs : p.verdict.isSimilar <;> cases hf : p.options.force <;> simp [hsame]

theorem Proposal.run_refused {outcome : Outcome}
    (h : refusal? p.current p.revised p.verdict p.options.force = some outcome) :
    p.run w = (.ok outcome, []) := by
  rw [Proposal.verdict] at h
  simp only [Proposal.run, save, h]
  rfl

theorem Proposal.run_passed (h : refusal? p.current p.revised p.verdict p.options.force = none) :
    p.run w = (create w.executor w.sink p.database p.revised p.verdict p.now).run [] := by
  rw [Proposal.verdict] at h
  simp only [Proposal.run, save, h, Proposal.verdict]

theorem Proposal.run_held (h : p.IsHeld) : (p.run w).2 = [] := by
  cases hr : refusal? p.current p.revised p.verdict p.options.force with
  | some outcome => rw [run_refused hr]
  | none =>
      obtain ⟨hchanged, hsimilar⟩ := refusal?_eq_none_iff.1 hr
      have hname := (h.resolve_left hchanged).resolve_left hsimilar
      have hrename : Procedure.rename p.revised p.now = .error (.noProcedureName
          (String.ofList (p.revised.toList.take snippetLength))) := by
        rw [Procedure.rename, rename?_eq_none_iff.2 hname]
      rw [run_passed hr, create, hrename]
      rfl

theorem Proposal.run_unchanged (h : p.IsUnchanged) :
    (p.run w).1 = .ok (.unchanged p.verdict) := by
  have hreview : Similarity.review p.current p.revised p.verdict = .unchanged := if_pos h
  have hr : refusal? p.current p.revised p.verdict p.options.force =
      some (.unchanged p.verdict) := by
    rw [refusal?, hreview]
  rw [run_refused hr]

theorem Proposal.isSimilar_iff : p.verdict.isSimilar = true ↔
    p.options.threshold ≤ Similarity.ratio p.current p.revised := decide_eq_true_iff

theorem Proposal.run_rejected (hchanged : ¬ p.IsUnchanged)
    (hlow : ¬ p.options.threshold ≤ Similarity.ratio p.current p.revised)
    (hforce : p.options.force = false) : p.run w = (.ok (.rejected p.verdict), []) := by
  have hsimilar : ¬ p.verdict.isSimilar = true := mt isSimilar_iff.1 hlow
  have hreview : Similarity.review p.current p.revised p.verdict = .tooDifferent :=
    (if_neg hchanged).trans (if_neg hsimilar)
  apply run_refused
  rw [refusal?, hreview, hforce]
  rfl

/-- Without force nothing is asked for unless the ratio reaches the threshold. -/
theorem Proposal.reaches_of_asked (h : (p.run w).2 ≠ []) :
    p.options.threshold ≤ Similarity.ratio p.current p.revised ∨ p.options.force = true := by
  by_contra hnot
  obtain ⟨hlow, hforce⟩ := not_or.1 hnot
  rw [Bool.not_eq_true] at hforce
  by_cases hsame : p.IsUnchanged
  · exact h (run_held (Or.inl hsame))
  · exact h (congrArg Prod.snd (run_rejected hsame hlow hforce))

theorem Proposal.run_eq (h : ¬ p.IsHeld) (hr : rename? p.revised p.now = some (sql, name)) :
    p.run w =
      match w.cleared p.database sql with
      | .error e => (.error e, guards p.database sql)
      | .ok () =>
        match w.execute (creation p.database sql) with
        | .error e => (.error e, creation p.database sql)
        | .ok () =>
          ((w.stored (p.requests w sql name)).map (Outcome.saved name p.verdict),
            p.requests w sql name) := by
  rw [IsHeld, not_or, not_or] at h
  rw [run_passed (refusal?_eq_none_iff.2 ⟨h.1, h.2.1⟩), run_create hr, run_bind, run_dropEarlier]
  cases w.cleared p.database sql with
  | error e => rfl
  | ok a =>
      dsimp only
      rw [run_creation, requests, creation]
      cases w.execute (guards p.database sql ++ [.send p.database sql]) <;> rfl

theorem Proposal.run_created (h : ¬ p.IsHeld) (hr : rename? p.revised p.now = some (sql, name))
    (hc : w.cleared p.database sql = .ok ())
    (ha : w.execute (creation p.database sql) = .ok ()) :
    p.run w = ((w.stored (p.requests w sql name)).map (Outcome.saved name p.verdict),
      p.requests w sql name) := by
  rw [run_eq h hr, hc, ha]

/-- Nothing stands in the way of a revision: the guard succeeds or finds nothing to drop. -/
def Surroundings.Clears (w : Surroundings) (database sql : String) : Prop :=
  ∀ guard e, dropGuard? sql = some guard → w.execute [.send database guard] = .error e →
    e.isMissingObject

theorem Surroundings.Clears.cleared_eq (h : w.Clears database sql) :
    w.cleared database sql = .ok () := by
  rw [cleared]
  cases hg : dropGuard? sql with
  | none => rfl
  | some guard =>
      dsimp only
      cases he : w.execute [.send database guard] with
      | ok a => rfl
      | error e => exact if_pos (h guard e hg he)

theorem Surroundings.cleared_eq_error {e : AdvisorError} (hg : dropGuard? sql = some guard)
    (he : w.execute [.send database guard] = .error e) (hm : e.isMissingObject = false) :
    w.cleared database sql = .error e := by
  rw [cleared, hg]
  dsimp only
  rw [he]
  exact if_neg (by simp [goesOn, hm])

theorem Surroundings.writes_isPrefix (w : Surroundings) (name text : String) :
    w.writes name text <+: [.write name text] := by
  rw [writes]
  split
  · exact List.prefix_rfl
  · exact List.nil_prefix

/-- What a run does that is not held: its requests stand in their order, it ends at the first that
fails, and it saves the revision exactly if it comes to the end. -/
structure Proposal.Proceeds (p : Proposal) (w : Surroundings) (sql name : String) : Prop where
  ordered : (p.run w).2 <+: creation p.database sql ++ [.write (name ++ ".sql") sql]
  blocked : ∀ guard e, dropGuard? sql = some guard → w.execute [.send p.database guard] = .error e →
    e.isMissingObject = false → p.run w = (.error e, [.send p.database guard])
  failed : w.Clears p.database sql → ∀ e, w.execute (creation p.database sql) = .error e →
    p.run w = (.error e, creation p.database sql)
  created : w.Clears p.database sql → w.execute (creation p.database sql) = .ok () →
    (p.run w).2 = p.requests w sql name
  saved : w.Clears p.database sql → w.execute (creation p.database sql) = .ok () → ∀ path,
    (p.run w).1 = .ok (.saved name p.verdict path) ↔ w.stored (p.requests w sql name) = .ok path
  unwritten : w.Clears p.database sql → w.execute (creation p.database sql) = .ok () → ∀ e,
    (p.run w).1 = .error e ↔ w.stored (p.requests w sql name) = .error e

theorem Proposal.proceeds (h : ¬ p.IsHeld) (hr : rename? p.revised p.now = some (sql, name)) :
    p.Proceeds w sql name where
  ordered := by
    rw [run_eq h hr]
    have hguards : guards p.database sql <+: creation p.database sql := List.prefix_append _ _
    have hcreation : creation p.database sql <+:
        creation p.database sql ++ [.write (name ++ ".sql") sql] := List.prefix_append _ _
    cases w.cleared p.database sql with
    | error e => exact hguards.trans hcreation
    | ok a =>
        dsimp only
        cases w.execute (creation p.database sql) with
        | error e => exact hcreation
        | ok a => exact (List.prefix_append_right_inj _).2 (w.writes_isPrefix _ _)
  blocked guard e hg he hm := by
    rw [run_eq h hr, Surroundings.cleared_eq_error hg he hm, guards, hg]
    rfl
  failed hc e he := by
    rw [run_eq h hr, hc.cleared_eq, he]
  created hc ha := by rw [run_created h hr hc.cleared_eq ha]
  saved hc ha path := by
    rw [run_created h hr hc.cleared_eq ha]
    cases w.stored (p.requests w sql name) <;> simp [Except.map]
  unwritten hc ha e := by
    rw [run_created h hr hc.cleared_eq ha]
    cases w.stored (p.requests w sql name) <;> simp [Except.map]

/-- A held run asks for nothing, and an unchanged revision is held whatever is forced. Any other run
proceeds. -/
theorem save_effects (p : Proposal) (w : Surroundings) :
    (p.IsHeld → (p.run w).2 = []) ∧
    (p.IsUnchanged → (p.run w).1 = .ok (.unchanged p.verdict)) ∧
    (¬ p.IsHeld → ∃ sql name, rename? p.revised p.now = some (sql, name) ∧
      p.Proceeds w sql name) := by
  refine ⟨Proposal.run_held, Proposal.run_unchanged, fun h => ?_⟩
  cases hr : rename? p.revised p.now with
  | none => exact absurd (Or.inr (Or.inr (rename?_eq_none_iff.1 hr))) h
  | some renamed => exact ⟨renamed.1, renamed.2, rfl, Proposal.proceeds h hr⟩

def salesProposal (current : String) (force : Bool) : Proposal :=
  ⟨"Live", current, "CREATE PROCEDURE dbo.Sales AS SELECT 1", ⟨0, force⟩, ⟨2024, 1, 2, 3, 4, 5⟩⟩

def lockedFolder : Surroundings where
  execute t :=
    if t.length = 1 then .error (.statement "Live" "" "The procedure does not exist.") else .ok ()
  store := some fun _ => .error (.unwritableFile "out" .notFolder)

theorem save_effects_lockedFolder :
    (salesProposal "CREATE PROCEDURE dbo.Sales AS SELECT 1" true).IsUnchanged ∧
    ((salesProposal "CREATE PROCEDURE dbo.Sales AS SELECT 1" true).run lockedFolder).2 = [] ∧
    ¬ (salesProposal "" false).IsHeld ∧
    ((salesProposal "" false).run lockedFolder).1 = .error (.unwritableFile "out" .notFolder) ∧
    ((salesProposal "" false).run lockedFolder).2 =
      [.send "Live" (dropOf "Sales_Opt_20240102030405".toList),
        .send "Live" "CREATE PROCEDURE dbo.[Sales_Opt_20240102030405] AS SELECT 1",
        .write "Sales_Opt_20240102030405.sql"
          "CREATE PROCEDURE dbo.[Sales_Opt_20240102030405] AS SELECT 1"] := by
  have hr : rename? (salesProposal "" false).revised (salesProposal "" false).now =
      some ("CREATE PROCEDURE dbo.[Sales_Opt_20240102030405] AS SELECT 1",
        "Sales_Opt_20240102030405") := by decide +kernel
  have hg : dropGuard? "CREATE PROCEDURE dbo.[Sales_Opt_20240102030405] AS SELECT 1" =
      some (dropOf "Sales_Opt_20240102030405".toList) := by decide +kernel
  have hname : name? (salesProposal "" false).revised ≠ none := by decide +kernel
  have hchanged : ¬ (salesProposal "" false).IsUnchanged := fun h =>
    absurd h.symm (Text.lowercase_ne_nil (by decide +kernel))
  have hheld : ¬ (salesProposal "" false).IsHeld := by
    rintro (h | h | h)
    · exact hchanged h
    · exact absurd h.1 (by decide +kernel)
    · exact hname h
  have hsame : (salesProposal "CREATE PROCEDURE dbo.Sales AS SELECT 1" true).IsUnchanged := rfl
  obtain ⟨sql, name, hr', hp⟩ := (save_effects (salesProposal "" false) lockedFolder).2.2 hheld
  obtain ⟨rfl, rfl⟩ := Prod.mk.inj (Option.some.inj (hr.symm.trans hr'))
  have hclears : lockedFolder.Clears (salesProposal "" false).database
      "CREATE PROCEDURE dbo.[Sales_Opt_20240102030405] AS SELECT 1" := by
    intro guard e _ he
    obtain rfl : AdvisorError.statement "Live" "" "The procedure does not exist." = e :=
      Except.error.inj he
    decide +kernel
  have hcreated : lockedFolder.execute (creation (salesProposal "" false).database
      "CREATE PROCEDURE dbo.[Sales_Opt_20240102030405] AS SELECT 1") = .ok () := by
    rw [creation, guards, hg]
    rfl
  refine ⟨hsame, (save_effects _ _).1 (Or.inl hsame), hheld,
    (hp.unwritten hclears hcreated _).2 rfl, ?_⟩
  rw [hp.created hclears hcreated, Proposal.requests, creation, guards, hg]
  rfl

end IndexTuning.Revision
