import IndexTuning.Proofs.Sql.Confinement
import IndexTuning.Revision

namespace IndexTuning.Revision

open Sql Sql.Procedure

abbrev History := List (String × String)

/-- An executor whose answer to a statement may depend on all it was sent. -/
def recorder (answer : History → Except AdvisorError Unit) : Executor (StateM History) where
  execute database sql := ExceptT.mk fun sent =>
    (answer (sent ++ [(database, sql)]), sent ++ [(database, sql)])

def folder (answer : String → String → Except AdvisorError String) : Sink (StateM History) where
  store name sql := ExceptT.mk (pure (answer name sql))

/-- Everything but the revision and the time that a run of `save` depends on. -/
structure Run where
  database : String
  current : String
  options : Options
  executor : History → Except AdvisorError Unit
  sink : Option (String → String → Except AdvisorError String)

def Run.sent (r : Run) (revised : String) (now : Timestamp) : History :=
  ((save (recorder r.executor) (r.sink.map folder) r.database r.current revised r.options now).run
    []).2

theorem run_bind {ε σ α β : Type} (x : ExceptT ε (StateM σ) α) (f : α → ExceptT ε (StateM σ) β)
    (s : σ) : (x >>= f).run s =
      match x.run s with
      | (.ok a, t) => (f a).run t
      | (.error e, t) => (.error e, t) := by
  change (match x.run s with | (v, t) => (ExceptT.bindCont f v) t) = _
  rcases x.run s with ⟨v, t⟩
  cases v <;> rfl

variable {answer : History → Except AdvisorError Unit} {database sql name : String}
  {sink : Option (String → String → Except AdvisorError String)} {sent : History}

theorem run_execute : ((recorder answer).execute database sql).run sent =
    (answer (sent ++ [(database, sql)]), sent ++ [(database, sql)]) := rfl

theorem run_tryCatch {ε σ α : Type} (x : ExceptT ε (StateM σ) α)
    (handle : ε → ExceptT ε (StateM σ) α) (s : σ) : (tryCatch x handle).run s =
      match x.run s with
      | (.ok a, t) => (.ok a, t)
      | (.error e, t) => (handle e).run t := by
  change (match x.run s with
    | (v, t) => (match v with
      | Except.ok a => pure (Except.ok a)
      | Except.error e => handle e : StateM σ (Except ε α)) t) = _
  rcases x.run s with ⟨v, t⟩
  cases v <;> rfl

def goesOn : Except AdvisorError Unit → Bool
  | .ok () => true
  | .error e => e.isMissingObject

def settle (result : Except AdvisorError Unit) : Except AdvisorError Unit :=
  if goesOn result then .ok () else result

theorem run_drop {σ : Type} {x : Executor (StateM σ)} {s t : σ}
    {result : Except AdvisorError Unit} (h : (x.execute database sql).run s = (result, t)) :
    (x.executeDrop database sql).run s = (settle result, t) := by
  rw [Executor.executeDrop, run_tryCatch, h, settle]
  cases result with
  | ok a => rfl
  | error e => cases he : e.isMissingObject <;> simp only [he, goesOn] <;> rfl

theorem run_executeDrop : ((recorder answer).executeDrop database sql).run sent =
    (if goesOn (answer (sent ++ [(database, sql)])) then .ok ()
      else answer (sent ++ [(database, sql)]), sent ++ [(database, sql)]) :=
  run_drop run_execute

theorem run_store {store : String → String → Except AdvisorError String} :
    ((folder store).store name sql).run sent = (store name sql, sent) := rfl

theorem sent_storeIn : ((storeIn (sink.map folder) name sql).run sent).2 = sent := by
  cases sink with
  | none => rfl
  | some store =>
      change ((some <$> (folder store).store (name ++ ".sql") sql).run sent).2 = sent
      rw [map_eq_pure_bind, run_bind, run_store]
      cases store (name ++ ".sql") sql <;> rfl

variable {revised current guard : String} {verdict : Similarity.Verdict} {o : Options}
  {now : Timestamp}

theorem sent_create_none (h : rename? revised now = none) :
    ((create (recorder answer) (sink.map folder) database revised verdict now).run []).2 = [] := by
  have hr : Procedure.rename revised now =
      .error (.noProcedureName (String.ofList (revised.toList.take snippetLength))) := by
    rw [Procedure.rename, h]
  rw [create, hr]
  rfl

theorem run_create {σ : Type} {x : Executor (StateM σ)} {sink : Option (Sink (StateM σ))} {s : σ}
    (h : rename? revised now = some (sql, name)) :
    (create x sink database revised verdict now).run s =
      (do
        dropEarlier x database sql
        x.execute database sql
        let path ← storeIn sink name sql
        return Outcome.saved name verdict path).run s := by
  have hr : Procedure.rename revised now = .ok (sql, name) := by rw [Procedure.rename, h]
  rw [create, hr]
  rfl

theorem sent_rest : ((do
      (recorder answer).execute database sql
      let path ← storeIn (sink.map folder) name sql
      return Outcome.saved name verdict path).run sent).2 = sent ++ [(database, sql)] := by
  rw [run_bind, run_execute]
  cases answer (sent ++ [(database, sql)]) with
  | error e => rfl
  | ok a =>
      have hs : ((storeIn (sink.map folder) name sql).run (sent ++ [(database, sql)])).2 =
          sent ++ [(database, sql)] := sent_storeIn
      dsimp only
      rw [run_bind]
      rcases hrun : (storeIn (sink.map folder) name sql).run (sent ++ [(database, sql)]) with ⟨v, t⟩
      rw [hrun] at hs
      cases v <;> exact hs

theorem sent_create_unguarded (h : rename? revised now = some (sql, name))
    (hg : dropGuard? sql = none) :
    ((create (recorder answer) (sink.map folder) database revised verdict now).run []).2 =
      [(database, sql)] := by
  rw [run_create h, run_bind, dropEarlier, hg]
  exact sent_rest

theorem sent_create (h : rename? revised now = some (sql, name))
    (hg : dropGuard? sql = some guard) :
    ((create (recorder answer) (sink.map folder) database revised verdict now).run []).2 =
      (database, guard) :: if goesOn (answer [(database, guard)]) then [(database, sql)] else [] := by
  rw [run_create h, run_bind, dropEarlier, hg]
  dsimp only
  rw [run_executeDrop, List.nil_append]
  cases hgo : goesOn (answer [(database, guard)]) with
  | true => exact sent_rest
  | false =>
      rw [if_neg (by decide), if_neg (by decide)]
      cases ha : answer [(database, guard)] with
      | ok a =>
          rw [ha] at hgo
          exact absurd hgo (by simp [goesOn])
      | error e => rfl

theorem Run.sent_refused {r : Run} {outcome : Outcome}
    (h : refusal? r.current revised (Similarity.compare r.current revised r.options.threshold)
      r.options.force = some outcome) : r.sent revised now = [] := by
  simp only [sent, save, h]
  rfl

theorem Run.sent_passed {r : Run}
    (h : refusal? r.current revised (Similarity.compare r.current revised r.options.threshold)
      r.options.force = none) : r.sent revised now =
        ((create (recorder r.executor) (r.sink.map folder) r.database revised
          (Similarity.compare r.current revised r.options.threshold) now).run []).2 := by
  simp only [sent, save, h]

def Run.free : Run := ⟨"", "", ⟨0, true⟩, fun _ => .ok (), none⟩

theorem refusal?_free (h : Text.trim revised.toList ≠ []) :
    refusal? "" revised verdict true = none := by
  have hreview : Similarity.review "" revised verdict ≠ .unchanged := by
    rw [Similarity.review]
    split
    · rename_i heq
      exact absurd heq.symm (Text.lowercase_ne_nil h)
    · split <;> decide
  rw [refusal?]
  cases hr : Similarity.review "" revised verdict with
  | accept => rfl
  | unchanged => exact absurd hr hreview
  | tooDifferent => rfl

variable {h : Header} {n : Name}

theorem rename?_eq (hh : header? revised.toList = some h)
    (hn : Name.ofParts? (nameParts h.name) = some n) : rename? revised now =
      some (String.ofList (h.rename (freshName n.name now)), freshName n.name now) := by
  rw [rename?, hh, Option.bind_eq_bind, Option.bind_some, hn]
  rfl

theorem trim_ne_nil_of_header (hh : header? revised.toList = some h) :
    Text.trim revised.toList ≠ [] := by
  have hfirst := header?_eq_some.1 hh
  obtain ⟨c, name, hc⟩ := List.exists_cons_of_ne_nil hfirst.name_ne
  apply Text.trim_ne_nil (c := c)
  · rw [hfirst.text, hc]
    simp
  · exact isBlank_of_isNameChar (hfirst.name c (by rw [hc]; exact List.mem_cons_self))

/-- Nothing is sent, or the guard of the fresh name and, unless that fails, a text that creates the
procedure of the name. -/
def Run.IsConfined (r : Run) (revised : String) (now : Timestamp) : Prop :=
  r.sent revised now = [] ∨ ∃ name sql,
    (created? .code revised.toList).bind List.getLast? = some name ∧
    created? .code sql.toList = some ["dbo".toList, freshOf name now] ∧
    r.sent revised now = (r.database, dropOf (freshOf name now)) ::
      if goesOn (r.executor [(r.database, dropOf (freshOf name now))]) then [(r.database, sql)]
      else []

theorem Run.isConfined_of_rename?_eq_none (r : Run) (hr : rename? revised now = none) :
    r.IsConfined revised now := by
  left
  cases hrefusal : refusal? r.current revised
      (Similarity.compare r.current revised r.options.threshold) r.options.force with
  | some outcome => exact sent_refused hrefusal
  | none =>
      rw [sent_passed hrefusal]
      exact sent_create_none hr

theorem isConfined_of_isSafe (hh : header? revised.toList = some h)
    (hn : Name.ofParts? (nameParts h.name) = some n) (hs : h.IsSafe n.name revised.toList now)
    (r : Run) : r.IsConfined revised now := by
  cases hrefusal : refusal? r.current revised
      (Similarity.compare r.current revised r.options.threshold) r.options.force with
  | some outcome => exact Or.inl (Run.sent_refused hrefusal)
  | none =>
      obtain ⟨name, hread, hguard, hcreated⟩ := hs
      refine Or.inr ⟨name, String.ofList (h.rename (freshName n.name now)), hread, ?_, ?_⟩
      · rw [String.toList_ofList]
        exact hcreated
      · rw [Run.sent_passed hrefusal]
        exact sent_create (rename?_eq hh hn) hguard

theorem sent_free (hr : rename? revised now = some (sql, name)) : Run.free.sent revised now =
    ((dropGuard? sql).toList ++ [sql]).map fun sql => ("", sql) := by
  obtain ⟨h, hh, -⟩ := Option.bind_eq_some_iff.1 hr
  rw [Run.sent_passed (r := Run.free) (refusal?_free (trim_ne_nil_of_header hh))]
  cases hg : dropGuard? sql with
  | none =>
      rw [sent_create_unguarded hr hg]
      rfl
  | some guard =>
      rw [sent_create hr hg]
      rfl

theorem isSafe_of_free (hh : header? revised.toList = some h)
    (hn : Name.ofParts? (nameParts h.name) = some n) (hfree : Run.free.IsConfined revised now) :
    h.IsSafe n.name revised.toList now := by
  have hr : rename? revised now = _ := rename?_eq hh hn
  have hsent := sent_free hr
  rcases hfree with hempty | ⟨name, sql, hread, hcreated, heq⟩
  · rw [hempty] at hsent
    exact absurd hsent.symm (by simp)
  · have hboth : Run.free.sent revised now = [("", dropOf (freshOf name now)), ("", sql)] := heq
    rw [hsent] at hboth
    cases hg : dropGuard? (String.ofList (h.rename (freshName n.name now))) with
    | none =>
        rw [hg] at hboth
        exact absurd (congrArg List.length hboth) (by simp)
    | some guard =>
        rw [hg] at hboth
        simp only [Option.toList_some, List.cons_append, List.nil_append, List.map_cons,
          List.map_nil, List.cons.injEq, Prod.mk.injEq, true_and, and_true] at hboth
        obtain ⟨rfl, rfl⟩ := hboth
        rw [String.toList_ofList] at hcreated
        exact ⟨name, hread, hg, hcreated⟩

/-- Every run is confined exactly if the renaming is safe, for which it suffices that it is
faithful; an ordinary header needs it to be. -/
theorem save_isConfined_iff (revised : String) (now : Timestamp) :
    ((∀ r : Run, r.IsConfined revised now) ↔ ∀ h n, header? revised.toList = some h →
      Name.ofParts? (nameParts h.name) = some n → h.IsSafe n.name revised.toList now) ∧
    ∀ h n, header? revised.toList = some h → Name.ofParts? (nameParts h.name) = some n →
      (h.Faithful n.name now → ∀ r : Run, r.IsConfined revised now) ∧
      (h.IsOrdinary n.name → (∀ r : Run, r.IsConfined revised now) → h.Faithful n.name now) := by
  refine ⟨⟨?_, ?_⟩, ?_⟩
  · intro hr h n hh hn
    exact isSafe_of_free hh hn (hr Run.free)
  · intro hs r
    cases hr : rename? revised now with
    | none => exact r.isConfined_of_rename?_eq_none hr
    | some renamed =>
        obtain ⟨h, hh, hr⟩ := Option.bind_eq_some_iff.1 hr
        obtain ⟨n, hn, -⟩ := Option.bind_eq_some_iff.1 hr
        exact isConfined_of_isSafe hh hn (hs h n hh hn) r
  · intro h n hh hn
    have hfirst := header?_eq_some.1 hh
    constructor
    · intro hf r
      exact isConfined_of_isSafe hh hn (hfirst.isSafe hn hf) r
    · intro ho hr
      exact hfirst.faithful_of_isSafe hn ho (isSafe_of_free hh hn (hr Run.free))

theorem save_isConfined_sales :
    Run.free.sent "CREATE PROCEDURE dbo.Sales AS SELECT 1" ⟨2024, 1, 2, 3, 4, 5⟩ ≠ [] ∧
      ∀ r : Run, r.IsConfined "CREATE PROCEDURE dbo.Sales AS SELECT 1" ⟨2024, 1, 2, 3, 4, 5⟩ := by
  let h : Header := ⟨[], "CREATE PROCEDURE ".toList, "dbo.Sales".toList, " AS SELECT 1".toList⟩
  have hh : header? "CREATE PROCEDURE dbo.Sales AS SELECT 1".toList = some h := by rfl
  have hn : Name.ofParts? (nameParts h.name) = some ⟨some "dbo", "Sales"⟩ := by decide +kernel
  have hf : h.Faithful "Sales" ⟨2024, 1, 2, 3, 4, 5⟩ :=
    ⟨by decide +kernel, by decide +kernel, by decide +kernel, by decide +kernel, by decide +kernel⟩
  constructor
  · rw [sent_free (rename?_eq hh hn)]
    simp
  · exact ((save_isConfined_iff _ _).2 h _ hh hn).1 hf

/-- The template takes `$Daily_Opt_20240102030405` for a group that there is not. -/
theorem save_salesDaily :
    Run.free.sent "CREATE PROCEDURE dbo.Sales$Daily AS SELECT 1" ⟨2024, 1, 2, 3, 4, 5⟩ =
      [("", "IF OBJECT_ID('dbo.Sales', 'P') IS NOT NULL DROP PROCEDURE [dbo].[Sales];"),
        ("", "CREATE PROCEDURE dbo.[Sales] AS SELECT 1")] ∧
    ¬ Run.free.IsConfined "CREATE PROCEDURE dbo.Sales$Daily AS SELECT 1"
      ⟨2024, 1, 2, 3, 4, 5⟩ := by
  have hr : rename? "CREATE PROCEDURE dbo.Sales$Daily AS SELECT 1" ⟨2024, 1, 2, 3, 4, 5⟩ =
      some ("CREATE PROCEDURE dbo.[Sales] AS SELECT 1", "Sales$Daily_Opt_20240102030405") := by
    decide +kernel
  have hg : dropGuard? "CREATE PROCEDURE dbo.[Sales] AS SELECT 1" =
      some "IF OBJECT_ID('dbo.Sales', 'P') IS NOT NULL DROP PROCEDURE [dbo].[Sales];" := by
    decide +kernel
  have hread : (created? .code "CREATE PROCEDURE dbo.Sales$Daily AS SELECT 1".toList).bind
      List.getLast? = some "Sales$Daily".toList := by
    decide +kernel
  have hsent := sent_free hr
  rw [hg] at hsent
  refine ⟨hsent, ?_⟩
  rintro (hempty | ⟨name, sql, hname, -, heq⟩)
  · rw [hsent] at hempty
    exact absurd hempty (by simp)
  · obtain rfl := Option.some.inj (hread.symm.trans hname)
    have hguard := congrArg List.head? (hsent.symm.trans heq)
    have hsales : "IF OBJECT_ID('dbo.Sales', 'P') IS NOT NULL DROP PROCEDURE [dbo].[Sales];" =
        dropOf (freshOf "Sales$Daily".toList ⟨2024, 1, 2, 3, 4, 5⟩) :=
      congrArg Prod.snd (Option.some.inj hguard)
    exact absurd hsales (by decide +kernel)

end IndexTuning.Revision
