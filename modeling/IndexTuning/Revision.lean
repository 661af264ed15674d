import IndexTuning.Executor
import IndexTuning.Files
import IndexTuning.Similarity
import IndexTuning.Sql.Procedure

namespace IndexTuning.Revision

open Similarity

structure Options where
  threshold : Float
  force : Bool

inductive Outcome
  | saved (name : String) (verdict : Verdict) (path : Option String)
  | unchanged (verdict : Verdict)
  | rejected (verdict : Verdict)

def refusal? (current revised : String) (verdict : Verdict) (force : Bool) : Option Outcome :=
  match review current revised verdict with
  | .unchanged => some (.unchanged verdict)
  | .tooDifferent => if force then none else some (.rejected verdict)
  | .accept => none

variable {m : Type → Type} [Monad m]

def dropEarlier (x : Executor m) (database sql : String) : ExceptT AdvisorError m Unit :=
  match Sql.Procedure.dropGuard? sql with
  | some guard => x.executeDrop database guard
  | none => pure ()

def storeIn (sink : Option (Sink m)) (name sql : String) :
    ExceptT AdvisorError m (Option String) :=
  match sink with
  | some s => some <$> s.store (name ++ ".sql") sql
  | none => pure none

def create (x : Executor m) (sink : Option (Sink m)) (database revised : String)
    (verdict : Verdict) (now : Timestamp) : ExceptT AdvisorError m Outcome := do
  let (sql, name) ← ExceptT.mk (pure (Sql.Procedure.rename revised now))
  dropEarlier x database sql
  x.execute database sql
  let path ← storeIn sink name sql
  return .saved name verdict path

def save (x : Executor m) (sink : Option (Sink m)) (database current revised : String)
    (o : Options) (now : Timestamp) : ExceptT AdvisorError m Outcome :=
  let verdict := compare current revised o.threshold
  match refusal? current revised verdict o.force with
  | some outcome => pure outcome
  | none => create x sink database revised verdict now

end IndexTuning.Revision
