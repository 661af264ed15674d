import IndexTuning.Artifact
import IndexTuning.Executor
import IndexTuning.Files
import IndexTuning.Report
import IndexTuning.Sql.IndexDdl
import IndexTuning.Timestamp

namespace IndexTuning

structure BuildOptions where
  database : String
  allDatabases : Bool
  generatedFile : Option String
  /-- The file counts only when this is asked for. -/
  useGenerated : Bool
  thresholds : Thresholds

namespace BuildOptions

variable {m : Type → Type} [Monad m]

def generated (o : BuildOptions) (files : Files m) : ExceptT AdvisorError m (Option String) :=
  match o.generatedFile with
  | some path =>
    if o.useGenerated then (fun text => some (Sql.IndexDdl.extract text)) <$> files.readSql path
    else pure none
  | none => pure none

def build (o : BuildOptions) (pool : Pool m) (c : Catalog m) (files : Files m) :
    ExceptT AdvisorError m (Option Artifact) := do
  let databases ← c.targets o.database o.allDatabases
  let report ← ExceptT.lift (Report.analyze pool c databases o.thresholds)
  let generated ← o.generated files
  return (report.confineUnused o.database).2.artifact? generated

end BuildOptions

namespace Artifact

variable {m : Type → Type} [Monad m]

def deploy (a : Artifact) (x : Executor m) (database : String) : ExceptT AdvisorError m Unit := do
  x.executeDrop database a.guardSql
  x.execute database a.createSql

def execute (x : Executor m) (database : String) : ExceptT AdvisorError m Unit :=
  x.execute database executeSql

def fileName : String := "recommendation_index.sql"

def store (a : Artifact) (sink : Sink m) (database : Option String) :
    ExceptT AdvisorError m String :=
  sink.store fileName (a.script database)

end Artifact

namespace Maintenance

def fileStem : String := "index_recommendations"

def storeScript {m : Type → Type} [Monad m] (sink : Sink m) (script : String) (now : Timestamp) :
    ExceptT AdvisorError m String :=
  sink.store (now.scriptName fileStem) script

end Maintenance

end IndexTuning
