import IndexTuning.CommandLine
import IndexTuning.Context
import IndexTuning.Decimal.Text
import IndexTuning.Deployment
import IndexTuning.Dotenv
import IndexTuning.Revision
import IndexTuning.Server.Client

namespace IndexTuning

structure Host (m : Type → Type) where
  files : Files m
  server : Server m
  pool : Pool m
  variableOf : String → m (Option String)
  now : m Timestamp
  print : String → m Unit
  printError : String → m Unit

inductive Failure
  | advisor (error : AdvisorError)
  | refused (message : String)

def Failure.message : Failure → String
  | advisor e =>
    e.message ++ match e.cause? with
      | some fault => "\n\nCaused by:\n    " ++ fault.message
      | none => ""
  | refused message => message

namespace Program

variable {m : Type → Type} [Monad m]

abbrev Run (m : Type → Type) := ExceptT Failure m

def attempt {α : Type} (x : ExceptT AdvisorError m α) : Run m α := ExceptT.adapt .advisor x

def printLine (host : Host m) (line : String) : Run m Unit :=
  ExceptT.lift (host.print (line ++ "\n"))

def printErrorLine (host : Host m) (line : String) : Run m Unit :=
  ExceptT.lift (host.printError (line ++ "\n"))

def settingNames : List String :=
  ["SQL_SERVER", "SQL_DATABASE", "SQL_USER", "SQL_PASSWORD", "USE_WINDOWS_AUTH", "SQL_TRUST_CERT"]

def withoutMark (bytes : List UInt8) : List UInt8 :=
  let mark := Encoding.ByteOrderMark.utf8.bytes
  if mark.isPrefixOf bytes then bytes.drop mark.length else bytes

def lookUp (host : Host m) (names : List String) : m (String → Option String) := do
  let known ← names.mapM fun name => do return (name, ← host.variableOf name)
  return fun name => (known.lookup name).join

def environment (host : Host m) : m (String → Option String) := do
  match ← host.files.bytesOf ".env" with
  | .error _ => lookUp host settingNames
  | .ok bytes =>
    let text := Encoding.validLines (withoutMark bytes)
    let own ← lookUp host (settingNames ++ Dotenv.names text)
    let added := Dotenv.read own text
    return fun name => own name <|> added.lookup name

def connect (host : Host m) : Run m (Client m × String) := do
  let lookup ← ExceptT.lift (environment host)
  attempt (ExceptT.mk (pure do
    let settings ← Settings.read lookup
    let client ← Client.connect host.server settings
    return (client, settings.database)))

def printTables (host : Host m) (tables : List Sql.TableRef) : Run m Unit :=
  tables.forM fun t => printLine host t.dotted

def listTables (host : Host m) (file database : Option String) : Run m Unit := do
  match file with
  | some path =>
    let sql ← attempt (host.files.readSql path)
    printTables host (Sql.TableScan.extract sql database)
  | none =>
    let (client, configured) ← connect host
    printTables host (← attempt (client.toCatalog.tables (database.getD configured)))

def listProcedures (host : Host m) : Run m Unit := do
  let (client, database) ← connect host
  let procedures ← attempt (client.toCatalog.readableProcedures database)
  procedures.forM fun p => printLine host p.qualifiedName

def verify (host : Host m) (current revised : String) (threshold : Float) : Run m Unit := do
  let current ← attempt (host.files.readSql current)
  let revised ← attempt (host.files.readSql revised)
  let verdict := Similarity.compare current revised threshold
  let ratio := Decimal.fixed 4 verdict.ratio
  printLine host ("ratio: " ++ ratio)
  printLine host ("similar: " ++ if verdict.isSimilar then "true" else "false")
  if verdict.isSimilar then pure ()
  else
    throw (.refused ("rewrite is too different from the original (" ++ ratio ++ " < " ++
      Decimal.shortest threshold ++ ")"))

def maintenanceLine (x : Maintenance) : String :=
  x.database ++ "." ++ x.schema ++ "." ++ x.table ++ " " ++ x.index ++ ": " ++
    Decimal.fixed 2 x.fragmentation.toFloat ++ "% over " ++ toString x.pageCount ++ " pages -> " ++
    x.action.keyword

def recommendationLine (r : Recommendation) : String := r.label ++ " " ++ r.suggestion.getD "-"

def printReport (host : Host m) (report : Report) : Run m Unit := do
  printLine host ("-- Fragmentation (" ++ toString report.maintenance.length ++ " indexes)")
  report.maintenance.forM fun x => printLine host (maintenanceLine x)
  printLine host ("\n-- Index usage (" ++
    toString (report.unused.length + report.missing.length) ++ " recommendations)")
  report.prioritized.forM fun r => printLine host (recommendationLine r)
  if report.maintenanceScript = "" then pure ()
  else printLine host ("\n" ++ report.maintenanceScript)
  report.failures.forM fun f => printErrorLine host ("skipped " ++ f.database ++ ": " ++ f.message)

def analyze (host : Host m) (apply allDatabases : Bool) (out : Option String)
    (thresholds : Thresholds) : Run m Unit := do
  let (client, database) ← connect host
  let databases ← attempt (client.toCatalog.targets database allDatabases)
  let report ← ExceptT.lift (Report.analyze host.pool client.toCatalog databases thresholds)
  printReport host report
  let script := report.maintenanceScript
  match out with
  | some folder =>
    if script = "" then pure ()
    else
      let now ← ExceptT.lift host.now
      let path ← attempt (Maintenance.storeScript (host.files.folderSink folder) script now)
      printLine host ("saved " ++ path)
  | none => pure ()
  if apply then
    let applied ← ExceptT.lift (client.toExecutor.applyScript database script)
    printLine host ("applied " ++ toString applied.applied ++ " statements, " ++
      toString applied.failures.length ++ " failed")

def showContext (host : Host m) (procedure : String) : Run m Unit := do
  let (client, database) ← connect host
  let (schema, name) := Sql.Procedure.splitQualified procedure
  let context ← attempt (Context.ofProcedure client.toCatalog database schema name)
  printLine host "-- Tables"
  printTables host context.tables
  printLine host ("\n-- Table info\n" ++ context.tableText)
  printLine host ("\n-- Prompt\n" ++ context.indexPrompt)
  context.failures.forM fun f => printErrorLine host ("skipped " ++ f)

def build (host : Host m) (generated : Option String) (useGenerated : Bool) (out : Option String)
    (deploy allDatabases : Bool) (thresholds : Thresholds) : Run m Unit := do
  let (client, database) ← connect host
  let options : BuildOptions :=
    { database, allDatabases, generatedFile := generated, useGenerated, thresholds }
  match ← attempt (options.build host.pool client.toCatalog host.files) with
  | none => printLine host "No recommendations to build."
  | some artifact =>
    match out with
    | some folder =>
      let path ← attempt (artifact.store (host.files.folderSink folder) (some database))
      printLine host ("saved " ++ path)
    | none => printLine host (artifact.script (some database))
    if deploy then attempt (artifact.deploy client.toExecutor database)

def execute (host : Host m) : Run m Unit := do
  let (client, database) ← connect host
  attempt (Artifact.execute client.toExecutor database)

def reportRevision (host : Host m) (threshold : Float) : Revision.Outcome → Run m Unit
  | .saved name verdict path => do
    printLine host ("saved dbo." ++ name ++ " (ratio " ++ Decimal.fixed 4 verdict.ratio ++ ")")
    match path with
    | some path => printLine host ("wrote " ++ path)
    | none => pure ()
  | .unchanged _ => printLine host "rewrite is identical to the original; nothing saved"
  | .rejected verdict =>
    throw (.refused ("rewrite rejected: similarity " ++ Decimal.fixed 4 verdict.ratio ++
      " is below " ++ Decimal.shortest threshold ++ " (use --force to save anyway)"))

def saveRevision (host : Host m) (procedure revised : String) (force : Bool)
    (out : Option String) (threshold : Float) : Run m Unit := do
  let (client, database) ← connect host
  let (schema, name) := Sql.Procedure.splitQualified procedure
  let current ← attempt (Context.definitionOf client.toCatalog database schema name)
  let answer ← attempt (host.files.readSql revised)
  let now ← ExceptT.lift host.now
  let outcome ← attempt (Revision.save client.toExecutor (out.map host.files.folderSink) database
    current (Answer.procedure answer) ⟨threshold, force⟩ now)
  reportRevision host threshold outcome

def carryOut (host : Host m) : CommandLine.Command → Run m Unit
  | .tables file database => listTables host file database
  | .procedures => listProcedures host
  | .verify current revised t => verify host current revised t.similarity
  | .analyze apply allDatabases out t => analyze host apply allDatabases out t
  | .context procedure => showContext host procedure
  | .build generated useGenerated out deploy allDatabases t =>
    build host generated useGenerated out deploy allDatabases t
  | .execute => execute host
  | .saveRevision procedure revised force out t =>
    saveRevision host procedure revised force out t.similarity

def versionText : String := "sql-index-advisor 0.1.0\n"

def usageText : String :=
  "Usage: sql-index-advisor [OPTIONS] <COMMAND>\n\nCommands:\n" ++
    String.join (CommandLine.subcommands.map fun s => "  " ++ s.name ++ "\n")

def run (host : Host m) (arguments : List String) : m UInt32 := do
  match CommandLine.read arguments with
  | .error .version => host.print versionText; return 0
  | .error .help => host.print usageText; return 0
  | .error .usage => host.printError usageText; return 2
  | .ok command =>
    match ← (carryOut host command).run with
    | .ok () => return 0
    | .error failure => host.printError ("Error: " ++ failure.message ++ "\n"); return 1

end Program

end IndexTuning
