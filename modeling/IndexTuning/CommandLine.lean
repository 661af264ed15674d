import IndexTuning.Decimal.Read
import IndexTuning.Thresholds

namespace IndexTuning.CommandLine

inductive Command
  | tables (file database : Option String)
  | procedures
  | verify (current revised : String) (thresholds : Thresholds)
  | analyze (apply allDatabases : Bool) (out : Option String) (thresholds : Thresholds)
  | context (procedure : String)
  | build (generated : Option String) (useGenerated : Bool) (out : Option String)
      (deploy allDatabases : Bool) (thresholds : Thresholds)
  | execute
  | saveRevision (procedure revised : String) (force : Bool) (out : Option String)
      (thresholds : Thresholds)

inductive Stop
  | usage
  | version
  | help
  deriving DecidableEq, Repr

inductive OptionKind
  | flag
  | text
  | path
  | real
  | integer
  | stop (reason : Stop)
  deriving DecidableEq, Repr

structure OptionSpec where
  long : String
  short : Option Char := none
  kind : OptionKind
  deriving Repr

/-- Options with their values, a flag having an empty one. -/
abbrev Given := List (String × String)

def OptionKind.accepts (kind : OptionKind) (value : String) : Bool :=
  match kind with
  | .path => value != ""
  | .real => (Decimal.readFloat? value).isSome
  | .integer => (Decimal.readInt64? value).isSome
  | _ => true

def OptionKind.takesValue : OptionKind → Bool
  | .flag | .stop _ => false
  | _ => true

/-- Notes an option, which may be given once. -/
def note (given : Given) (spec : OptionSpec) (value : String) : Except Stop Given :=
  match spec.kind with
  | .stop reason => .error reason
  | kind =>
    if (given.lookup spec.long).isSome || !kind.accepts value then .error .usage
    else .ok (given ++ [(spec.long, value)])

/-- Reads the letters behind one dash. The first option that takes a value takes the rest, without
an equals sign in front; when nothing is left the value is still to come. -/
def readLetters (specs : List OptionSpec) (given : Given) :
    List Char → Except Stop (Given × Option OptionSpec)
  | [] => .ok (given, none)
  | c :: rest =>
    match specs.find? (·.short = some c) with
    | none => .error .usage
    | some spec =>
      if spec.kind.takesValue then
        match rest with
        | [] => .ok (given, some spec)
        | '=' :: value => (note given spec (String.ofList value)).map (·, none)
        | value => (note given spec (String.ofList value)).map (·, none)
      else do
        let given ← note given spec ""
        readLetters specs given rest

def readName (specs : List OptionSpec) (given : Given) (body : List Char) :
    Except Stop (Given × Option OptionSpec) :=
  let name := String.ofList (body.takeWhile (· ≠ '='))
  let value := body.dropWhile (· ≠ '=')
  match specs.find? (·.long = name) with
  | none => .error .usage
  | some spec =>
    match spec.kind.takesValue, value with
    | true, [] => .ok (given, some spec)
    | true, _ :: value => (note given spec (String.ofList value)).map (·, none)
    | false, [] => (note given spec "").map (·, none)
    | false, _ => .error .usage

def isPlain (argument : List Char) : Bool :=
  match argument with
  | '-' :: _ :: _ => false
  | _ => true

def readOptions (specs : List OptionSpec) (given : Given) (pending : Option OptionSpec) :
    List String → Except Stop (Given × List String)
  | [] => if pending.isSome then .error .usage else .ok (given, [])
  | argument :: rest =>
    match pending with
    | some spec =>
      if isPlain argument.toList then do
        let given ← note given spec argument
        readOptions specs given none rest
      else .error .usage
    | none =>
      match argument.toList with
      | ['-', '-'] => if rest = [] then .ok (given, []) else .error .usage
      | '-' :: '-' :: body => do
        let (given, pending) ← readName specs given body
        readOptions specs given pending rest
      | '-' :: c :: letters => do
        let (given, pending) ← readLetters specs given (c :: letters)
        readOptions specs given pending rest
      | _ => .ok (given, argument :: rest)

def common : List OptionSpec :=
  [{ long := "verbose", short := some 'v', kind := .flag },
    { long := "help", short := some 'h', kind := .stop .help }]

def thresholdSpecs : List OptionSpec :=
  [{ long := "rebuild-percent", kind := .real }, { long := "reorganize-percent", kind := .real },
    { long := "min-page-count", kind := .integer }, { long := "low-read", kind := .integer },
    { long := "missing-min-seeks", kind := .integer },
    { long := "missing-min-impact", kind := .real }, { long := "threshold", kind := .real }]

def outSpec : OptionSpec := { long := "out", short := some 'o', kind := .path }

def allSpec : OptionSpec := { long := "all-databases", kind := .flag }

def procedureSpec : OptionSpec := { long := "procedure", short := some 'p', kind := .text }

def thresholds (given : Given) : Thresholds :=
  let d : Thresholds := {}
  let real (name : String) : Option Float := (given.lookup name).bind Decimal.readFloat?
  let integer (name : String) : Option Int := (given.lookup name).bind Decimal.readInt64?
  { rebuildPercent := (real "rebuild-percent").getD d.rebuildPercent
    reorganizePercent := (real "reorganize-percent").getD d.reorganizePercent
    minPageCount := (integer "min-page-count").getD d.minPageCount
    lowRead := (integer "low-read").getD d.lowRead
    missingMinSeeks := (integer "missing-min-seeks").getD d.missingMinSeeks
    missingMinImpact := (real "missing-min-impact").getD d.missingMinImpact
    similarity := (real "threshold").getD d.similarity }

structure Subcommand where
  name : String
  options : List OptionSpec
  command? : Given → Option Command

def subcommands : List Subcommand :=
  [{ name := "tables"
     options := [{ long := "file", short := some 'f', kind := .path },
       { long := "database", short := some 'd', kind := .text }]
     command? := fun g => some (.tables (g.lookup "file") (g.lookup "database")) },
   { name := "procedures", options := [], command? := fun _ => some .procedures },
   { name := "verify"
     options := { long := "original", kind := .path } :: { long := "rewritten", kind := .path } ::
       thresholdSpecs
     command? := fun g => do
       some (.verify (← g.lookup "original") (← g.lookup "rewritten") (thresholds g)) },
   { name := "analyze"
     options := { long := "apply", kind := .flag } :: allSpec :: outSpec :: thresholdSpecs
     command? := fun g => some (.analyze (g.lookup "apply").isSome
       (g.lookup "all-databases").isSome (g.lookup "out") (thresholds g)) },
   { name := "context"
     options := [procedureSpec]
     command? := fun g => do some (.context (← g.lookup "procedure")) },
   { name := "build"
     options := { long := "ai-sql", kind := .path } :: { long := "use-ai", kind := .flag } ::
       { long := "deploy", kind := .flag } :: allSpec :: outSpec :: thresholdSpecs
     command? := fun g => some (.build (g.lookup "ai-sql") (g.lookup "use-ai").isSome
       (g.lookup "out") (g.lookup "deploy").isSome (g.lookup "all-databases").isSome
       (thresholds g)) },
   { name := "execute", options := [], command? := fun _ => some .execute },
   { name := "save-rewrite"
     options := procedureSpec :: { long := "rewritten", short := some 'r', kind := .path } ::
       { long := "force", kind := .flag } :: outSpec :: thresholdSpecs
     command? := fun g => do
       some (.saveRevision (← g.lookup "procedure") (← g.lookup "rewritten")
         (g.lookup "force").isSome (g.lookup "out") (thresholds g)) }]

def isTopic (name : String) : Bool := name == "help" || subcommands.any (·.name == name)

/-- Help is given on the program or on one subcommand. No subcommand has others below it, so that a
second name, or an option, names nothing. -/
def readTopic : List String → Stop
  | [] => .help
  | [name] => if isTopic name then .help else .usage
  | _ => .usage

def read (arguments : List String) : Except Stop Command := do
  let version : OptionSpec := { long := "version", short := some 'V', kind := .stop .version }
  let (_, rest) ← readOptions (version :: common) [] none arguments
  match rest with
  | [] => throw .usage
  | name :: rest =>
    match subcommands.find? (·.name = name) with
    | some sub =>
      let (given, extra) ← readOptions (sub.options ++ common) [] none rest
      match extra, sub.command? given with
      | [], some command => return command
      | _, _ => throw .usage
    | none => throw (if name = "help" then readTopic rest else .usage)

end IndexTuning.CommandLine
