import IndexTuning.Text.Bytes
import IndexTuning.Text.Search

namespace IndexTuning

inductive FileFault
  | notFound
  | alreadyExists
  | notFolder
  | isFolder
  | nameTooLong
  | zeroInPath
  | undecodable
  | other (text : String)
  deriving DecidableEq, Repr

def FileFault.message : FileFault → String
  | notFound => "No such file or directory (os error 2)"
  | alreadyExists => "File exists (os error 17)"
  | notFolder => "Not a directory (os error 20)"
  | isFolder => "Is a directory (os error 21)"
  | nameTooLong => "File name too long (os error 36)"
  | zeroInPath => "file name contained an unexpected NUL byte"
  | undecodable => "File contains invalid characters"
  | other text => text

inductive AdvisorError
  | configuration (message : String)
  | connection (host message : String)
  | metadataQuery (database message : String)
  | statement (database sql message : String)
  | unreadableFile (path : String) (fault : FileFault)
  | unwritableFile (path : String) (fault : FileFault)
  | generation (message : String)
  | noProcedureName (snippet : String)
  | procedureNotFound (database schema name : String)
  deriving DecidableEq, Repr

namespace AdvisorError

def message : AdvisorError → String
  | configuration message => "Configuration error: " ++ message
  | connection host message => "Failed to connect to SQL Server at " ++ host ++ ": " ++ message
  | metadataQuery database message =>
    "Metadata query failed in database " ++ database ++ ": " ++ message
  | statement database sql message =>
    "Statement failed in database " ++ database ++ ": " ++ message ++ "\n" ++ sql
  | unreadableFile path _ => "Failed to read SQL file: " ++ path
  | unwritableFile path _ => "Failed to write artifact to " ++ path
  | generation message => "Text generation failed: " ++ message
  | noProcedureName snippet => "Could not find a procedure name in: " ++ snippet
  | procedureNotFound database schema name =>
    "Procedure not found: " ++ database ++ "." ++ schema ++ "." ++ name

def cause? : AdvisorError → Option FileFault
  | unreadableFile _ fault | unwritableFile _ fault => some fault
  | _ => none

def missingObjectCode : List Char := "3701".toList

def missingObjectWording : Text.Needle := ⟨Text.utf8 "does not exist".toList, by decide⟩

/-- The server reported that the object of a statement is missing: by the number of that error, or
in its words. -/
def isMissingObject : AdvisorError → Bool
  | statement _ _ message =>
    Text.occursIn missingObjectCode message.toList ||
      missingObjectWording.occursIn message.toList
  | _ => false

end AdvisorError

end IndexTuning
