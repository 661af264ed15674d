import IndexTuning.Decimal.Read
import IndexTuning.Error
import IndexTuning.Text.Blank
import IndexTuning.Text.Fold
import IndexTuning.Text.Quoted
import IndexTuning.Text.Search

namespace IndexTuning

open Text

inductive Authentication
  | windows
  | login (user password : String)
  deriving DecidableEq, Repr

/-- How to reach a server. -/
structure Settings where
  host : String
  tcpPort : Nat
  database : String
  authentication : Authentication
  trustCertificate : Bool
  deriving DecidableEq, Repr

namespace Settings

def defaultTcpPort : Nat := 1433

def readServer (server : String) : Except AdvisorError (String × Nat) :=
  let s := trim server.toList
  match cutAtLast? ',' s <|> cutAtLast? ':' s with
  | none => .ok (String.ofList s, defaultTcpPort)
  | some (host, number) =>
    match Decimal.readUInt16? (trim number) with
    | some n => .ok (String.ofList (trim host), n)
    | none => .error (.configuration ("Invalid port in SQL_SERVER: " ++ String.ofList s))

def required (lookup : String → Option String) (key : String) : Except AdvisorError String :=
  match (lookup key).filter fun v => !isAllBlank v.toList with
  | some value => .ok value
  | none => .error (.configuration (key ++ " is not set"))

def read (lookup : String → Option String) : Except AdvisorError Settings := do
  let server ← required lookup "SQL_SERVER"
  let database ← required lookup "SQL_DATABASE"
  let (host, tcpPort) ← readServer server
  let isTrue (value : String) : Bool := sameIgnoringCase value "true"
  return {
    host
    tcpPort
    database := trimmed database
    authentication :=
      if (lookup "USE_WINDOWS_AUTH").any isTrue then .windows
      else .login ((lookup "SQL_USER").getD "") ((lookup "SQL_PASSWORD").getD "")
    trustCertificate := ((lookup "SQL_TRUST_CERT").map fun v => v == "1" || isTrue v).getD true }

def clientText (s : Settings) : String :=
  "SqlServerClient \x7b host: " ++ Quoted.quoted s.host ++ ", port: " ++ toString s.tcpPort ++
    ", database: " ++ Quoted.quoted s.database ++ " \x7d"

end Settings

end IndexTuning
