import IndexTuning.Program
import Std.Time.Zoned

namespace IndexTuning.Main

def faultOf (e : IO.Error) : FileFault :=
  match e with
  | .noFileOrDirectory .. => .notFound
  | .alreadyExists .. => .alreadyExists
  | .inappropriateType _ code _ => if code = 20 then .notFolder else .isFolder
  | .invalidArgument _ code _ => if code = 36 then .nameTooLong else .other (toString e)
  | e => .other (toString e)

def guarded {α : Type} (action : IO α) : IO (Except FileFault α) := do
  try return .ok (← action) catch e => return .error (faultOf e)

def files : Files IO where
  bytesOf path := guarded do return (← IO.FS.readBinFile path).data.toList
  makeFolder path := guarded (IO.FS.createDirAll path)
  put path text := guarded (IO.FS.writeFile path text)

/-- No network is at hand, so no server can be reached. -/
def server : Server IO where
  ask settings _ _ := return .error (.unreachable ("no connection to " ++ settings.host))

def pool : Pool IO where
  collect jobs := do
    let tasks ← jobs.mapM fun job => IO.asTask job
    tasks.mapM fun task => do IO.ofExcept (← IO.wait task)

def now : IO Timestamp := do
  let t ← Std.Time.PlainDateTime.now
  return ⟨t.year.toInt, t.month.val.toNat, t.day.val.toNat, t.hour.val.toNat, t.minute.val.toNat,
    t.second.val.toNat⟩

def host : Host IO where
  files := files
  server := server
  pool := pool
  variableOf name := IO.getEnv name
  now := now
  print text := do (← IO.getStdout).putStr text
  printError text := do (← IO.getStderr).putStr text

end IndexTuning.Main

def main (arguments : List String) : IO UInt32 :=
  IndexTuning.Program.run IndexTuning.Main.host arguments
