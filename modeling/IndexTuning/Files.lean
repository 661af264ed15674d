import IndexTuning.Encoding
import IndexTuning.Error
import IndexTuning.Path

namespace IndexTuning

structure Files (m : Type → Type) where
  bytesOf : String → m (Except FileFault (List UInt8))
  makeFolder : String → m (Except FileFault Unit)
  put : String → String → m (Except FileFault Unit)

/-- Takes texts under names and says where they went. -/
structure Sink (m : Type → Type) where
  store : String → String → ExceptT AdvisorError m String

namespace Files

variable {m : Type → Type} [Monad m]

def readSql (files : Files m) (path : String) : ExceptT AdvisorError m String := ExceptT.mk do
  match ← files.bytesOf path with
  | .error fault => return .error (.unreadableFile path fault)
  | .ok bytes =>
    match Encoding.decode? bytes with
    | some text => return .ok (String.ofList text)
    | none => return .error (.unreadableFile path .undecodable)

def makeFolderOf (files : Files m) (path : List Char) : ExceptT AdvisorError m Unit :=
  match Path.folder? path with
  | none => pure ()
  | some folder =>
    let folder := String.ofList folder
    ExceptT.mk (Except.mapError (.unwritableFile folder) <$> files.makeFolder folder)

def folderSink (files : Files m) (folder : String) : Sink m where
  store name text := do
    let path := Path.place folder.toList name.toList
    files.makeFolderOf path
    let path := String.ofList path
    ExceptT.mk (Except.mapError (.unwritableFile path) <$> files.put path text)
    return path

end Files

end IndexTuning
