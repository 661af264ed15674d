import IndexTuning.Files
import IndexTuning.Text.Bytes

namespace IndexTuning

open Text

/-- Files and folders held in memory, each under the names that lead to it from the root. The root
is always there. -/
structure FileTree where
  folders : List (List (List Char)) := []
  files : List (List (List Char) × List UInt8) := []
  here : List (List Char) := []

namespace FileTree

abbrev Location := List (List Char)

inductive Entry
  | folder
  | file (bytes : List UInt8)
  | absent

def entry (t : FileTree) (l : Location) : Entry :=
  if l = [] ∨ l ∈ t.folders then .folder
  else
    match t.files.lookup l with
    | some bytes => .file bytes
    | none => .absent

/-- What a path leads to: a folder, a file or a free place. A slash may follow the last two. -/
inductive Target
  | folder
  | file (l : Location) (bytes : List UInt8)
  | free (l : Location) (slash : Bool)

def maxNameSize : Nat := 255

def isTooLong (name : List Char) : Bool := maxNameSize < (utf8 name).length

def maxPathSize : Nat := 4095

def pathFault? (path : String) : Option FileFault :=
  if '\x00' ∈ path.toList then some .zeroInPath
  else if maxPathSize < (utf8 path.toList).length then some .nameTooLong
  else none

def follow (t : FileTree) (l : Location) : List (List Char) → Except FileFault Target
  | [] => .ok .folder
  | c :: cs =>
    if Path.isTrivial c then follow t l cs
    else if c = "..".toList then follow t l.dropLast cs
    else if isTooLong c then .error .nameTooLong
    else
      match t.entry (l ++ [c]) with
      | .folder => follow t (l ++ [c]) cs
      | .file bytes => if cs = [] then .ok (.file (l ++ [c]) bytes) else .error .notFolder
      | .absent =>
        if cs = [] then .ok (.free (l ++ [c]) false)
        else if cs.all (· = []) then .ok (.free (l ++ [c]) true)
        else .error .notFound

def start (t : FileTree) (path : List Char) : Location :=
  if Path.isAbsolute path then [] else t.here

def find (t : FileTree) (path : String) : Except FileFault Target :=
  if path = "" then .error .notFound
  else
    match pathFault? path with
    | some fault => .error fault
    | none => t.follow (t.start path.toList) (splitAtChar '/' path.toList)

def bytesOf (t : FileTree) (path : String) : Except FileFault (List UInt8) := do
  match ← t.find path with
  | .folder => throw .isFolder
  | .file _ bytes => return bytes
  | .free _ _ => throw .notFound

def setFile (l : Location) (bytes : List UInt8) :
    List (Location × List UInt8) → List (Location × List UInt8)
  | [] => [(l, bytes)]
  | (k, old) :: rest => if k = l then (k, bytes) :: rest else (k, old) :: setFile l bytes rest

def put (t : FileTree) (path : String) (bytes : List UInt8) : Except FileFault FileTree := do
  match ← t.find path with
  | .folder | .free _ true => throw .isFolder
  | .file l _ | .free l false => return { t with files := setFile l bytes t.files }

def makeFrom (t : FileTree) (l : Location) : List (List Char) → Except FileFault Unit × FileTree
  | [] => (.ok (), t)
  | c :: cs =>
    if Path.isTrivial c then makeFrom t l cs
    else if c = "..".toList then makeFrom t l.dropLast cs
    else if isTooLong c then (.error .nameTooLong, t)
    else
      match t.entry (l ++ [c]) with
      | .folder => makeFrom t (l ++ [c]) cs
      | .file _ => (.error (if cs.all Path.isTrivial then .alreadyExists else .notFolder), t)
      | .absent => makeFrom { t with folders := (l ++ [c]) :: t.folders } (l ++ [c]) cs

def makeFolder (t : FileTree) (path : String) : Except FileFault Unit × FileTree :=
  match pathFault? path with
  | some fault => (.error fault, t)
  | none => t.makeFrom (t.start path.toList) (splitAtChar '/' path.toList)

def access {σ : Type} (get : σ → FileTree) (set : FileTree → σ → σ) : Files (StateM σ) where
  bytesOf path := fun s => ((get s).bytesOf path, s)
  makeFolder path := fun s =>
    let (result, t) := (get s).makeFolder path
    (result, set t s)
  put path text := fun s =>
    match (get s).put path (utf8 text.toList) with
    | .ok t => (.ok (), set t s)
    | .error fault => (.error fault, s)

def filesHere (t : FileTree) : List (String × List UInt8) :=
  t.files.filterMap fun (l, bytes) =>
    if t.here.isPrefixOf l then
      some (String.ofList (Path.join (l.drop t.here.length)), bytes)
    else none

end FileTree

end IndexTuning
