import IndexTuning.Text.Search

namespace IndexTuning.Path

open Text

def isAbsolute (path : List Char) : Bool := path.head? = some '/'

def isTrivial (component : List Char) : Bool := component = [] || component = ['.']

def dropTrivialEnd (components : List (List Char)) : List (List Char) :=
  (components.reverse.dropWhile isTrivial).reverse

def join (components : List (List Char)) : List Char := ['/'].intercalate components

def lead : List Char → List Char × List Char
  | '/' :: body => (['/'], body)
  | ['.'] => (['.'], [])
  | '.' :: '/' :: body => (['.'], '/' :: body)
  | body => ([], body)

def parent? (path : List Char) : Option (List Char) :=
  let (start, body) := lead path
  match dropTrivialEnd (splitAtChar '/' body) with
  | [] => if start = ['.'] then some [] else none
  | components => some (start ++ join (dropTrivialEnd components.dropLast))

def folder? (path : List Char) : Option (List Char) := (parent? path).filter (· ≠ [])

def child (folder name : List Char) : List Char :=
  if folder = [] ∨ folder.getLast? = some '/' then folder ++ name else folder ++ '/' :: name

/-- Where a file of the given name is written: in the folder, unless the name says where. -/
def place (folder name : List Char) : List Char :=
  if isAbsolute name ∨ (folder? name).isSome then name else child folder name

end IndexTuning.Path
