namespace IndexTuning.Text

def dropWord? (word s : List Char) : Option (List Char) :=
  if word.isPrefixOf s then some (s.drop word.length) else none

def cutAt? (word : List Char) : List Char → Option (List Char × List Char)
  | [] => if word = [] then some ([], []) else none
  | c :: s =>
    match dropWord? word (c :: s) with
    | some rest => some ([], rest)
    | none => (cutAt? word s).map fun p => (c :: p.1, p.2)

def occursIn (word s : List Char) : Bool := (cutAt? word s).isSome

/-- Replaces occurrences of `word`, found from the left and not overlapping, after passing over
`skip` characters of the occurrence just replaced. -/
def replaceFrom (word new : List Char) (skip : Nat) : List Char → List Char
  | [] => []
  | c :: s =>
    match skip with
    | k + 1 => replaceFrom word new k s
    | 0 =>
      if word.isPrefixOf (c :: s) then new ++ replaceFrom word new (word.length - 1) s
      else c :: replaceFrom word new 0 s

def replaceAll (word new s : List Char) : List Char := replaceFrom word new 0 s

def splitAtChar (c : Char) : List Char → List (List Char)
  | [] => [[]]
  | d :: s =>
    if d = c then [] :: splitAtChar c s
    else
      match splitAtChar c s with
      | [] => [[d]]
      | p :: ps => (d :: p) :: ps

def cutAtLast? (c : Char) (s : List Char) : Option (List Char × List Char) :=
  if c ∈ s then
    some (((s.reverse.dropWhile (· ≠ c)).drop 1).reverse, (s.reverse.takeWhile (· ≠ c)).reverse)
  else none

end IndexTuning.Text
