import IndexTuning.Catalog

namespace IndexTuning

structure ScanFailure where
  database : String
  message : String
  deriving DecidableEq, Repr

structure ScanReport (α : Type) where
  rows : List α
  failures : List ScanFailure

namespace ScanReport

variable {α : Type}

def isComplete (r : ScanReport α) : Bool := r.failures.isEmpty

def add (r : ScanReport α) (database : String) :
    Except AdvisorError (List α) → ScanReport α
  | .ok rows => { r with rows := r.rows ++ rows }
  | .error e => { r with failures := r.failures ++ [⟨database, e.message⟩] }

def ofResults (results : List (String × Except AdvisorError (List α))) : ScanReport α :=
  results.foldl (fun r p => r.add p.1 p.2) ⟨[], []⟩

end ScanReport

/-- Workers that carry out jobs and collect what these give. -/
structure Pool (m : Type → Type) where
  collect {β : Type} : List (m β) → m (List β)

variable {m : Type → Type} [Monad m]

def Pool.inTurn : Pool m where
  collect jobs := jobs.mapM id

def parallelFrom : Nat := 4

def scan {α : Type} (pool : Pool m) (lookup : String → ExceptT AdvisorError m (List α))
    (databases : List String) : m (ScanReport α) := do
  let jobs := databases.map fun database => (lookup database).run
  let results ←
    if parallelFrom ≤ databases.length then pool.collect jobs else Pool.inTurn.collect jobs
  return .ofResults (databases.zip results)

end IndexTuning
