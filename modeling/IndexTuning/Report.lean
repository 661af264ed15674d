import IndexTuning.Artifact
import IndexTuning.Priority
import IndexTuning.Scan
import IndexTuning.Text.Fold

namespace IndexTuning

structure Report where
  maintenance : List Maintenance := []
  unused : List UnusedIndex := []
  missing : List MissingIndex := []
  failures : List ScanFailure := []

namespace Report

def ofScans (t : Thresholds) (physical : ScanReport PhysicalStat) (usage : ScanReport UsageStat)
    (missing : ScanReport MissingStat) : Report where
  maintenance := Maintenance.analyze t physical.rows
  unused := UnusedIndex.analyze t usage.rows
  missing := MissingIndex.analyze t missing.rows
  failures := physical.failures ++ usage.failures ++ missing.failures

def analyze {m : Type → Type} [Monad m] (pool : Pool m) (c : Catalog m) (databases : List String)
    (t : Thresholds) : m Report := do
  let physical ← scan pool (c.physicalStats · t.minPageCount) databases
  let usage ← scan pool c.usageStats databases
  let missing ← scan pool c.missingStats databases
  return ofScans t physical usage missing

def isEmpty (r : Report) : Bool :=
  r.maintenance.isEmpty && r.unused.isEmpty && r.missing.isEmpty

def isIn (database : String) (u : UnusedIndex) : Bool :=
  Text.sameIgnoringCase u.database database

/-- Keeps the unused indexes of one database and gives the others. A drop names no database, so it
can only be carried out in the one where it runs. -/
def confineUnused (r : Report) (database : String) : List UnusedIndex × Report :=
  (r.unused.filter (!isIn database ·), { r with unused := r.unused.filter (isIn database) })

def maintenanceScript (r : Report) : String := Maintenance.script r.maintenance

def prioritized (r : Report) : List Recommendation :=
  Recommendation.prioritize (r.unused.map .unused ++ r.missing.map .missing)

def artifact? (r : Report) (generated : Option String) : Option Artifact :=
  Artifact.assemble? r.maintenanceScript (UnusedIndex.script r.unused false)
    (MissingIndex.script r.missing false) generated

end Report

end IndexTuning
