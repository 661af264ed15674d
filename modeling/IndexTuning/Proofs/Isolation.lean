import IndexTuning.Proofs.Build

namespace IndexTuning

variable {α β : Type}

def tagged (results : List (String × Except AdvisorError (List α))) : List (String × α) :=
  results.flatMap fun result => (result.2.toOption.getD []).map (Prod.mk result.1)

/-- A stage of the analysis that keeps track of the databases. -/
def traced (classify : α → Option β) (le : β → β → Bool)
    (results : List (String × Except AdvisorError (List α))) : List (String × β) :=
  ((tagged results).filterMap fun row => (classify row.2).map (Prod.mk row.1)).mergeSort
    fun x y => le x.2 y.2

def outside (database : String) (results : List (String × α)) : List (String × α) :=
  results.filter (·.1 ≠ database)

def Maintenance.due? (t : Thresholds) (row : PhysicalStat) : Option Maintenance :=
  if t.minPageCount < row.pageCount then classify? t row else none

theorem Maintenance.analyze_eq (t : Thresholds) (rows : List PhysicalStat) :
    analyze t rows = (rows.filterMap (due? t)).mergeSort inOrder := by
  rw [analyze, List.filterMap_filter]
  congr 2
  funext row
  simp [due?]

/-- A report that keeps track of the databases its entries come from. -/
structure Trace where
  maintenance : List (String × Maintenance)
  unused : List (String × UnusedIndex)
  missing : List (String × MissingIndex)
  failures : List ScanFailure

def Trace.report (r : Trace) : Report where
  maintenance := r.maintenance.map Prod.snd
  unused := r.unused.map Prod.snd
  missing := r.missing.map Prod.snd
  failures := r.failures

def Trace.without (r : Trace) (database : String) : Trace where
  maintenance := outside database r.maintenance
  unused := outside database r.unused
  missing := outside database r.missing
  failures := r.failures.filter (·.database ≠ database)

namespace Answers

def trace (a : Answers) (t : Thresholds) : Trace where
  maintenance := traced (Maintenance.due? t) Maintenance.inOrder a.physical
  unused := traced (UnusedIndex.classify? t) UnusedIndex.inOrder a.usage
  missing := traced (MissingIndex.classify? t) MissingIndex.inOrder a.missing
  failures := failed a.physical ++ failed a.usage ++ failed a.missing

def without (a : Answers) (database : String) : Answers where
  physical := outside database a.physical
  usage := outside database a.usage
  missing := outside database a.missing

end Answers

namespace Replies

variable {r r' : Replies} {database : String} {databases : List String} {t : Thresholds}

def trace (r : Replies) (databases : List String) (t : Thresholds) : Trace :=
  (r.answers databases).trace t

end Replies

namespace MemoryCatalog

theorem lookup_updateIn {database other : String} (hne : other ≠ database)
    (f : DatabaseContent → DatabaseContent) (contents : List (String × DatabaseContent)) :
    (updateIn database f contents).lookup other = contents.lookup other := by
  have hbeq : (other == database) = false := beq_false_of_ne hne
  induction contents with
  | nil => rw [updateIn, List.lookup_cons, hbeq]
  | cons entry contents ih =>
      obtain ⟨name, content⟩ := entry
      rw [updateIn]
      split
      · rename_i hname
        rw [List.lookup_cons, List.lookup_cons, hname, hbeq]
      · rw [List.lookup_cons, List.lookup_cons, ih]

theorem content_addFailing {database other : String} (hne : other ≠ database)
    (c : MemoryCatalog) (message : String) :
    (c.addFailing database message).content other = c.content other := by
  have hbeq : (other == database) = false := beq_false_of_ne hne
  simp only [content, addFailing, addDatabase, update, lookup_updateIn hne, List.lookup_cons, hbeq]

end MemoryCatalog

end IndexTuning
