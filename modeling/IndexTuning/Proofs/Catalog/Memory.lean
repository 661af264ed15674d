import IndexTuning.Proofs.Isolation

namespace IndexTuning

open Sql

namespace MemoryCatalog

inductive Entry
  | database (name : String)
  | failing (database message : String)
  | physical (row : PhysicalStat)
  | usage (row : UsageStat)
  | missing (row : MissingStat)
  | table (database schema name : String) (columns : List Column)
  | procedure (info : ProcedureInfo) (definition : String)
  | index (database : String) (index : ExistingIndex)

def enter (c : MemoryCatalog) : Entry → MemoryCatalog
  | .database name => c.addDatabase name
  | .failing database message => c.addFailing database message
  | .physical row => c.addPhysical row
  | .usage row => c.addUsage row
  | .missing row => c.addMissing row
  | .table database schema name columns => c.addTable database schema name columns
  | .procedure info definition => c.addProcedure info definition
  | .index database index => c.addIndex database index

def ofEntries (entries : List Entry) : MemoryCatalog := entries.foldl enter {}

namespace Entry

variable (database : String)

def physicalIn : Entry → Option PhysicalStat
  | physical row => if row.database = database then some row else none
  | _ => none

def usageIn : Entry → Option UsageStat
  | usage row => if row.database = database then some row else none
  | _ => none

def missingIn : Entry → Option MissingStat
  | missing row => if row.database = database then some row else none
  | _ => none

end Entry

variable {database : String}

def known (c : MemoryCatalog) (database : String) : DatabaseContent :=
  (c.contents.lookup database).getD {}

theorem lookup_updateIn_self (f : DatabaseContent → DatabaseContent)
    (contents : List (String × DatabaseContent)) :
    (updateIn database f contents).lookup database =
      some (f ((contents.lookup database).getD {})) := by
  induction contents with
  | nil => rw [updateIn, List.lookup_cons_self, List.lookup_nil, Option.getD_none]
  | cons entry contents ih =>
      obtain ⟨name, content⟩ := entry
      rw [updateIn]
      split
      · rename_i hname
        rw [hname, List.lookup_cons_self, List.lookup_cons_self, Option.getD_some]
      · rename_i hname
        have hbeq : (database == name) = false := beq_false_of_ne (Ne.symm hname)
        rw [List.lookup_cons, List.lookup_cons, hbeq]
        exact ih

theorem known_update (c : MemoryCatalog) (database other : String)
    (f : DatabaseContent → DatabaseContent) : (c.update database f).known other =
      if database = other then f (c.known other) else c.known other := by
  split
  · rename_i h
    rw [h, known, update, lookup_updateIn_self, Option.getD_some, known]
  · rename_i h
    rw [known, update, lookup_updateIn (Ne.symm h), known]

theorem known_enter (c : MemoryCatalog) (e : Entry) (database : String) :
    let content := c.known database
    let next := (c.enter e).known database
    next.physicalStats = content.physicalStats ++ (e.physicalIn database).toList ∧
      next.usageStats = content.usageStats ++ (e.usageIn database).toList ∧
      next.missingStats = content.missingStats ++ (e.missingIn database).toList := by
  cases e with
  | failing other message =>
      have h := known_update c other database id
      simp only [enter, addFailing, addDatabase, Entry.physicalIn, Entry.usageIn, Entry.missingIn,
        Option.toList_none, List.append_nil, known] at h ⊢
      rw [h]
      split <;> exact ⟨rfl, rfl, rfl⟩
  | _ =>
      simp only [enter, addDatabase, addPhysical, addUsage, addMissing, addTable, addProcedure,
        addIndex, known_update, Entry.physicalIn, Entry.usageIn, Entry.missingIn]
      split <;> simp

theorem known_ofEntries (entries : List Entry) (database : String) :
    let content := (ofEntries entries).known database
    content.physicalStats = entries.filterMap (Entry.physicalIn database) ∧
      content.usageStats = entries.filterMap (Entry.usageIn database) ∧
      content.missingStats = entries.filterMap (Entry.missingIn database) := by
  have h (c : MemoryCatalog) :
      let content := (entries.foldl enter c).known database
      content.physicalStats =
          (c.known database).physicalStats ++ entries.filterMap (Entry.physicalIn database) ∧
        content.usageStats =
          (c.known database).usageStats ++ entries.filterMap (Entry.usageIn database) ∧
        content.missingStats =
          (c.known database).missingStats ++ entries.filterMap (Entry.missingIn database) := by
    induction entries generalizing c with
    | nil => simp
    | cons e entries ih =>
        obtain ⟨hp, hu, hm⟩ := ih (c.enter e)
        obtain ⟨hp', hu', hm'⟩ := known_enter c e database
        simp only [List.foldl_cons, List.filterMap_cons]
        rw [hp, hu, hm, hp', hu', hm']
        refine ⟨?_, ?_, ?_⟩
        · cases e.physicalIn database <;> simp
        · cases e.usageIn database <;> simp
        · cases e.missingIn database <;> simp
  exact h {}

theorem lookup_failures (entries : List Entry)
    (h : ∀ message, Entry.failing database message ∉ entries) :
    (ofEntries entries).failures.lookup database = none := by
  have hall (c : MemoryCatalog) (hc : c.failures.lookup database = none) :
      (entries.foldl enter c).failures.lookup database = none := by
    induction entries generalizing c with
    | nil => exact hc
    | cons e entries ih =>
        refine ih (fun message hm => h message (List.mem_cons_of_mem e hm)) (c.enter e) ?_
        cases e with
        | failing other message =>
            have hne : database ≠ other := by
              rintro rfl
              exact h message List.mem_cons_self
            have hbeq : (database == other) = false := beq_false_of_ne hne
            rw [enter, addFailing, List.lookup_cons, hbeq]
            exact hc
        | _ => exact hc
  exact hall {} rfl

theorem content_ofEntries (entries : List Entry)
    (h : ∀ message, Entry.failing database message ∉ entries) :
    (ofEntries entries).content database = .ok ((ofEntries entries).known database) := by
  rw [content, lookup_failures entries h]
  rfl

end MemoryCatalog

end IndexTuning
