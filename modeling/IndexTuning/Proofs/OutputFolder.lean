import IndexTuning.Deployment
import IndexTuning.Proofs.FileTree
import IndexTuning.Proofs.Revision
import IndexTuning.Proofs.Timestamp

namespace IndexTuning

open Revision Sql.Procedure Text

structure Workspace where
  sent : History := []
  files : FileTree := {}

namespace Workspace

variable {w w₁ w' : Workspace} {folder stem text path database current revised name sql : String}
  {answer : History → Except AdvisorError Unit} {o : Options} {now : Timestamp}
  {verdict : Similarity.Verdict} {path? : Option String} {guard : String}

/-- What the server answers may depend on all that it was sent. It leaves the files alone. -/
def executor (answer : History → Except AdvisorError Unit) : Executor (StateM Workspace) where
  execute database sql := ExceptT.mk fun w =>
    (answer (w.sent ++ [(database, sql)]), { w with sent := w.sent ++ [(database, sql)] })

def access : Files (StateM Workspace) := FileTree.access files fun t w => { w with files := t }

def sink (folder : String) : Sink (StateM Workspace) := access.folderSink folder

theorem run_bind_of_ok {σ α β : Type} {x : ExceptT AdvisorError (StateM σ) α} {s t : σ} {a : α}
    (h : x.run s = (.ok a, t)) (f : α → ExceptT AdvisorError (StateM σ) β) :
    (x >>= f).run s = (f a).run t := by
  rw [run_bind, h]

theorem run_bind_ok {σ α β : Type} {x : ExceptT AdvisorError (StateM σ) α}
    {f : α → ExceptT AdvisorError (StateM σ) β} {s t : σ} {b : β}
    (h : (x >>= f).run s = (.ok b, t)) :
    ∃ a s', x.run s = (.ok a, s') ∧ (f a).run s' = (.ok b, t) := by
  rw [run_bind] at h
  cases hx : x.run s with
  | mk result s' =>
      rw [hx] at h
      cases result with
      | error e => exact absurd (congrArg Prod.fst h) (by simp)
      | ok a => exact ⟨a, s', rfl, h⟩

theorem run_makeFolderOf (w : Workspace) (path : List Char) :
    ((access.makeFolderOf path).run w).2.files.files = w.files.files := by
  rw [Files.makeFolderOf]
  split
  · rfl
  · exact (FileTree.makeFolder_snd _ _).1

theorem run_put (w : Workspace) (path text : String) :
    (ExceptT.mk (Except.mapError (AdvisorError.unwritableFile path) <$>
      access.put path text)).run w =
        match w.files.put path (utf8 text.toList) with
        | .ok t => (.ok (), { w with files := t })
        | .error fault => (.error (.unwritableFile path fault), w) := by
  change ((access.put path text w).1.mapError _, (access.put path text w).2) = _
  rw [access, FileTree.access]
  dsimp only
  cases w.files.put path (utf8 text.toList) <;> rfl

theorem run_store_ok (h : ((sink folder).store name text).run w = (.ok path, w')) :
    path = String.ofList (Path.place folder.toList name.toList) ∧
    ∃ t : FileTree, t.files = w.files.files ∧
      t.put path (utf8 text.toList) = .ok w'.files := by
  have hkept := run_makeFolderOf w (Path.place folder.toList name.toList)
  obtain ⟨a, w₁, hmade, h⟩ := run_bind_ok h
  obtain ⟨b, w₂, hput, h⟩ := run_bind_ok h
  obtain ⟨hpath, rfl⟩ := Prod.mk.inj h
  obtain rfl := Except.ok.inj hpath
  rw [hmade] at hkept
  rw [run_put] at hput
  cases ht : w₁.files.put (String.ofList (Path.place folder.toList name.toList))
      (utf8 text.toList) with
  | error fault =>
      rw [ht] at hput
      exact absurd (congrArg Prod.fst hput) (by simp)
  | ok t =>
      rw [ht] at hput
      obtain ⟨-, rfl⟩ := Prod.mk.inj hput
      exact ⟨rfl, w₁.files, hkept, ht⟩

theorem store_spec (h : ((sink folder).store (stem ++ ".sql") text).run w = (.ok path, w')) :
    w.files.Wrote w'.files path (utf8 text.toList) ∧ ∃ d base,
      w'.files.folderAt? (if '/' ∈ stem.toList then Path.upToSlash stem.toList
        else folder.toList) = some d ∧
      w'.files.find path = .ok (.file (d ++ [base]) (utf8 text.toList)) := by
  obtain ⟨rfl, t, hkept, hput⟩ := run_store_ok h
  obtain ⟨cs, base, hbase, hsplit, hpass⟩ :=
    FileTree.splitAtChar_place folder.toList stem.toList
  rw [← String.toList_append] at hsplit hpass
  obtain ⟨⟨l, hfind, hothers⟩, d, hd, hfound⟩ :=
    FileTree.put_spec hbase (by rw [String.toList_ofList, hsplit]) hput
  rw [String.toList_ofList, hpass] at hd
  rw [hkept] at hothers
  exact ⟨⟨l, hfind, hothers⟩, d, base, hd, hfound⟩

theorem store_liesIn (h : ((sink folder).store (stem ++ ".sql") text).run w = (.ok path, w'))
    (hstem : '/' ∉ stem.toList) :
    w.files.Wrote w'.files path (utf8 text.toList) ∧ w'.files.LiesIn path folder.toList := by
  obtain ⟨hwrote, d, base, hd, hfound⟩ := store_spec h
  rw [if_neg hstem] at hd
  exact ⟨hwrote, (FileTree.liesIn_iff hfound).2 hd⟩

theorem fileName_eq : Artifact.fileName = "recommendation_index" ++ ".sql" := by decide

theorem slash_not_mem_scriptStem (now : Timestamp) :
    '/' ∉ (Maintenance.fileStem ++ "_" ++ now.dateText ++ "_" ++ now.timeText).toList := by
  intro h
  simp only [String.toList_append, List.mem_append] at h
  have hslash : ¬ Timestamp.isStampChar '/' := by decide
  rcases h with (((h | h) | h) | h) | h
  · exact absurd h (by decide)
  · exact absurd h (by decide)
  · exact hslash (Timestamp.isStampChar_of_mem_dateText h)
  · exact absurd h (by decide)
  · exact hslash (Timestamp.isStampChar_of_mem_timeText h)

section Kept

variable (answer : History → Except AdvisorError Unit) (w : Workspace) (database sql : String)

theorem files_execute :
    (((executor answer).execute database sql).run w).2.files = w.files := rfl

theorem files_executeDrop :
    (((executor answer).executeDrop database sql).run w).2.files = w.files := by
  rw [run_drop rfl]
  rfl

theorem files_dropEarlier :
    ((dropEarlier (executor answer) database sql).run w).2.files = w.files := by
  rw [dropEarlier]
  split
  · exact files_executeDrop answer w database _
  · rfl

end Kept

theorem refusal?_ne_saved (judged : Similarity.Verdict) (force : Bool) :
    refusal? current revised judged force ≠ some (.saved name verdict path?) := by
  rw [refusal?]
  split
  · simp
  · split <;> simp
  · simp

theorem run_storeIn_ok {σ : Type} {x : Sink (StateM σ)} {s t : σ}
    (h : (storeIn (some x) name sql).run s = (.ok path?, t)) :
    ∃ path, path? = some path ∧ (x.store (name ++ ".sql") sql).run s = (.ok path, t) := by
  rw [storeIn, map_eq_pure_bind] at h
  obtain ⟨path, s', hstore, h⟩ := run_bind_ok h
  obtain ⟨hpath, rfl⟩ := Prod.mk.inj h
  exact ⟨path, (Except.ok.inj hpath).symm, hstore⟩

theorem run_save_ok (h : (save (executor answer) (some (sink folder)) database current revised o
      now).run w = (.ok (.saved name verdict path?), w')) :
    ∃ sql w₁ path, rename? revised now = some (sql, name) ∧ path? = some path ∧
      w₁.files = w.files ∧ ((sink folder).store (name ++ ".sql") sql).run w₁ = (.ok path, w') := by
  rw [save] at h
  cases hr : refusal? current revised (Similarity.compare current revised o.threshold) o.force with
  | some outcome =>
      simp only [hr] at h
      obtain rfl := Except.ok.inj (Prod.mk.inj h).1
      exact absurd hr (refusal?_ne_saved _ o.force)
  | none =>
      simp only [hr] at h
      cases hname : rename? revised now with
      | none =>
          have herror : Sql.Procedure.rename revised now =
              .error (.noProcedureName (String.ofList (revised.toList.take snippetLength))) := by
            rw [Sql.Procedure.rename, hname]
          rw [create, herror] at h
          obtain ⟨renamed, w₁, hfailed, -⟩ := run_bind_ok h
          exact absurd (Prod.mk.inj hfailed).1 (by simp)
      | some renamed =>
          obtain ⟨sql, fresh⟩ := renamed
          rw [run_create hname] at h
          obtain ⟨_, w₁, hdrop, h⟩ := run_bind_ok h
          obtain ⟨_, w₂, hcreate, h⟩ := run_bind_ok h
          obtain ⟨stored, w₃, hstore, h⟩ := run_bind_ok h
          obtain ⟨houtcome, rfl⟩ := Prod.mk.inj h
          obtain ⟨rfl, -, rfl⟩ := Outcome.saved.inj (Except.ok.inj houtcome)
          obtain ⟨path, rfl, hpath⟩ := run_storeIn_ok hstore
          refine ⟨sql, w₂, path, rfl, rfl, ?_, hpath⟩
          have hfirst := files_dropEarlier answer w database sql
          have hsecond := files_execute answer w₁ database sql
          rw [hdrop] at hfirst
          rw [hcreate] at hsecond
          exact hsecond.trans hfirst

theorem exists_name_of_rename? (h : rename? revised now = some (sql, name)) :
    ∃ n, name? revised = some n ∧ name = freshName n.name now := by
  obtain ⟨header, hh, h⟩ := Option.bind_eq_some_iff.1 h
  obtain ⟨n, hn, h⟩ := Option.bind_eq_some_iff.1 h
  obtain ⟨-, rfl⟩ := Prod.mk.inj (Option.some.inj h)
  exact ⟨n, by rw [name?, hh, Option.bind_some, hn], rfl⟩

theorem slash_not_mem_mark (now : Timestamp) : '/' ∉ "_Opt_".toList ++ now.compact.toList :=
  fun h => absurd (isFreshChar_of_mem_mark h) (by decide)

/-- What the sink writes is one file. The artifact and a maintenance script lie in the folder; a
revision does exactly if the procedure has no slash in its name, or the name leads to that folder
itself. -/
theorem saved_liesIn_iff (folder : String) (w w' : Workspace) :
    (∀ (a : Artifact) (database : Option String) (path : String),
      (a.store (sink folder) database).run w = (.ok path, w') →
        w.files.Wrote w'.files path (utf8 (a.script database).toList) ∧
        w'.files.LiesIn path folder.toList) ∧
    (∀ (script : String) (now : Timestamp) (path : String),
      (Maintenance.storeScript (sink folder) script now).run w = (.ok path, w') →
        w.files.Wrote w'.files path (utf8 script.toList) ∧
        w'.files.LiesIn path folder.toList) ∧
    ∀ answer database current revised o now name verdict path?,
      (save (executor answer) (some (sink folder)) database current revised o now).run w =
        (.ok (.saved name verdict path?), w') →
      ∃ n sql path, name? revised = some n ∧ rename? revised now = some (sql, name) ∧
        path? = some path ∧ w.files.Wrote w'.files path (utf8 sql.toList) ∧
        (w'.files.LiesIn path folder.toList ↔ '/' ∉ n.name.toList ∨
          w'.files.folderAt? folder.toList =
            w'.files.folderAt? (Path.upToSlash n.name.toList)) := by
  refine ⟨fun a database path h => ?_, fun script now path h => ?_, ?_⟩
  · rw [Artifact.store, fileName_eq] at h
    exact store_liesIn h (by decide)
  · rw [Maintenance.storeScript, Timestamp.scriptName] at h
    exact store_liesIn h (slash_not_mem_scriptStem now)
  · intro answer database current revised o now name verdict path? h
    obtain ⟨sql, w₁, path, hr, rfl, hfiles, hstore⟩ := run_save_ok h
    obtain ⟨n, hn, rfl⟩ := exists_name_of_rename? hr
    obtain ⟨hwrote, d, base, hd, hfound⟩ := store_spec hstore
    rw [hfiles] at hwrote
    refine ⟨n, sql, path, hn, hr, rfl, hwrote, ?_⟩
    have hslash : '/' ∈ (freshName n.name now).toList ↔ '/' ∈ n.name.toList := by
      rw [toList_freshName, freshOf, List.append_assoc, List.mem_append]
      exact or_iff_left (slash_not_mem_mark now)
    rw [FileTree.liesIn_iff hfound]
    by_cases h : '/' ∈ n.name.toList
    · rw [if_pos (hslash.2 h), toList_freshName, freshOf, List.append_assoc,
        Path.upToSlash_append_of_not_mem (slash_not_mem_mark now)] at hd
      rw [hd]
      simp [h]
    · rw [if_neg (hslash.not.2 h)] at hd
      simp [h, hd]

def send (w : Workspace) (database sql : String) : Workspace :=
  { w with sent := w.sent ++ [(database, sql)] }

theorem run_save_free (w : Workspace) (database : String)
    (hr : rename? revised now = some (sql, name)) (hg : dropGuard? sql = some guard)
    (hrevised : trim revised.toList ≠ [])
    (hstore : ((sink folder).store (name ++ ".sql") sql).run
      ((w.send database guard).send database sql) = (.ok path, w')) :
    (save (executor fun _ => .ok ()) (some (sink folder)) database "" revised ⟨0, true⟩ now).run w =
      (.ok (.saved name (Similarity.compare "" revised 0) (some path)), w') := by
  have hdrop : (dropEarlier (executor fun _ => .ok ()) database sql).run w =
      (.ok (), w.send database guard) := by
    rw [dropEarlier, hg]
    exact run_drop rfl
  have hexecute : ((executor fun _ => .ok ()).execute database sql).run (w.send database guard) =
      (.ok (), (w.send database guard).send database sql) := rfl
  have hstored : (storeIn (some (sink folder)) name sql).run
      ((w.send database guard).send database sql) = (.ok (some path), w') := by
    rw [storeIn, map_eq_pure_bind, run_bind, hstore]
    rfl
  rw [save]
  simp only [refusal?_free hrevised]
  rw [run_create hr]
  refine (run_bind_of_ok hdrop _).trans ?_
  refine (run_bind_of_ok hexecute _).trans ?_
  exact run_bind_of_ok hstored _

def january : Timestamp := ⟨2024, 1, 2, 3, 4, 5⟩

theorem saved_liesIn_out :
    (∃ w', ((Artifact.ofCombined "SELECT 1;").store (sink "out") none).run {} =
        (.ok "out/recommendation_index.sql", w') ∧
      w'.files.LiesIn "out/recommendation_index.sql" "out".toList) ∧
    (∃ w', (Maintenance.storeScript (sink "out") "SELECT 1;" january).run {} =
        (.ok "out/index_recommendations_20240102_030405.sql", w') ∧
      w'.files.LiesIn "out/index_recommendations_20240102_030405.sql" "out".toList) ∧
    ∃ w' verdict, (save (executor fun _ => .ok ()) (some (sink "out")) "Live" ""
        "CREATE PROCEDURE dbo.Sales AS SELECT 1" ⟨0, true⟩ january).run {} =
          (.ok (.saved "Sales_Opt_20240102030405" verdict
            (some "out/Sales_Opt_20240102030405.sql")), w') ∧
      w'.files.LiesIn "out/Sales_Opt_20240102030405.sql" "out".toList := by
  have hr : rename? "CREATE PROCEDURE dbo.Sales AS SELECT 1" january =
      some ("CREATE PROCEDURE dbo.[Sales_Opt_20240102030405] AS SELECT 1",
        "Sales_Opt_20240102030405") := by decide +kernel
  have hg : dropGuard? "CREATE PROCEDURE dbo.[Sales_Opt_20240102030405] AS SELECT 1" =
      some (dropOf "Sales_Opt_20240102030405".toList) := by decide +kernel
  have hn : name? "CREATE PROCEDURE dbo.Sales AS SELECT 1" = some ⟨some "dbo", "Sales"⟩ := by
    decide +kernel
  have hartifact : (((Artifact.ofCombined "SELECT 1;").store (sink "out") none).run {}).1 =
      .ok "out/recommendation_index.sql" := by decide +kernel
  have hscript : ((Maintenance.storeScript (sink "out") "SELECT 1;" january).run {}).1 =
      .ok "out/index_recommendations_20240102_030405.sql" := by decide +kernel
  have hpath : (((sink "out").store ("Sales_Opt_20240102030405" ++ ".sql")
      "CREATE PROCEDURE dbo.[Sales_Opt_20240102030405] AS SELECT 1").run
      ((send {} "Live" (dropOf "Sales_Opt_20240102030405".toList)).send "Live"
        "CREATE PROCEDURE dbo.[Sales_Opt_20240102030405] AS SELECT 1")).1 =
      .ok "out/Sales_Opt_20240102030405.sql" := by decide +kernel
  have hrun := run_save_free {} "Live" hr hg (by decide +kernel)
    (Prod.ext hpath rfl)
  refine ⟨⟨_, Prod.ext hartifact rfl, ?_⟩, ⟨_, Prod.ext hscript rfl, ?_⟩, _, _, hrun, ?_⟩
  · exact ((saved_liesIn_iff "out" _ _).1 _ _ _ (Prod.ext hartifact rfl)).2
  · exact ((saved_liesIn_iff "out" _ _).2.1 _ _ _ (Prod.ext hscript rfl)).2
  · obtain ⟨n, sql, path, hn', -, hsome, -, hiff⟩ :=
      (saved_liesIn_iff "out" _ _).2.2 _ _ _ _ _ _ _ _ _ hrun
    obtain rfl := Option.some.inj hsome
    obtain rfl := Option.some.inj (hn.symm.trans hn')
    exact hiff.2 (Or.inl (by decide))

/-- The name in the text is taken for a path, and the folder is not even made. -/
theorem saved_elsewhere : ∃ w' verdict,
    (save (executor fun _ => .ok ()) (some (sink "out")) "Live" ""
      "CREATE PROCEDURE [elsewhere/x] AS SELECT 1" ⟨0, true⟩ january).run {} =
        (.ok (.saved "elsewhere/x_Opt_20240102030405" verdict
          (some "elsewhere/x_Opt_20240102030405.sql")), w') ∧
    ¬ w'.files.LiesIn "elsewhere/x_Opt_20240102030405.sql" "out".toList := by
  have hr : rename? "CREATE PROCEDURE [elsewhere/x] AS SELECT 1" january =
      some ("CREATE PROCEDURE dbo.[elsewhere/x_Opt_20240102030405] AS SELECT 1",
        "elsewhere/x_Opt_20240102030405") := by decide +kernel
  have hg : dropGuard? "CREATE PROCEDURE dbo.[elsewhere/x_Opt_20240102030405] AS SELECT 1" =
      some (dropOf "elsewhere/x_Opt_20240102030405".toList) := by decide +kernel
  have hpath : (((sink "out").store ("elsewhere/x_Opt_20240102030405" ++ ".sql")
      "CREATE PROCEDURE dbo.[elsewhere/x_Opt_20240102030405] AS SELECT 1").run
      ((send {} "Live" (dropOf "elsewhere/x_Opt_20240102030405".toList)).send "Live"
        "CREATE PROCEDURE dbo.[elsewhere/x_Opt_20240102030405] AS SELECT 1")).1 =
      .ok "elsewhere/x_Opt_20240102030405.sql" := by decide +kernel
  refine ⟨_, _, run_save_free {} "Live" hr hg (by decide +kernel)
    (Prod.ext hpath rfl), ?_⟩
  rintro ⟨d, name, bytes, hd, -⟩
  have hnone : (((sink "out").store ("elsewhere/x_Opt_20240102030405" ++ ".sql")
      "CREATE PROCEDURE dbo.[elsewhere/x_Opt_20240102030405] AS SELECT 1").run
      ((send {} "Live" (dropOf "elsewhere/x_Opt_20240102030405".toList)).send "Live"
        "CREATE PROCEDURE dbo.[elsewhere/x_Opt_20240102030405] AS SELECT 1")).2.files.folderAt?
      "out".toList = none := by decide +kernel
  exact absurd (hnone.symm.trans hd) (by simp)

end Workspace

end IndexTuning
