import IndexTuning.FileTree
import IndexTuning.Proofs.Text.Search

namespace IndexTuning

open Text

namespace Path

variable {folder name x y c : List Char}

structure IsProper (c : List Char) : Prop where
  nontrivial : isTrivial c = false
  down : c ≠ "..".toList

theorem IsProper.ne_nil (h : IsProper c) : c ≠ [] := by
  rintro rfl
  exact absurd h.nontrivial (by decide)

theorem isProper_of_length (h : 2 < c.length) : IsProper c := by
  constructor
  · rw [isTrivial, Bool.or_eq_false_iff, decide_eq_false_iff_not, decide_eq_false_iff_not]
    constructor <;> rintro rfl <;> exact absurd h (by decide)
  · rintro rfl
    exact absurd h (by decide)

def upToSlash (name : List Char) : List Char := (name.reverse.dropWhile (· ≠ '/')).reverse

theorem upToSlash_append_of_not_mem (hy : '/' ∉ y) : upToSlash (x ++ y) = upToSlash x := by
  have hslash : ∀ c ∈ y.reverse, decide (c ≠ '/') = true := fun c hc =>
    decide_eq_true fun hslash => hy (hslash ▸ List.mem_reverse.1 hc)
  rw [upToSlash, List.reverse_append, List.dropWhile_append_of_pos hslash, upToSlash]

theorem upToSlash_append (hy : '/' ∉ y) : upToSlash (x ++ '/' :: y) = x ++ ['/'] := by
  rw [List.append_cons, upToSlash_append_of_not_mem hy, upToSlash, List.reverse_append,
    List.reverse_singleton, List.singleton_append, List.dropWhile_cons_of_neg (by simp)]
  simp

theorem exists_last_slash (h : '/' ∈ name) : ∃ x y, name = x ++ '/' :: y ∧ '/' ∉ y := by
  obtain ⟨y, x, hname, hy⟩ := List.eq_append_cons_of_mem (List.mem_reverse.2 h)
  refine ⟨x.reverse, y.reverse, ?_, fun hmem => hy (List.mem_reverse.1 hmem)⟩
  rw [← List.reverse_reverse name, hname]
  simp

theorem isAbsolute_of_not_mem (h : '/' ∉ name) : isAbsolute name = false := by
  rw [isAbsolute, decide_eq_false_iff_not]
  intro hhead
  exact h (List.mem_of_mem_head? hhead)

theorem dropTrivialEnd_append (h : isTrivial c = false) (cs : List (List Char)) :
    dropTrivialEnd (cs ++ [c]) = cs ++ [c] := by
  rw [dropTrivialEnd, List.reverse_append, List.reverse_singleton, List.singleton_append,
    List.dropWhile_cons_of_neg (by simp [h])]
  simp

theorem lead_of_relative (hroot : ∀ body, name ≠ '/' :: body) (hdot : name ≠ ['.'])
    (hdots : ∀ body, name ≠ '.' :: '/' :: body) : lead name = ([], name) := by
  rw [lead.eq_def]
  split
  · exact absurd rfl (hroot _)
  · exact absurd rfl hdot
  · exact absurd rfl (hdots _)
  · rfl

theorem parent?_of_lead {start body : List Char} {cs : List (List Char)}
    (hlead : lead name = (start, body)) (hcs : dropTrivialEnd (splitAtChar '/' body) = cs)
    (hne : cs ≠ []) : parent? name = some (start ++ join (dropTrivialEnd cs.dropLast)) := by
  rw [parent?, hlead]
  dsimp only
  rw [hcs]
  split
  · exact absurd rfl hne
  · rfl

theorem place_of_not_mem (hname : IsProper name) (h : '/' ∉ name) :
    place folder name = child folder name := by
  have hlead : lead name = ([], name) := by
    apply lead_of_relative
    · rintro body rfl
      exact h List.mem_cons_self
    · rintro rfl
      exact absurd hname.nontrivial (by decide)
    · rintro body rfl
      exact h (List.mem_cons_of_mem _ List.mem_cons_self)
  have hcs : dropTrivialEnd (splitAtChar '/' name) = [name] := by
    rw [splitAtChar_of_not_mem h, ← List.nil_append [name],
      dropTrivialEnd_append hname.nontrivial]
  rw [place, folder?, parent?_of_lead hlead hcs (List.cons_ne_nil _ _),
    isAbsolute_of_not_mem h]
  exact if_neg (by simp [dropTrivialEnd, join])

theorem join_ne_nil (hc : c ≠ []) (cs : List (List Char)) : join (c :: cs) ≠ [] := by
  cases cs with
  | nil => simpa [join] using hc
  | cons d ds =>
      rw [join, List.intercalate_cons_of_ne_nil (List.cons_ne_nil d ds)]
      simp [hc]

theorem exists_dropTrivialEnd_cons (h : isTrivial c = false) (cs : List (List Char)) :
    ∃ ds, dropTrivialEnd (c :: cs) = c :: ds := by
  have hlast : [c].dropWhile isTrivial = [c] := List.dropWhile_cons_of_neg (by simp [h])
  rw [dropTrivialEnd, List.reverse_cons, List.dropWhile_append, hlast]
  split
  · exact ⟨[], rfl⟩
  · exact ⟨(cs.reverse.dropWhile isTrivial).reverse, by simp⟩

theorem folder?_append (hy : IsProper y) (hslash : '/' ∉ y)
    (habs : isAbsolute (x ++ '/' :: y) = false) : (folder? (x ++ '/' :: y)).isSome := by
  have hsplit (x : List Char) : dropTrivialEnd (splitAtChar '/' (x ++ '/' :: y)) =
      splitAtChar '/' x ++ [y] := by
    rw [splitAtChar_append_cons, splitAtChar_of_not_mem hslash, dropTrivialEnd_append hy.nontrivial]
  have hroot (body : List Char) : x ++ '/' :: y ≠ '/' :: body := by
    intro hname
    rw [hname] at habs
    exact absurd habs (by simp [isAbsolute])
  suffices hparent : ∃ folder, folder ≠ [] ∧ parent? (x ++ '/' :: y) = some folder by
    obtain ⟨folder, hne, hfolder⟩ := hparent
    rw [folder?, hfolder]
    simp [hne]
  by_cases hdots : ∃ body, x ++ '/' :: y = '.' :: '/' :: body
  · obtain ⟨body, hname⟩ := hdots
    -- the text behind the dot ends in the same component
    cases x with
    | nil => exact absurd (List.cons.inj hname).1 (by decide)
    | cons d x =>
        rw [List.cons_append] at hname
        obtain ⟨rfl, hbody⟩ := List.cons.inj hname
        have hlead : lead ('.' :: x ++ '/' :: y) = (['.'], x ++ '/' :: y) := by
          rw [List.cons_append, hbody]
          rfl
        exact ⟨_, by simp, parent?_of_lead hlead (hsplit x) (by simp)⟩
  · obtain ⟨p, r, hname, hp⟩ := List.eq_append_cons_of_mem
      (List.mem_append_right x (List.mem_cons_self (a := '/') (l := y)))
    have hfirst : p ≠ [] := by
      rintro rfl
      exact hroot r hname
    have hnondot : p ≠ ['.'] := by
      rintro rfl
      exact hdots ⟨r, hname⟩
    have hcut : splitAtChar '/' x ++ [y] = p :: splitAtChar '/' r := by
      rw [← splitAtChar_append hp, ← hname, splitAtChar_append_cons, splitAtChar_of_not_mem hslash]
    have hlead : lead (x ++ '/' :: y) = ([], x ++ '/' :: y) := by
      refine lead_of_relative hroot (fun hname => ?_) (not_exists.1 hdots)
      exact absurd (congrArg ('/' ∈ ·) hname) (by simp)
    obtain ⟨ds, hds⟩ := exists_dropTrivialEnd_cons (c := p) (by simp [isTrivial, hfirst, hnondot])
      (splitAtChar '/' r).dropLast
    refine ⟨_, ?_, parent?_of_lead hlead ((hsplit x).trans hcut) (by simp)⟩
    rw [List.dropLast_cons_of_ne_nil (splitAtChar_ne_nil '/' r), hds, List.nil_append]
    exact join_ne_nil hfirst ds

theorem place_of_mem (hy : IsProper y) (hslash : '/' ∉ y) :
    place folder (x ++ '/' :: y) = x ++ '/' :: y := by
  cases habs : isAbsolute (x ++ '/' :: y) with
  | true => rw [place, habs, if_pos (Or.inl rfl)]
  | false => rw [place, if_pos (Or.inr (folder?_append hy hslash habs))]

end Path

namespace FileTree

variable {t t' : FileTree} {l d k : Location} {name : List Char} {cs ds : List (List Char)}
  {path folder : String} {bytes : List UInt8} {folders : List Location} {target : Target}

theorem entry_eq_folder_iff : t.entry l = .folder ↔ l = [] ∨ l ∈ t.folders := by
  rw [entry]
  split
  · rename_i h
    exact iff_of_true rfl h
  · rename_i h
    split <;> exact iff_of_false (by simp) h

def pass (folders : List Location) (l : Location) : List (List Char) → Option Location
  | [] => some l
  | c :: cs =>
    if Path.isTrivial c then pass folders l cs
    else if c = "..".toList then pass folders l.dropLast cs
    else if isTooLong c then none
    else if folders.contains (l ++ [c]) then pass folders (l ++ [c]) cs
    else none

theorem pass_append : pass folders l (cs ++ ds) = (pass folders l cs).bind (pass folders · ds) := by
  induction cs generalizing l with
  | nil => rfl
  | cons c cs ih =>
      rw [List.cons_append, pass, pass]
      split
      · exact ih
      · split
        · exact ih
        · split
          · rfl
          · split
            · exact ih
            · rfl

theorem pass_concat_nil : pass folders l (cs ++ [[]]) = pass folders l cs := by
  rw [pass_append]
  cases pass folders l cs <;> rfl

def at? (t : FileTree) (l : Location) : Target :=
  match t.entry l with
  | .folder => .folder
  | .file bytes => .file l bytes
  | .absent => .free l false

theorem follow_concat_eq_ok_iff (hname : Path.IsProper name) :
    t.follow l (cs ++ [name]) = .ok target ↔
      ∃ d, pass t.folders l cs = some d ∧ isTooLong name = false ∧
        target = t.at? (d ++ [name]) := by
  induction cs generalizing l with
  | nil =>
      rw [List.nil_append, follow, if_neg (by simp [hname.nontrivial]), if_neg hname.down]
      cases hlong : isTooLong name with
      | true => simp
      | false =>
          simp only [Bool.false_eq_true, if_false, pass, Option.some.injEq, exists_eq_left',
            true_and, at?]
          cases t.entry (l ++ [name]) <;> simp [follow, eq_comm]
  | cons c cs ih =>
      rw [List.cons_append, follow, pass]
      split
      · exact ih
      · split
        · exact ih
        · cases hlong : isTooLong c with
          | true => simp
          | false =>
              simp only [Bool.false_eq_true, if_false]
              cases hentry : t.entry (l ++ [c]) with
              | folder =>
                  have hmem := (entry_eq_folder_iff.1 hentry).resolve_left (by simp)
                  rw [if_pos (List.contains_iff_mem.2 hmem)]
                  exact ih
              | file bytes =>
                  have hmem : l ++ [c] ∉ t.folders := fun h =>
                    absurd (entry_eq_folder_iff.2 (Or.inr h)) (by simp [hentry])
                  simp [hmem]
              | absent =>
                  have hmem : l ++ [c] ∉ t.folders := fun h =>
                    absurd (entry_eq_folder_iff.2 (Or.inr h)) (by simp [hentry])
                  simp [hmem, hname.ne_nil]

theorem find_eq_ok_iff (hname : Path.IsProper name)
    (hsplit : splitAtChar '/' path.toList = cs ++ [name]) :
    t.find path = .ok target ↔ pathFault? path = none ∧
      ∃ d, pass t.folders (t.start path.toList) cs = some d ∧ isTooLong name = false ∧
        target = t.at? (d ++ [name]) := by
  have hpath : path ≠ "" := by
    rintro rfl
    have hempty : [([] : List Char)].getLast? = (cs ++ [name]).getLast? := congrArg _ hsplit
    rw [List.getLast?_concat] at hempty
    exact hname.ne_nil (Option.some.inj hempty).symm
  rw [find, if_neg hpath]
  cases pathFault? path with
  | some fault => simp
  | none => simpa [hsplit] using follow_concat_eq_ok_iff hname

theorem lookup_cons_eq (file : Location × List UInt8) (files : List (Location × List UInt8)) :
    (file :: files).lookup k = if k = file.1 then some file.2 else files.lookup k := by
  rw [List.lookup_cons]
  split
  · rename_i h
    rw [if_pos (beq_iff_eq.1 h)]
  · rename_i h
    rw [if_neg (by simpa using h)]

theorem lookup_setFile (files : List (Location × List UInt8)) :
    (setFile l bytes files).lookup k = if k = l then some bytes else files.lookup k := by
  induction files with
  | nil => exact lookup_cons_eq _ _
  | cons file files ih =>
      rw [setFile]
      split
      · rename_i hj
        rw [lookup_cons_eq, lookup_cons_eq, hj]
        split <;> rfl
      · rename_i hj
        rw [lookup_cons_eq, lookup_cons_eq, ih]
        by_cases hk : k = file.1
        · rw [if_pos hk, if_pos hk, if_neg (hk ▸ hj)]
        · rw [if_neg hk, if_neg hk]

theorem makeFrom_snd : (t.makeFrom l cs).2.files = t.files ∧ (t.makeFrom l cs).2.here = t.here := by
  induction cs generalizing t l with
  | nil => exact ⟨rfl, rfl⟩
  | cons c cs ih =>
      rw [makeFrom]
      split
      · exact ih
      · split
        · exact ih
        · split
          · exact ⟨rfl, rfl⟩
          · split
            · exact ih
            · exact ⟨rfl, rfl⟩
            · exact ih

theorem makeFolder_snd (t : FileTree) (path : String) :
    (t.makeFolder path).2.files = t.files ∧ (t.makeFolder path).2.here = t.here := by
  rw [makeFolder]
  split
  · exact ⟨rfl, rfl⟩
  · exact makeFrom_snd

def folderAt? (t : FileTree) (path : List Char) : Option Location :=
  pass t.folders (t.start path) (splitAtChar '/' path)

/-- A path leads to a file that lies directly in the folder that another path leads to. -/
def LiesIn (t : FileTree) (path : String) (folder : List Char) : Prop :=
  ∃ d name bytes, t.folderAt? folder = some d ∧ t.find path = .ok (.file (d ++ [name]) bytes)

theorem liesIn_iff {folder : List Char} (h : t.find path = .ok (.file (d ++ [name]) bytes)) :
    t.LiesIn path folder ↔ t.folderAt? folder = some d := by
  constructor
  · rintro ⟨d', name', bytes', hd', h'⟩
    have hsame := h.symm.trans h'
    simp only [Except.ok.injEq, Target.file.injEq] at hsame
    obtain ⟨rfl, -⟩ := List.append_inj' hsame.1 rfl
    exact hd'
  · exact fun hd => ⟨d, name, bytes, hd, h⟩

/-- A path leads to a file with the given bytes, and there was no change to any other file. -/
def Wrote (t t' : FileTree) (path : String) (bytes : List UInt8) : Prop :=
  ∃ l, t'.find path = .ok (.file l bytes) ∧ ∀ k, k ≠ l → t'.files.lookup k = t.files.lookup k

def withFile (t : FileTree) (l : Location) (bytes : List UInt8) : FileTree :=
  { t with files := setFile l bytes t.files }

theorem lookup_withFile (t : FileTree) :
    (t.withFile l bytes).files.lookup k = if k = l then some bytes else t.files.lookup k :=
  lookup_setFile t.files

theorem entry_withFile (h : t.entry l ≠ .folder) : (t.withFile l bytes).entry l = .file bytes := by
  have hfree : ¬ (l = [] ∨ l ∈ (t.withFile l bytes).folders) := fun hl =>
    h (entry_eq_folder_iff.2 hl)
  rw [entry, if_neg hfree, lookup_withFile, if_pos rfl]

theorem put_eq_ok (hname : Path.IsProper name)
    (hsplit : splitAtChar '/' path.toList = cs ++ [name]) (h : t.put path bytes = .ok t') :
    pathFault? path = none ∧ ∃ d, pass t.folders (t.start path.toList) cs = some d ∧
      isTooLong name = false ∧ t.entry (d ++ [name]) ≠ .folder ∧
      t' = t.withFile (d ++ [name]) bytes := by
  rw [put] at h
  cases hfind : t.find path with
  | error fault =>
      rw [hfind] at h
      exact absurd h (by simp [bind, Except.bind])
  | ok target =>
      obtain ⟨hfault, d, hd, hshort, rfl⟩ := (find_eq_ok_iff hname hsplit).1 hfind
      refine ⟨hfault, d, hd, hshort, ?_⟩
      rw [hfind, at?] at h
      cases hentry : t.entry (d ++ [name]) with
      | folder =>
          rw [hentry] at h
          exact absurd h (by simp [bind, Except.bind, throw, throwThe, MonadExceptOf.throw])
      | file old | absent =>
          rw [hentry] at h
          exact ⟨by simp, (Except.ok.inj h).symm⟩

theorem put_spec (hname : Path.IsProper name)
    (hsplit : splitAtChar '/' path.toList = cs ++ [name]) (h : t.put path bytes = .ok t') :
    t.Wrote t' path bytes ∧ ∃ d, pass t'.folders (t'.start path.toList) cs = some d ∧
      t'.find path = .ok (.file (d ++ [name]) bytes) := by
  obtain ⟨hfault, d, hd, hshort, hfolder, rfl⟩ := put_eq_ok hname hsplit h
  have hfind : (t.withFile (d ++ [name]) bytes).find path =
      .ok (.file (d ++ [name]) bytes) := by
    refine (find_eq_ok_iff hname hsplit).2 ⟨hfault, d, hd, hshort, ?_⟩
    rw [at?, entry_withFile hfolder]
  exact ⟨⟨_, hfind, fun k hk => (lookup_withFile t).trans (if_neg hk)⟩, d, hd, hfind⟩

theorem start_append_cons (t : FileTree) (x y : List Char) :
    t.start (x ++ '/' :: y) = t.start (x ++ ['/']) := by
  cases x <;> rfl

theorem folderAt?_append_slash (t : FileTree) (x : List Char) :
    t.folderAt? (x ++ ['/']) = pass t.folders (t.start (x ++ ['/'])) (splitAtChar '/' x) := by
  rw [folderAt?, splitAtChar_append_cons]
  exact pass_concat_nil

theorem splitAtChar_child (folder : List Char) {name : List Char} (h : '/' ∉ name) :
    ∃ cs, splitAtChar '/' (Path.child folder name) = cs ++ [name] ∧ ∀ t : FileTree,
      pass t.folders (t.start (Path.child folder name)) cs = t.folderAt? folder := by
  by_cases hempty : folder = []
  · subst hempty
    have hstart (t : FileTree) : t.start name = t.start [] := by
      rw [start, start, Path.isAbsolute_of_not_mem h]
      rfl
    refine ⟨[], splitAtChar_of_not_mem h, fun t => ?_⟩
    change some (t.start name) = some (t.start [])
    rw [hstart]
  · by_cases hlast : folder.getLast? = some '/'
    · obtain ⟨x, rfl⟩ := List.getLast?_eq_some_iff.1 hlast
      have hchild : Path.child (x ++ ['/']) name = x ++ '/' :: name := by
        rw [Path.child, if_pos (Or.inr hlast), List.append_assoc, List.singleton_append]
      refine ⟨splitAtChar '/' x, ?_, fun t => ?_⟩
      · rw [hchild, splitAtChar_append_cons, splitAtChar_of_not_mem h]
      · rw [hchild, start_append_cons, folderAt?_append_slash]
    · have hchild : Path.child folder name = folder ++ '/' :: name := by
        rw [Path.child, if_neg (by simp [hempty, hlast])]
      have hstart (t : FileTree) : t.start (folder ++ '/' :: name) = t.start folder := by
        obtain ⟨c, cs, rfl⟩ := List.exists_cons_of_ne_nil hempty
        rfl
      refine ⟨splitAtChar '/' folder, ?_, fun t => ?_⟩
      · rw [hchild, splitAtChar_append_cons, splitAtChar_of_not_mem h]
      · rw [hchild, hstart, folderAt?]

/-- Where a name with an extension is placed: below the folder, or where the name itself says. -/
theorem splitAtChar_place (folder stem : List Char) : ∃ cs base, Path.IsProper base ∧
    splitAtChar '/' (Path.place folder (stem ++ ".sql".toList)) = cs ++ [base] ∧
    ∀ t : FileTree, pass t.folders (t.start (Path.place folder (stem ++ ".sql".toList))) cs =
      t.folderAt? (if '/' ∈ stem then Path.upToSlash stem else folder) := by
  by_cases hslash : '/' ∈ stem
  · obtain ⟨x, y, rfl, hy⟩ := Path.exists_last_slash hslash
    have hbase : '/' ∉ y ++ ".sql".toList := by simp [hy]
    have hproper : Path.IsProper (y ++ ".sql".toList) := Path.isProper_of_length (by simp)
    refine ⟨splitAtChar '/' x, y ++ ".sql".toList, hproper, ?_, fun t => ?_⟩
    · rw [List.append_assoc, List.cons_append, Path.place_of_mem hproper hbase,
        splitAtChar_append_cons, splitAtChar_of_not_mem hbase]
    · rw [List.append_assoc, List.cons_append, Path.place_of_mem hproper hbase, if_pos hslash,
        Path.upToSlash_append hy, folderAt?_append_slash, start_append_cons]
  · have hname : '/' ∉ stem ++ ".sql".toList := by simp [hslash]
    have hproper : Path.IsProper (stem ++ ".sql".toList) := Path.isProper_of_length (by simp)
    obtain ⟨cs, hsplit, hpass⟩ := splitAtChar_child folder hname
    rw [Path.place_of_not_mem hproper hname, if_neg hslash]
    exact ⟨cs, _, hproper, hsplit, hpass⟩

end FileTree

end IndexTuning
