import IndexTuning.Proofs.Sql.Chain
import IndexTuning.Proofs.Sql.Identifier
import IndexTuning.Proofs.Sql.Statement
import IndexTuning.Proofs.Sql.TableScan

namespace IndexTuning.Sql.TableScan

open Text Scanner

variable {a r w x y : List Char} {n : Nat}

def startsRegular (c : Char) : Bool := c == '#' || isWord c && !isDecimalDigit c

def isRegularName (name : List Char) : Bool :=
  name.head?.any startsRegular && name.all Statement.isNamePart

inductive Part
  | bracketed (name : List Char) (h : name ≠ [])
  | regular (name : List Char) (h : isRegularName name)
  | omitted

/-- How much of a part the pattern for table names reads. -/
inductive Extent
  | nothing
  | beginning (piece : List Char)
  | whole (piece : List Char)

namespace Part

def name : Part → List Char
  | bracketed name _ => name
  | regular name _ => name
  | omitted => []

def text : Part → List Char
  | bracketed name _ => Identifier.bracket name
  | regular name _ => name
  | omitted => []

def EndsBefore : Part → List Char → Prop
  | bracketed _ _, x => x.head? ≠ some ']'
  | regular _ _, x => ∀ c ∈ x.head?, Statement.isNamePart c = false
  | omitted, x => x.head? = some '.'

/-- A doubled bracket ends the piece at its first half, a line break leaves it without an end, and
a plain piece begins with a Latin letter, an underscore or a number sign and holds no `@`. -/
def extent : Part → Extent
  | bracketed name _ =>
    match name.takeWhile isInsideBrackets, name.dropWhile isInsideBrackets with
    | [], _ => .nothing
    | q, [] => .whole ('[' :: (q ++ [']']))
    | q, c :: _ => if c = ']' then .beginning ('[' :: (q ++ [']'])) else .nothing
  | regular name _ =>
    if name.head?.any startsPlainPart then
      if name.all continuesPlainPart then .whole name
      else .beginning (name.takeWhile continuesPlainPart)
    else .nothing
  | omitted => .nothing

end Part

def chainText (parts : List Part) : List Char := joinDots (parts.map Part.text)

/-- The pieces that the pattern reads of a dotted name, `n` at most: it stops, wherever that is, at
the first part that it does not read as a whole. -/
def piecesOf : Nat → List Part → List (List Char)
  | 0, _ => []
  | _ + 1, [] => []
  | n + 1, p :: ps =>
    match p.extent with
    | .nothing => []
    | .beginning w => [w]
    | .whole w => w :: piecesOf n ps

def readParts (parts : List Part) : List (List Char) :=
  (piecesOf 3 parts).map fun w => trim (trimWhere isBracket w)

theorem isNamePart_of_continuesPlainPart {c : Char} (h : continuesPlainPart c) :
    Statement.isNamePart c := by
  simp only [continuesPlainPart, Statement.isNamePart, Bool.or_eq_true] at h ⊢
  tauto

theorem bracketedPart_eq_none {q : List Char} {c : Char} (hq : ∀ d ∈ q, isInsideBrackets d)
    (hc : isInsideBrackets c = false) (hnone : q = [] ∨ c ≠ ']') :
    bracketedPart ('[' :: (q ++ c :: x)) = none := by
  rw [Option.eq_none_iff_forall_ne_some]
  intro r hr
  obtain ⟨t, ht, hrest⟩ := comp_eq_some.1 hr
  obtain rfl := (List.cons_eq_cons.1 (char_eq_some.1 ht)).2
  obtain ⟨t, ht, hclose⟩ := comp_eq_some.1 hrest
  obtain ⟨u, hu, hne, hinside, hhead⟩ := many1_eq_some.1 ht
  have hdrop := dropWhile_append_of_head isInsideBrackets hinside hhead
  have hdrop' := dropWhile_append_of_head isInsideBrackets (r := c :: x) hq
    fun d hd => Option.some.inj hd ▸ hc
  rw [← hu, hdrop'] at hdrop
  subst hdrop
  rcases hnone with rfl | hne'
  · exact hne (List.append_cancel_right (hu.symm : u ++ c :: x = [] ++ c :: x))
  · exact hne' (List.cons_eq_cons.1 (char_eq_some.1 hclose)).1

theorem plainPart_open (s : List Char) : plainPart ('[' :: s) = none := by
  rw [plainPart, if_neg (by decide)]

def Extent.Describes (p : Part) (y : List Char) : Extent → Prop
  | .nothing => part (p.text ++ y) = none
  | .beginning w => IsPiece w ∧
      ∃ c z, p.text = w ++ c :: z ∧ c ≠ '.' ∧ Closes (c :: (z ++ y)) w
  | .whole w => IsPiece w ∧ p.text = w ∧ Closes y w

namespace Part

theorem endsBefore_dot (p : Part) (s : List Char) : p.EndsBefore ('.' :: s) := by
  cases p with
  | bracketed => exact fun h => absurd (Option.some.inj h) (by decide)
  | regular =>
      intro c hc
      obtain rfl := Option.some.inj hc
      decide
  | omitted => rfl

theorem describes_bracketed (name : List Char) (h : name ≠ []) (y : List Char) :
    Extent.Describes (bracketed name h) y (bracketed name h).extent := by
  have hinside : ∀ c ∈ name.takeWhile isInsideBrackets, isInsideBrackets c :=
    fun c hc => List.mem_takeWhile_imp hc
  have hhead := head?_dropWhile_neg isInsideBrackets name
  have hname : name.takeWhile isInsideBrackets ++ name.dropWhile isInsideBrackets = name :=
    List.takeWhile_append_dropWhile
  rw [extent]
  generalize name.takeWhile isInsideBrackets = q at *
  generalize name.dropWhile isInsideBrackets = rest at *
  have hopen : ']' ∉ q := fun hmem => absurd (hinside _ hmem) (by decide)
  have htext : (bracketed name h).text = '[' :: (q ++ (Identifier.doubleClosing rest ++ [']'])) := by
    rw [text, Identifier.bracket, ← hname, Identifier.doubleClosing_append,
      Identifier.doubleClosing_of_not_mem hopen, List.append_assoc]
  have hnothing {c : Char} {z : List Char} (hc : isInsideBrackets c = false)
      (hz : Identifier.doubleClosing rest ++ [']'] = c :: z) (hnone : q = [] ∨ c ≠ ']') :
      part ((bracketed name h).text ++ y) = none := by
    have hread := bracketedPart_eq_none (x := z ++ y) hinside hc hnone
    rw [htext, hz, List.cons_append, List.append_assoc, List.cons_append, part, hread,
      plainPart_open]
    rfl
  cases rest with
  | nil =>
      cases q with
      | nil => exact absurd hname.symm h
      | cons d q => exact ⟨.bracketed (List.cons_ne_nil d q) hinside, htext, Or.inl rfl⟩
  | cons c rest =>
      have hc := hhead c rfl
      by_cases hclose : c = ']'
      · subst hclose
        rw [Identifier.doubleClosing, if_pos rfl] at htext hnothing
        cases q with
        | nil => exact hnothing hc rfl (Or.inl rfl)
        | cons d q =>
            refine ⟨.bracketed (List.cons_ne_nil d q) hinside, ']',
              Identifier.doubleClosing rest ++ [']'], ?_, by decide, Or.inl rfl⟩
            rw [htext]
            simp
      · rw [Identifier.doubleClosing, if_neg hclose] at hnothing
        have hnone := hnothing hc rfl (Or.inr hclose)
        cases q with
        | nil => exact hnone
        | cons d q =>
            simp only [if_neg hclose]
            exact hnone

theorem describes_regular (name : List Char) (h : isRegularName name) (y : List Char)
    (hy : (regular name h).EndsBefore y) :
    Extent.Describes (regular name h) y (regular name h).extent := by
  obtain ⟨hfirst, hall⟩ := Bool.and_eq_true_iff.1 h
  rw [List.all_eq_true] at hall
  obtain ⟨c, s, rfl⟩ : ∃ c s, name = c :: s := by
    cases name with
    | nil => exact absurd hfirst Bool.false_ne_true
    | cons c s => exact ⟨c, s, rfl⟩
  by_cases hstart : startsPlainPart c
  · have hcont := continuesPlainPart_of_startsPlainPart hstart
    rw [extent, if_pos (show (c :: s).head?.any startsPlainPart from hstart)]
    split
    · rename_i hwhole
      rw [List.all_eq_true] at hwhole
      refine ⟨.plain hstart fun d hd => hwhole d (List.mem_cons_of_mem c hd), rfl, Or.inr ?_⟩
      intro d hd
      cases hd' : continuesPlainPart d with
      | false => rfl
      | true =>
          have hnot := hy d hd
          rw [isNamePart_of_continuesPlainPart hd'] at hnot
          exact Bool.noConfusion hnot
    · rename_i hsome
      have hname : (c :: s).takeWhile continuesPlainPart ++ (c :: s).dropWhile continuesPlainPart =
          c :: s := List.takeWhile_append_dropWhile
      obtain ⟨d, z, hd⟩ : ∃ d z, (c :: s).dropWhile continuesPlainPart = d :: z := by
        apply List.exists_cons_of_ne_nil
        rw [Ne, List.dropWhile_eq_nil_iff]
        exact fun hwhole => hsome (List.all_eq_true.2 hwhole)
      have hnot := head?_dropWhile_neg continuesPlainPart (c :: s) d (by rw [hd]; rfl)
      have hmem : d ∈ c :: s := by
        rw [← hname, hd]
        exact List.mem_append_right _ List.mem_cons_self
      refine ⟨?_, d, z, ?_, ?_, Or.inr ?_⟩
      · rw [List.takeWhile_cons_of_pos hcont]
        exact .plain hstart fun d hd => List.mem_takeWhile_imp hd
      · rw [← hd, hname]
        rfl
      · rintro rfl
        exact absurd (hall _ hmem) (by decide)
      · rintro e he
        obtain rfl := Option.some.inj he
        exact hnot
  · rw [extent, if_neg (show ¬ (c :: s).head?.any startsPlainPart from hstart)]
    have hopen : c ≠ '[' := by
      rintro rfl
      exact absurd (hall _ List.mem_cons_self) (by decide)
    change ((Scanner.char '[' (c :: (s ++ y))).bind _ <|> plainPart (c :: (s ++ y))) = none
    rw [Scanner.char, if_neg hopen, plainPart, if_neg hstart]
    rfl

theorem describes (p : Part) {y : List Char} (hy : p.EndsBefore y) :
    Extent.Describes p y p.extent := by
  cases p with
  | bracketed name h => exact describes_bracketed name h y
  | regular name h => exact describes_regular name h y hy
  | omitted =>
      obtain ⟨z, rfl⟩ := List.head?_eq_some_iff.1 hy
      rfl

end Part

theorem isPiece_piecesOf (n : Nat) (ps : List Part) : ∀ w ∈ piecesOf n ps, IsPiece w := by
  induction n generalizing ps with
  | zero => exact List.forall_mem_nil _
  | succ n ih =>
      cases ps with
      | nil => exact List.forall_mem_nil _
      | cons p ps =>
          have hp := p.describes (p.endsBefore_dot [])
          rw [piecesOf]
          split
          · exact List.forall_mem_nil _
          · rename_i w hw
            rw [hw] at hp
            exact List.forall_mem_singleton.2 hp.1
          · rename_i w hw
            rw [hw] at hp
            exact List.forall_mem_cons.2 ⟨hp.1, ih ps⟩

theorem length_piecesOf_le (n : Nat) (ps : List Part) : (piecesOf n ps).length ≤ n := by
  induction n generalizing ps with
  | zero => exact Nat.le_refl _
  | succ n ih =>
      cases ps with
      | nil => exact Nat.zero_le _
      | cons p ps =>
          rw [piecesOf]
          split
          · exact Nat.zero_le _
          · exact Nat.succ_le_succ (Nat.zero_le _)
          · exact Nat.succ_le_succ (ih ps)

theorem endsBefore_dotted {p : Part} {ps : List Part}
    (hx : ∀ q ∈ (p :: ps).getLast?, q.EndsBefore x) :
    p.EndsBefore (dotted (ps.map Part.text) ++ x) := by
  cases ps with
  | nil => exact hx p rfl
  | cons q ps => exact p.endsBefore_dot _

/-- Each turn reads one part. The first that is not read as a whole ends the reading. -/
theorem exists_follow_parts (n : Nat) {ps : List Part}
    (hx : ∀ p ∈ ps.getLast?, p.EndsBefore x) (hdot : x.head? ≠ some '.') :
    ∃ r, follow n (dotted (ps.map Part.text) ++ x) = some r ∧
      dotted (ps.map Part.text) ++ x = dotted (piecesOf n ps) ++ r := by
  induction n generalizing ps with
  | zero => exact ⟨_, rfl, rfl⟩
  | succ n ih =>
      cases ps with
      | nil => exact ⟨x, follow_of_none (nextPart_eq_none hdot) _, rfl⟩
      | cons p ps =>
          have hp := p.describes (endsBefore_dotted hx)
          rw [List.map_cons, dotted_cons, List.cons_append, List.append_assoc, piecesOf]
          cases he : p.extent with
          | nothing =>
              rw [he] at hp
              have hnone : nextPart ('.' :: (p.text ++ (dotted (ps.map Part.text) ++ x))) = none := hp
              exact ⟨_, follow_of_none hnone _, rfl⟩
          | beginning w =>
              rw [he] at hp
              obtain ⟨hw, c, z, htext, hc, hcloses⟩ := hp
              rw [htext, List.append_assoc, List.cons_append]
              refine ⟨_, (follow_of_some (hw.read_nextPart hcloses) n).trans
                (follow_of_none (nextPart_eq_none (by simp [hc])) n), ?_⟩
              rw [dotted_cons, List.cons_append, List.append_assoc]
              rfl
          | whole w =>
              rw [he] at hp
              obtain ⟨hw, rfl, hcloses⟩ := hp
              have hlast : ∀ q ∈ ps.getLast?, q.EndsBefore x := by
                intro q hq
                apply hx
                rw [List.getLast?_cons, Option.mem_def.1 hq]
                rfl
              obtain ⟨r, hr, htext⟩ := ih hlast
              refine ⟨r, (follow_of_some (hw.read_nextPart hcloses) n).trans hr, ?_⟩
              rw [dotted_cons, List.cons_append, List.append_assoc, htext]

theorem eq_joinDots_of_chain {ps : List Part} (hne : ps ≠ [])
    (hx : ∀ p ∈ ps.getLast?, p.EndsBefore x) (hdot : x.head? ≠ some '.')
    (h : chain (chainText ps ++ x) = some r) :
    chainText ps ++ x = joinDots (piecesOf 3 ps) ++ r := by
  have hdotted : dotted (ps.map Part.text) ++ x = '.' :: (chainText ps ++ x) := by
    obtain ⟨p, ps, rfl⟩ := List.exists_cons_of_ne_nil hne
    rw [chainText, List.map_cons, joinDots_eq_dotted, dotted_cons, List.cons_append]
  obtain ⟨r', hread, htext⟩ := exists_follow_parts 3 hx hdot
  rw [hdotted] at hread htext
  obtain rfl := Option.some.inj ((follow_of_chain h).symm.trans hread)
  cases hpieces : piecesOf 3 ps with
  | nil =>
      rw [hpieces] at htext
      have hlength := (shortens_chain _ _ h).length_le
      rw [← show '.' :: (chainText ps ++ x) = r from htext] at hlength
      exact absurd hlength (Nat.not_succ_le_self _)
  | cons w ws =>
      rw [hpieces, dotted_cons, List.cons_append] at htext
      rw [joinDots_eq_dotted]
      exact (List.cons_eq_cons.1 htext).2

theorem extent_of_writes {p : Part} (h : Writes p.name p.text) : p.extent = .whole p.text := by
  have hread := h.isPiece.read_part (closes_dot [] p.text)
  have hp := p.describes (p.endsBefore_dot [])
  cases he : p.extent with
  | nothing =>
      rw [he] at hp
      exact absurd (hread.symm.trans hp) (by simp)
  | beginning w =>
      rw [he] at hp
      obtain ⟨hw, c, z, htext, -, hcloses⟩ := hp
      rw [htext, List.append_assoc, List.cons_append, hw.read_part hcloses] at hread
      have hlength := congrArg List.length (Option.some.inj hread)
      simp only [List.length_cons, List.length_append] at hlength
      omega
  | whole w =>
      rw [he] at hp
      rw [hp.2.1]

theorem piecesOf_of_writes {ps : List Part} (h : ∀ p ∈ ps, Writes p.name p.text)
    (hlength : ps.length ≤ n) : piecesOf n ps = ps.map Part.text := by
  induction ps generalizing n with
  | nil => cases n <;> rfl
  | cons p ps ih =>
      obtain ⟨hp, hps⟩ := List.forall_mem_cons.1 h
      cases n with
      | zero => exact absurd hlength (Nat.not_succ_le_zero _)
      | succ n =>
          simp only [piecesOf, extent_of_writes hp]
          rw [ih hps (Nat.le_of_succ_le_succ hlength), List.map_cons]

theorem readParts_of_writes {ps : List Part} (h : ∀ p ∈ ps, Writes p.name p.text)
    (hlength : ps.length ≤ 3) : readParts ps = ps.map Part.name := by
  rw [readParts, piecesOf_of_writes h hlength, List.map_map]
  exact List.map_congr_left fun p hp => (h p hp).inner

theorem length_readParts_le (ps : List Part) : (readParts ps).length ≤ 3 := by
  rw [readParts, List.length_map]
  exact length_piecesOf_le 3 ps

theorem chainParts_eq_readParts {ps : List Part} (hne : ps ≠ [])
    (hx : ∀ p ∈ ps.getLast?, p.EndsBefore x) (hdot : x.head? ≠ some '.')
    (h : chain (a ++ r) = some r) (htext : a ++ r = chainText ps ++ x) :
    chainParts a = readParts ps := by
  rw [htext] at h
  have hpieces := eq_joinDots_of_chain hne hx hdot h
  rw [← htext] at hpieces
  rw [List.append_cancel_right hpieces, chainParts_pieces (isPiece_piecesOf 3 ps), readParts]

end IndexTuning.Sql.TableScan
