import IndexTuning.Proofs.Text.Reader
import IndexTuning.Sql.TableScan
import Mathlib.Data.List.Forall2

namespace IndexTuning.Sql.TableScan

open Text Scanner

variable {c : Char} {p q w w' w'' x : List Char} {ps ws : List (List Char)}

/-- The second text stands for the first as a part of a chain. -/
inductive Writes : List Char → List Char → Prop
  | bracketed {p : List Char} : Tight p → (∀ c ∈ p, isInsideBrackets c ∧ c ≠ '[') →
      Writes p ('[' :: (p ++ [']']))
  | plain {c : Char} {s : List Char} : startsPlainPart c → (∀ d ∈ s, continuesPlainPart d) →
      Writes (c :: s) (c :: s)

theorem continuesPlainPart_of_startsPlainPart (h : startsPlainPart c) :
    continuesPlainPart c := by
  rw [startsPlainPart, Bool.or_eq_true, Bool.or_eq_true, beq_iff_eq, beq_iff_eq] at h
  rcases h with (rfl | rfl) | h
  · decide
  · decide
  · rw [continuesPlainPart, isWord_of_isLatinLetter h, Bool.or_true]

theorem isBlank_of_continuesPlainPart (h : continuesPlainPart c) : isBlank c = false := by
  cases hb : isBlank c with
  | false => rfl
  | true =>
      have hnot := forall_isBlank (fun c => continuesPlainPart c = false) (by decide +kernel) c hb
      rw [h] at hnot
      exact hnot

theorem isBracket_of_continuesPlainPart (h : continuesPlainPart c) : isBracket c = false := by
  rw [isBracket, Bool.or_eq_false_iff, beq_eq_false_iff_ne, beq_eq_false_iff_ne]
  constructor
  · rintro rfl
    exact absurd h (by decide)
  · rintro rfl
    exact absurd h (by decide)

theorem isInsideBrackets_iff : isInsideBrackets c ↔ c ≠ ']' ∧ c ≠ '\r' ∧ c ≠ '\n' := by
  simp [isInsideBrackets, and_assoc]

theorem read_closed {q : Char → Bool} (hne : p ≠ []) (hp : ∀ c ∈ p, q c) (hq : q ']' = false)
    (x : List Char) :
    (Scanner.char '[' >=> many1 q >=> Scanner.char ']') ('[' :: (p ++ ']' :: x)) = some x := by
  refine comp_eq_some.2 ⟨_, char_eq_some.2 rfl, comp_eq_some.2 ⟨']' :: x, ?_, char_eq_some.2 rfl⟩⟩
  refine many1_eq_some.2 ⟨p, rfl, hne, hp, ?_⟩
  intro c hc
  obtain rfl := Option.some.inj hc
  exact hq

inductive IsPiece : List Char → Prop
  | bracketed {q : List Char} : q ≠ [] → (∀ c ∈ q, isInsideBrackets c) →
      IsPiece ('[' :: (q ++ [']']))
  | plain {c : Char} {s : List Char} : startsPlainPart c → (∀ d ∈ s, continuesPlainPart d) →
      IsPiece (c :: s)

theorem Writes.isPiece (h : Writes p w) : IsPiece w := by
  cases h with
  | bracketed htight hinside => exact .bracketed htight.ne_nil fun c hc => (hinside c hc).1
  | plain hstart hmore => exact .plain hstart hmore

/-- The text does not go on with the piece in front of it. A bracket needs no such text. -/
def Closes (x w : List Char) : Prop :=
  w.head? = some '[' ∨ ∀ c ∈ x.head?, continuesPlainPart c = false

theorem closes_dot (s w : List Char) : Closes ('.' :: s) w := by
  right
  intro c hc
  obtain rfl := Option.some.inj hc
  decide

theorem exists_piece_of_part {s r : List Char} (h : part s = some r) : ∃ w, s = w ++ r ∧ IsPiece w := by
  change (bracketedPart s <|> plainPart s) = some r at h
  cases hb : bracketedPart s with
  | some t =>
      rw [hb] at h
      obtain rfl : t = r := Option.some.inj h
      obtain ⟨u, hopen, hrest⟩ := comp_eq_some.1 hb
      obtain ⟨v, hinside, hclose⟩ := comp_eq_some.1 hrest
      obtain ⟨q, rfl, hne, hq, -⟩ := many1_eq_some.1 hinside
      rw [char_eq_some.1 hclose] at hopen
      refine ⟨'[' :: (q ++ [']']), ?_, .bracketed hne hq⟩
      rw [char_eq_some.1 hopen]
      simp
  | none =>
      rw [hb] at h
      change plainPart s = some r at h
      cases s with
      | nil => exact absurd h (by simp [plainPart])
      | cons c s =>
          rw [plainPart] at h
          split at h
          · rename_i hstart
            obtain rfl := Option.some.inj h
            refine ⟨c :: s.takeWhile continuesPlainPart, ?_, .plain hstart ?_⟩
            · rw [List.cons_append, List.takeWhile_append_dropWhile]
            · exact fun d hd => List.mem_takeWhile_imp hd
          · exact absurd h (by simp)

namespace IsPiece

theorem ne_nil (h : IsPiece w) : w ≠ [] := by
  cases h with
  | bracketed => exact List.cons_ne_nil _ _
  | plain => exact List.cons_ne_nil _ _

theorem isBlank_head (h : IsPiece w) (x : List Char) :
    ∀ c ∈ (w ++ x).head?, isBlank c = false := by
  intro c hc
  cases h with
  | bracketed =>
      obtain rfl := Option.some.inj hc
      decide
  | plain hstart =>
      obtain rfl := Option.some.inj hc
      exact isBlank_of_continuesPlainPart (continuesPlainPart_of_startsPlainPart hstart)

theorem read_part (h : IsPiece w) (hx : Closes x w) : part (w ++ x) = some x := by
  cases h with
  | bracketed hne hinside =>
      have hread := read_closed (q := isInsideBrackets) hne hinside (by decide) x
      rw [part, bracketedPart, List.cons_append, List.append_assoc, List.singleton_append, hread]
      rfl
  | @plain c s hstart hmore =>
      have hopen : c ≠ '[' := by
        rintro rfl
        exact absurd hstart (by decide)
      have hend : ∀ c ∈ x.head?, continuesPlainPart c = false :=
        hx.resolve_left fun h => hopen (Option.some.inj h)
      rw [part, bracketedPart, List.cons_append, plainPart, if_pos hstart,
        dropWhile_append_of_head _ hmore hend]
      change ((Scanner.char '[' (c :: (s ++ x))).bind _ <|> some x) = some x
      rw [Scanner.char, if_neg hopen]
      rfl

theorem read_chainPart (h : IsPiece w) (hx : ∀ c ∈ x.head?, c = '.') (before : Option Char) :
    chainPart before (w ++ x) = some (w, x) := by
  have hread : ((Scanner.char '[' >=> many1 (· != ']') >=> Scanner.char ']') (w ++ x) <|>
      many1 (fun c => c != '.' && !isBracket c) (w ++ x)) = some x := by
    cases h with
    | bracketed hne hinside =>
        have hread := read_closed (q := (· != ']')) hne
          (fun c hc => by simpa using (isInsideBrackets_iff.1 (hinside c hc)).1) (by decide) x
        rw [List.cons_append, List.append_assoc, List.singleton_append, hread]
        rfl
    | @plain c s hstart hmore =>
        have hopen : c ≠ '[' := by
          rintro rfl
          exact absurd hstart (by decide)
        have hall : ∀ d ∈ c :: s, (d != '.' && !isBracket d) = true := by
          intro d hd
          have hcont : continuesPlainPart d := by
            rcases List.mem_cons.1 hd with rfl | hd
            · exact continuesPlainPart_of_startsPlainPart hstart
            · exact hmore d hd
          have hdot : d ≠ '.' := by
            rintro rfl
            exact absurd hcont (by decide)
          simp [hdot, isBracket_of_continuesPlainPart hcont]
        have hrest : many1 (fun c => c != '.' && !isBracket c) (c :: s ++ x) = some x := by
          refine many1_eq_some.2 ⟨c :: s, rfl, List.cons_ne_nil c s, hall, ?_⟩
          intro d hd
          rw [hx d hd]
          decide
        rw [hrest]
        change ((Scanner.char '[' (c :: (s ++ x))).bind _ <|> some x) = some x
        rw [Scanner.char, if_neg hopen]
        rfl
  rw [chainPart, hread]
  change some (consumed (w ++ x) x, x) = some (w, x)
  rw [consumed_append]

end IsPiece

namespace Writes

theorem part_ne_nil (h : Writes p w) : p ≠ [] := by
  cases h with
  | bracketed htight => exact htight.ne_nil
  | plain => exact List.cons_ne_nil _ _

theorem inner (h : Writes p w) : trim (trimWhere isBracket w) = p := by
  cases h with
  | bracketed htight hinside =>
      have hnot (c : Char) (hc : c ∈ p) : isBracket c = false := by
        obtain ⟨hin, hopen⟩ := hinside c hc
        simp [isBracket, hopen, (isInsideBrackets_iff.1 hin).1]
      have htrim := trimWhere_between (p := isBracket) (u := ['[']) (v := [']']) (d := p)
        (List.forall_mem_singleton.2 rfl) (List.forall_mem_singleton.2 rfl) htight.ne_nil (fun c hc => hnot c (List.mem_of_mem_head? hc))
        (fun c hc => hnot c (List.mem_of_getLast? hc))
      rw [← List.singleton_append, htrim, htight.trim_eq]
  | @plain c s hstart hmore =>
      have hall : ∀ d ∈ c :: s, continuesPlainPart d :=
        List.forall_mem_cons.2 ⟨continuesPlainPart_of_startsPlainPart hstart, hmore⟩
      have hbetween {q : Char → Bool} (hq : ∀ d, continuesPlainPart d → q d = false) :
          trimWhere q (c :: s) = c :: s := by
        have h := trimWhere_between (p := q) (u := []) (v := []) (d := c :: s) (by simp) (by simp)
          (List.cons_ne_nil c s) (fun d hd => hq d (hall d (List.mem_of_mem_head? hd)))
          (fun d hd => hq d (hall d (List.mem_of_getLast? hd)))
        rwa [List.nil_append, List.append_nil] at h
      rw [hbetween fun d => isBracket_of_continuesPlainPart, trim,
        hbetween fun d => isBlank_of_continuesPlainPart]

end Writes

theorem isPiece_of_writes (h : List.Forall₂ Writes ps ws) : ∀ w ∈ ws, IsPiece w := by
  induction h with
  | nil => exact List.forall_mem_nil _
  | cons hw _ ih => exact List.forall_mem_cons.2 ⟨hw.isPiece, ih⟩

def joinDots (ws : List (List Char)) : List Char := ['.'].intercalate ws

theorem joinDots_singleton (w : List Char) : joinDots [w] = w := List.intercalate_singleton

theorem joinDots_cons (h : ws ≠ []) (w : List Char) :
    joinDots (w :: ws) = w ++ '.' :: joinDots ws := by
  rw [joinDots, List.intercalate_cons_of_ne_nil h, List.append_assoc, List.singleton_append]
  rfl

/-- The parts behind the first one, each with its dot. -/
def dotted (ws : List (List Char)) : List Char := ws.flatMap ('.' :: ·)

theorem dotted_cons (w : List Char) (ws : List (List Char)) :
    dotted (w :: ws) = '.' :: (w ++ dotted ws) := List.flatMap_cons

theorem joinDots_eq_dotted (w : List Char) (ws : List (List Char)) :
    joinDots (w :: ws) = w ++ dotted ws := by
  induction ws generalizing w with
  | nil => rw [joinDots_singleton, dotted, List.flatMap_nil, List.append_nil]
  | cons w' ws ih => rw [joinDots_cons (List.cons_ne_nil _ _), ih, dotted_cons]

theorem chainPart_dot (before : Option Char) (s : List Char) :
    chainPart before ('.' :: s) = none := rfl

theorem all_chainPart_joinDots (h : ∀ w ∈ ws, IsPiece w) (before : Option Char) :
    Reader.allFrom chainPart 0 before (joinDots ws) = ws := by
  induction ws generalizing before with
  | nil => rfl
  | cons w ws ih =>
      obtain ⟨hw, hws⟩ := List.forall_mem_cons.1 h
      by_cases hnil : ws = []
      · have hread := hw.read_chainPart (x := []) (by simp) before
        have hall := Reader.allFrom_append_of_some hw.ne_nil hread
        rw [List.append_nil] at hall
        rw [hnil, joinDots_singleton]
        exact hall
      · have hread := hw.read_chainPart (x := '.' :: joinDots ws) (by simp) before
        rw [joinDots_cons hnil, Reader.allFrom_append_of_some hw.ne_nil hread,
          Reader.allFrom_cons_of_none (chainPart_dot _ _), ih hws]

theorem chainParts_pieces (h : ∀ w ∈ ws, IsPiece w) :
    chainParts (joinDots ws) = ws.map fun w => trim (trimWhere isBracket w) := by
  rw [chainParts, Reader.all, all_chainPart_joinDots h]

theorem chainParts_joinDots (h : List.Forall₂ Writes ps ws) : chainParts (joinDots ws) = ps := by
  rw [chainParts_pieces (isPiece_of_writes h)]
  induction h with
  | nil => rfl
  | cons hw _ ih => rw [List.map_cons, hw.inner, ih]

theorem chain_nil : chain [] = none := rfl

def nextPart : Scanner := Scanner.char '.' >=> part

def follow : Nat → Scanner
  | 0 => some
  | n + 1 => optional nextPart >=> follow n

theorem chain_eq_follow : chain = (part >=> follow 2) := by
  have hlast : (optional nextPart >=> some) = optional nextPart := by
    funext s
    exact Option.bind_fun_some (optional nextPart s)
  rw [follow, follow, follow, hlast]
  rfl

theorem IsPiece.read_nextPart (h : IsPiece w) (hx : Closes x w) :
    nextPart ('.' :: (w ++ x)) = some x :=
  h.read_part hx

theorem nextPart_eq_none (hx : x.head? ≠ some '.') : nextPart x = none := by
  rw [Option.eq_none_iff_forall_ne_some]
  intro r hr
  obtain ⟨t, ht, -⟩ := comp_eq_some.1 hr
  rw [char_eq_some.1 ht] at hx
  exact hx rfl

theorem follow_of_none (h : nextPart x = none) (n : Nat) : follow n x = some x := by
  induction n with
  | zero => rfl
  | succ n ih => exact comp_eq_some.2 ⟨x, optional_eq_some.2 (Or.inr ⟨h, rfl⟩), ih⟩

theorem follow_of_chain {r : List Char} (h : chain x = some r) : follow 3 ('.' :: x) = some r := by
  rw [chain_eq_follow] at h
  obtain ⟨t, ht, hrest⟩ := comp_eq_some.1 h
  exact comp_eq_some.2 ⟨t, optional_eq_some.2 (Or.inl ht), hrest⟩

theorem follow_of_some {r : List Char} (h : nextPart x = some r) (n : Nat) :
    follow (n + 1) x = follow n r := by
  change (optional nextPart x).bind (follow n) = follow n r
  rw [optional_eq_some.2 (Or.inl h), Option.bind_some]

theorem isBlank_head_joinDots (h : List.Forall₂ Writes ps ws) (hne : ws ≠ []) (x : List Char) :
    ∀ c ∈ (joinDots ws ++ x).head?, isBlank c = false := by
  cases h with
  | nil => exact absurd rfl hne
  | @cons p w ps ws hw hws =>
      rw [joinDots_eq_dotted, List.append_assoc]
      exact hw.isPiece.isBlank_head _

theorem closes_dotted (hx : ∀ w, Closes x w) (ws : List (List Char)) (w : List Char) :
    Closes (dotted ws ++ x) w := by
  cases ws with
  | nil => exact hx w
  | cons w' ws => exact closes_dot _ w

theorem follow_dotted {n : Nat} (h : ∀ w ∈ ws, IsPiece w) (hlength : ws.length ≤ n)
    (hx : ∀ w, Closes x w) (hdot : nextPart x = none) : follow n (dotted ws ++ x) = some x := by
  induction ws generalizing n with
  | nil => exact follow_of_none hdot n
  | cons w ws ih =>
      obtain ⟨hw, hws⟩ := List.forall_mem_cons.1 h
      have hread : nextPart (dotted (w :: ws) ++ x) = some (dotted ws ++ x) := by
        rw [dotted_cons, List.cons_append, List.append_assoc]
        exact hw.read_nextPart (closes_dotted hx ws w)
      cases n with
      | zero => exact absurd hlength (Nat.not_succ_le_zero _)
      | succ n =>
          rw [follow_of_some hread]
          exact ih hws (Nat.le_of_succ_le_succ hlength)

/-- A chain of up to three parts is read as a whole. -/
theorem read_chain (h : List.Forall₂ Writes ps ws) (hne : ws ≠ []) (hlength : ws.length ≤ 3)
    (hx : ∀ c ∈ x.head?, continuesPlainPart c = false ∧ c ≠ '.') :
    chain (joinDots ws ++ x) = some x := by
  have hcloses (w : List Char) : Closes x w := Or.inr fun c hc => (hx c hc).1
  have hdot : nextPart x = none := nextPart_eq_none fun h => (hx '.' h).2 rfl
  obtain ⟨w, ws, rfl⟩ := List.exists_cons_of_ne_nil hne
  obtain ⟨hw, hws⟩ := List.forall_mem_cons.1 (isPiece_of_writes h)
  rw [chain_eq_follow, joinDots_eq_dotted, List.append_assoc]
  exact comp_eq_some.2 ⟨_, hw.read_part (closes_dotted hcloses ws w),
    follow_dotted hws (Nat.le_of_succ_le_succ hlength) hcloses hdot⟩

theorem resolve_table (h : Writes p w) (htable : p.head? ≠ some '#') (database : Option String) :
    resolve database w = some ⟨database, defaultSchema, String.ofList p⟩ := by
  have hparts : chainParts w = [p] := by
    have hwrites : List.Forall₂ Writes [p] [w] := .cons h .nil
    have hall := chainParts_joinDots hwrites
    rwa [joinDots_singleton] at hall
  have hschema : defaultSchema.toList ≠ [] := by decide
  simp only [resolve, hparts]
  rw [if_neg (not_or.2 ⟨h.part_ne_nil, not_or.2 ⟨htable, hschema⟩⟩), String.ofList_toList]

end IndexTuning.Sql.TableScan
