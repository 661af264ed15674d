import IndexTuning.Proofs.Sql.Quoting
import IndexTuning.Proofs.Text.Reader

namespace IndexTuning.Sql

open Text

namespace Identifier

variable {s u : List Char}

/-- The names that stand in brackets in a text, read from the left. -/
def names (s : List Char) : List (List Char) := Reader.all (fun _ => readBracketed) s

def bares (names : List String) : List (List Char) := names.map fun name => bare name.toList

theorem allFrom_readBracketed (before : Option Char) (s : List Char) :
    Reader.allFrom (fun _ => readBracketed) 0 before s = names s := by
  apply Reader.allFrom_congr_before
  intro s
  rfl

theorem names_append_of_not_mem (h : '[' ∉ u) (s : List Char) : names (u ++ s) = names s := by
  have hnone : ∀ c ∈ u, ∀ (before : Option Char) s, readBracketed (c :: s) = none := by
    intro c hc _ s
    rw [readBracketed.eq_def]
    split
    · rename_i heq
      obtain ⟨rfl, -⟩ := List.cons_eq_cons.1 heq
      exact absurd hc h
    · rfl
  rw [names, Reader.all, Reader.allFrom_append_of_none hnone, allFrom_readBracketed]

theorem names_bracket_append (name : List Char) (h : s.head? ≠ some ']') :
    names (bracket name ++ s) = name :: names s := by
  have hread : (fun _ => readBracketed : Reader (List Char)) none (bracket name ++ s) =
      some (name, s) := readBracketed_bracket name s h
  have hne : bracket name ≠ [] := List.cons_ne_nil _ _
  rw [names, Reader.all, Reader.allFrom_append_of_some hne hread, allFrom_readBracketed]

end Identifier

namespace Statement

variable {parts : List (List Char × List Char)} {names : List (List Char)} {s : List Char}

theorem not_mem_ordinary {u : List Char} (hu : u.all Mode.isOrdinary) : '[' ∉ u ∧ ']' ∉ u := by
  constructor <;>
    · intro h
      exact absurd (List.all_eq_true.1 hu _ h) (by decide)

theorem head?_append_ne {u : List Char} (hu : ']' ∉ u) (hs : s.head? ≠ some ']') :
    (u ++ s).head? ≠ some ']' := by
  cases u with
  | nil => exact hs
  | cons c u =>
      intro h
      obtain rfl := Option.some.inj h
      exact hu List.mem_cons_self

theorem names_spellNames (hn : (parts.map Prod.snd).all (·.all Mode.isOrdinary)) :
    (spellNames parts ++ [';']).head? ≠ some ']' ∧
      Identifier.names (spellNames parts ++ [';']) = parts.map Prod.fst := by
  induction parts with
  | nil => exact ⟨by decide, rfl⟩
  | cons part parts ih =>
      rw [List.map_cons, List.all_cons, Bool.and_eq_true] at hn
      obtain ⟨hhead, hnames⟩ := ih hn.2
      obtain ⟨hopen, hclose⟩ := not_mem_ordinary hn.1
      have hcons : spellNames (part :: parts) ++ [';'] =
          Identifier.bracket part.1 ++ (part.2 ++ (spellNames parts ++ [';'])) := by
        simp only [spellNames, List.flatMap_cons, List.append_assoc]
      rw [hcons]
      refine ⟨by simp [Identifier.bracket], ?_⟩
      rw [Identifier.names_bracket_append _ (head?_append_ne hclose hhead),
        Identifier.names_append_of_not_mem hopen, hnames, List.map_cons]

/-- The text is a statement that names these, in brackets and between words that stand for
themselves. -/
def Spells (s : List Char) (names : List (List Char)) : Prop :=
  ∃ start parts, s = spell start parts ++ [';'] ∧ start.all Mode.isOrdinary ∧ begins start ∧
    (parts.map Prod.snd).all (·.all Mode.isOrdinary) ∧ parts.map Prod.fst = names

theorem Spells.isSingle (h : Spells s names) : IsSingle s := by
  obtain ⟨start, parts, rfl, hstart, hbegins, hwords, -⟩ := h
  exact isSingle_spell hstart hbegins hwords

theorem Spells.names_eq (h : Spells s names) : Identifier.names s = names := by
  obtain ⟨start, parts, rfl, hstart, -, hwords, rfl⟩ := h
  rw [spell, List.append_assoc, Identifier.names_append_of_not_mem (not_mem_ordinary hstart).1]
  exact (names_spellNames hwords).2

end Statement

end IndexTuning.Sql
