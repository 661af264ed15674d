import IndexTuning.Sql.TableRef
import Mathlib.Tactic.Tauto

namespace IndexTuning.Sql.TableRef

variable {t u : TableRef} {ts us : List TableRef}

theorem eq_of_compare (h : compare t u = .eq) : t = u := by
  cases t with
  | mk database schema table =>
      cases u with
      | mk database' schema' table' =>
          change (compare database database').then ((compare schema schema').then
            ((compare table table').then .eq)) = .eq at h
          simp only [Ordering.then_eq_eq, and_true] at h
          obtain ⟨hd, hs, ht⟩ := h
          rw [Std.LawfulEqOrd.eq_of_compare hd, Std.LawfulEqOrd.eq_of_compare hs,
            Std.LawfulEqOrd.eq_of_compare ht]

theorem mem_insert : u ∈ insert t ts ↔ u = t ∨ u ∈ ts := by
  induction ts with
  | nil => exact List.mem_singleton.trans (by simp)
  | cons v ts ih =>
      rw [insert]
      split
      · exact List.mem_cons
      · rename_i h
        rw [eq_of_compare h, List.mem_cons]
        tauto
      · rw [List.mem_cons, List.mem_cons, ih]
        tauto

theorem mem_toSet : t ∈ toSet ts ↔ t ∈ ts := by
  induction ts with
  | nil => exact Iff.rfl
  | cons u ts ih => rw [toSet, List.foldr_cons, mem_insert, ← toSet, ih, List.mem_cons]

theorem compare_eq_compareLex : (compare : TableRef → TableRef → Ordering) =
    compareLex (compareOn database) (compareLex (compareOn schema) (compareOn table)) := by
  funext t u
  cases t with
  | mk database schema table =>
      cases u with
      | mk database' schema' table' =>
          change (compare database database').then ((compare schema schema').then
            ((compare table table').then .eq)) = _
          simp [compareLex, compareOn]

instance : Std.TransCmp (compare : TableRef → TableRef → Ordering) := by
  rw [compare_eq_compareLex]
  infer_instance

/-- The references stand in ascending order, and none stands twice. -/
def Ascending (ts : List TableRef) : Prop := ts.Pairwise fun t u => compare t u = .lt

theorem ascending_insert (h : Ascending ts) : Ascending (insert t ts) := by
  induction ts with
  | nil => exact List.pairwise_singleton _ _
  | cons v ts ih =>
      obtain ⟨hv, hts⟩ := List.pairwise_cons.1 h
      rw [insert]
      split
      · rename_i hlt
        refine List.pairwise_cons.2 ⟨fun u hu => ?_, h⟩
        rcases List.mem_cons.1 hu with rfl | hu
        · exact hlt
        · exact Std.TransCmp.lt_trans hlt (hv u hu)
      · exact h
      · rename_i hgt
        refine List.pairwise_cons.2 ⟨fun u hu => ?_, ih hts⟩
        rcases mem_insert.1 hu with rfl | hu
        · exact Std.OrientedCmp.lt_of_gt hgt
        · exact hv u hu

theorem ascending_toSet (ts : List TableRef) : Ascending (toSet ts) := by
  induction ts with
  | nil => exact List.Pairwise.nil
  | cons t ts ih => exact ascending_insert ih

theorem Ascending.nodup (h : Ascending ts) : ts.Nodup := by
  refine List.Pairwise.imp ?_ h
  intro t u hlt heq
  have hrefl : compare t t = .eq := Std.ReflCmp.compare_self
  rw [← heq, hrefl] at hlt
  exact absurd hlt (by decide)

end IndexTuning.Sql.TableRef
