import Mathlib.Data.List.Basic

/-!
# Chunks of a list

A list is cut into chunks of one size, of which the last may be short.
-/

namespace WhatsGoingOn
namespace Chunks

variable {α : Type}

/-- `slice::chunks`: the chunk of each index starts at a multiple of the
size. -/
def chunks (size : Nat) (items : List α) : List (List α) :=
  (List.range ((items.length + (size - 1)) / size)).map fun index =>
    (items.drop (index * size)).take size

example : chunks 3 [1, 2, 3, 4, 5, 6, 7] = [[1, 2, 3], [4, 5, 6], [7]] := by
  decide

variable {size : Nat} {items : List α}

@[simp] theorem chunks_nil (positive : 0 < size) :
    chunks size ([] : List α) = [] := by
  have none : (size - 1) / size = 0 := Nat.div_eq_of_lt (by omega)
  simp [chunks, none]

/-- The number of chunks counts the first one. -/
theorem count_eq_succ (positive : 0 < size) (some : items ≠ []) :
    (items.length + (size - 1)) / size =
      ((items.drop size).length + (size - 1)) / size + 1 := by
  have nonempty := List.length_pos_iff.mpr some
  rw [List.length_drop]
  by_cases full : size ≤ items.length
  · rw [← Nat.add_div_right _ positive]
    congr 1
    omega
  · have rest : items.length - size + (size - 1) < size := by omega
    rw [Nat.div_eq_of_lt rest]
    exact Nat.div_eq_of_lt_le (by omega) (by omega)

/-- The first chunk, and the chunks of what follows it. -/
theorem chunks_eq_cons (positive : 0 < size) (some : items ≠ []) :
    chunks size items = items.take size :: chunks size (items.drop size) := by
  unfold chunks
  rw [count_eq_succ positive some, List.range_succ_eq_map, List.map_cons,
    List.map_map]
  congr 1
  · simp
  · refine List.map_congr_left fun index _ => ?_
    simp only [Function.comp_apply, List.drop_drop]
    congr 2
    exact (Nat.succ_mul index size).trans (Nat.add_comm _ _)

/-- What is true of no items, and of items if it is of those after their first
chunk, is true of all items. -/
theorem chunks_induction {motive : List α → Prop} (positive : 0 < size)
    (nil : motive [])
    (step : ∀ items, items ≠ [] → motive (items.drop size) → motive items)
    (items : List α) : motive items := by
  induction length : items.length using Nat.strongRecOn generalizing items with
  | _ bound inductionHypothesis =>
      by_cases none : items = []
      · rw [none]
        exact nil
      · have nonempty := List.length_pos_iff.mpr none
        refine step items none
          (inductionHypothesis _ ?_ (items.drop size) rfl)
        rw [List.length_drop]
        omega

end Chunks
end WhatsGoingOn
