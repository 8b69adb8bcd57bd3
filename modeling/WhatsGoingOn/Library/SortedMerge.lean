import Mathlib.Data.List.Destutter
import Mathlib.Data.List.Sort

/-!
# Sorting and merging neighbours

Rows that are sorted by a key, of which neighbours that agree on another one are
merged.  All rows that agree are neighbours if they are sorted by a key that
they agree on, too.
-/

namespace WhatsGoingOn
namespace SortedMerge

variable {ρ α β : Type} [LinearOrder α] [DecidableEq β]

/-! ## Sorting -/

/-- A stable sort by a key. -/
def sortByKey (key : ρ → α) (rows : List ρ) : List ρ :=
  rows.mergeSort fun left right => key left ≤ key right

/-- Sorted rows are in the order of their keys. -/
theorem sortByKey_pairwise (key : ρ → α) (rows : List ρ) :
    (sortByKey key rows).Pairwise fun left right => key left ≤ key right := by
  have transitive : ∀ left middle right : ρ,
      decide (key left ≤ key middle) = true →
        decide (key middle ≤ key right) = true →
          decide (key left ≤ key right) = true := by
    intro left middle right below above
    rw [decide_eq_true_iff] at *
    exact below.trans above
  have total : ∀ left right : ρ,
      (decide (key left ≤ key right) || decide (key right ≤ key left)) =
        true := by
    intro left right
    rw [Bool.or_eq_true, decide_eq_true_iff, decide_eq_true_iff]
    exact le_total _ _
  have sorted := List.pairwise_mergeSort transitive total rows
  exact sorted.imp fun below => decide_eq_true_iff.mp below

theorem sortByKey_perm (key : ρ → α) (rows : List ρ) :
    (sortByKey key rows).Perm rows :=
  List.mergeSort_perm _ _

/-- Where the key tells rows apart, their order before does not matter. -/
theorem sortByKey_eq_of_perm (key : ρ → α) {rows others : List ρ}
    (perm : rows.Perm others)
    (injective : ∀ left ∈ rows, ∀ right ∈ rows, key left = key right →
      left = right) :
    sortByKey key rows = sortByKey key others := by
  have sortedPerm : (sortByKey key rows).Perm (sortByKey key others) :=
    (sortByKey_perm key rows).trans (perm.trans (sortByKey_perm key others).symm)
  refine List.Perm.eq_of_pairwise ?_ (sortByKey_pairwise key rows)
    (sortByKey_pairwise key others) sortedPerm
  intro left right leftMember rightMember below above
  refine injective left ((sortByKey_perm key rows).subset leftMember) right ?_
    (le_antisymm below above)
  exact (sortByKey_perm key rows).subset (sortedPerm.symm.subset rightMember)

/-! ## Merging -/

/-- Of neighbours that agree on a key the first is kept. -/
def mergeNeighbours (coarse : ρ → β) (rows : List ρ) : List ρ :=
  rows.destutter fun left right => coarse left ≠ coarse right

theorem mergeNeighbours_sublist (coarse : ρ → β) (rows : List ρ) :
    (mergeNeighbours coarse rows).Sublist rows :=
  List.destutter_sublist _ rows

/-- No two of the rows that are kept agree on the key that they are sorted by,
if rows that do are merged. -/
theorem mergeNeighbours_pairwise (coarse : ρ → β) (order : ρ → α)
    (rows : List ρ)
    (sorted : rows.Pairwise fun left right => order left ≤ order right)
    (merges : ∀ left ∈ rows, ∀ right ∈ rows, order left = order right →
      coarse left = coarse right) :
    (mergeNeighbours coarse rows).Pairwise fun left right =>
      order left < order right := by
  have sublist := mergeNeighbours_sublist coarse rows
  have keptSorted := sorted.sublist sublist
  have different : (mergeNeighbours coarse rows).IsChain fun left right =>
      coarse left ≠ coarse right := List.isChain_destutter _ rows
  have increases : (mergeNeighbours coarse rows).IsChain fun left right =>
      order left < order right := by
    rw [List.isChain_iff_getElem] at different ⊢
    intro index within
    rw [List.pairwise_iff_getElem] at keptSorted
    refine lt_of_le_of_ne
      (keptSorted index (index + 1) (by omega) within (by omega)) ?_
    intro same
    exact different index within
      (merges _ (sublist.subset (List.getElem_mem _)) _
        (sublist.subset (List.getElem_mem _)) same)
  have transitive : IsTrans ρ fun left right => order left < order right :=
    ⟨fun _ _ _ => lt_trans⟩
  exact increases.pairwise

/-- Of neighbours that are alike one is kept. -/
theorem exists_mem_destutter' (coarse : ρ → β) (first : ρ) (rows : List ρ) :
    ∀ row ∈ first :: rows,
      ∃ kept ∈ rows.destutter' (fun left right => coarse left ≠ coarse right)
        first, coarse kept = coarse row := by
  induction rows generalizing first with
  | nil => simp
  | cons next rows inductionHypothesis =>
      intro row member
      by_cases differ : coarse first ≠ coarse next
      · rw [List.destutter'_cons, if_pos differ]
        rcases List.mem_cons.mp member with rfl | later
        · exact ⟨row, List.mem_cons_self, rfl⟩
        · obtain ⟨kept, isKept, same⟩ := inductionHypothesis next row later
          exact ⟨kept, List.mem_cons_of_mem _ isKept, same⟩
      · rw [List.destutter'_cons, if_neg differ]
        rcases List.mem_cons.mp member with rfl | later
        · exact inductionHypothesis row row List.mem_cons_self
        · rcases List.mem_cons.mp later with rfl | later
          · obtain ⟨kept, isKept, same⟩ :=
              inductionHypothesis first first List.mem_cons_self
            exact ⟨kept, isKept, same.trans (not_not.mp differ)⟩
          · exact inductionHypothesis first row (List.mem_cons_of_mem _ later)

/-- Every row agrees with one that is kept. -/
theorem exists_mem_mergeNeighbours (coarse : ρ → β) (rows : List ρ) :
    ∀ row ∈ rows, ∃ kept ∈ mergeNeighbours coarse rows,
      coarse kept = coarse row := by
  cases rows with
  | nil => simp
  | cons first rows => exact exists_mem_destutter' coarse first rows

end SortedMerge
end WhatsGoingOn
