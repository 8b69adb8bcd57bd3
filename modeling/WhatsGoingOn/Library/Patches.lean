import Mathlib.Data.List.GetD
import Mathlib.Data.List.Induction
import Mathlib.Data.Nat.Basic

/-!
# Patches of a list

A list into which others are written at positions, one after the other, as a
file is written at offsets.  The list that results holds at each index what the
last patch over the index put there.
-/

namespace WhatsGoingOn
namespace Patches

variable {α : Type}

/-- A content after items were written over it from a position on.  What lies
between the end of the content and the position is filled, and to write no item
changes nothing. -/
def writeAt (filler : α) (content : List α) (position : Nat)
    (items : List α) : List α :=
  if items = [] then content
  else
    content.take position ++
      List.replicate (position - content.length) filler ++ items ++
        content.drop (position + items.length)

/-- Items and the position they are written to. -/
structure Patch (α : Type) where
  position : Nat
  items : List α

/-- Write patches one after the other. -/
def writeAll (filler : α) (base : List α) (patches : List (Patch α)) :
    List α :=
  patches.foldl
    (fun content patch => writeAt filler content patch.position patch.items)
    base

/-! ## The reference -/

namespace Patch

/-- What a patch puts at an index. -/
def at? (patch : Patch α) (index : Nat) : Option α :=
  if patch.position ≤ index then patch.items[index - patch.position]?
  else none

/-- The length that a patch asks for. -/
def extent (patch : Patch α) : Nat :=
  if patch.items = [] then 0 else patch.position + patch.items.length

end Patch

/-- What the last patch over an index puts there. -/
def last? (patches : List (Patch α)) (index : Nat) : Option α :=
  patches.reverse.findSome? (·.at? index)

/-- The length of a list with patches. -/
def extent (base : List α) (patches : List (Patch α)) : Nat :=
  patches.foldl (fun length patch => max length patch.extent) base.length

/-- A list with patches over it: at each index what the last patch over the
index puts there, else what the list holds. -/
def overlay (filler : α) (base : List α) (patches : List (Patch α)) :
    List α :=
  (List.range (extent base patches)).map fun index =>
    (last? patches index).getD (base.getD index filler)

example : overlay 0 [1, 2, 3] [⟨1, [8, 9]⟩, ⟨9, []⟩, ⟨5, [7]⟩, ⟨2, [6]⟩] =
    [1, 8, 6, 0, 0, 7] := by
  decide

/-! ## Writing once -/

section Write

variable (filler : α) (content : List α) (position : Nat) (items : List α)

theorem length_writeAt :
    (writeAt filler content position items).length =
      max content.length (Patch.extent ⟨position, items⟩) := by
  unfold writeAt Patch.extent
  split
  · simp
  · simp only [List.length_append, List.length_take, List.length_replicate,
      List.length_drop]
    omega

/-- A content up to a position, filled if it ends before. -/
def front : List α :=
  content.take position ++ List.replicate (position - content.length) filler

theorem length_front : (front filler content position).length = position := by
  simp only [front, List.length_append, List.length_take,
    List.length_replicate]
  omega

/-- In front of the position stands what was there, or the filler. -/
theorem getElem?_front {index : Nat} (before : index < position) :
    (front filler content position)[index]? =
      some (content.getD index filler) := by
  unfold front
  by_cases inside : index < content.length
  · rw [List.getElem?_append_left (by simp; omega),
      List.getElem?_take_of_lt before, List.getElem?_eq_getElem inside,
      List.getD_eq_getElem _ _ inside]
  · have length : (content.take position).length = content.length := by
      simp only [List.length_take]
      omega
    rw [List.getElem?_append_right (by omega), length,
      List.getElem?_replicate_of_lt (by omega),
      List.getD_eq_default _ _ (by omega)]

/-- What is written behind a front replaces as much of what follows it. -/
theorem writeAt_append (front left : List α) :
    writeAt filler (front ++ left) front.length items =
      front ++ items ++ left.drop items.length := by
  unfold writeAt
  split
  · rename_i nothing
    simp [nothing]
  · rw [List.take_left', List.drop_length_add_append]
    · simp
    · rfl

/-- What is written at the end is appended. -/
theorem writeAt_length :
    writeAt filler content content.length items = content ++ items := by
  unfold writeAt
  split
  · rename_i nothing
    rw [nothing, List.append_nil]
  · simp

/-- What is written is read back, and nothing else changes. -/
theorem getElem?_writeAt {index : Nat}
    (within : index < (writeAt filler content position items).length) :
    (writeAt filler content position items)[index]? =
      some ((Patch.at? ⟨position, items⟩ index).getD
        (content.getD index filler)) := by
  rw [length_writeAt, Patch.extent] at within
  unfold writeAt Patch.at?
  by_cases nothing : items = []
  · have inside : index < content.length := by simpa [nothing] using within
    simp [nothing, inside]
  · have lengthFront := length_front filler content position
    simp only [nothing, if_false] at within ⊢
    change (front filler content position ++ items ++ _)[index]? = _
    rcases Nat.lt_or_ge index position with before | after
    · rw [List.append_assoc, List.getElem?_append_left (by omega),
        getElem?_front _ _ _ before, if_neg (by omega), Option.getD_none]
    · rw [if_pos after]
      by_cases inside : index < position + items.length
      · have found : index - position < items.length := by omega
        rw [List.getElem?_append_left (by simp [lengthFront]; omega),
          List.getElem?_append_right (by omega), lengthFront,
          List.getElem?_eq_getElem found, Option.getD_some]
      · have absent : items[index - position]? = none :=
          List.getElem?_eq_none (by omega)
        have kept : index < content.length := by omega
        have place : position + items.length +
            (index - (position + items.length)) = index := by omega
        rw [List.getElem?_append_right (by simp [lengthFront]; omega),
          List.getElem?_drop, List.length_append, lengthFront, place, absent,
          Option.getD_none, List.getElem?_eq_getElem kept,
          List.getD_eq_getElem _ _ kept]

end Write

theorem extent_concat (base : List α) (patches : List (Patch α))
    (patch : Patch α) :
    extent base (patches ++ [patch]) =
      max (extent base patches) patch.extent := by
  simp [extent, List.foldl_append]

theorem last?_concat (patches : List (Patch α)) (patch : Patch α)
    (index : Nat) :
    last? (patches ++ [patch]) index =
      (patch.at? index).or (last? patches index) := by
  simp [last?, List.findSome?_cons]
  cases patch.at? index <;> rfl

theorem Patch.at?_eq_none {patch : Patch α} {index : Nat}
    (beyond : patch.extent ≤ index) : patch.at? index = none := by
  unfold Patch.extent at beyond
  unfold Patch.at?
  split at beyond
  · rename_i nothing
    simp [nothing]
  · rw [if_pos (by omega)]
    exact List.getElem?_eq_none (by omega)

/-- No patch is over an index beyond the length. -/
theorem last?_eq_none (base : List α) {patches : List (Patch α)} {index : Nat}
    (beyond : extent base patches ≤ index) : last? patches index = none := by
  induction patches using List.reverseRecOn with
  | nil => rfl
  | append_singleton patches patch inductionHypothesis =>
      rw [extent_concat] at beyond
      rw [last?_concat, Patch.at?_eq_none (by omega),
        inductionHypothesis (by omega)]
      rfl

theorem length_le_extent (base : List α) (patches : List (Patch α)) :
    base.length ≤ extent base patches := by
  induction patches using List.reverseRecOn with
  | nil => exact Nat.le_refl _
  | append_singleton patches patch inductionHypothesis =>
      rw [extent_concat]
      omega

theorem length_overlay (filler : α) (base : List α)
    (patches : List (Patch α)) :
    (overlay filler base patches).length = extent base patches := by
  simp [overlay]

theorem overlay_nil (filler : α) (base : List α) :
    overlay filler base [] = base := by
  apply List.ext_getElem
  · exact length_overlay filler base []
  · intro index _ within
    simp [overlay, last?, List.getElem?_eq_getElem within]

theorem getElem?_overlay (filler : α) (base : List α)
    (patches : List (Patch α)) {index : Nat}
    (within : index < extent base patches) :
    (overlay filler base patches)[index]? =
      some ((last? patches index).getD (base.getD index filler)) := by
  simp [overlay, within]

/-- Also where the base ends before the last patch does. -/
theorem getD_overlay (filler : α) (base : List α)
    (patches : List (Patch α)) (index : Nat) :
    (overlay filler base patches).getD index filler =
      (last? patches index).getD (base.getD index filler) := by
  rw [List.getD_eq_getElem?_getD]
  by_cases within : index < extent base patches
  · rw [getElem?_overlay _ _ _ within, Option.getD_some]
  · have length := length_le_extent base patches
    rw [List.getElem?_eq_none (by rw [length_overlay]; omega),
      last?_eq_none base (by omega), Option.getD_none,
      Option.getD_none, List.getD_eq_default _ _ (by omega)]

/-- A patch is written over what the patches before it made. -/
theorem overlay_concat (filler : α) (base : List α)
    (patches : List (Patch α)) (patch : Patch α) :
    overlay filler base (patches ++ [patch]) =
      writeAt filler (overlay filler base patches) patch.position
        patch.items := by
  have lengths : (writeAt filler (overlay filler base patches) patch.position
      patch.items).length = extent base (patches ++ [patch]) := by
    rw [length_writeAt, length_overlay, extent_concat]
  apply List.ext_getElem?
  intro index
  by_cases within : index < extent base (patches ++ [patch])
  · rw [getElem?_overlay _ _ _ within,
      getElem?_writeAt _ _ _ _ (lengths ▸ within), last?_concat,
      getD_overlay]
    cases patch.at? index with
    | none => rfl
    | some item => rfl
  · rw [List.getElem?_eq_none (by rw [length_overlay]; omega),
      List.getElem?_eq_none (by omega)]

/-- Writing the patches one after the other makes the reference. -/
theorem writeAll_eq_overlay (filler : α) (base : List α)
    (patches : List (Patch α)) :
    writeAll filler base patches = overlay filler base patches := by
  induction patches using List.reverseRecOn with
  | nil => exact (overlay_nil filler base).symm
  | append_singleton patches patch inductionHypothesis =>
      rw [overlay_concat, ← inductionHypothesis]
      simp [writeAll, List.foldl_append]

end Patches
end WhatsGoingOn
