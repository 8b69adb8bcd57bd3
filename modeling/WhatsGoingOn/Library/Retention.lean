import Mathlib.Algebra.Ring.Nat
import Mathlib.Data.List.Infix

/-!
# Bounded retention

A buffer that may hold a limited weight keeps the newest of the items that were
appended to it: the longest suffix that fits.  Dropping the oldest of its items
after each append is enough for that.
-/

namespace WhatsGoingOn
namespace Retention

variable {α : Type*}

/-- The weight of some items. -/
def total (weight : α → Nat) (items : List α) : Nat :=
  (items.map weight).sum

/-- The longest suffix of some items that fits within a limit. -/
structure LongestSuffix (weight : α → Nat) (limit : Nat)
    (items kept : List α) : Prop where
  suffix : kept <:+ items
  fits : total weight kept ≤ limit
  longest : ∀ other, other <:+ items → total weight other ≤ limit →
    other <:+ kept

variable {weight : α → Nat} {limit : Nat} {items kept : List α} {item : α}

@[simp] theorem total_nil : total weight [] = 0 := rfl

@[simp] theorem total_cons (item : α) (items : List α) :
    total weight (item :: items) = weight item + total weight items := rfl

@[simp] theorem total_append (early late : List α) :
    total weight (early ++ late) = total weight early + total weight late := by
  simp [total]

namespace LongestSuffix

/-- All items are kept when they fit. -/
theorem of_fits (fits : total weight items ≤ limit) :
    LongestSuffix weight limit items items :=
  ⟨List.suffix_rfl, fits, fun _ suffix _ => suffix⟩

/-- The oldest item is dropped when not all of them fit. -/
theorem cons (longest : LongestSuffix weight limit items kept)
    (heavy : limit < total weight (item :: items)) :
    LongestSuffix weight limit (item :: items) kept where
  suffix := longest.suffix.trans (List.suffix_cons item items)
  fits := longest.fits
  longest := by
    intro other suffix fits
    rcases List.suffix_cons_iff.mp suffix with all | shorter
    · rw [all] at fits
      exact absurd fits (Nat.not_le.mpr heavy)
    · exact longest.longest other shorter fits

/-- What was dropped before an item came is not missed after it. -/
theorem append {next : List α}
    (longest : LongestSuffix weight limit items kept)
    (after : LongestSuffix weight limit (kept ++ [item]) next) :
    LongestSuffix weight limit (items ++ [item]) next where
  suffix := by
    obtain ⟨dropped, shape⟩ := longest.suffix
    refine after.suffix.trans ⟨dropped, ?_⟩
    rw [← List.append_assoc, shape]
  fits := after.fits
  longest := by
    intro other suffix fits
    apply after.longest other _ fits
    rcases List.suffix_concat_iff.mp suffix with rfl | ⟨earlier, rfl, before⟩
    · exact List.nil_suffix
    · rw [total_append] at fits
      have kept := longest.longest earlier before
        ((Nat.le_add_right _ _).trans fits)
      obtain ⟨dropped, shape⟩ := kept
      exact ⟨dropped, by rw [← List.append_assoc, shape]⟩

end LongestSuffix

end Retention
end WhatsGoingOn
