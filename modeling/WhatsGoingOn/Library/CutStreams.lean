import Mathlib.Data.List.Forall2
import WhatsGoingOn.Library.Repeated

/-!
# Streams that are cut

A stream is the concatenation of pieces that a stable reader reads one after
the other.  Of a front of it, the reader reads the values of the pieces that
are there as a whole, and then asks for more.
-/

namespace WhatsGoingOn
namespace Reader

variable {ε ρ α : Type} {reader : Reader ε ρ α}

/-- A front of a stream: whole pieces, and what is there of the next one. -/
structure CutAfter (pieces : List (List UInt8)) (part : List UInt8)
    (count : Nat) (rest : List UInt8) : Prop where
  within : count ≤ pieces.length
  whole : part = (pieces.take count).flatten ++ rest
  strict : rest ≠ [] → ∃ piece more,
    pieces[count]? = some piece ∧ more ≠ [] ∧ piece = rest ++ more

/-- Every front of a stream comes from a cut. -/
theorem exists_cutAfter {pieces : List (List UInt8)} {part : List UInt8}
    (front : part <+: pieces.flatten) :
    ∃ count rest, CutAfter pieces part count rest := by
  induction pieces generalizing part with
  | nil =>
      have empty : part = [] := List.prefix_nil.mp front
      exact ⟨0, [], Nat.le_refl 0, empty, fun some => absurd rfl some⟩
  | cons piece pieces inductionHypothesis =>
      rw [List.flatten_cons] at front
      rcases List.prefix_or_prefix_of_prefix front
          (List.prefix_append piece pieces.flatten) with
        ⟨more, inside⟩ | ⟨later, rfl⟩
      · by_cases ends : more = []
        · rw [ends, List.append_nil] at inside
          refine ⟨1, [], Nat.succ_le_succ (Nat.zero_le _), ?_,
            fun some => absurd rfl some⟩
          simp [inside]
        · exact ⟨0, part, Nat.zero_le _, rfl,
            fun _ => ⟨piece, more, rfl, ends, inside.symm⟩⟩
      · obtain ⟨count, rest, cut⟩ := inductionHypothesis
          ((List.prefix_append_right_inj piece).mp front)
        refine ⟨count + 1, rest, Nat.succ_le_succ cut.within, ?_, cut.strict⟩
        rw [List.take_succ_cons, List.flatten_cons, List.append_assoc,
          ← cut.whole]

/-- A reader reads a value from the front of some bytes, whatever follows
them. -/
def Spells (reader : Reader ε ρ α) (piece : List UInt8) (value : α) : Prop :=
  ∀ rest, (reader (piece ++ rest)).outcome = .ok (value, rest)

/-- The pieces that spell values are read one after the other. -/
theorem reads_of_spells {pieces : List (List UInt8)} {values : List α}
    (spelled : List.Forall₂ (Spells reader) pieces values)
    (rest : List UInt8) :
    Reads reader (pieces.flatten ++ rest) values rest := by
  induction spelled with
  | nil => exact .done rest
  | cons first _ inductionHypothesis =>
      rw [List.flatten_cons, List.append_assoc]
      exact .next (first _) inductionHypothesis

/-- A strict front of bytes that spell a value lacks something. -/
theorem Spells.strict {ending : ε} (stable : Stable ending reader)
    {front more : List UInt8} {value : α}
    (spelled : Spells reader (front ++ more) value) (strict : more ≠ []) :
    (reader front).outcome = .error ending := by
  have read := spelled []
  rw [List.append_nil] at read
  exact stable.ending_of_strict_prefix read strict

/-- What is read of a stream that was cut. -/
theorem CutAfter.reads {ending : ε} (stable : Stable ending reader)
    (empty : (reader []).outcome = .error ending)
    {pieces : List (List UInt8)} {values : List α}
    (spelled : List.Forall₂ (Spells reader) pieces values)
    {part : List UInt8} {count : Nat} {rest : List UInt8}
    (cut : CutAfter pieces part count rest) :
    Reads reader part (values.take count) rest ∧
      (reader rest).outcome = .error ending := by
  constructor
  · rw [cut.whole]
    exact reads_of_spells (List.forall₂_take count spelled) rest
  · by_cases none : rest = []
    · rw [none]
      exact empty
    · obtain ⟨piece, more, found, strict, rfl⟩ := cut.strict none
      obtain ⟨inside, same⟩ := List.getElem?_eq_some_iff.mp found
      have inValues : count < values.length := spelled.length_eq ▸ inside
      have next := spelled.get inside inValues
      rw [List.get_eq_getElem, same] at next
      exact next.strict stable strict

end Reader
end WhatsGoingOn
