import Mathlib.Init
import Mathlib.Data.Nat.Basic

/-!
# Decimal numbers

Integers that are parsed as the Rust standard library does it.  A number
within the bounds of its type is read back from the text that displays it.
-/

namespace WhatsGoingOn
namespace Decimal

/-- The number that digits spell. -/
def readDigits (digits : List Char) : Option Nat :=
  if digits ≠ [] ∧ digits.all Char.isDigit then
    some (Nat.ofDigitChars 10 digits 0)
  else none

/-- A number with an optional plus sign. -/
def readUnsigned : List Char → Option Nat
  | '+' :: digits => readDigits digits
  | digits => readDigits digits

/-- A number with an optional sign. -/
def readSigned : List Char → Option Int
  | '-' :: digits => (readDigits digits).map fun number : Nat => -(number : Int)
  | text => (readUnsigned text).map Int.ofNat

/-- `str::parse` for an unsigned type. -/
def parseUnsigned (largest : Nat) (text : String) : Option Nat :=
  (readUnsigned text.toList).filter (· ≤ largest)

/-- `str::parse` for a signed type. -/
def parseSigned (least largest : Int) (text : String) : Option Int :=
  (readSigned text.toList).filter fun number =>
    least ≤ number ∧ number ≤ largest

example : parseUnsigned 255 "+007" = some 7 ∧ parseUnsigned 255 "256" = none ∧
    parseUnsigned 255 "-0" = none ∧ parseUnsigned 255 "+" = none := by
  decide

/-! ## Reading what was displayed -/

theorem readDigits_toDigits (number : Nat) :
    readDigits (Nat.toDigits 10 number) = some number := by
  have digits : (Nat.toDigits 10 number).all Char.isDigit = true := by
    rw [List.all_eq_true]
    intro character member
    exact Nat.isDigit_of_mem_toDigits (by decide) (by decide) member
  unfold readDigits
  rw [if_pos ⟨Nat.toDigits_ne_nil, digits⟩]
  simp

/-- The digits of a number begin with none of the signs. -/
theorem toDigits_eq_cons (number : Nat) :
    ∃ first rest, Nat.toDigits 10 number = first :: rest ∧
      first ≠ '+' ∧ first ≠ '-' := by
  obtain ⟨first, rest, same⟩ :=
    List.exists_cons_of_ne_nil (Nat.toDigits_ne_nil (b := 10) (n := number))
  have digit : first.isDigit = true :=
    Nat.isDigit_of_mem_toDigits (by decide) (by decide)
      (same ▸ List.mem_cons_self)
  refine ⟨first, rest, same, ?_, ?_⟩
  all_goals
    rintro rfl
    exact absurd digit (by decide)

theorem readUnsigned_toDigits (number : Nat) :
    readUnsigned (Nat.toDigits 10 number) = some number := by
  have digits := readDigits_toDigits number
  obtain ⟨first, rest, same, notPlus, -⟩ := toDigits_eq_cons number
  rw [same] at digits ⊢
  rw [readUnsigned, digits]
  rintro _ ⟨⟩
  exact notPlus rfl

/-- A displayed number is its digits, after a sign if it is negative. -/
theorem toList_toString (number : Int) :
    (toString number).toList =
      (if number < 0 then ['-'] else []) ++ Nat.toDigits 10 number.natAbs := by
  cases number with
  | ofNat number =>
      have positive : ¬ Int.ofNat number < 0 :=
        Int.not_lt.mpr (Int.natCast_nonneg number)
      change (Nat.repr number).toList = _
      rw [Nat.toList_repr, if_neg positive]
      rfl
  | negSucc number =>
      change ("-" ++ Nat.repr (number + 1)).toList = _
      rw [String.toList_append, Nat.toList_repr,
        if_pos (Int.negSucc_lt_zero number)]
      rfl

/-- A number is read back from its digits and sign. -/
theorem readSigned_toString (number : Int) :
    readSigned (toString number).toList = some number := by
  rw [toList_toString]
  by_cases negative : number < 0
  · rw [if_pos negative, List.singleton_append, readSigned,
      readDigits_toDigits, Option.map_some]
    exact congrArg some (by omega)
  · have digits := readUnsigned_toDigits number.natAbs
    obtain ⟨first, rest, same, -, notMinus⟩ := toDigits_eq_cons number.natAbs
    rw [if_neg negative, List.nil_append]
    rw [same] at digits ⊢
    rw [readSigned, digits, Option.map_some]
    · exact congrArg some (Int.natAbs_of_nonneg (Int.not_lt.mp negative))
    · rintro _ ⟨⟩
      exact notMinus rfl

theorem parseUnsigned_toString {largest number : Nat}
    (within : number ≤ largest) :
    parseUnsigned largest (toString number) = some number := by
  have shown : (toString number).toList = Nat.toDigits 10 number := by simp
  rw [parseUnsigned, shown, readUnsigned_toDigits, Option.filter_some,
    if_pos (decide_eq_true within)]

theorem parseSigned_toString {least largest number : Int}
    (above : least ≤ number) (below : number ≤ largest) :
    parseSigned least largest (toString number) = some number := by
  rw [parseSigned, readSigned_toString, Option.filter_some,
    if_pos (decide_eq_true ⟨above, below⟩)]

/-- A displayed number has digits and a minus sign only. -/
theorem digit_or_minus {number : Int} {character : Char}
    (member : character ∈ (toString number).toList) :
    character.isDigit = true ∨ character = '-' := by
  rw [toList_toString, List.mem_append] at member
  rcases member with sign | digit
  · split at sign
    · exact .inr (List.mem_singleton.mp sign)
    · cases sign
  · exact .inl (Nat.isDigit_of_mem_toDigits (by decide) (by decide) digit)

end Decimal
end WhatsGoingOn
