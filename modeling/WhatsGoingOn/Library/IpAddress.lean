import Mathlib.Data.List.Basic

/-!
# Texts of addresses

How the Rust standard library writes an IPv4 and an IPv6 address, and which
characters are in what it writes.
-/

namespace WhatsGoingOn
namespace IpAddress

/-! ## IPv4 -/

/-- The octets of an address in dots. -/
def ipv4Text (octets : List UInt8) : String :=
  ".".intercalate (octets.map fun octet => toString octet.toNat)

/-! ## IPv6 -/

/-- The segments of two octets each. -/
def segments : List UInt8 → List Nat
  | high :: low :: octets =>
      (high.toNat * 256 + low.toNat) :: segments octets
  | _ => []

/-- A run of segments that are zero. -/
structure Span where
  start : Nat
  len : Nat
  deriving DecidableEq, Repr

/-- The first of the longest runs of zeros, from the segment of some index on,
with the run that it may go on with and the longest one before it. -/
def longestZeros (index : Nat) (current longest : Span) : List Nat → Span
  | [] => longest
  | 0 :: rest =>
      let current : Span :=
        ⟨if current.len = 0 then index else current.start, current.len + 1⟩
      longestZeros (index + 1) current
        (if longest.len < current.len then current else longest) rest
  | (_ + 1) :: rest => longestZeros (index + 1) ⟨0, 0⟩ longest rest

/-- Segments in hexadecimal, in colons. -/
def segmentsText (segments : List Nat) : String :=
  ":".intercalate (segments.map fun segment =>
    String.ofList (Nat.toDigits 16 segment))

/-- The address of `::ffff:` and an IPv4 address is written with that. -/
def ipv6Text (octets : List UInt8) : String :=
  if octets.take 12 = [0, 0, 0, 0, 0, 0, 0, 0, 0, 0, 0xff, 0xff] then
    "::ffff:" ++ ipv4Text (octets.drop 12)
  else
    let segments := segments octets
    let zeros := longestZeros 0 ⟨0, 0⟩ ⟨0, 0⟩ segments
    if 1 < zeros.len then
      segmentsText (segments.take zeros.start) ++ "::" ++
        segmentsText (segments.drop (zeros.start + zeros.len))
    else segmentsText segments

example : ipv6Text [0x20, 1, 0x0d, 0xb8, 0, 0, 0, 0, 0, 1, 0, 0, 0, 0, 0, 1] =
    "2001:db8::1:0:0:1" := by
  decide

example : ipv6Text [0, 0, 0, 0, 0, 0, 0, 0, 0, 0, 0, 0, 0, 0, 0, 0] = "::" := by
  decide

/-! ## Characters -/

/-- A character that a text of an address may have. -/
def isAddressChar (character : Char) : Bool :=
  character.isAlphanum || character == ':' || character == '.'

theorem digitChar_isAlphanum (base digit : Nat) (below : digit < base)
    (atMost : base ≤ 16) :
    digit.digitChar.isAlphanum = true := by
  have digits : (List.range 16).all
      (fun digit => digit.digitChar.isAlphanum) = true := by
    rfl
  exact List.all_eq_true.mp digits digit
    (List.mem_range.mpr (Nat.lt_of_lt_of_le below atMost))

/-- The digits of a number are letters and digits. -/
theorem toDigits_isAlphanum (base number : Nat) (two : 1 < base)
    (atMost : base ≤ 16) :
    ∀ character ∈ Nat.toDigits base number, character.isAlphanum = true := by
  induction number using Nat.strongRecOn with
  | ind number inductionHypothesis =>
      rw [Nat.toDigits_eq_if two]
      by_cases small : number < base
      · simpa [small] using digitChar_isAlphanum base number small atMost
      · rw [if_neg small]
        intro character member
        rcases List.mem_append.mp member with front | last
        · exact inductionHypothesis (number / base)
            (Nat.div_lt_self (by omega) two) character front
        · rw [List.mem_singleton.mp last]
          exact digitChar_isAlphanum base _ (Nat.mod_lt _ (by omega)) atMost

/-- What is in an intercalation is in its separator or in one of its parts. -/
theorem all_intercalate (separator : String) (parts : List String)
    (separatorAllowed : separator.toList.all isAddressChar = true)
    (partsAllowed : ∀ part ∈ parts, part.toList.all isAddressChar = true) :
    (separator.intercalate parts).toList.all isAddressChar = true := by
  induction parts with
  | nil => simp
  | cons part parts inductionHypothesis =>
      obtain ⟨partAllowed, othersAllowed⟩ := List.forall_mem_cons.mp partsAllowed
      by_cases last : parts = []
      · simpa [last] using partAllowed
      · rw [String.intercalate_cons_of_ne_nil last, String.toList_append,
          String.toList_append, List.all_append, List.all_append, partAllowed,
          separatorAllowed, inductionHypothesis othersAllowed]
        rfl

theorem toDigits_all (base number : Nat) (two : 1 < base) (atMost : base ≤ 16) :
    (Nat.toDigits base number).all isAddressChar = true := by
  rw [List.all_eq_true]
  intro character member
  simp [isAddressChar, toDigits_isAlphanum base number two atMost _ member]

theorem ipv4Text_all (octets : List UInt8) :
    (ipv4Text octets).toList.all isAddressChar = true := by
  refine all_intercalate _ _ rfl ?_
  intro part member
  obtain ⟨octet, _, rfl⟩ := List.mem_map.mp member
  rw [Nat.toString_eq_ofList_toDigits, String.toList_ofList]
  exact toDigits_all 10 octet.toNat (by decide) (by decide)

theorem segmentsText_all (segments : List Nat) :
    (segmentsText segments).toList.all isAddressChar = true := by
  refine all_intercalate _ _ rfl ?_
  intro part member
  obtain ⟨segment, _, rfl⟩ := List.mem_map.mp member
  rw [String.toList_ofList]
  exact toDigits_all 16 segment (by decide) (by decide)

/-- An address is written with digits, letters, dots and colons. -/
theorem ipv6Text_all (octets : List UInt8) :
    (ipv6Text octets).toList.all isAddressChar = true := by
  have mapped : "::ffff:".toList.all isAddressChar = true := rfl
  have colons : "::".toList.all isAddressChar = true := rfl
  unfold ipv6Text
  dsimp only
  split
  · rw [String.toList_append, List.all_append, mapped, ipv4Text_all]
    rfl
  · split
    · rw [String.toList_append, String.toList_append, List.all_append,
        List.all_append, segmentsText_all, segmentsText_all, colons]
      rfl
    · exact segmentsText_all _

end IpAddress
end WhatsGoingOn
