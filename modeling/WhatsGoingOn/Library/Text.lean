import Mathlib.Data.List.Infix
import WhatsGoingOn.Library.Bytes

/-!
# Text

Operations on strings of the Rust standard library.
-/

namespace WhatsGoingOn
namespace Text

/-- Characters with the `White_Space` property. -/
def isWhiteSpace (character : Char) : Bool :=
  let point := character.toNat
  decide (9 ≤ point ∧ point ≤ 13) || point == 0x20 || point == 0x85 ||
    point == 0xA0 || point == 0x1680 ||
    decide (0x2000 ≤ point ∧ point ≤ 0x200A) || point == 0x2028 ||
    point == 0x2029 || point == 0x202F || point == 0x205F || point == 0x3000

/-- A text without the characters at its ends that match. -/
def trimMatches (matching : Char → Bool) (text : String) : String :=
  String.ofList
    (((text.toList.dropWhile matching).reverse.dropWhile matching).reverse)

/-- `str::trim`. -/
def trim (text : String) : String :=
  trimMatches isWhiteSpace text

/-- `str::trim_end_matches`. -/
def trimEndMatches (matching : Char → Bool) (text : String) : String :=
  String.ofList (text.toList.reverse.dropWhile matching).reverse

/-- `str::to_ascii_lowercase`. -/
def toAsciiLowercase (text : String) : String :=
  String.ofList (text.toList.map Char.toLower)

/-- `str::replace` of one character. -/
def replaceChar (old new : Char) (text : String) : String :=
  String.ofList
    (text.toList.map fun character =>
      if character = old then new else character)

/-- `str::contains`. -/
def contains (part text : String) : Bool :=
  decide (part.toList <:+: text.toList)

/-- `str::ends_with`. -/
def endsWith (ending text : String) : Bool :=
  decide (ending.toList <:+ text.toList)

/-- A list before and after the first place of a separator. -/
def splitOnceList (separator : Char) :
    List Char → Option (List Char × List Char)
  | [] => none
  | character :: rest =>
      if character = separator then some ([], rest)
      else
        (splitOnceList separator rest).map fun halves =>
          (character :: halves.1, halves.2)

/-- `str::split_once`. -/
def splitOnce (separator : Char) (text : String) : Option (String × String) :=
  (splitOnceList separator text.toList).map fun halves =>
    (String.ofList halves.1, String.ofList halves.2)

/-- `str::strip_prefix`. -/
def stripStart (start text : String) : Option String :=
  if start.toList.isPrefixOf text.toList then
    some (String.ofList (text.toList.drop start.length))
  else none

/-! ## Bytes as text -/

/-- A byte that continues a character, within bounds. -/
def continues (low high byte : UInt8) : Bool :=
  decide (low ≤ byte ∧ byte ≤ high)

/-- The bounds of the second byte of a character, for its first byte. -/
def secondBounds (first : UInt8) : UInt8 × UInt8 :=
  if first = 0xE0 then (0xA0, 0xBF)
  else if first = 0xED then (0x80, 0x9F)
  else if first = 0xF0 then (0x90, 0xBF)
  else if first = 0xF4 then (0x80, 0x8F)
  else (0x80, 0xBF)

/-- The character of some leading bits and the bits of continuing bytes. -/
def charOf (lead : UInt8) (continuing : List UInt8) : Char :=
  Char.ofNat
    (continuing.foldl (fun point byte => point * 64 + byte.toNat % 64)
      lead.toNat)

/-- The character that stands for bytes that are none. -/
def replacement : Char := Char.ofNat 0xFFFD

/-- The characters of bytes.  What is no character, up to the longest part that
could have begun one, is replaced. -/
def charsOfUtf8Lossy : List UInt8 → List Char
  | [] => []
  | first :: rest =>
      if first < 0x80 then Char.ofNat first.toNat :: charsOfUtf8Lossy rest
      else if first < 0xC2 ∨ 0xF4 < first then
        replacement :: charsOfUtf8Lossy rest
      else
        match rest with
        | [] => [replacement]
        | second :: afterSecond =>
            if !continues (secondBounds first).1 (secondBounds first).2 second
            then replacement :: charsOfUtf8Lossy (second :: afterSecond)
            else if first < 0xE0 then
              charOf (first % 32) [second] :: charsOfUtf8Lossy afterSecond
            else
              match afterSecond with
              | [] => [replacement]
              | third :: afterThird =>
                  if !continues 0x80 0xBF third then
                    replacement :: charsOfUtf8Lossy (third :: afterThird)
                  else if first < 0xF0 then
                    charOf (first % 16) [second, third] ::
                      charsOfUtf8Lossy afterThird
                  else
                    match afterThird with
                    | [] => [replacement]
                    | fourth :: afterFourth =>
                        if !continues 0x80 0xBF fourth then
                          replacement ::
                            charsOfUtf8Lossy (fourth :: afterFourth)
                        else
                          charOf (first % 8) [second, third, fourth] ::
                            charsOfUtf8Lossy afterFourth

-- The equations are derived here, once for all proofs about the reader.
attribute [grind =] charsOfUtf8Lossy

/-- `String::from_utf8_lossy`. -/
def fromUtf8Lossy (bytes : List UInt8) : String :=
  String.ofList (charsOfUtf8Lossy bytes)

/-- The characters of valid bytes are kept. -/
example : fromUtf8Lossy (Bytes.utf8 "a;é–😀") = "a;é–😀" := by rfl

example : fromUtf8Lossy [0x61, 0xE2, 0x82, 0x62, 0xFF] = "a\uFFFDb\uFFFD" := by
  rfl

/-! ## Numbered names -/

/-- Names with one label and different numbers are different. -/
theorem numbered_injective
    (label : String) {first second : Nat}
    (same : label ++ toString first = label ++ toString second) :
    first = second := by
  have digits : Nat.toDigits 10 first = Nat.toDigits 10 second := by
    simpa using congrArg String.toList same
  simpa using congrArg (fun digits => Nat.ofDigitChars 10 digits 0) digits

/-- A name with a label and a number below some limit. -/
def Numbered (label : String) (limit : Nat) (name : String) : Prop :=
  ∃ number < limit, name = label ++ toString number

theorem Numbered.mono
    {label name : String} {limit higher : Nat}
    (numbered : Numbered label limit name) (above : limit ≤ higher) :
    Numbered label higher name := by
  obtain ⟨number, below, same⟩ := numbered
  exact ⟨number, Nat.lt_of_lt_of_le below above, same⟩

theorem Numbered.ne_next
    {label name : String} {limit : Nat}
    (numbered : Numbered label limit name) :
    name ≠ label ++ toString limit := by
  obtain ⟨number, below, rfl⟩ := numbered
  intro same
  exact Nat.ne_of_lt below (numbered_injective label same)

end Text
end WhatsGoingOn
