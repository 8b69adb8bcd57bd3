import WhatsGoingOn.Library.Text

/-!
# Characters as bytes

The UTF-8 bytes of a text are those of its characters, one after the other.
Read without an error they give the text back, and a byte below 128 is always a
character of its own.
-/

namespace WhatsGoingOn
namespace Text

open Bytes (utf8 ofUtf8)

theorem utf8_ofList (characters : List Char) :
    utf8 (String.ofList characters) =
      characters.flatMap String.utf8EncodeChar := by
  rw [utf8, String.toByteArray_ofList]
  induction characters with
  | nil => simp
  | cons character characters inductionHypothesis =>
      rw [List.utf8Encode_cons, List.utf8Encode_singleton,
        List.flatMap_cons, ByteArray.data_append, Array.toList_append,
        inductionHypothesis]
      simp

theorem utf8_eq (text : String) :
    utf8 text = text.toList.flatMap String.utf8EncodeChar := by
  rw [← utf8_ofList, String.ofList_toList]

theorem utf8_append (left right : String) :
    utf8 (left ++ right) = utf8 left ++ utf8 right := by
  rw [utf8_eq, utf8_eq, utf8_eq, String.toList_append, List.flatMap_append]

/-- A text whose bytes another text begins with is a part of it. -/
theorem toList_prefix_of_utf8 {part text : String}
    (initial : utf8 part <+: utf8 text) : part.toList <+: text.toList := by
  obtain ⟨rest, same⟩ := initial
  refine List.isPrefix_of_utf8Encode_append_eq_utf8Encode ⟨rest.toArray⟩ ?_
  rw [String.utf8Encode_toList, String.utf8Encode_toList]
  ext1
  rw [ByteArray.data_append]
  apply Array.toList_inj.mp
  rw [Array.toList_append]
  exact same

/-! ## One character -/

section Character

variable {character : Char}

/-- The bytes of an ASCII character. -/
theorem utf8EncodeChar_ascii (ascii : character.toNat < 0x80) :
    String.utf8EncodeChar character = [UInt8.ofNat character.toNat] := by
  unfold String.utf8EncodeChar
  exact if_pos (Nat.le_of_lt_succ ascii)

theorem toNat_ofNat {number : Nat} (small : number < 256) :
    (UInt8.ofNat number).toNat = number := by
  rw [UInt8.toNat_ofNat']
  exact Nat.mod_eq_of_lt small

/-- The bytes of another character are not ASCII. -/
theorem le_of_mem_utf8EncodeChar
    (notAscii : 0x80 ≤ character.toNat) {byte : UInt8}
    (member : byte ∈ String.utf8EncodeChar character) : 0x80 ≤ byte := by
  have above {number : Nat} (low : 0x80 ≤ number) (high : number < 256) :
      (0x80 : UInt8) ≤ UInt8.ofNat number := by
    rw [UInt8.le_iff_toNat_le, toNat_ofNat high]
    exact low
  have small : ¬ character.val.toNat ≤ 0x7f := by
    have same : character.val.toNat = character.toNat := rfl
    omega
  unfold String.utf8EncodeChar at member
  simp only [if_neg small] at member
  split at member
  · simp only [List.mem_cons, List.not_mem_nil, or_false] at member
    rcases member with rfl | rfl <;> exact above (by omega) (by omega)
  · split at member
    · simp only [List.mem_cons, List.not_mem_nil, or_false] at member
      rcases member with rfl | rfl | rfl <;> exact above (by omega) (by omega)
    · simp only [List.mem_cons, List.not_mem_nil, or_false] at member
      rcases member with rfl | rfl | rfl | rfl <;>
        exact above (by omega) (by omega)

/-- Only the first byte of a character may be ASCII. -/
theorem le_of_mem_tail_utf8EncodeChar {byte : UInt8}
    (member : byte ∈ (String.utf8EncodeChar character).tail) :
    0x80 ≤ byte := by
  by_cases ascii : character.toNat < 0x80
  · rw [utf8EncodeChar_ascii ascii] at member
    cases member
  · exact le_of_mem_utf8EncodeChar (by omega) (List.mem_of_mem_tail member)

/-- A byte of a character is the character, or is not ASCII. -/
theorem mem_utf8EncodeChar {byte : UInt8}
    (member : byte ∈ String.utf8EncodeChar character) :
    byte.toNat = character.toNat ∨ 0x80 ≤ byte := by
  by_cases ascii : character.toNat < 0x80
  · left
    rw [utf8EncodeChar_ascii ascii, List.mem_singleton] at member
    rw [member, toNat_ofNat (by omega)]
  · exact Or.inr (le_of_mem_utf8EncodeChar (by omega) member)

end Character

/-! ## Reading a character -/

section Reading

variable {first second third fourth : UInt8}

theorem charsOfUtf8Lossy_one (ascii : first < 0x80) (rest : List UInt8) :
    charsOfUtf8Lossy (first :: rest) =
      Char.ofNat first.toNat :: charsOfUtf8Lossy rest := by
  conv_lhs => unfold charsOfUtf8Lossy
  rw [if_pos ascii]

theorem continues_iff {low high byte : UInt8} :
    continues low high byte = true ↔
      low.toNat ≤ byte.toNat ∧ byte.toNat ≤ high.toNat := by
  unfold continues
  rw [decide_eq_true_iff, UInt8.le_iff_toNat_le, UInt8.le_iff_toNat_le]

/-- A byte from `0xC2` to `0xF4` begins a longer character. -/
theorem charsOfUtf8Lossy_longer
    (low : 0xC2 ≤ first.toNat) (high : first.toNat ≤ 0xF4) :
    ¬ first < 0x80 ∧ ¬ (first < 0xC2 ∨ 0xF4 < first) := by
  rw [UInt8.lt_iff_toNat_lt, UInt8.lt_iff_toNat_lt, UInt8.lt_iff_toNat_lt]
  simp only [UInt8.reduceToNat]
  omega

/-- A character of two bytes is decoded. -/
theorem charsOfUtf8Lossy_two
    (low : 0xC2 ≤ first.toNat) (high : first.toNat < 0xE0)
    (seconds : continues (secondBounds first).1 (secondBounds first).2 second =
      true)
    (rest : List UInt8) :
    charsOfUtf8Lossy (first :: second :: rest) =
      charOf (first % 32) [second] :: charsOfUtf8Lossy rest := by
  obtain ⟨notAscii, begins⟩ := charsOfUtf8Lossy_longer low (by omega)
  have short : first < 0xE0 := by
    rw [UInt8.lt_iff_toNat_lt]
    exact high
  conv_lhs => unfold charsOfUtf8Lossy
  rw [if_neg notAscii, if_neg begins]
  dsimp only
  rw [seconds, if_neg (by simp), if_pos short]

/-- A character of three bytes is decoded. -/
theorem charsOfUtf8Lossy_three
    (low : 0xE0 ≤ first.toNat) (high : first.toNat < 0xF0)
    (seconds : continues (secondBounds first).1 (secondBounds first).2 second =
      true)
    (thirds : continues 0x80 0xBF third = true) (rest : List UInt8) :
    charsOfUtf8Lossy (first :: second :: third :: rest) =
      charOf (first % 16) [second, third] :: charsOfUtf8Lossy rest := by
  obtain ⟨notAscii, begins⟩ :=
    @charsOfUtf8Lossy_longer first (by omega) (by omega)
  have notShort : ¬ first < 0xE0 := by
    rw [UInt8.lt_iff_toNat_lt]
    exact Nat.not_lt.mpr low
  have short : first < 0xF0 := by
    rw [UInt8.lt_iff_toNat_lt]
    exact high
  conv_lhs => unfold charsOfUtf8Lossy
  rw [if_neg notAscii, if_neg begins]
  dsimp only
  rw [seconds, if_neg (by simp), if_neg notShort, thirds, if_neg (by simp),
    if_pos short]

/-- A character of four bytes is decoded. -/
theorem charsOfUtf8Lossy_four
    (low : 0xF0 ≤ first.toNat) (high : first.toNat ≤ 0xF4)
    (seconds : continues (secondBounds first).1 (secondBounds first).2 second =
      true)
    (thirds : continues 0x80 0xBF third = true)
    (fourths : continues 0x80 0xBF fourth = true) (rest : List UInt8) :
    charsOfUtf8Lossy (first :: second :: third :: fourth :: rest) =
      charOf (first % 8) [second, third, fourth] ::
        charsOfUtf8Lossy rest := by
  obtain ⟨notAscii, begins⟩ :=
    @charsOfUtf8Lossy_longer first (by omega) (by omega)
  have notShort : ¬ first < 0xE0 := by
    rw [UInt8.lt_iff_toNat_lt]
    simp only [UInt8.reduceToNat]
    omega
  have notThree : ¬ first < 0xF0 := by
    rw [UInt8.lt_iff_toNat_lt]
    exact Nat.not_lt.mpr low
  conv_lhs => unfold charsOfUtf8Lossy
  rw [if_neg notAscii, if_neg begins]
  dsimp only
  rw [seconds, if_neg (by simp), if_neg notShort, thirds, if_neg (by simp),
    if_neg notThree, fourths, if_neg (by simp)]

/-- The second byte of a character is within its bounds when the character has
no shorter form, is no surrogate and is not too large. -/
theorem continues_secondBounds
    (general : 0x80 ≤ second.toNat ∧ second.toNat ≤ 0xBF)
    (least : first.toNat = 0xE0 → 0xA0 ≤ second.toNat)
    (surrogate : first.toNat = 0xED → second.toNat ≤ 0x9F)
    (leastFour : first.toNat = 0xF0 → 0x90 ≤ second.toNat)
    (greatest : first.toNat = 0xF4 → second.toNat ≤ 0x8F) :
    continues (secondBounds first).1 (secondBounds first).2 second = true := by
  rw [continues_iff]
  unfold secondBounds
  split
  · rename_i same
    exact ⟨least (by rw [same]; rfl), general.2⟩
  · split
    · rename_i same
      exact ⟨general.1, surrogate (by rw [same]; rfl)⟩
    · split
      · rename_i same
        exact ⟨leastFour (by rw [same]; rfl), general.2⟩
      · split
        · rename_i same
          exact ⟨general.1, greatest (by rw [same]; rfl)⟩
        · exact general

end Reading

/-- The bytes of a character are read as the character. -/
theorem charsOfUtf8Lossy_utf8EncodeChar (character : Char)
    (rest : List UInt8) :
    charsOfUtf8Lossy (String.utf8EncodeChar character ++ rest) =
      character :: charsOfUtf8Lossy rest := by
  have valid : character.val.toNat < 0xD800 ∨
      0xDFFF < character.val.toNat ∧ character.val.toNat < 0x110000 :=
    character.valid
  have whole : Char.ofNat character.val.toNat = character :=
    Char.ofNat_toNat character
  unfold String.utf8EncodeChar
  dsimp only
  generalize character.val.toNat = point at valid whole
  split
  · rename_i one
    rw [List.singleton_append, charsOfUtf8Lossy_one, toNat_ofNat (by omega),
      whole]
    rw [UInt8.lt_iff_toNat_lt, toNat_ofNat (by omega)]
    exact Nat.lt_succ_of_le one
  · split
    · have lead : (UInt8.ofNat (point / 64 % 32 + 0xc0)).toNat =
          point / 64 + 0xc0 := by
        rw [toNat_ofNat (by omega)]
        omega
      have last : (UInt8.ofNat (point % 64 + 0x80)).toNat =
          point % 64 + 0x80 := toNat_ofNat (by omega)
      rw [List.cons_append, List.singleton_append, charsOfUtf8Lossy_two]
      · congr 1
        rw [charOf, ← whole]
        congr 1
        simp only [List.foldl_cons, List.foldl_nil, UInt8.toNat_mod, lead, last]
        simp only [UInt8.reduceToNat]
        omega
      · omega
      · omega
      · apply continues_secondBounds <;> omega
    · split
      · have lead : (UInt8.ofNat (point / 4096 % 16 + 0xe0)).toNat =
            point / 4096 + 0xe0 := by
          rw [toNat_ofNat (by omega)]
          omega
        have middle : (UInt8.ofNat (point / 64 % 64 + 0x80)).toNat =
            point / 64 % 64 + 0x80 := toNat_ofNat (by omega)
        have last : (UInt8.ofNat (point % 64 + 0x80)).toNat =
            point % 64 + 0x80 := toNat_ofNat (by omega)
        rw [List.cons_append, List.cons_append, List.singleton_append,
          charsOfUtf8Lossy_three]
        · congr 1
          rw [charOf, ← whole]
          congr 1
          simp only [List.foldl_cons, List.foldl_nil, UInt8.toNat_mod, lead,
            middle, last]
          simp only [UInt8.reduceToNat]
          omega
        · omega
        · omega
        · apply continues_secondBounds <;> omega
        · rw [continues_iff, last]
          simp only [UInt8.reduceToNat]
          omega
      · have lead : (UInt8.ofNat (point / 262144 % 8 + 0xf0)).toNat =
            point / 262144 + 0xf0 := by
          rw [toNat_ofNat (by omega)]
          omega
        have second : (UInt8.ofNat (point / 4096 % 64 + 0x80)).toNat =
            point / 4096 % 64 + 0x80 := toNat_ofNat (by omega)
        have third : (UInt8.ofNat (point / 64 % 64 + 0x80)).toNat =
            point / 64 % 64 + 0x80 := toNat_ofNat (by omega)
        have last : (UInt8.ofNat (point % 64 + 0x80)).toNat =
            point % 64 + 0x80 := toNat_ofNat (by omega)
        rw [List.cons_append, List.cons_append, List.cons_append,
          List.singleton_append, charsOfUtf8Lossy_four]
        · congr 1
          rw [charOf, ← whole]
          congr 1
          simp only [List.foldl_cons, List.foldl_nil, UInt8.toNat_mod, lead,
            second, third, last]
          simp only [UInt8.reduceToNat]
          omega
        · omega
        · omega
        · apply continues_secondBounds <;> omega
        · rw [continues_iff, third]
          simp only [UInt8.reduceToNat]
          omega
        · rw [continues_iff, last]
          simp only [UInt8.reduceToNat]
          omega

/-- A text is read from its bytes. -/
theorem fromUtf8Lossy_utf8 (text : String) :
    fromUtf8Lossy (utf8 text) = text := by
  have read (characters : List Char) :
      charsOfUtf8Lossy (characters.flatMap String.utf8EncodeChar) =
        characters := by
    induction characters with
    | nil => simp [charsOfUtf8Lossy]
    | cons character characters inductionHypothesis =>
        rw [List.flatMap_cons, charsOfUtf8Lossy_utf8EncodeChar,
          inductionHypothesis]
  rw [fromUtf8Lossy, utf8_eq, read, String.ofList_toList]

end Text
end WhatsGoingOn
