import Mathlib.Data.List.Induction
import Mathlib.Tactic.Ring

/-!
# Big-endian integers and UTF-8 text

Byte strings are lists of `UInt8`.  This module converts between natural
numbers and fixed-width big-endian byte strings, and between strings and their
UTF-8 bytes.  Both conversions are exact inverses on their ranges.
-/

namespace WhatsGoingOn
namespace Bytes

/-- The `count` low-order bytes of a number, most significant first. -/
def bigEndian : Nat → Nat → List UInt8
  | 0, _ => []
  | count + 1, value => bigEndian count (value / 256) ++ [UInt8.ofNat value]

/-- The number written by a big-endian byte string. -/
def ofBigEndian (bytes : List UInt8) : Nat :=
  bytes.foldl (fun value byte => value * 256 + byte.toNat) 0

@[simp] theorem length_bigEndian (count value : Nat) :
    (bigEndian count value).length = count := by
  induction count generalizing value with
  | zero => rfl
  | succ count inductionHypothesis =>
      simp [bigEndian, inductionHypothesis]

@[simp] theorem ofBigEndian_nil : ofBigEndian [] = 0 := rfl

@[simp] theorem ofBigEndian_append_singleton
    (bytes : List UInt8) (byte : UInt8) :
    ofBigEndian (bytes ++ [byte]) = ofBigEndian bytes * 256 + byte.toNat := by
  simp [ofBigEndian]

/-- Reading back a number that fits in the written width. -/
theorem ofBigEndian_bigEndian
    (count value : Nat)
    (fits : value < 256 ^ count) :
    ofBigEndian (bigEndian count value) = value := by
  induction count generalizing value with
  | zero =>
      simp only [pow_zero, Nat.lt_one_iff] at fits
      simp [bigEndian, fits]
  | succ count inductionHypothesis =>
      have quotientFits : value / 256 < 256 ^ count := by
        rw [Nat.div_lt_iff_lt_mul (by norm_num)]
        rwa [pow_succ] at fits
      rw [bigEndian, ofBigEndian_append_singleton,
        inductionHypothesis _ quotientFits, UInt8.toNat_ofNat']
      omega

/-- A number is written as its high-order bytes and then its low-order
bytes. -/
theorem bigEndian_add (high low value : Nat) :
    bigEndian (high + low) value =
      bigEndian high (value / 256 ^ low) ++ bigEndian low value := by
  induction low generalizing value with
  | zero => simp [bigEndian]
  | succ low inductionHypothesis =>
      rw [← Nat.add_assoc, bigEndian, bigEndian, inductionHypothesis,
        Nat.div_div_eq_div_mul, pow_succ, Nat.mul_comm 256,
        List.append_assoc]

/-- Reading back the low-order bytes of a number. -/
theorem ofBigEndian_bigEndian_mod (count value : Nat) :
    ofBigEndian (bigEndian count value) = value % 256 ^ count := by
  induction count generalizing value with
  | zero => simp [bigEndian, Nat.mod_one]
  | succ count inductionHypothesis =>
      have split : value % 256 ^ (count + 1) =
          value % 256 + 256 * (value / 256 % 256 ^ count) := by
        rw [pow_succ, Nat.mul_comm, Nat.mod_mul]
      rw [bigEndian, ofBigEndian_append_singleton, inductionHypothesis,
        UInt8.toNat_ofNat', split]
      omega

/-- A byte string of length `count` writes a number below `256 ^ count`. -/
theorem ofBigEndian_lt (bytes : List UInt8) :
    ofBigEndian bytes < 256 ^ bytes.length := by
  induction bytes using List.reverseRecOn with
  | nil => simp
  | append_singleton bytes byte inductionHypothesis =>
      have byteBound := byte.toNat_lt
      rw [ofBigEndian_append_singleton, List.length_append,
        List.length_singleton, pow_succ]
      omega

/-- Writing back the number of a byte string at its own width. -/
theorem bigEndian_ofBigEndian (bytes : List UInt8) :
    bigEndian bytes.length (ofBigEndian bytes) = bytes := by
  induction bytes using List.reverseRecOn with
  | nil => rfl
  | append_singleton bytes byte inductionHypothesis =>
      have byteBound := byte.toNat_lt
      have quotient :
          (ofBigEndian bytes * 256 + byte.toNat) / 256 =
            ofBigEndian bytes := by
        omega
      have lowByte :
          UInt8.ofNat (ofBigEndian bytes * 256 + byte.toNat) = byte := by
        apply UInt8.toNat_inj.mp
        rw [UInt8.toNat_ofNat']
        omega
      rw [List.length_append, List.length_singleton, bigEndian,
        ofBigEndian_append_singleton, quotient, lowByte,
        inductionHypothesis]

/-! ## UTF-8 text -/

/-- UTF-8 bytes of a string. -/
def utf8 (text : String) : List UInt8 :=
  text.toByteArray.data.toList

/-- The string spelled by a byte string, when the bytes are valid UTF-8. -/
def ofUtf8 (bytes : List UInt8) : Option String :=
  String.fromUTF8? ⟨bytes.toArray⟩

@[simp] theorem ofUtf8_utf8 (text : String) :
    ofUtf8 (utf8 text) = some text := by
  unfold ofUtf8 utf8 String.fromUTF8?
  rw [Array.toArray_toList]
  exact dif_pos text.isValidUTF8

theorem utf8_of_ofUtf8
    {bytes : List UInt8} {text : String}
    (decoded : ofUtf8 bytes = some text) :
    utf8 text = bytes := by
  unfold ofUtf8 String.fromUTF8? at decoded
  split at decoded
  · cases decoded
    rfl
  · cases decoded

theorem utf8_injective : Function.Injective utf8 := by
  intro left right equal
  have decoded := congrArg ofUtf8 equal
  simpa using decoded

end Bytes
end WhatsGoingOn
