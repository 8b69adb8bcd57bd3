import WhatsGoingOn.Daemon.Cbor

/-!
# Runtime of the generated codecs

The functions that every generated Rust codec calls: range checks on encoding,
shape checks on decoding, and the treatment of missing fields.
-/

namespace WhatsGoingOn
namespace Daemon

/-- Failures of a generated codec. -/
inductive CodecError where
  | cbor (error : CborError)
  | expectedArray
  | expectedBool
  | expectedBytes
  | expectedF64
  | expectedInteger
  | expectedMap
  | expectedText
  | integerOutOfRange (typeName : String)
  | nonFiniteFloat (typeName : String)
  | unknownEnumVariant (typeName : String) (variantId : UInt64)
  | unknownUnionVariant (typeName : String) (variantId : UInt64)
  deriving DecidableEq, Repr

/-- What `CborError` displays. -/
def CborError.text : CborError → String
  | .unexpectedEnd => "unexpected end of input"
  | .unsupportedType => "unsupported CBOR type"
  | .nonCanonicalInteger => "non-canonical integer encoding"
  | .duplicateMapKey => "duplicate map key"
  | .expectedUnsignedMapKey => "expected unsigned integer map key"
  | .trailingBytes => "trailing bytes after value"
  | .invalidUtf8 => "invalid utf-8 string"
  | .lengthTooLarge => "length exceeds implementation limit"

/-- What `CodecError` displays. -/
def CodecError.text : CodecError → String
  | .cbor error => "cbor error: " ++ error.text
  | .expectedArray => "expected CBOR array"
  | .expectedBool => "expected CBOR bool"
  | .expectedBytes => "expected CBOR bytes"
  | .expectedF64 => "expected CBOR f64"
  | .expectedInteger => "expected CBOR integer"
  | .expectedMap => "expected CBOR map"
  | .expectedText => "expected CBOR text"
  | .integerOutOfRange typeName =>
      "integer is out of range for " ++ typeName
  | .nonFiniteFloat typeName =>
      "non-finite float is out of range for " ++ typeName
  | .unknownEnumVariant typeName variantId =>
      "unknown " ++ typeName ++ " enum variant " ++ toString variantId.toNat
  | .unknownUnionVariant typeName variantId =>
      "unknown " ++ typeName ++ " union variant " ++ toString variantId.toNat

/-- `MAX_U53`, and the bound of `MIN_I53` and `MAX_I53`. -/
def maxU53 : Nat := 9007199254740991

/-- `f64::is_finite`, on the bit pattern: the exponent is not all ones. -/
def isFinite (bits : UInt64) : Bool :=
  bits.toNat / 2 ^ 52 % 2 ^ 11 != 2 ^ 11 - 1

/-! ## Encoding -/

/-- A u53, checked before it is written. -/
def encodeU53 (value : UInt64) : Except CodecError Value :=
  if maxU53 < value.toNat then .error (.integerOutOfRange "u53")
  else .ok (.u64 value)

/-- An i53, checked before it is written. -/
def encodeI53 (value : Int64) : Except CodecError Value :=
  if -(maxU53 : Int) ≤ value.toInt ∧ value.toInt ≤ maxU53 then
    .ok (.i64 value)
  else .error (.integerOutOfRange "i53")

/-- A float, which has to be finite. -/
def encodeF64 (bits : UInt64) : Except CodecError Value :=
  if isFinite bits then .ok (.f64 bits)
  else .error (.nonFiniteFloat "f64")

/-! ## Decoding -/

/-- The fields of a map; anything else is an error. -/
def expectMap : Value → Except CodecError (List (UInt64 × Value))
  | .map fields => .ok fields
  | _ => .error .expectedMap

/-- An unsigned integer. Every u64 passes, with no look at the range of u53. -/
def expectU64 : Value → Except CodecError UInt64
  | .u64 value => .ok value
  | .i64 value =>
      if 0 ≤ value.toInt then .ok (UInt64.ofNat value.toInt.toNat)
      else .error .expectedInteger
  | _ => .error .expectedInteger

/-- A signed integer, or an unsigned one that fits. -/
def expectI64 : Value → Except CodecError Int64
  | .i64 value => .ok value
  | .u64 value =>
      if value.toNat ≤ i64Max then .ok (Int64.ofInt value.toNat)
      else .error .expectedInteger
  | _ => .error .expectedInteger

/-- The bits of a float; anything else is an error. -/
def expectF64 : Value → Except CodecError UInt64
  | .f64 bits => .ok bits
  | _ => .error .expectedF64

/-- A text; anything else is an error. -/
def expectText : Value → Except CodecError String
  | .text content => .ok content
  | _ => .error .expectedText

/-- A truth value; anything else is an error. -/
def expectBool : Value → Except CodecError Bool
  | .bool value => .ok value
  | _ => .error .expectedBool

/-- A byte string; anything else is an error. -/
def expectBytes : Value → Except CodecError (List UInt8)
  | .bytes payload => .ok payload
  | _ => .error .expectedBytes

/-- The variant id and the fields of a union tuple. -/
def expectUnion :
    Value → Except CodecError (UInt64 × List (UInt64 × Value))
  | .array [kind, fields] => do
      let variantId ← expectU64 kind
      let fields ← expectMap fields
      pure (variantId, fields)
  | _ => .error .expectedArray

theorem expectMap_eq_ok
    {value : Value} {fields : List (UInt64 × Value)} :
    expectMap value = .ok fields ↔ value = .map fields := by
  cases value <;> simp [expectMap]

/-- A union is an array of a number and a map. -/
theorem expectUnion_eq_ok
    {value : Value} {variantId : UInt64} {fields : List (UInt64 × Value)} :
    expectUnion value = .ok (variantId, fields) ↔
      ∃ kind, value = .array [kind, .map fields] ∧
        expectU64 kind = .ok variantId := by
  constructor
  · intro expected
    unfold expectUnion at expected
    split at expected
    · rename_i kind body
      cases number : expectU64 kind with
      | error failure => simp [number, bind, Except.bind] at expected
      | ok found =>
          cases entries : expectMap body with
          | error failure => simp [number, entries, bind, Except.bind]
              at expected
          | ok inside =>
              simp only [number, entries, bind, Except.bind, pure, Except.pure,
                Except.ok.injEq, Prod.mk.injEq] at expected
              obtain ⟨rfl, rfl⟩ := expected
              rw [expectMap_eq_ok.mp entries]
              exact ⟨kind, rfl, number⟩
    · cases expected
  · rintro ⟨kind, rfl, number⟩
    simp [expectUnion, number, expectMap, bind, Except.bind, pure,
      Except.pure]

/-- An absent optional field is absent. -/
def optionalField {ν α : Type}
    (value : Option ν)
    (decode : ν → Except CodecError α) : Except CodecError (Option α) :=
  match value with
  | some value => some <$> decode value
  | none => .ok none

/-- An absent required field takes its default. -/
def fieldOrDefault {ν α : Type}
    (value : Option ν)
    (decode : ν → Except CodecError α)
    (default : α) : Except CodecError α :=
  match value with
  | some value => decode value
  | none => .ok default

end Daemon
end WhatsGoingOn
