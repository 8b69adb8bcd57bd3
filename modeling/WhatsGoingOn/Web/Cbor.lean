import WhatsGoingOn.Library.Bytes
import WhatsGoingOn.Library.Outcome
import WhatsGoingOn.Library.Reader

/-!
# The web client's CBOR codec

JavaScript values, and the codec over them.  A string is a sequence of Unicode
scalar values, since only such strings have an encoding that can be read back.
Numbers are split into what the codec can tell apart.  The platform's limit on
the number of arguments that a spread passes is left out.
-/

namespace WhatsGoingOn
namespace Web

/-- Errors of the codec. -/
inductive CborError where
  /-- "unexpected end of CBOR" -/
  | unexpectedEnd
  /-- "trailing bytes after CBOR value" -/
  | trailingBytes
  /-- "unsupported CBOR value" -/
  | unsupportedValue
  /-- "unsupported CBOR length" -/
  | unsupportedLength
  /-- "CBOR integer is outside safe-integer range" -/
  | unsafeInteger
  /-- "expected unsigned safe-integer map key" -/
  | expectedUnsignedMapKey
  /-- "duplicate CBOR map key" -/
  | duplicateMapKey
  /-- "expected finite f64" -/
  | expectedFiniteF64
  /-- "unsupported non-finite CBOR number" -/
  | nonFiniteNumber
  /-- "expected unsigned safe integer" -/
  | expectedUnsignedInteger
  /-- The `TypeError` of a fatal `TextDecoder`. -/
  | invalidText
  /-- The `RangeError` of an array that is too long. -/
  | invalidArrayLength
  deriving DecidableEq, Repr

/-- `Number.MAX_SAFE_INTEGER`. -/
def maxSafeInteger : Nat := 9007199254740991

/-- The greatest length of an array. -/
def maxArrayLength : Nat := 2 ^ 32 - 1

/-- A JavaScript number, as far as the codec can tell numbers apart. -/
inductive JsNumber where
  | integer (value : Int)
  | fraction (bits : UInt64)
  | nonFinite
  deriving DecidableEq, Repr

/-- A value of the web client.  A map lists its entries in the order in which
they were set. -/
inductive CborValue where
  | null
  | bool (value : Bool)
  | number (value : JsNumber)
  | f64 (bits : UInt64)
  | text (content : String)
  | bytes (payload : List UInt8)
  | array (items : List CborValue)
  | map (entries : List (Int × CborValue))

/-- `Number.isSafeInteger`, of an integral number. -/
def isSafeInteger (value : Int) : Bool :=
  decide (-(maxSafeInteger : Int) ≤ value ∧ value ≤ maxSafeInteger)

/-- `Number.isFinite`, on the bit pattern: the exponent is not all ones. -/
def isFinite (bits : UInt64) : Bool :=
  bits.toNat / 2 ^ 52 % 2 ^ 11 != 2 ^ 11 - 1

/-! ## Encoding -/

/-- `encodeFloat64`. -/
def encodeFloat64 (bits : UInt64) : List UInt8 :=
  0xfb :: Bytes.bigEndian 8 bits.toNat

/-- The head of a data item. -/
def encodeTypeValue (major : Nat) (value : Int) :
    Except CborError (List UInt8) :=
  if isSafeInteger value = false ∨ value < 0 then
    .error .expectedUnsignedInteger
  else
    let argument := value.toNat
    let initial := major <<< 5
    if argument < 24 then
      .ok [UInt8.ofNat (initial ||| argument)]
    else if argument ≤ 0xff then
      .ok [UInt8.ofNat (initial ||| 24), UInt8.ofNat argument]
    else if argument ≤ 0xffff then
      .ok [UInt8.ofNat (initial ||| 25), UInt8.ofNat (argument >>> 8),
        UInt8.ofNat (argument &&& 0xff)]
    else if argument ≤ 0xffffffff then
      .ok (UInt8.ofNat (initial ||| 26) :: Bytes.bigEndian 4 argument)
    else
      .ok (UInt8.ofNat (initial ||| 27) :: Bytes.bigEndian 8 argument)

/-- A number that is not wrapped in `CborF64`. -/
def encodeNumber : JsNumber → Except CborError (List UInt8)
  | .integer value =>
      if isSafeInteger value then
        if 0 ≤ value then encodeTypeValue 0 value
        else encodeTypeValue 1 (-1 - value)
      else .error .unsafeInteger
  | .fraction bits => .ok (encodeFloat64 bits)
  | .nonFinite => .error .nonFiniteNumber

/-- Write the entries of a map, which were sorted by their keys. -/
def writeEntries :
    List (Int × Except CborError (List UInt8)) →
      Except CborError (List UInt8)
  | [] => .ok []
  | (key, value) :: entries => do
      if isSafeInteger key = false ∨ key < 0 then
        throw .expectedUnsignedMapKey
      let key ← encodeTypeValue 0 key
      let value ← value
      let rest ← writeEntries entries
      pure (key ++ value ++ rest)

/-- Sort entries by their keys. -/
def sortEntries {α : Type} (entries : List (Int × α)) : List (Int × α) :=
  entries.mergeSort fun left right => decide (left.1 ≤ right.1)

mutual

/-- `encode`: the bytes it pushes. -/
def encode : CborValue → Except CborError (List UInt8)
  | .null => .ok [0xf6]
  | .bool value => .ok [if value then 0xf5 else 0xf4]
  | .number value => encodeNumber value
  | .text content => do
      let payload := Bytes.utf8 content
      let head ← encodeTypeValue 3 payload.length
      pure (head ++ payload)
  | .bytes payload => do
      let head ← encodeTypeValue 2 payload.length
      pure (head ++ payload)
  | .array items => do
      let head ← encodeTypeValue 4 items.length
      let body ← encodeItems items
      pure (head ++ body)
  | .map entries => do
      let head ← encodeTypeValue 5 entries.length
      let body ← writeEntries (sortEntries (encodeEntries entries))
      pure (head ++ body)
  | .f64 bits => .ok (encodeFloat64 bits)

/-- The items of an array, one after the other. -/
def encodeItems : List CborValue → Except CborError (List UInt8)
  | [] => .ok []
  | item :: items => do
      let first ← encode item
      let rest ← encodeItems items
      pure (first ++ rest)

/-- The bytes of every value of a map, which are pushed later. -/
def encodeEntries :
    List (Int × CborValue) → List (Int × Except CborError (List UInt8))
  | [] => []
  | (key, value) :: entries => (key, encode value) :: encodeEntries entries

end

/-- `encodeCbor`. -/
def encodeCbor (value : CborValue) : Except CborError (List UInt8) :=
  encode value

/-! ## Decoding -/

/-- A reader of the codec.  It requests no buffers. -/
abbrev Decoder (α : Type) : Type :=
  Reader CborError Empty α

/-- `read`. -/
def read : Decoder UInt8 :=
  Reader.byte .unexpectedEnd

/-- One step of the loop of `readFixedUint`. -/
def readDigit (value : Nat) : Decoder Nat := do
  let byte ← read
  pure (value * 256 + byte.toNat)

/-- `readFixedUint`. -/
def readFixedUint (length : Nat) : Decoder Nat :=
  Reader.loop readDigit length 0

/-- `readBytes`. -/
def readBytes (length : Nat) : Decoder (List UInt8) :=
  Reader.take .unexpectedEnd length

/-- `safeUnsigned`. -/
def safeUnsigned (value : Nat) : Decoder Nat :=
  if maxSafeInteger < value then Reader.fail .unsafeInteger
  else pure value

/-- `readU64AsU53`. -/
def readU64AsU53 : Decoder Nat := do
  let high ← readFixedUint 4
  let low ← readFixedUint 4
  if 0x1fffff < high then Reader.fail .unsafeInteger
  else safeUnsigned (high * 0x100000000 + low)

/-- `readArg`. -/
def readArg (additional : UInt8) : Decoder Nat :=
  if additional < 24 then pure additional.toNat
  else
    match additional with
    | 24 => do
        let byte ← read
        pure byte.toNat
    | 25 => readFixedUint 2
    | 26 => readFixedUint 4
    | 27 => readU64AsU53
    | _ => Reader.fail .unsupportedLength

/-- `readNegativeArg`. -/
def readNegativeArg (additional : UInt8) : Decoder Nat := do
  let value ← readArg additional
  if maxSafeInteger - 1 < value then Reader.fail .unsafeInteger
  else pure value

/-- A `TextDecoder` that does not ignore the byte order mark drops one at the
start of its output. -/
def stripByteOrderMark (text : String) : String :=
  match text.toList with
  | '\uFEFF' :: rest => String.ofList rest
  | _ => text

/-- `new TextDecoder("utf-8", { fatal: true }).decode`. -/
def decodeText (payload : List UInt8) : Decoder String :=
  match Bytes.ofUtf8 payload with
  | some text => pure (stripByteOrderMark text)
  | none => Reader.fail .invalidText

/-- `cborF64`. -/
def cborF64 (bits : UInt64) : Decoder CborValue :=
  if isFinite bits then pure (.f64 bits) else Reader.fail .expectedFiniteF64

/-- Decode one item of an array. -/
def decodeItem (decode : Decoder CborValue) (items : List CborValue) :
    Decoder (List CborValue) := do
  let item ← decode
  pure (items ++ [item])

/-- Decode one entry of a map and set it. -/
def decodeEntry (decode : Decoder CborValue)
    (map : List (Int × CborValue)) : Decoder (List (Int × CborValue)) := do
  let key ← decode
  match key with
  | .number (.integer key) =>
      if isSafeInteger key = false ∨ key < 0 then
        Reader.fail .expectedUnsignedMapKey
      else if (map.lookup key).isSome then Reader.fail .duplicateMapKey
      else do
        let value ← decode
        pure (map ++ [(key, value)])
  | _ => Reader.fail .expectedUnsignedMapKey

/-- Decode a value whose initial byte has been read. -/
def decodeMajor (decode : Decoder CborValue) (major additional : UInt8) :
    Decoder CborValue :=
  match major with
  | 0 => do
      let value ← readArg additional
      pure (.number (.integer value))
  | 1 => do
      let value ← readNegativeArg additional
      pure (.number (.integer (-1 - value)))
  | 2 => do
      let length ← readArg additional
      let payload ← readBytes length
      pure (.bytes payload)
  | 3 => do
      let length ← readArg additional
      let payload ← readBytes length
      let text ← decodeText payload
      pure (.text text)
  | 4 => do
      let length ← readArg additional
      if maxArrayLength < length then Reader.fail .invalidArrayLength
      else do
        let items ← Reader.loop (decodeItem decode) length []
        pure (.array items)
  | 5 => do
      let length ← readArg additional
      let map ← Reader.loop (decodeEntry decode) length []
      pure (.map map)
  | 7 =>
      match additional with
      | 20 => pure (.bool false)
      | 21 => pure (.bool true)
      | 22 => pure .null
      | 27 => do
          let payload ← readBytes 8
          cborF64 (UInt64.ofNat (Bytes.ofBigEndian payload))
      | _ => Reader.fail .unsupportedValue
  | _ => Reader.fail .unsupportedValue

/-- `decode`, with at most `fuel` nested calls.  Every call reads a byte
first, so as many calls as there are bytes suffice. -/
def decodeWithin : Nat → Decoder CborValue
  | 0 => Reader.fail .unexpectedEnd
  | fuel + 1 => do
      let initial ← read
      decodeMajor (decodeWithin fuel) (initial >>> 5) (initial &&& 0x1f)

/-- `decode`. -/
def decode : Decoder CborValue := fun bytes =>
  decodeWithin bytes.length bytes

/-- `decodeCbor`. -/
def decodeCbor (bytes : List UInt8) : Except CborError CborValue := do
  let (value, rest) ← (decode bytes).outcome
  if rest.isEmpty then pure value
  else throw .trailingBytes

/-! ## The recursion equation of the decoder -/

/-- A relation between readers that the primitives of the codec satisfy and
that sequencing preserves. -/
structure DecoderRelation
    (related : ∀ α : Type, Decoder α → Decoder α → Prop) : Prop
    extends Reader.Congruence related where
  fail : ∀ {α : Type} (failure : CborError),
    related α (Reader.fail failure) (Reader.fail failure)
  read : related _ read read
  readBytes : ∀ length, related _ (readBytes length) (readBytes length)

namespace DecoderRelation

variable {related : ∀ α : Type, Decoder α → Decoder α → Prop}

theorem readFixedUint
    (relation : DecoderRelation related) (length : Nat) :
    related _ (readFixedUint length) (readFixedUint length) :=
  relation.loop (fun _ => relation.bind relation.read fun _ =>
    relation.pure _) length 0

/-- The argument of a head is decoded in the same way under any relation of
decoders. -/
theorem readArg
    (relation : DecoderRelation related) (additional : UInt8) :
    related _ (readArg additional) (readArg additional) := by
  unfold Web.readArg
  split
  · exact relation.pure _
  · split
    · exact relation.bind relation.read fun _ => relation.pure _
    · exact relation.readFixedUint 2
    · exact relation.readFixedUint 4
    · refine relation.bind (relation.readFixedUint 4) fun high => ?_
      refine relation.bind (relation.readFixedUint 4) fun low => ?_
      split
      · exact relation.fail .unsafeInteger
      · unfold safeUnsigned
        split
        · exact relation.fail .unsafeInteger
        · exact relation.pure _
    · exact relation.fail .unsupportedLength

/-- An entry of a map is decoded in the same way by decoders that are related. -/
theorem decodeEntry
    (relation : DecoderRelation related)
    {left right : Decoder CborValue}
    (decode : related _ left right)
    (map : List (Int × CborValue)) :
    related _ (decodeEntry left map) (decodeEntry right map) := by
  refine relation.bind decode fun key => ?_
  split
  · split
    · exact relation.fail .expectedUnsignedMapKey
    · split
      · exact relation.fail .duplicateMapKey
      · exact relation.bind decode fun _ => relation.pure _
  · exact relation.fail .expectedUnsignedMapKey

/-- Related decoders of nested values give related decoders of values. -/
theorem decodeMajor
    (relation : DecoderRelation related)
    {left right : Decoder CborValue}
    (decode : related _ left right)
    (major additional : UInt8) :
    related _ (decodeMajor left major additional)
      (decodeMajor right major additional) := by
  have argument := relation.readArg additional
  unfold Web.decodeMajor
  split
  · exact relation.bind argument fun _ => relation.pure _
  · refine relation.bind (relation.bind argument fun value => ?_)
      fun _ => relation.pure _
    split
    · exact relation.fail .unsafeInteger
    · exact relation.pure _
  · refine relation.bind argument fun length => ?_
    exact relation.bind (relation.readBytes length) fun _ => relation.pure _
  · refine relation.bind argument fun length => ?_
    refine relation.bind (relation.readBytes length) fun payload => ?_
    unfold decodeText
    split
    · exact relation.bind (relation.pure _) fun _ => relation.pure _
    · exact relation.bind (relation.fail .invalidText)
        fun _ => relation.pure _
  · refine relation.bind argument fun length => ?_
    split
    · exact relation.fail .invalidArrayLength
    · exact relation.bind
        (relation.loop (fun _ => relation.bind decode fun _ =>
          relation.pure _) length [])
        fun _ => relation.pure _
  · refine relation.bind argument fun length => ?_
    exact relation.bind
      (relation.loop (relation.decodeEntry decode) length [])
      fun _ => relation.pure _
  · split
    · exact relation.pure _
    · exact relation.pure _
    · exact relation.pure _
    · refine relation.bind (relation.readBytes 8) fun payload => ?_
      unfold cborF64
      split
      · exact relation.pure _
      · exact relation.fail .expectedFiniteF64
    · exact relation.fail .unsupportedValue
  · exact relation.fail .unsupportedValue

theorem consuming :
    DecoderRelation fun (α : Type) (left right : Decoder α) =>
      left = right ∧ Reader.Consuming left where
  toCongruence := Reader.Consuming.congruence
  fail := fun failure => ⟨rfl, Reader.Consuming.fail failure⟩
  read := ⟨rfl, Reader.Consuming.byte CborError.unexpectedEnd⟩
  readBytes := fun length =>
    ⟨rfl, Reader.Consuming.take CborError.unexpectedEnd length⟩

theorem stable :
    DecoderRelation fun (α : Type) (left right : Decoder α) =>
      left = right ∧ Reader.Stable CborError.unexpectedEnd left where
  toCongruence := Reader.Stable.congruence
  fail := fun failure => ⟨rfl, Reader.Stable.fail failure⟩
  read := ⟨rfl, Reader.Stable.byte⟩
  readBytes := fun length => ⟨rfl, Reader.Stable.take length⟩

theorem agreeUpTo (bound : Nat) :
    DecoderRelation fun (α : Type) (left right : Decoder α) =>
      Reader.AgreeUpTo bound left right ∧ Reader.Consuming left where
  toCongruence := Reader.AgreeUpTo.congruence
  fail := fun failure =>
    ⟨Reader.AgreeUpTo.refl _, Reader.Consuming.fail failure⟩
  read := ⟨Reader.AgreeUpTo.refl _,
    Reader.Consuming.byte CborError.unexpectedEnd⟩
  readBytes := fun length => ⟨Reader.AgreeUpTo.refl _,
    Reader.Consuming.take CborError.unexpectedEnd length⟩

end DecoderRelation

theorem consuming_decodeWithin (fuel : Nat) :
    Reader.Consuming (decodeWithin fuel) := by
  induction fuel with
  | zero => exact Reader.Consuming.fail CborError.unexpectedEnd
  | succ fuel inductionHypothesis =>
      refine Reader.Consuming.bind
        (Reader.Consuming.byte CborError.unexpectedEnd) ?_
      intro initial
      exact (DecoderRelation.consuming.decodeMajor
        ⟨rfl, inductionHypothesis⟩ _ _).2

theorem stable_decodeWithin (fuel : Nat) :
    Reader.Stable CborError.unexpectedEnd (decodeWithin fuel) := by
  induction fuel with
  | zero => exact Reader.Stable.fail CborError.unexpectedEnd
  | succ fuel inductionHypothesis =>
      refine Reader.Stable.bind Reader.Stable.byte ?_
      intro initial
      exact (DecoderRelation.stable.decodeMajor
        ⟨rfl, inductionHypothesis⟩ _ _).2

/-- More fuel than input bytes changes nothing. -/
theorem agree_decodeWithin
    (bound fuel : Nat)
    (enough : bound ≤ fuel) :
    Reader.AgreeUpTo bound (decodeWithin fuel) (decodeWithin bound) := by
  induction bound generalizing fuel with
  | zero =>
      intro bytes short
      obtain rfl := List.length_eq_zero_iff.mp (Nat.le_zero.mp short)
      cases fuel with
      | zero => rfl
      | succ fuel => rfl
  | succ bound inductionHypothesis =>
      obtain ⟨fuel, rfl⟩ := Nat.exists_eq_add_of_lt enough
      refine Reader.AgreeUpTo.byte_bind CborError.unexpectedEnd
        fun initial => ?_
      refine ((DecoderRelation.agreeUpTo bound).decodeMajor ⟨?_, ?_⟩ _ _).1
      · exact inductionHypothesis _ (by omega)
      · exact consuming_decodeWithin _

/-- The decoder satisfies the recursion of the source, without fuel. -/
theorem decode_cons (initial : UInt8) (rest : List UInt8) :
    decode (initial :: rest) =
      decodeMajor decode (initial >>> 5) (initial &&& 0x1f) rest := by
  have nested : Reader.AgreeUpTo rest.length
      (decodeWithin rest.length) decode := fun bytes short =>
    agree_decodeWithin bytes.length rest.length short bytes (Nat.le_refl _)
  have step : decode (initial :: rest) =
      decodeMajor (decodeWithin rest.length) (initial >>> 5)
        (initial &&& 0x1f) rest := by
    have first : (read (initial :: rest)).outcome = .ok (initial, rest) := rfl
    change (read >>= _) (initial :: rest) = _
    rw [Reader.bind_of_ok first]
    rfl
  rw [step]
  exact ((DecoderRelation.agreeUpTo rest.length).decodeMajor
    ⟨nested, consuming_decodeWithin _⟩ _ _).1 rest (Nat.le_refl _)

/-! ## Prefixes of a value -/

/-- Unless it finds the input to end, the decoder is not changed by more
input. -/
theorem stable_decode : Reader.Stable CborError.unexpectedEnd decode := by
  have enough (bytes more : List UInt8) :
      decodeWithin (bytes ++ more).length bytes = decode bytes :=
    agree_decodeWithin bytes.length _ (by simp) bytes (Nat.le_refl _)
  constructor
  · intro bytes more value rest decoded
    rw [← enough bytes more] at decoded
    exact (stable_decodeWithin _).ok bytes more value rest decoded
  · intro bytes more failure failed notEnding
    rw [← enough bytes more] at failed
    exact (stable_decodeWithin _).error bytes more failure failed notEnding

/-- A value takes at least one byte. -/
theorem length_lt_of_decode {bytes rest : List UInt8} {value : CborValue}
    (decoded : (decode bytes).outcome = .ok (value, rest)) :
    rest.length < bytes.length := by
  cases bytes with
  | nil => cases decoded
  | cons initial tail =>
      rw [decode_cons] at decoded
      have nested : Reader.Consuming decode :=
        fun bytes => consuming_decodeWithin bytes.length bytes
      have suffix := (DecoderRelation.consuming.decodeMajor
        ⟨rfl, nested⟩ _ _).2 tail value rest decoded
      exact Nat.lt_succ_of_le suffix.length_le

end Web
end WhatsGoingOn
