import WhatsGoingOn.Daemon.Value
import WhatsGoingOn.Library.Reader

/-!
# The daemon's CBOR codec

The encoder appends to a buffer; here it returns the bytes it appends.  The
decoder reads from a cursor; here it is a reader, which also reports every
buffer the decoder asks the allocator for.  A Rust panic is a failure of its
own kind, so that it is never confused with a decode error.
-/

namespace WhatsGoingOn
namespace Daemon

/-- Failures of the CBOR decoder. -/
inductive CborError where
  | unexpectedEnd
  | unsupportedType
  | nonCanonicalInteger
  | duplicateMapKey
  | expectedUnsignedMapKey
  | trailingBytes
  | invalidUtf8
  | lengthTooLarge
  deriving DecidableEq, Repr

/-- A panic of the daemon. -/
inductive Panic where
  /-- A buffer of more than `isize::MAX` bytes was requested. -/
  | capacityOverflow
  /-- `Result::expect` met an error. -/
  | expect (message : String)
  deriving DecidableEq, Repr

/-- Outcome of code that returns an error or panics. -/
inductive Fault (ε : Type) where
  | error (failure : ε)
  | panic (cause : Panic)
  deriving DecidableEq, Repr

/-- A buffer requested while decoding. -/
structure BufferRequest where
  /-- Number of elements the buffer has room for. -/
  capacity : Nat
  /-- Size of one element in bytes. -/
  elementSize : Nat
  /-- Number of input bytes still unread at the request. -/
  unread : Nat
  deriving DecidableEq, Repr

/-- The allocator takes requests of at most `isize::MAX` bytes.  That the system
may have less memory than one of those asks for is left out. -/
def BufferRequest.Granted (request : BufferRequest) : Prop :=
  request.capacity * request.elementSize ≤ isizeMax

instance (request : BufferRequest) : Decidable request.Granted :=
  inferInstanceAs (Decidable (_ ≤ _))

/-- A reader of the daemon's CBOR decoder. -/
abbrev Decoder (α : Type) : Type :=
  Reader (Fault CborError) BufferRequest α

/-! ## Encoding -/

/-- The head of a data item: its major type and its argument. -/
def encodeTypeValue (major : UInt8) (value : UInt64) : List UInt8 :=
  let initial := major <<< 5
  if value.toNat < 24 then
    [initial ||| value.toUInt8]
  else if value.toNat ≤ 0xff then
    (initial ||| 24) :: Bytes.bigEndian 1 value.toNat
  else if value.toNat ≤ 0xffff then
    (initial ||| 25) :: Bytes.bigEndian 2 value.toNat
  else if value.toNat ≤ 0xffffffff then
    (initial ||| 26) :: Bytes.bigEndian 4 value.toNat
  else
    (initial ||| 27) :: Bytes.bigEndian 8 value.toNat

mutual

/-- The bytes of a value. -/
def encodeValue : Value → List UInt8
  | .null => [0xf6]
  | .bool false => [0xf4]
  | .bool true => [0xf5]
  | .u64 value => encodeTypeValue 0 value
  | .i64 value =>
      if 0 ≤ value.toInt then
        encodeTypeValue 0 (UInt64.ofNat value.toInt.toNat)
      else
        encodeTypeValue 1 (UInt64.ofNat (-1 - value.toInt).toNat)
  | .f64 bits => 0xfb :: Bytes.bigEndian 8 bits.toNat
  | .bytes payload =>
      encodeTypeValue 2 (UInt64.ofNat payload.length) ++ payload
  | .text content =>
      encodeTypeValue 3 (UInt64.ofNat (Bytes.utf8 content).length) ++
        Bytes.utf8 content
  | .array items =>
      encodeTypeValue 4 (UInt64.ofNat items.length) ++ encodeItems items
  | .map entries =>
      encodeTypeValue 5 (UInt64.ofNat entries.length) ++
        encodeEntries entries

/-- The bytes of the items of an array. -/
def encodeItems : List Value → List UInt8
  | [] => []
  | item :: items => encodeValue item ++ encodeItems items

/-- The bytes of the entries of a map. -/
def encodeEntries : List (UInt64 × Value) → List UInt8
  | [] => []
  | (key, value) :: entries =>
      encodeTypeValue 0 key ++ encodeValue value ++ encodeEntries entries

end

-- The equations are derived here, once for all proofs about the encoder.
attribute [grind =] encodeValue encodeItems encodeEntries

/-! ## Decoding -/

/-- What the decoder reports on input that stops too early. -/
abbrev ending : Fault CborError :=
  .error .unexpectedEnd

/-- Return a decode error. -/
def reject {α : Type} (failure : CborError) : Decoder α :=
  Reader.fail (.error failure)

/-- Read one byte. -/
def readU8 : Decoder UInt8 :=
  Reader.byte ending

/-- Fill a buffer of the given length. -/
def readExact (count : Nat) : Decoder (List UInt8) :=
  Reader.take ending count

/-- Request a buffer from the allocator. -/
def allocate (capacity elementSize : Nat) : Decoder Unit :=
  Reader.request (fun unread => ⟨capacity, elementSize, unread⟩)
    (decide (capacity * elementSize ≤ isizeMax))
    (.panic .capacityOverflow)

/-- Read an argument of `width` bytes that no narrower form could carry. -/
def readArgument (width narrower : Nat) : Decoder UInt64 := do
  let bytes ← readExact width
  let value := UInt64.ofNat (Bytes.ofBigEndian bytes)
  if value.toNat ≤ narrower then reject .nonCanonicalInteger
  else pure value

/-- The argument of a head, in the form named by its additional bits. -/
def decodeArgument (additional : UInt8) : Decoder UInt64 :=
  if additional ≤ 23 then pure additional.toUInt64
  else
    match additional with
    | 24 => readArgument 1 23
    | 25 => readArgument 2 0xff
    | 26 => readArgument 4 0xffff
    | 27 => readArgument 8 0xffffffff
    | _ => reject .unsupportedType

/-- `usize::try_from`, on a 64-bit target. -/
def checkedLen (length : UInt64) : Decoder Nat :=
  if length.toNat ≤ usizeMax then pure length.toNat
  else reject .lengthTooLarge

/-- Read a payload into a zeroed buffer of the declared length. -/
def readPayload (additional : UInt8) : Decoder (List UInt8) := do
  let argument ← decodeArgument additional
  let length ← checkedLen argument
  allocate length 1
  readExact length

/-- Decode one item and push it. -/
def decodeItem
    (decode : Decoder Value)
    (items : List Value) : Decoder (List Value) := do
  let item ← decode
  pure (items ++ [item])

/-- Decode one entry and insert it. -/
def decodeEntry
    (decode : Decoder Value)
    (map : List (UInt64 × Value)) : Decoder (List (UInt64 × Value)) := do
  let key ← decode
  match key with
  | .u64 key => do
      let value ← decode
      if (map.lookup key).isSome then reject .duplicateMapKey
      else pure (SortedMap.insert key value map)
  | _ => reject .expectedUnsignedMapKey

/-- Decode a value whose initial byte has been read. -/
def decodeMajor
    (decode : Decoder Value)
    (major additional : UInt8) : Decoder Value :=
  match major with
  | 0 => do
      let argument ← decodeArgument additional
      pure (.u64 argument)
  | 1 => do
      let encoded ← decodeArgument additional
      if i64Max < encoded.toNat then reject .lengthTooLarge
      else pure (.i64 (Int64.ofInt (-1 - encoded.toNat)))
  | 2 => do
      let bytes ← readPayload additional
      pure (.bytes bytes)
  | 3 => do
      let bytes ← readPayload additional
      match Bytes.ofUtf8 bytes with
      | some text => pure (.text text)
      | none => reject .invalidUtf8
  | 4 => do
      let argument ← decodeArgument additional
      let length ← checkedLen argument
      allocate length valueSize
      let items ← Reader.loop (decodeItem decode) length []
      pure (.array items)
  | 5 => do
      let argument ← decodeArgument additional
      let length ← checkedLen argument
      let map ← Reader.loop (decodeEntry decode) length []
      pure (.map map)
  | 7 =>
      match additional with
      | 20 => pure (.bool false)
      | 21 => pure (.bool true)
      | 22 => pure .null
      | 27 => do
          let bytes ← readExact 8
          pure (.f64 (UInt64.ofNat (Bytes.ofBigEndian bytes)))
      | _ => reject .unsupportedType
  | _ => reject .unsupportedType

/-- Decode one value with at most `fuel` nested calls.  Every call reads a
byte first, so as many calls as there are bytes suffice. -/
def decodeValueWithin : Nat → Decoder Value
  | 0 => Reader.fail ending
  | fuel + 1 => do
      let initial ← readU8
      decodeMajor (decodeValueWithin fuel) (initial >>> 5) (initial &&& 0x1f)

/-- Decode one value from the front of the input. -/
def decodeValue : Decoder Value := fun bytes =>
  decodeValueWithin bytes.length bytes

namespace Value

/-- `Value::encode`. -/
def encode (value : Value) : List UInt8 :=
  encodeValue value

/-- `Value::decode`: one value that spans the whole input. -/
def decode (bytes : List UInt8) : Except (Fault CborError) Value := do
  let (value, rest) ← (decodeValue bytes).outcome
  if rest.isEmpty then pure value
  else throw (.error .trailingBytes)

/-- Decode values until the input is used up.  Every value has at least one
byte, so as many steps as there are bytes suffice. -/
def decodeSequenceWithin :
    Nat → List UInt8 → Except (Fault CborError) (List Value)
  | _, [] => .ok []
  | 0, _ :: _ => .error ending
  | fuel + 1, input => do
      let (value, rest) ← (decodeValue input).outcome
      let values ← decodeSequenceWithin fuel rest
      pure (value :: values)

/-- `Value::decode_sequence`. -/
def decodeSequence (bytes : List UInt8) :
    Except (Fault CborError) (List Value) :=
  decodeSequenceWithin bytes.length bytes

/-- `Value::decode_prefix`: the value at the front and its length, or nothing
while the input stops inside it. -/
def decodePrefix
    (bytes : List UInt8) : Except (Fault CborError) (Option (Value × Nat)) :=
  match (decodeValue bytes).outcome with
  | .ok (value, rest) => .ok (some (value, bytes.length - rest.length))
  | .error (.error .unexpectedEnd) => .ok none
  | .error failure => .error failure

/-- The buffers that `Value::decode` and `Value::decode_prefix` request. -/
def bufferRequests (bytes : List UInt8) : List BufferRequest :=
  (decodeValue bytes).requests

end Value

/-! ## Relations that the decoder preserves -/

/-- A relation between decoders that the decoder's primitives satisfy and
that sequencing preserves. -/
structure DecoderRelation
    (related : ∀ α : Type, Decoder α → Decoder α → Prop) : Prop
    extends Reader.Congruence related where
  reject : ∀ {α : Type} (failure : CborError),
    related α (reject failure) (reject failure)
  readExact : ∀ count, related _ (readExact count) (readExact count)
  allocate : ∀ capacity elementSize,
    related _ (allocate capacity elementSize) (allocate capacity elementSize)

namespace DecoderRelation

variable {related : ∀ α : Type, Decoder α → Decoder α → Prop}

theorem readArgument
    (relation : DecoderRelation related) (width narrower : Nat) :
    related _ (readArgument width narrower)
      (readArgument width narrower) := by
  refine relation.bind (relation.readExact width) fun bytes => ?_
  dsimp only
  split
  · exact relation.reject .nonCanonicalInteger
  · exact relation.pure _

/-- The argument of a head is decoded in the same way under any relation of
decoders. -/
theorem decodeArgument
    (relation : DecoderRelation related) (additional : UInt8) :
    related _ (decodeArgument additional) (decodeArgument additional) := by
  unfold Daemon.decodeArgument
  split
  · exact relation.pure _
  · split
    · exact relation.readArgument 1 23
    · exact relation.readArgument 2 0xff
    · exact relation.readArgument 4 0xffff
    · exact relation.readArgument 8 0xffffffff
    · exact relation.reject .unsupportedType

theorem checkedLen
    (relation : DecoderRelation related) (length : UInt64) :
    related _ (checkedLen length) (checkedLen length) := by
  unfold Daemon.checkedLen
  split
  · exact relation.pure _
  · exact relation.reject .lengthTooLarge

theorem readPayload
    (relation : DecoderRelation related) (additional : UInt8) :
    related _ (readPayload additional) (readPayload additional) := by
  refine relation.bind (relation.decodeArgument additional) fun argument => ?_
  refine relation.bind (relation.checkedLen argument) fun length => ?_
  refine relation.bind (relation.allocate length 1) fun _ => ?_
  exact relation.readExact length

theorem decodeItem
    (relation : DecoderRelation related)
    {left right : Decoder Value}
    (decode : related _ left right)
    (items : List Value) :
    related _ (decodeItem left items) (decodeItem right items) :=
  relation.bind decode fun _ => relation.pure _

/-- An entry of a map is decoded in the same way by decoders that are related. -/
theorem decodeEntry
    (relation : DecoderRelation related)
    {left right : Decoder Value}
    (decode : related _ left right)
    (map : List (UInt64 × Value)) :
    related _ (decodeEntry left map) (decodeEntry right map) := by
  refine relation.bind decode fun key => ?_
  split
  · refine relation.bind decode fun value => ?_
    split
    · exact relation.reject .duplicateMapKey
    · exact relation.pure _
  · exact relation.reject .expectedUnsignedMapKey

/-- Related decoders of nested values give related decoders of values. -/
theorem decodeMajor
    (relation : DecoderRelation related)
    {left right : Decoder Value}
    (decode : related _ left right)
    (major additional : UInt8) :
    related _ (decodeMajor left major additional)
      (decodeMajor right major additional) := by
  have argument := relation.decodeArgument additional
  unfold Daemon.decodeMajor
  split
  · exact relation.bind argument fun _ => relation.pure _
  · refine relation.bind argument fun encoded => ?_
    split
    · exact relation.reject .lengthTooLarge
    · exact relation.pure _
  · exact relation.bind (relation.readPayload additional)
      fun _ => relation.pure _
  · refine relation.bind (relation.readPayload additional) fun bytes => ?_
    split
    · exact relation.pure _
    · exact relation.reject .invalidUtf8
  · refine relation.bind argument fun argument => ?_
    refine relation.bind (relation.checkedLen argument) fun length => ?_
    refine relation.bind (relation.allocate length valueSize) fun _ => ?_
    exact relation.bind
      (relation.loop (relation.decodeItem decode) length [])
      fun _ => relation.pure _
  · refine relation.bind argument fun argument => ?_
    refine relation.bind (relation.checkedLen argument) fun length => ?_
    exact relation.bind
      (relation.loop (relation.decodeEntry decode) length [])
      fun _ => relation.pure _
  · split
    · exact relation.pure _
    · exact relation.pure _
    · exact relation.pure _
    · exact relation.bind (relation.readExact 8) fun _ => relation.pure _
    · exact relation.reject .unsupportedType
  · exact relation.reject .unsupportedType

theorem consuming :
    DecoderRelation fun (α : Type) (left right : Decoder α) =>
      left = right ∧ Reader.Consuming left where
  toCongruence := Reader.Consuming.congruence
  reject := fun failure => ⟨rfl, Reader.Consuming.fail (Fault.error failure)⟩
  readExact := fun count => ⟨rfl, Reader.Consuming.take ending count⟩
  allocate := fun _ _ => ⟨rfl, Reader.Consuming.request _ _ _⟩

theorem stable :
    DecoderRelation fun (α : Type) (left right : Decoder α) =>
      left = right ∧ Reader.Stable ending left where
  toCongruence := Reader.Stable.congruence
  reject := fun failure => ⟨rfl, Reader.Stable.fail (Fault.error failure)⟩
  readExact := fun count => ⟨rfl, Reader.Stable.take count⟩
  allocate := fun _ _ => ⟨rfl, Reader.Stable.request _ _ _⟩

theorem agreeUpTo (bound : Nat) :
    DecoderRelation fun (α : Type) (left right : Decoder α) =>
      Reader.AgreeUpTo bound left right ∧ Reader.Consuming left where
  toCongruence := Reader.AgreeUpTo.congruence
  reject := fun failure =>
    ⟨Reader.AgreeUpTo.refl _, Reader.Consuming.fail (Fault.error failure)⟩
  readExact := fun count =>
    ⟨Reader.AgreeUpTo.refl _, Reader.Consuming.take ending count⟩
  allocate := fun _ _ =>
    ⟨Reader.AgreeUpTo.refl _, Reader.Consuming.request _ _ _⟩

end DecoderRelation

/-! ## The recursion equation of the decoder -/

theorem consuming_decodeValueWithin (fuel : Nat) :
    Reader.Consuming (decodeValueWithin fuel) := by
  induction fuel with
  | zero => exact Reader.Consuming.fail ending
  | succ fuel inductionHypothesis =>
      refine Reader.Consuming.bind (Reader.Consuming.byte ending) ?_
      intro initial
      exact (DecoderRelation.consuming.decodeMajor
        ⟨rfl, inductionHypothesis⟩ _ _).2

theorem stable_decodeValueWithin (fuel : Nat) :
    Reader.Stable ending (decodeValueWithin fuel) := by
  induction fuel with
  | zero => exact Reader.Stable.fail ending
  | succ fuel inductionHypothesis =>
      refine Reader.Stable.bind Reader.Stable.byte ?_
      intro initial
      exact (DecoderRelation.stable.decodeMajor
        ⟨rfl, inductionHypothesis⟩ _ _).2

/-- More fuel than input bytes changes nothing. -/
theorem agree_decodeValueWithin
    (bound fuel : Nat)
    (enough : bound ≤ fuel) :
    Reader.AgreeUpTo bound
      (decodeValueWithin fuel) (decodeValueWithin bound) := by
  induction bound generalizing fuel with
  | zero =>
      intro bytes short
      obtain rfl := List.length_eq_zero_iff.mp (Nat.le_zero.mp short)
      cases fuel with
      | zero => rfl
      | succ fuel => rfl
  | succ bound inductionHypothesis =>
      obtain ⟨fuel, rfl⟩ := Nat.exists_eq_add_of_lt enough
      refine Reader.AgreeUpTo.byte_bind ending fun initial => ?_
      refine ((DecoderRelation.agreeUpTo bound).decodeMajor ⟨?_, ?_⟩ _ _).1
      · exact inductionHypothesis _ (by omega)
      · exact consuming_decodeValueWithin _

theorem decodeValue_of_fuel
    {bytes : List UInt8} {fuel : Nat}
    (enough : bytes.length ≤ fuel) :
    decodeValueWithin fuel bytes = decodeValue bytes :=
  agree_decodeValueWithin bytes.length fuel enough bytes (Nat.le_refl _)

/-- The decoder satisfies the recursion of the source, without fuel. -/
theorem decodeValue_eq :
    decodeValue = (do
      let initial ← readU8
      decodeMajor decodeValue (initial >>> 5) (initial &&& 0x1f)) := by
  funext bytes
  rw [← decodeValue_of_fuel (Nat.le_succ bytes.length)]
  have agree : Reader.AgreeUpTo (bytes.length + 1)
      (decodeValueWithin (bytes.length + 1)) (do
        let initial ← readU8
        decodeMajor decodeValue (initial >>> 5) (initial &&& 0x1f)) := by
    refine Reader.AgreeUpTo.byte_bind ending fun initial => ?_
    refine ((DecoderRelation.agreeUpTo bytes.length).decodeMajor
      ⟨?_, consuming_decodeValueWithin _⟩ _ _).1
    intro rest short
    exact decodeValue_of_fuel short
  exact agree bytes (Nat.le_succ _)

theorem stable_decodeValue : Reader.Stable ending decodeValue where
  ok := by
    intro bytes more value rest decoded
    have enough : bytes.length ≤ (bytes ++ more).length := by simp
    rw [← decodeValue_of_fuel enough] at decoded
    exact (stable_decodeValueWithin _).ok bytes more value rest decoded
  error := by
    intro bytes more failure failed notEnding
    have enough : bytes.length ≤ (bytes ++ more).length := by simp
    rw [← decodeValue_of_fuel enough] at failed
    exact (stable_decodeValueWithin _).error bytes more failure failed notEnding

end Daemon
end WhatsGoingOn
