import WhatsGoingOn.Daemon.Sequence

/-!
# The encoder of the messages of a stream

The daemon writes a message as two CBOR values, the number of its variant and
the map of its fields.  What it wrote it also reads back.
-/

namespace WhatsGoingOn
namespace Daemon

namespace RpcErrorKind

/-- The number of the kind. -/
def encodeValue : RpcErrorKind → Value
  | .system => .u64 1
  | .method => .u64 2

end RpcErrorKind

namespace SessionAuthErrorCode

/-- The number of the code. -/
def encodeValue : SessionAuthErrorCode → Value
  | .unsupportedMechanism => .u64 1
  | .invalidCredentials => .u64 2
  | .malformedPayload => .u64 3
  | .alreadyAuthenticated => .u64 4

end SessionAuthErrorCode

namespace ReqResMessage

/-- Insert an optional payload into fields. -/
def insertPayload (payload : Option (List UInt8))
    (fields : List (UInt64 × Value)) : List (UInt64 × Value) :=
  match payload with
  | some payload => SortedMap.insert 2 (.bytes payload) fields
  | none => fields

/-- The fields of an error. -/
def errorFields (error : List UInt8) (errorKind : RpcErrorKind) :
    List (UInt64 × Value) :=
  SortedMap.insert 4 errorKind.encodeValue
    (SortedMap.insert 3 (.bytes error) [])

/-- `ReqResMessage::to_flattened_parts`: the number of the variant, and its
fields. -/
def toFlattenedParts :
    ReqResMessage → Except CodecError (UInt64 × List (UInt64 × Value))
  | .requestUnary procId payload => do
      let procId ← encodeU53 procId
      pure (0, insertPayload payload (SortedMap.insert 1 procId []))
  | .requestStreamStart procId payload => do
      let procId ← encodeU53 procId
      pure (1, insertPayload payload (SortedMap.insert 1 procId []))
  | .requestStreamChunk payload => .ok (2, insertPayload (some payload) [])
  | .responseUnaryOk payload => .ok (3, insertPayload payload [])
  | .responseUnaryError error errorKind => .ok (4, errorFields error errorKind)
  | .responseStreamStart payload => .ok (5, insertPayload payload [])
  | .responseStreamChunk payload => .ok (6, insertPayload (some payload) [])
  | .responseStreamErrorEnd error errorKind =>
      .ok (7, errorFields error errorKind)
  | .sessionAuthenticate mechanism payload =>
      .ok (8, insertPayload (some payload)
        (SortedMap.insert 1 (.text mechanism) []))
  | .sessionAuthenticated => .ok (9, [])
  | .sessionAuthError code message =>
      .ok (10, SortedMap.insert 2 (.text message)
        (SortedMap.insert 1 code.encodeValue []))

/-- `ReqResMessage::encode`. -/
def encode (message : ReqResMessage) : Except Panic (List UInt8) :=
  match message.toFlattenedParts with
  | .ok (kind, fields) =>
      .ok ((Value.u64 kind).encode ++ (Value.map fields).encode)
  | .error _ =>
      .error (.expect "generated reqres message failed to encode")

/-- `ReqResMessage::encode_sequence`. -/
def encodeSequence : List ReqResMessage → Except Panic (List UInt8)
  | [] => .ok []
  | message :: messages => do
      let bytes ← message.encode
      let others ← encodeSequence messages
      pure (bytes ++ others)

/-! ## The parts of a message -/

/-- The number of the procedure is in range, and no byte string and no text
takes more bytes than a limit. -/
def Within (limit : Nat) : ReqResMessage → Prop
  | .requestUnary procId payload =>
      procId.toNat ≤ maxU53 ∧ ∀ bytes ∈ payload, bytes.length ≤ limit
  | .requestStreamStart procId payload =>
      procId.toNat ≤ maxU53 ∧ ∀ bytes ∈ payload, bytes.length ≤ limit
  | .requestStreamChunk payload => payload.length ≤ limit
  | .responseUnaryOk payload => ∀ bytes ∈ payload, bytes.length ≤ limit
  | .responseUnaryError error _ => error.length ≤ limit
  | .responseStreamStart payload => ∀ bytes ∈ payload, bytes.length ≤ limit
  | .responseStreamChunk payload => payload.length ≤ limit
  | .responseStreamErrorEnd error _ => error.length ≤ limit
  | .sessionAuthenticate mechanism payload =>
      (Bytes.utf8 mechanism).length ≤ limit ∧ payload.length ≤ limit
  | .sessionAuthenticated => True
  | .sessionAuthError _ message => (Bytes.utf8 message).length ≤ limit

/-- The value of a field: a small number, a byte string or a text. -/
def IsField (limit : Nat) : Value → Prop
  | .u64 value => value.toNat ≤ maxU53
  | .bytes payload => payload.length ≤ limit
  | .text content => (Bytes.utf8 content).length ≤ limit
  | _ => False

/-- The fields of a small map. -/
structure SmallFields (limit : Nat) (fields : List (UInt64 × Value)) :
    Prop where
  ascending : SortedMap.Ascending fields
  few : fields.length ≤ 2
  fieldOf : ∀ entry ∈ fields, entry.1.toNat ≤ 4 ∧ IsField limit entry.2

namespace SmallFields

variable {limit : Nat}

theorem nil : SmallFields limit [] :=
  ⟨List.Pairwise.nil, Nat.zero_le 2, List.forall_mem_nil _⟩

theorem one {key : UInt64} {value : Value} (smallKey : key.toNat ≤ 4)
    (field : IsField limit value) : SmallFields limit [(key, value)] :=
  ⟨List.pairwise_singleton _ _, (by decide : 1 ≤ 2),
    List.forall_mem_singleton.mpr ⟨smallKey, field⟩⟩

theorem two {key other : UInt64} {value second : Value} (below : key < other)
    (smallKey : other.toNat ≤ 4)
    (field : IsField limit value) (secondField : IsField limit second) :
    SmallFields limit [(key, value), (other, second)] where
  ascending := List.pairwise_pair.mpr below
  few := Nat.le_refl 2
  fieldOf := by
    have firstKey : key.toNat ≤ 4 :=
      (Nat.le_of_lt (UInt64.lt_iff_toNat_lt.mp below)).trans smallKey
    simpa using ⟨⟨firstKey, field⟩, smallKey, secondField⟩

end SmallFields

/-- The parts that a message is encoded as. -/
structure Parts (limit : Nat) (message : ReqResMessage) (kind : UInt64)
    (fields : List (UInt64 × Value)) : Prop
    extends SmallFields limit fields where
  encoded : message.toFlattenedParts = .ok (kind, fields)
  smallKind : kind.toNat ≤ 10

namespace Parts

variable {limit : Nat} {message : ReqResMessage} {kind : UInt64}

theorem nil (encoded : message.toFlattenedParts = .ok (kind, []))
    (smallKind : kind.toNat ≤ 10) : Parts limit message kind [] :=
  ⟨.nil, encoded, smallKind⟩

theorem one {key : UInt64} {value : Value}
    (encoded : message.toFlattenedParts = .ok (kind, [(key, value)]))
    (smallKind : kind.toNat ≤ 10) (smallKey : key.toNat ≤ 4)
    (field : IsField limit value) :
    Parts limit message kind [(key, value)] :=
  ⟨.one smallKey field, encoded, smallKind⟩

theorem two {key other : UInt64} {value second : Value}
    (encoded : message.toFlattenedParts =
      .ok (kind, [(key, value), (other, second)]))
    (smallKind : kind.toNat ≤ 10) (below : key < other)
    (smallKey : other.toNat ≤ 4)
    (field : IsField limit value) (secondField : IsField limit second) :
    Parts limit message kind [(key, value), (other, second)] :=
  ⟨.two below smallKey field secondField, encoded, smallKind⟩

end Parts

theorem isField_errorKind (limit : Nat) (errorKind : RpcErrorKind) :
    IsField limit errorKind.encodeValue := by
  cases errorKind <;> simp [IsField, RpcErrorKind.encodeValue, maxU53]

theorem isField_code (limit : Nat) (code : SessionAuthErrorCode) :
    IsField limit code.encodeValue := by
  cases code <;> simp [IsField, SessionAuthErrorCode.encodeValue, maxU53]

/-- A message is encoded as parts that are decoded as the message. -/
theorem Within.parts {limit : Nat} {message : ReqResMessage}
    (within : message.Within limit) :
    ∃ kind fields, Parts limit message kind fields ∧
      decodeValue (.array [.u64 kind, .map fields]) = .ok message := by
  have number {procId : UInt64} (small : procId.toNat ≤ maxU53) :
      encodeU53 procId = .ok (.u64 procId) :=
    if_neg (Nat.not_lt.mpr small)
  cases message with
  | requestUnary procId payload =>
      obtain ⟨small, within⟩ := within
      have parts : (requestUnary procId payload).toFlattenedParts =
          .ok (0, insertPayload payload [(1, .u64 procId)]) := by
        rw [toFlattenedParts, number small]
        rfl
      cases payload with
      | none => exact ⟨_, _, .one parts (by decide) (by decide) small, rfl⟩
      | some bytes =>
          exact ⟨_, _, .two parts (by decide) (by decide) (by decide) small
            (within bytes rfl), rfl⟩
  | requestStreamStart procId payload =>
      obtain ⟨small, within⟩ := within
      have parts : (requestStreamStart procId payload).toFlattenedParts =
          .ok (1, insertPayload payload [(1, .u64 procId)]) := by
        rw [toFlattenedParts, number small]
        rfl
      cases payload with
      | none => exact ⟨_, _, .one parts (by decide) (by decide) small, rfl⟩
      | some bytes =>
          exact ⟨_, _, .two parts (by decide) (by decide) (by decide) small
            (within bytes rfl), rfl⟩
  | requestStreamChunk payload =>
      exact ⟨_, _, .one rfl (by decide) (by decide) within, rfl⟩
  | responseUnaryOk payload =>
      cases payload with
      | none => exact ⟨_, _, .nil rfl (by decide), rfl⟩
      | some bytes =>
          exact ⟨_, _, .one rfl (by decide) (by decide) (within bytes rfl),
            rfl⟩
  | responseUnaryError error errorKind =>
      refine ⟨_, _, .two rfl (by decide) (by decide) (by decide) within
        (isField_errorKind limit errorKind), ?_⟩
      cases errorKind <;> rfl
  | responseStreamStart payload =>
      cases payload with
      | none => exact ⟨_, _, .nil rfl (by decide), rfl⟩
      | some bytes =>
          exact ⟨_, _, .one rfl (by decide) (by decide) (within bytes rfl),
            rfl⟩
  | responseStreamChunk payload =>
      exact ⟨_, _, .one rfl (by decide) (by decide) within, rfl⟩
  | responseStreamErrorEnd error errorKind =>
      refine ⟨_, _, .two rfl (by decide) (by decide) (by decide) within
        (isField_errorKind limit errorKind), ?_⟩
      cases errorKind <;> rfl
  | sessionAuthenticate mechanism payload =>
      exact ⟨_, _, .two rfl (by decide) (by decide) (by decide) within.1
        within.2, rfl⟩
  | sessionAuthenticated => exact ⟨_, _, .nil rfl (by decide), rfl⟩
  | sessionAuthError code message =>
      refine ⟨_, _, .two rfl (by decide) (by decide) (by decide)
        (isField_code limit code) within, ?_⟩
      cases code <;> rfl

/-- A message within a limit is within any higher one. -/
theorem Within.mono {limit more : Nat} {message : ReqResMessage}
    (within : message.Within limit) (below : limit ≤ more) :
    message.Within more := by
  cases message with
  | requestUnary procId payload | requestStreamStart procId payload =>
      exact ⟨within.1, fun bytes member =>
        (within.2 bytes member).trans below⟩
  | responseUnaryOk payload | responseStreamStart payload =>
      exact fun bytes member => (within bytes member).trans below
  | requestStreamChunk payload | responseStreamChunk payload =>
      exact Nat.le_trans within below
  | responseUnaryError error errorKind
  | responseStreamErrorEnd error errorKind =>
      exact Nat.le_trans within below
  | sessionAuthenticate mechanism payload =>
      exact ⟨within.1.trans below, within.2.trans below⟩
  | sessionAuthenticated => trivial
  | sessionAuthError code message => exact Nat.le_trans within below

/-! ## The daemon reads what it wrote -/

/-- A value of a field is a tree that bytes spell. -/
theorem IsField.wire {value : Value} (field : IsField isizeMax value) :
    value.Wire := by
  cases value with
  | u64 value => exact .leaf ⟨trivial, trivial, trivial⟩ rfl
  | bytes payload => exact .leaf ⟨field, trivial, trivial⟩ rfl
  | text content => exact .leaf ⟨field, trivial, trivial⟩ rfl
  | null | bool | i64 | f64 | array | map => exact field.elim

/-- The two parts of a message are read back one after the other. -/
theorem Parts.reads {message : ReqResMessage} {kind : UInt64}
    {fields : List (UInt64 × Value)}
    (parts : Parts isizeMax message kind fields) (rest : List UInt8) :
    (decodePair ((Value.u64 kind).encode ++ (Value.map fields).encode ++
      rest)).outcome = .ok ((.u64 kind, .map fields), rest) := by
  have kindWire : (Value.u64 kind).Wire :=
    .leaf ⟨trivial, trivial, trivial⟩ rfl
  have few : fields.length ≤ usizeMax := parts.few.trans (by decide)
  have fieldsWire : (Value.map fields).Wire :=
    .map ⟨few, parts.ascending.nodup, trivial⟩ fun entry member =>
      (parts.fieldOf entry member).2.wire
  have fieldsOrdered : (Value.map fields).Every Value.Ordered := by
    refine .map parts.ascending fun entry member => ?_
    have field := (parts.fieldOf entry member).2
    cases value : entry.2 with
    | null | bool | u64 | i64 | f64 | bytes | text =>
        exact .leaf trivial rfl
    | array | map =>
        rw [value] at field
        exact field.elim
  have readKind := kindWire.readBack ((Value.map fields).encode ++ rest)
  have readFields := fieldsWire.readBack rest
  rw [Value.sorted_eq_self fieldsOrdered] at readFields
  rw [List.append_assoc]
  exact Reader.bind_eq_ok.mpr ⟨_, _, readKind,
    Reader.bind_eq_ok.mpr ⟨_, _, readFields, rfl⟩⟩

/-- A message is written, and read back from the front of its bytes. -/
theorem decodePair_encode {message : ReqResMessage}
    (within : message.Within isizeMax) :
    ∃ bytes kind fields, message.encode = .ok bytes ∧ 0 < bytes.length ∧
      fromFlattenedParts kind fields = .ok message ∧
        ∀ rest, (decodePair (bytes ++ rest)).outcome =
          .ok ((kind, fields), rest) := by
  obtain ⟨kind, fields, parts, decoded⟩ := within.parts
  refine ⟨(Value.u64 kind).encode ++ (Value.map fields).encode, .u64 kind,
    .map fields, ?_, ?_, ?_, parts.reads⟩
  · rw [encode, parts.encoded]
  · by_contra empty
    have none : (Value.u64 kind).encode ++ (Value.map fields).encode = [] :=
      List.eq_nil_of_length_eq_zero (by omega)
    have read := parts.reads []
    rw [none] at read
    cases read
  · rw [fromFlattenedParts, decoded]

theorem decodePrefix_encode {message : ReqResMessage}
    (within : message.Within isizeMax) :
    ∃ bytes, message.encode = .ok bytes ∧
      ∀ rest, (bytes ++ rest).length ≤ maxMessageSequenceSize →
        decodePrefix (bytes ++ rest) = .ok (some (message, bytes.length)) := by
  obtain ⟨bytes, kind, fields, encoded, -, assembled, reads⟩ :=
    decodePair_encode within
  refine ⟨bytes, encoded, fun rest small => ?_⟩
  rw [decodePrefix_eq_concludePrefix small, reads]
  simp only [concludePrefix, assembled, List.length_append]
  rw [Nat.add_sub_cancel]

end ReqResMessage
end Daemon
end WhatsGoingOn
