import WhatsGoingOn.Web.WireAgreement

/-!
# The encoder of the web client

The client writes a message as the daemon does: the bytes of the two encoders
are the same, and what the client cannot write is no message of the daemon.
-/

namespace WhatsGoingOn
namespace Web

open Daemon (Value)
open Daemon.ReqResMessage (Parts SmallFields IsField)

/-! ## The program -/

/-- What the encoder of messages throws. -/
inductive EncodeError where
  /-- `required` -/
  | missing (message : String)
  /-- "expected u53" -/
  | expectedU53
  /-- "generated ReqResMessage must encode to union tuple" -/
  | expectedUnionTuple
  | cbor (failure : CborError)
  deriving DecidableEq, Repr

/-- A field that the kind of the message needs. -/
def required {α : Type} (value : Option α) (message : String) :
    Except EncodeError α :=
  match value with
  | none => .error (.missing message)
  | some value => .ok value

/-- The message of the schema, if every field that its kind needs is there. -/
def toGeneratedReqResMessage (message : ReqResMessage) :
    Except EncodeError GeneratedReqResMessage :=
  match message.kind with
  | .requestUnary => do
      let procId ← required message.procId "missing proc id"
      pure (.requestUnary procId message.payload)
  | .requestStreamStart => do
      let procId ← required message.procId "missing proc id"
      pure (.requestStreamStart procId message.payload)
  | .requestStreamChunk => do
      let payload ← required message.payload "missing payload"
      pure (.requestStreamChunk payload)
  | .responseUnaryOk => .ok (.responseUnaryOk message.payload)
  | .responseUnaryError => do
      let error ← required message.error "missing error"
      let errorKind ← required message.errorKind "missing error kind"
      pure (.responseUnaryError error errorKind)
  | .responseStreamStart => .ok (.responseStreamStart message.payload)
  | .responseStreamChunk => do
      let payload ← required message.payload "missing payload"
      pure (.responseStreamChunk payload)
  | .responseStreamErrorEnd => do
      let error ← required message.error "missing error"
      let errorKind ← required message.errorKind "missing error kind"
      pure (.responseStreamErrorEnd error errorKind)
  | .sessionAuthenticate => do
      let mechanism ← required message.mechanism "missing mechanism"
      let payload ← required message.payload "missing payload"
      pure (.sessionAuthenticate mechanism payload)
  | .sessionAuthenticated => .ok .sessionAuthenticated
  | .sessionAuthError => do
      let code ←
        required message.authErrorCode "missing session auth error code"
      let text ← required message.message "missing message"
      pure (.sessionAuthError code text)

/-- A safe integer that is not negative. -/
def u53 (value : Int) : Except EncodeError CborValue :=
  if isSafeInteger value = false ∨ value < 0 then .error .expectedU53
  else .ok (.number (.integer value))

/-- The number of the kind. -/
def encodeRpcErrorKindValue : RpcErrorKind → CborValue
  | .system => .number (.integer 1)
  | .method => .number (.integer 2)

/-- The number of the code. -/
def encodeSessionAuthErrorCodeValue : SessionAuthErrorCode → CborValue
  | .unsupportedMechanism => .number (.integer 1)
  | .invalidCredentials => .number (.integer 2)
  | .malformedPayload => .number (.integer 3)
  | .alreadyAuthenticated => .number (.integer 4)

/-- The entry of an optional payload. -/
def payloadEntry (payload : Option (List UInt8)) : List (Int × CborValue) :=
  (payload.map fun payload => (2, .bytes payload)).toList

/-- A variant and its fields, in the order in which they are set. -/
def variantTuple (variantId : Int) (fields : List (Int × CborValue)) :
    CborValue :=
  .array [.number (.integer variantId), .map fields]

/-- A union of the variant's number and its fields. -/
def encodeReqResMessageValue :
    GeneratedReqResMessage → Except EncodeError CborValue
  | .requestUnary procId payload => do
      let procId ← u53 procId
      pure (variantTuple 0 ((1, procId) :: payloadEntry payload))
  | .requestStreamStart procId payload => do
      let procId ← u53 procId
      pure (variantTuple 1 ((1, procId) :: payloadEntry payload))
  | .requestStreamChunk payload => .ok (variantTuple 2 [(2, .bytes payload)])
  | .responseUnaryOk payload => .ok (variantTuple 3 (payloadEntry payload))
  | .responseUnaryError error errorKind =>
      .ok (variantTuple 4
        [(3, .bytes error), (4, encodeRpcErrorKindValue errorKind)])
  | .responseStreamStart payload => .ok (variantTuple 5 (payloadEntry payload))
  | .responseStreamChunk payload => .ok (variantTuple 6 [(2, .bytes payload)])
  | .responseStreamErrorEnd error errorKind =>
      .ok (variantTuple 7
        [(3, .bytes error), (4, encodeRpcErrorKindValue errorKind)])
  | .sessionAuthenticate mechanism payload =>
      .ok (variantTuple 8 [(1, .text mechanism), (2, .bytes payload)])
  | .sessionAuthenticated => .ok (variantTuple 9 [])
  | .sessionAuthError code message =>
      .ok (variantTuple 10
        [(1, encodeSessionAuthErrorCodeValue code), (2, .text message)])

/-- `encodeCbor`, where a message is encoded. -/
def encodePart (value : CborValue) : Except EncodeError (List UInt8) :=
  match encodeCbor value with
  | .ok bytes => .ok bytes
  | .error failure => .error (.cbor failure)

/-- The number of the kind and the fields, without an array around the two. -/
def encodeReqResMessage (message : ReqResMessage) :
    Except EncodeError (List UInt8) := do
  let generated ← toGeneratedReqResMessage message
  match ← encodeReqResMessageValue generated with
  | .array [kind, fields] => do
      let kind ← encodePart kind
      let fields ← encodePart fields
      pure (kind ++ fields)
  | _ => throw .expectedUnionTuple

/-- The messages one after the other. -/
def encodeReqResMessageSequence :
    List ReqResMessage → Except EncodeError (List UInt8)
  | [] => .ok []
  | message :: messages => do
      let bytes ← encodeReqResMessage message
      let others ← encodeReqResMessageSequence messages
      pure (bytes ++ others)

/-! ## What the client writes of the messages of the daemon -/

theorem toGenerated_fromGenerated (message : GeneratedReqResMessage) :
    toGeneratedReqResMessage (fromGeneratedReqResMessage message) =
      .ok message := by
  cases message <;> rfl

theorem u53_of_encodeU53 {procId : UInt64} {value : Value}
    (encoded : Daemon.encodeU53 procId = .ok value) :
    u53 procId.toNat = .ok (.number (.integer procId.toNat)) := by
  unfold Daemon.encodeU53 at encoded
  split at encoded
  · cases encoded
  · rename_i small
    have safe : isSafeInteger procId.toNat = true :=
      isSafeInteger_natCast.mpr (Nat.not_lt.mp small)
    exact if_neg (by simp [safe])

/-- The client writes the fields that the daemon writes. -/
theorem encodeReqResMessageValue_received {message : Daemon.ReqResMessage}
    {kind : UInt64} {fields : List (UInt64 × Value)}
    (parts : Parts maxSafeInteger message kind fields) :
    encodeReqResMessageValue (received message) =
      .ok (variantTuple kind.toNat (imageFields fields)) := by
  have encoded := parts.encoded
  cases message with
  | requestUnary procId payload | requestStreamStart procId payload =>
      obtain ⟨value, number, same⟩ := Outcome.bind_eq_ok.mp encoded
      obtain ⟨rfl, -⟩ := integer_of_encodeU53 number
      cases same
      refine Outcome.bind_eq_ok.mpr ⟨_, u53_of_encodeU53 number, ?_⟩
      cases payload <;> rfl
  | requestStreamChunk payload | responseStreamChunk payload =>
      cases encoded
      rfl
  | responseUnaryOk payload | responseStreamStart payload =>
      cases encoded
      cases payload <;> rfl
  | responseUnaryError error errorKind
  | responseStreamErrorEnd error errorKind =>
      cases encoded
      cases errorKind <;> rfl
  | sessionAuthenticate mechanism payload =>
      cases encoded
      rfl
  | sessionAuthenticated =>
      cases encoded
      rfl
  | sessionAuthError code message =>
      cases encoded
      cases code <;> rfl

theorem encodePart_image {value : Value} (common : CommonProfile value) :
    encodePart (image value) = .ok value.encode := by
  rw [encodePart, encodeCbor_image common]

/-- The client writes a message of the daemon in the same bytes. -/
theorem encodeReqResMessage_receive {message : Daemon.ReqResMessage}
    (within : message.Within maxSafeInteger) :
    ∃ bytes, message.encode = .ok bytes ∧
      encodeReqResMessage (receive message) = .ok bytes := by
  obtain ⟨kind, fields, parts, -⟩ := within.parts
  have smallKind : kind.toNat ≤ maxSafeInteger :=
    parts.smallKind.trans (by decide)
  have kindBytes := encodePart_image
    (.leaf (isSafeInteger_natCast.mpr smallKind) rfl :
      CommonProfile (.u64 kind))
  have fieldsBytes := encodePart_image (fields_common parts.toSmallFields)
  rw [image_number smallKind] at kindBytes
  rw [image_fields parts.toSmallFields] at fieldsBytes
  refine ⟨(Value.u64 kind).encode ++ (Value.map fields).encode, ?_, ?_⟩
  · rw [Daemon.ReqResMessage.encode, parts.encoded]
  · refine Outcome.bind_eq_ok.mpr
      ⟨received message, toGenerated_fromGenerated _,
        Outcome.bind_eq_ok.mpr
          ⟨_, encodeReqResMessageValue_received parts, ?_⟩⟩
    exact Outcome.bind_eq_ok.mpr
      ⟨_, kindBytes, Outcome.bind_eq_ok.mpr ⟨_, fieldsBytes, rfl⟩⟩

/-! ## What the client can write -/

theorem length_le_of_encodeTypeValue {major length : Nat} {head : List UInt8}
    (encoded : encodeTypeValue major length = .ok head) :
    length ≤ maxSafeInteger := by
  unfold encodeTypeValue at encoded
  split at encoded
  · cases encoded
  · rename_i safe
    exact isSafeInteger_natCast.mp (by simpa using safe)

/-- A value has an encoding. -/
def Encodes (value : CborValue) : Prop :=
  ∃ bytes, encodeCbor value = .ok bytes

theorem encodes_of_encodePart {value : CborValue} {bytes : List UInt8}
    (encoded : encodePart value = .ok bytes) : Encodes value := by
  unfold encodePart at encoded
  split at encoded
  · rename_i written same
    exact ⟨written, same⟩
  · cases encoded

theorem Encodes.bytes {payload : List UInt8} (encodes : Encodes (.bytes payload)) :
    payload.length ≤ maxSafeInteger := by
  obtain ⟨_, encoded⟩ := encodes
  obtain ⟨_, head, -⟩ := Outcome.bind_eq_ok.mp encoded
  exact length_le_of_encodeTypeValue head

theorem Encodes.text {content : String} (encodes : Encodes (.text content)) :
    (Bytes.utf8 content).length ≤ maxSafeInteger := by
  obtain ⟨_, encoded⟩ := encodes
  obtain ⟨_, head, -⟩ := Outcome.bind_eq_ok.mp encoded
  exact length_le_of_encodeTypeValue head

/-- Entries that are written all have their values written. -/
theorem value_of_writeEntries
    {entries : List (Int × Except CborError (List UInt8))}
    {bytes : List UInt8} (written : writeEntries entries = .ok bytes) :
    ∀ entry ∈ entries, ∃ value, entry.2 = .ok value := by
  induction entries generalizing bytes with
  | nil => exact List.forall_mem_nil _
  | cons entry entries inductionHypothesis =>
      obtain ⟨key, value⟩ := entry
      rw [writeEntries] at written
      split at written
      · cases written
      obtain ⟨_, -, written⟩ := Outcome.bind_eq_ok.mp written
      obtain ⟨first, same, written⟩ := Outcome.bind_eq_ok.mp written
      obtain ⟨rest, others, -⟩ := Outcome.bind_eq_ok.mp written
      exact List.forall_mem_cons.mpr
        ⟨⟨first, same⟩, inductionHypothesis others⟩

theorem mem_encodeEntries {fields : List (Int × CborValue)}
    {entry : Int × CborValue} (member : entry ∈ fields) :
    (entry.1, encode entry.2) ∈ encodeEntries fields := by
  induction fields with
  | nil => cases member
  | cons field fields inductionHypothesis =>
      rw [encodeEntries]
      rcases List.mem_cons.mp member with rfl | later
      · exact .head _
      · exact .tail _ (inductionHypothesis later)

/-- Where a map is encoded, so are the values of its entries. -/
theorem Encodes.entry {fields : List (Int × CborValue)}
    (encodes : Encodes (.map fields)) :
    ∀ entry ∈ fields, Encodes entry.2 := by
  obtain ⟨_, encoded⟩ := encodes
  obtain ⟨_, -, encoded⟩ := Outcome.bind_eq_ok.mp encoded
  obtain ⟨_, written, -⟩ := Outcome.bind_eq_ok.mp encoded
  intro entry member
  exact value_of_writeEntries written _
    (List.mem_mergeSort.mpr (mem_encodeEntries member))

theorem payload_length {payload : Option (List UInt8)}
    (encodes : ∀ entry ∈ payloadEntry payload, Encodes entry.2) :
    ∀ bytes ∈ payload, bytes.length ≤ maxSafeInteger := by
  rintro bytes rfl
  exact (encodes (2, .bytes bytes) (.head _)).bytes

/-- A number that is written is a safe integer. -/
theorem received_number {procId : Int} {value : CborValue}
    (encoded : u53 procId = .ok value) :
    ∃ number : UInt64,
      (number.toNat : Int) = procId ∧ number.toNat ≤ maxSafeInteger := by
  unfold u53 at encoded
  split at encoded
  · cases encoded
  · rename_i inRange
    obtain ⟨safe, nonnegative⟩ : isSafeInteger procId = true ∧ 0 ≤ procId := by
      simpa using inRange
    have small : procId.toNat ≤ maxSafeInteger := by
      rw [← isSafeInteger_natCast, Int.toNat_of_nonneg nonnegative]
      exact safe
    have number : (UInt64.ofNat procId.toNat).toNat = procId.toNat :=
      UInt64.toNat_ofNat_of_lt' (Nat.lt_of_le_of_lt small (by decide))
    exact ⟨_, by rw [number, Int.toNat_of_nonneg nonnegative],
      number ▸ small⟩

theorem received_errorKind (errorKind : RpcErrorKind) :
    ∃ kind, receivedErrorKind kind = errorKind := by
  cases errorKind with
  | system => exact ⟨.system, rfl⟩
  | method => exact ⟨.method, rfl⟩

theorem received_authErrorCode (code : SessionAuthErrorCode) :
    ∃ other, receivedAuthErrorCode other = code := by
  cases code with
  | unsupportedMechanism => exact ⟨.unsupportedMechanism, rfl⟩
  | invalidCredentials => exact ⟨.invalidCredentials, rfl⟩
  | malformedPayload => exact ⟨.malformedPayload, rfl⟩
  | alreadyAuthenticated => exact ⟨.alreadyAuthenticated, rfl⟩

/-- What the client can write is a message of the daemon. -/
theorem exists_received {generated : GeneratedReqResMessage} {value : CborValue}
    (encoded : encodeReqResMessageValue generated = .ok value) :
    ∃ variantId fields, value = variantTuple variantId fields ∧
      (Encodes (.map fields) →
        ∃ message : Daemon.ReqResMessage,
          message.Within maxSafeInteger ∧ received message = generated) := by
  cases generated with
  | requestUnary procId payload =>
      obtain ⟨_, number, same⟩ := Outcome.bind_eq_ok.mp encoded
      cases same
      obtain ⟨procId, rfl, small⟩ := received_number number
      refine ⟨_, _, rfl, fun encodes => ⟨.requestUnary procId payload, ?_, rfl⟩⟩
      exact ⟨small, payload_length fun entry member =>
        encodes.entry entry (.tail _ member)⟩
  | requestStreamStart procId payload =>
      obtain ⟨_, number, same⟩ := Outcome.bind_eq_ok.mp encoded
      cases same
      obtain ⟨procId, rfl, small⟩ := received_number number
      refine ⟨_, _, rfl,
        fun encodes => ⟨.requestStreamStart procId payload, ?_, rfl⟩⟩
      exact ⟨small, payload_length fun entry member =>
        encodes.entry entry (.tail _ member)⟩
  | requestStreamChunk payload =>
      cases encoded
      exact ⟨_, _, rfl, fun encodes => ⟨.requestStreamChunk payload,
        (encodes.entry _ (.head _)).bytes, rfl⟩⟩
  | responseUnaryOk payload =>
      cases encoded
      exact ⟨_, _, rfl, fun encodes => ⟨.responseUnaryOk payload,
        payload_length encodes.entry, rfl⟩⟩
  | responseUnaryError error errorKind =>
      cases encoded
      obtain ⟨errorKind, rfl⟩ := received_errorKind errorKind
      exact ⟨_, _, rfl, fun encodes => ⟨.responseUnaryError error errorKind,
        (encodes.entry _ (.head _)).bytes, rfl⟩⟩
  | responseStreamStart payload =>
      cases encoded
      exact ⟨_, _, rfl, fun encodes => ⟨.responseStreamStart payload,
        payload_length encodes.entry, rfl⟩⟩
  | responseStreamChunk payload =>
      cases encoded
      exact ⟨_, _, rfl, fun encodes => ⟨.responseStreamChunk payload,
        (encodes.entry _ (.head _)).bytes, rfl⟩⟩
  | responseStreamErrorEnd error errorKind =>
      cases encoded
      obtain ⟨errorKind, rfl⟩ := received_errorKind errorKind
      exact ⟨_, _, rfl,
        fun encodes => ⟨.responseStreamErrorEnd error errorKind,
          (encodes.entry _ (.head _)).bytes, rfl⟩⟩
  | sessionAuthenticate mechanism payload =>
      cases encoded
      exact ⟨_, _, rfl, fun encodes => ⟨.sessionAuthenticate mechanism payload,
        ⟨(encodes.entry _ (.head _)).text,
          (encodes.entry _ (.tail _ (.head _))).bytes⟩, rfl⟩⟩
  | sessionAuthenticated =>
      cases encoded
      exact ⟨_, _, rfl, fun _ => ⟨.sessionAuthenticated, trivial, rfl⟩⟩
  | sessionAuthError code message =>
      cases encoded
      obtain ⟨code, rfl⟩ := received_authErrorCode code
      exact ⟨_, _, rfl, fun encodes => ⟨.sessionAuthError code message,
        (encodes.entry _ (.tail _ (.head _))).text, rfl⟩⟩

/-- A message that the client writes, its bytes, and what it is to the
daemon. -/
structure Written (message : ReqResMessage) (piece : List UInt8)
    (sent : Daemon.ReqResMessage) : Prop where
  within : sent.Within maxSafeInteger
  same : toGeneratedReqResMessage message = .ok (received sent)
  encoded : sent.encode = .ok piece

/-- What the client encodes is a message of the daemon in its bytes. -/
theorem exists_written {message : ReqResMessage} {piece : List UInt8}
    (encoded : encodeReqResMessage message = .ok piece) :
    ∃ sent, Written message piece sent := by
  obtain ⟨generated, same, whole⟩ := Outcome.bind_eq_ok.mp encoded
  obtain ⟨value, encodedValue, tuple⟩ := Outcome.bind_eq_ok.mp whole
  obtain ⟨variantId, fields, rfl, assembled⟩ := exists_received encodedValue
  obtain ⟨_, -, tuple⟩ := Outcome.bind_eq_ok.mp tuple
  obtain ⟨_, encodedFields, -⟩ := Outcome.bind_eq_ok.mp tuple
  obtain ⟨sent, within, rfl⟩ := assembled (encodes_of_encodePart encodedFields)
  obtain ⟨bytes, daemon, client⟩ := encodeReqResMessage_receive within
  obtain ⟨_, generated, whole'⟩ := Outcome.bind_eq_ok.mp client
  cases (toGenerated_fromGenerated _).symm.trans generated
  rw [whole] at whole'
  cases whole'
  exact ⟨sent, within, same, daemon⟩

theorem Written.encodes {message : ReqResMessage} {piece : List UInt8}
    {sent : Daemon.ReqResMessage} (written : Written message piece sent) :
    encodeReqResMessage message = .ok piece := by
  obtain ⟨bytes, daemon, client⟩ := encodeReqResMessage_receive written.within
  cases daemon.symm.trans written.encoded
  obtain ⟨_, generated, whole⟩ := Outcome.bind_eq_ok.mp client
  cases (toGenerated_fromGenerated _).symm.trans generated
  exact Outcome.bind_eq_ok.mpr ⟨_, written.same, whole⟩

/-- The client writes exactly the messages that the daemon could write, and in
the bytes in which the daemon writes them. -/
theorem encoders_agree (message : ReqResMessage) (bytes : List UInt8) :
    encodeReqResMessage message = .ok bytes ↔
      ∃ sent : Daemon.ReqResMessage,
        sent.Within maxSafeInteger ∧
        toGeneratedReqResMessage message = .ok (received sent) ∧
        sent.encode = .ok bytes := by
  constructor
  · intro encoded
    obtain ⟨sent, written⟩ := exists_written encoded
    exact ⟨sent, written.within, written.same, written.encoded⟩
  · rintro ⟨sent, within, same, encoded⟩
    exact Written.encodes ⟨within, same, encoded⟩

end Web
end WhatsGoingOn
