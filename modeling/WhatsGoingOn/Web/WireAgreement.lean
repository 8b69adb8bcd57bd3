import WhatsGoingOn.Daemon.WireEncode
import WhatsGoingOn.Web.CborAgreement
import WhatsGoingOn.Web.ServerStream

/-!
# Messages of the daemon, at the web client

The client decodes the messages that the daemon wrote on a stream, however the
transport splits the stream, and hands the event of each of them to the
consumer.
-/

namespace WhatsGoingOn
namespace Web

open Daemon (Value)
open Codegen.TypeScript (integer)
open Daemon.ReqResMessage (Parts SmallFields IsField)
open Reader (Reads)

/-! ## What the client makes of a message -/

/-- The kind of an error as the client receives it. -/
def receivedErrorKind : Daemon.RpcErrorKind → RpcErrorKind
  | .system => .system
  | .method => .method

/-- The code of a refused authentication as the client receives it. -/
def receivedAuthErrorCode :
    Daemon.SessionAuthErrorCode → SessionAuthErrorCode
  | .unsupportedMechanism => .unsupportedMechanism
  | .invalidCredentials => .invalidCredentials
  | .malformedPayload => .malformedPayload
  | .alreadyAuthenticated => .alreadyAuthenticated

/-- The message of the client for a message of the daemon. -/
def received : Daemon.ReqResMessage → GeneratedReqResMessage
  | .requestUnary procId payload => .requestUnary procId.toNat payload
  | .requestStreamStart procId payload =>
      .requestStreamStart procId.toNat payload
  | .requestStreamChunk payload => .requestStreamChunk payload
  | .responseUnaryOk payload => .responseUnaryOk payload
  | .responseUnaryError error errorKind =>
      .responseUnaryError error (receivedErrorKind errorKind)
  | .responseStreamStart payload => .responseStreamStart payload
  | .responseStreamChunk payload => .responseStreamChunk payload
  | .responseStreamErrorEnd error errorKind =>
      .responseStreamErrorEnd error (receivedErrorKind errorKind)
  | .sessionAuthenticate mechanism payload =>
      .sessionAuthenticate mechanism payload
  | .sessionAuthenticated => .sessionAuthenticated
  | .sessionAuthError code message =>
      .sessionAuthError (receivedAuthErrorCode code) message

/-- No text of a message begins with a byte order mark. -/
def HasNoMark : Daemon.ReqResMessage → Prop
  | .sessionAuthenticate mechanism _ => Unmarked (.text mechanism)
  | .sessionAuthError _ message => Unmarked (.text message)
  | _ => True

/-! ## One message -/

/-- What the client makes of the value of a field. -/
def fieldImage : Value → CborValue
  | .u64 value => .number (.integer value.toNat)
  | .bytes payload => .bytes payload
  | .text content => .text content
  | _ => .null

/-- The fields of a message as the client decodes them. -/
def imageFields (fields : List (UInt64 × Value)) : List (Int × CborValue) :=
  fields.map fun entry => ((entry.1.toNat : Int), fieldImage entry.2)

theorem image_number {value : UInt64} (small : value.toNat ≤ maxSafeInteger) :
    image (.u64 value) = .number (.integer value.toNat) := by
  change CborValue.number (.integer (toNumber value.toNat)) = _
  rw [toNumber_of_safe (isSafeInteger_natCast.mpr small)]

theorem image_field {value : Value} (field : IsField maxSafeInteger value) :
    image value = fieldImage value := by
  cases value with
  | u64 value => exact image_number field
  | bytes payload => rfl
  | text content => rfl
  | null | bool | i64 | f64 | array | map => exact field.elim

theorem image_fields {fields : List (UInt64 × Value)}
    (small : SmallFields maxSafeInteger fields) :
    image (.map fields) = .map (imageFields fields) := by
  rw [image_map]
  refine congrArg CborValue.map (List.map_congr_left fun entry member => ?_)
  obtain ⟨smallKey, field⟩ := small.fieldOf entry member
  have safe : isSafeInteger entry.1.toNat = true :=
    isSafeInteger_natCast.mpr (smallKey.trans (by decide))
  rw [toNumber_of_safe safe, image_field field]

theorem field_common {value : Value} (field : IsField maxSafeInteger value) :
    CommonProfile value := by
  cases value with
  | u64 value => exact .leaf (isSafeInteger_natCast.mpr field) rfl
  | bytes payload => exact .leaf field rfl
  | text content => exact .leaf field rfl
  | null | bool | i64 | f64 | array | map => exact field.elim

theorem field_every {value : Value} (field : IsField maxSafeInteger value)
    (unmarked : Unmarked value) : value.Every Unmarked := by
  cases value with
  | null | bool | u64 | i64 | f64 | bytes | text => exact .leaf unmarked rfl
  | array | map => exact field.elim

theorem fields_common {fields : List (UInt64 × Value)}
    (small : SmallFields maxSafeInteger fields) :
    CommonProfile (.map fields) := by
  refine .map ⟨small.few.trans (by decide), small.ascending, ?_⟩
    fun entry member => field_common (small.fieldOf entry member).2
  intro entry member
  exact isSafeInteger_natCast.mpr
    ((small.fieldOf entry member).1.trans (by decide))

/-- The client decodes a small map in front of other bytes. -/
theorem decode_fields {fields : List (UInt64 × Value)}
    (small : SmallFields maxSafeInteger fields)
    (unmarked : ∀ entry ∈ fields, Unmarked entry.2) (rest : List UInt8) :
    (decode ((Value.map fields).encode ++ rest)).outcome =
      .ok (.map (imageFields fields), rest) := by
  have every : (Value.map fields).Every Unmarked :=
    .map trivial fun entry member =>
      field_every (small.fieldOf entry member).2 (unmarked entry member)
  have read := (fields_common small).readBack rest
  rw [image_stripMarks.mpr every, image_fields small] at read
  exact read

theorem decodeCbor_fields {fields : List (UInt64 × Value)}
    (small : SmallFields maxSafeInteger fields)
    (unmarked : ∀ entry ∈ fields, Unmarked entry.2) :
    decodeCbor (Value.map fields).encode = .ok (.map (imageFields fields)) := by
  have read := decode_fields small unmarked []
  rw [List.append_nil] at read
  exact Outcome.bind_eq_ok.mpr ⟨_, read, rfl⟩

theorem decode_number {value : UInt64}
    (small : value.toNat ≤ maxSafeInteger) (rest : List UInt8) :
    (decode ((Value.u64 value).encode ++ rest)).outcome =
      .ok (.number (.integer value.toNat), rest) :=
  decode_unsigned (isSafeInteger_natCast.mpr small) rest

theorem integer_of_encodeU53 {procId : UInt64} {value : Value}
    (encoded : Daemon.encodeU53 procId = .ok value) :
    value = .u64 procId ∧
      integer (.number (.integer procId.toNat)) = .ok procId.toNat := by
  unfold Daemon.encodeU53 at encoded
  split at encoded
  · cases encoded
  · rename_i small
    cases encoded
    exact ⟨rfl, if_pos (isSafeInteger_natCast.mpr (Nat.not_lt.mp small))⟩

/-- The client decodes a message of the daemon to the one received. -/
theorem decodeReqResMessageValue_image {message : Daemon.ReqResMessage}
    {kind : UInt64} {fields : List (UInt64 × Value)}
    (parts : Parts maxSafeInteger message kind fields) :
    decodeReqResMessageValue
        (.array [.number (.integer kind.toNat), .map (imageFields fields)]) =
      .ok (received message) := by
  have encoded := parts.encoded
  cases message with
  | requestUnary procId payload =>
      obtain ⟨value, number, same⟩ := Outcome.bind_eq_ok.mp encoded
      obtain ⟨rfl, read⟩ := integer_of_encodeU53 number
      cases same
      refine Outcome.bind_eq_ok.mpr
        ⟨(0, imageFields _), rfl,
          Outcome.bind_eq_ok.mpr ⟨(procId.toNat : Int), ?_, ?_⟩⟩
      · cases payload <;> exact read
      · cases payload <;> rfl
  | requestStreamStart procId payload =>
      obtain ⟨value, number, same⟩ := Outcome.bind_eq_ok.mp encoded
      obtain ⟨rfl, read⟩ := integer_of_encodeU53 number
      cases same
      refine Outcome.bind_eq_ok.mpr
        ⟨(1, imageFields _), rfl,
          Outcome.bind_eq_ok.mpr ⟨(procId.toNat : Int), ?_, ?_⟩⟩
      · cases payload <;> exact read
      · cases payload <;> rfl
  | requestStreamChunk payload =>
      cases encoded
      rfl
  | responseUnaryOk payload =>
      cases encoded
      cases payload <;> rfl
  | responseUnaryError error errorKind =>
      cases encoded
      cases errorKind <;> rfl
  | responseStreamStart payload =>
      cases encoded
      cases payload <;> rfl
  | responseStreamChunk payload =>
      cases encoded
      rfl
  | responseStreamErrorEnd error errorKind =>
      cases encoded
      cases errorKind <;> rfl
  | sessionAuthenticate mechanism payload =>
      cases encoded
      rfl
  | sessionAuthenticated =>
      cases encoded
      rfl
  | sessionAuthError code message =>
      cases encoded
      cases code <;> rfl

/-- The fields of an unmarked message have no marks. -/
theorem field_unmarked {message : Daemon.ReqResMessage}
    {kind : UInt64} {fields : List (UInt64 × Value)}
    (parts : Parts maxSafeInteger message kind fields)
    (unmarked : HasNoMark message) :
    ∀ entry ∈ fields, Unmarked entry.2 := by
  have encoded := parts.encoded
  cases message with
  | requestUnary procId payload | requestStreamStart procId payload =>
      obtain ⟨value, number, same⟩ := Outcome.bind_eq_ok.mp encoded
      obtain ⟨rfl, -⟩ := integer_of_encodeU53 number
      cases same
      cases payload <;> simp [Daemon.ReqResMessage.insertPayload,
        SortedMap.insert, Unmarked]
  | requestStreamChunk payload | responseStreamChunk payload =>
      cases encoded
      simp [Daemon.ReqResMessage.insertPayload, SortedMap.insert, Unmarked]
  | responseUnaryOk payload | responseStreamStart payload =>
      cases encoded
      cases payload <;> simp [Daemon.ReqResMessage.insertPayload,
        SortedMap.insert, Unmarked]
  | responseUnaryError error errorKind
  | responseStreamErrorEnd error errorKind =>
      cases encoded
      cases errorKind <;> simp [Daemon.ReqResMessage.errorFields,
        SortedMap.insert, Daemon.RpcErrorKind.encodeValue, Unmarked]
  | sessionAuthenticate mechanism payload =>
      cases encoded
      simpa [Daemon.ReqResMessage.insertPayload, SortedMap.insert,
        HasNoMark, Unmarked] using unmarked
  | sessionAuthenticated =>
      cases encoded
      exact List.forall_mem_nil _
  | sessionAuthError code message =>
      cases encoded
      cases code <;> simpa [SortedMap.insert,
        Daemon.SessionAuthErrorCode.encodeValue, HasNoMark, Unmarked]
        using unmarked

/-- The client reads a message of the daemon from the front of its bytes. -/
theorem readMessage_encode {message : Daemon.ReqResMessage}
    (within : message.Within maxSafeInteger) (unmarked : HasNoMark message) :
    ∃ bytes, message.encode = .ok bytes ∧ ∀ rest,
      (readMessage (bytes ++ rest)).outcome =
        .ok (fromGeneratedReqResMessage (received message), rest) := by
  obtain ⟨kind, fields, parts, -⟩ := within.parts
  refine ⟨(Value.u64 kind).encode ++ (Value.map fields).encode, ?_, ?_⟩
  · rw [Daemon.ReqResMessage.encode, parts.encoded]
  · intro rest
    have smallKind : kind.toNat ≤ maxSafeInteger :=
      parts.smallKind.trans (by decide)
    rw [List.append_assoc]
    refine readMessage_eq_ok.mpr
      ⟨.number (.integer kind.toNat), .map (imageFields fields),
        Reader.pair_eq_ok.mpr ⟨_, decode_number smallKind _,
          decode_fields parts.toSmallFields (field_unmarked parts unmarked)
            rest⟩, ?_⟩
    rw [messageOf, decodeReqResMessageValue_image parts]

/-! ## A whole stream -/

/-- What the client reads of a message of the daemon. -/
def receive (message : Daemon.ReqResMessage) : ReqResMessage :=
  fromGeneratedReqResMessage (received message)

/-- The client reads the messages that the daemon wrote one after the other. -/
theorem reads_encodeSequence {messages : List Daemon.ReqResMessage}
    (within : ∀ message ∈ messages, message.Within maxSafeInteger)
    (unmarked : ∀ message ∈ messages, HasNoMark message) :
    ∃ bytes, Daemon.ReqResMessage.encodeSequence messages = .ok bytes ∧
      ∀ rest, Reads readMessage (bytes ++ rest) (messages.map receive) rest := by
  induction messages with
  | nil => exact ⟨[], rfl, fun rest => .done rest⟩
  | cons message messages inductionHypothesis =>
      obtain ⟨bytes, encoded, read⟩ :=
        readMessage_encode (within message (.head _)) (unmarked message (.head _))
      obtain ⟨others, encodedOthers, reads⟩ := inductionHypothesis
        (fun other member => within other (.tail _ member))
        (fun other member => unmarked other (.tail _ member))
      refine ⟨bytes ++ others, ?_, fun rest => ?_⟩
      · exact Outcome.bind_eq_ok.mpr
          ⟨bytes, encoded, Outcome.bind_eq_ok.mpr ⟨others, encodedOthers, rfl⟩⟩
      · rw [List.append_assoc]
        exact .next (read _) (reads rest)

/-- Nothing is malformed in a stream that is read up to a message that is
incomplete. -/
theorem soundAfterFirst_of_incomplete
    {bytes rest : List UInt8} {messages : List ReqResMessage}
    (reads : Reads readMessage bytes messages rest)
    (ends : (readMessage rest).outcome = .error (.cbor .unexpectedEnd)) :
    SoundAfterFirst bytes := by
  unfold SoundAfterFirst
  split
  · rename_i middle first
    cases reads with
    | done =>
        rw [ends] at first
        cases first
    | next same later =>
        rw [first] at same
        cases same
        intro others left failure others' stops
        obtain ⟨-, rfl⟩ := later.unique ends others' stops
        rw [ends] at stops
        cases stops
        rfl
  · rename_i failed first
    intro values left failure values' stops
    cases reads with
    | done =>
        right
        rcases readMessage_eq_error.mp ends with
          ⟨reason, unpaired, -⟩ | ⟨_, _, _, -, undecoded⟩
        · exact values'.length_lt_of_pair_error unpaired
        · obtain ⟨reason, impossible⟩ := messageOf_eq_error undecoded
          cases impossible
    | next same _ =>
        rw [first] at same
        cases same

/-- The client sees what the messages of the daemon bring about, however the
transport splits their bytes. -/
theorem stream_of_encodeSequence {δ ε α : Type} (proc : ProcCodec δ ε α)
    {messages : List Daemon.ReqResMessage}
    (within : ∀ message ∈ messages, message.Within maxSafeInteger)
    (unmarked : ∀ message ∈ messages, HasNoMark message) :
    ∃ bytes, Daemon.ReqResMessage.encodeSequence messages = .ok bytes ∧
      ∀ chunks : List (List UInt8), chunks.flatten = bytes →
        streamServerEvents proc [] chunks =
          yieldEach proc ⟨[], none⟩ (messages.map receive) := by
  obtain ⟨bytes, encoded, reads⟩ := reads_encodeSequence within unmarked
  have reads := reads []
  rw [List.append_nil] at reads
  refine ⟨bytes, encoded, ?_⟩
  rintro chunks rfl
  rw [stream_of_sound rfl (soundAfterFirst_of_incomplete reads rfl), List.nil_append,
    eventsInOrder_of_reads reads]
  rfl

end Web
end WhatsGoingOn
