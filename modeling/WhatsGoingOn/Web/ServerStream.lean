import WhatsGoingOn.Web.Wire

/-!
# The events of a server stream

The client decodes the messages of a response as its bytes come, and hands their
events to the consumer one after the other.  A message that cannot be decoded
takes with it the messages that are decoded in the same go.
-/

namespace WhatsGoingOn
namespace Web

open Codegen.TypeScript (DecodeError)
open Reader (Reads)

/-! ## The program -/

/-- What a generated codec makes of a response and of an error, whose code and
text the client reads off. -/
structure ProcCodec (δ ε α : Type) where
  decodeResponse : CborValue → Except δ α
  decodeError : CborValue → Except δ ε
  errorCode : ε → String
  errorMessage : ε → String

/-- What the consumer of a stream catches: what the decoder of the messages
throws, what one message brings about, or that the last one is incomplete. -/
inductive StreamFailure (δ : Type) where
  | message (failure : MessageError)
  /-- "expected stream response message" -/
  | unexpectedKind
  /-- "missing stream response payload" -/
  | missingPayload
  | payload (failure : CborError)
  | codec (failure : δ)
  | errorPayload (failure : DecodeError)
  /-- `RpcError` -/
  | rpcError (code message : String)
  /-- "incomplete stream response message" -/
  | incomplete
  deriving DecidableEq, Repr

/-- What the consumer of a stream sees: events, and a failure or the end. -/
structure ServerEvents (δ α : Type) where
  events : List α
  failure : Option (StreamFailure δ)
  deriving DecidableEq, Repr

/-- The name of a code, as the error that is thrown carries it. -/
def rpcErrorCode : RpcErrorCode → String
  | .badMessage => "badMessage"
  | .unauthorized => "unauthorized"
  | .missingPayload => "missingPayload"
  | .notImplemented => "notImplemented"
  | .permissionDenied => "permissionDenied"
  | .notFound => "notFound"
  | .operationFailed => "operationFailed"
  | .malformedPayload => "malformedPayload"

variable {δ ε α : Type}

/-- `decodeCbor` of a payload. -/
def decodePayload (bytes : List UInt8) :
    Except (StreamFailure δ) CborValue :=
  match decodeCbor bytes with
  | .ok value => .ok value
  | .error failure => .error (.payload failure)

/-- What `throwRpcError` throws. -/
def rpcErrorOf (proc : ProcCodec δ ε α) (response : ReqResMessage) :
    StreamFailure δ :=
  match response.error, response.errorKind with
  | some error, some errorKind =>
      match decodePayload error with
      | .error failure => failure
      | .ok value =>
          match errorKind with
          | .method =>
              match proc.decodeError value with
              | .error failure => .codec failure
              | .ok error =>
                  .rpcError (proc.errorCode error) (proc.errorMessage error)
          | .system =>
              match decodeRpcErrorPayloadValue value with
              | .error failure => .errorPayload failure
              | .ok error => .rpcError (rpcErrorCode error.code) error.message
  | _, _ => .rpcError "rpc_error" "RPC error response"

/-- What the client makes of one message. -/
def eventOf (proc : ProcCodec δ ε α) (message : ReqResMessage) :
    Except (StreamFailure δ) α :=
  if message.kind = .responseStreamErrorEnd then
    .error (rpcErrorOf proc message)
  else if message.kind ≠ .responseStreamStart ∧
      message.kind ≠ .responseStreamChunk then
    .error .unexpectedKind
  else
    match message.payload with
    | none => .error .missingPayload
    | some payload => do
        let value ← decodePayload payload
        match proc.decodeResponse value with
        | .ok event => pure event
        | .error failure => throw (.codec failure)

/-- Hand events to the consumer before others. -/
def ServerEvents.after (events : List α) (later : ServerEvents δ α) :
    ServerEvents δ α :=
  { later with events := events ++ later.events }

/-- Hand the events of messages to the consumer, and go on if none fails. -/
def yieldEach (proc : ProcCodec δ ε α) (next : ServerEvents δ α) :
    List ReqResMessage → ServerEvents δ α
  | [] => next
  | message :: messages =>
      match eventOf proc message with
      | .error failure => ⟨[], some failure⟩
      | .ok event => (yieldEach proc next messages).after [event]

/-- The loop of `streamServerEvents`, over the chunks that the transport
brings. -/
def streamServerEvents (proc : ProcCodec δ ε α) :
    List UInt8 → List (List UInt8) → ServerEvents δ α
  | buffered, [] =>
      ⟨[], if 0 < buffered.length then some .incomplete else none⟩
  | buffered, chunk :: chunks =>
      let buffered := buffered ++ chunk
      match decodeReqResMessageSequencePrefix buffered with
      | .error failure => ⟨[], some (.message failure)⟩
      | .ok (messages, readBytes) =>
          let buffered :=
            if 0 < readBytes then buffered.drop readBytes else buffered
          yieldEach proc (streamServerEvents proc buffered chunks) messages

/-! ## One message after the other -/

/-- How a stream ends whose last bytes hold no message. -/
def endingOf (bytes : List UInt8) : MessageError → Option (StreamFailure δ)
  | .cbor .unexpectedEnd => if 0 < bytes.length then some .incomplete else none
  | failure => some (.message failure)

/-- The events of a byte stream whose messages are decoded one after the
other, of at most some number of messages. -/
def eventsWithin (proc : ProcCodec δ ε α) : Nat → List UInt8 → ServerEvents δ α
  | 0, _ => ⟨[], none⟩
  | fuel + 1, bytes =>
      match (readMessage bytes).outcome with
      | .error failure => ⟨[], endingOf bytes failure⟩
      | .ok (message, rest) =>
          yieldEach proc (eventsWithin proc fuel rest) [message]

/-- What a consumer is to see of a byte stream: every message that is complete
and well formed before the first one that is not, and then how the stream
ends. -/
def eventsInOrder (proc : ProcCodec δ ε α) (bytes : List UInt8) :
    ServerEvents δ α :=
  eventsWithin proc (bytes.length + 1) bytes

/-! ## What is decoded in one go -/

variable {proc : ProcCodec δ ε α}

theorem yieldEach_cons
    (next : ServerEvents δ α) (message : ReqResMessage)
    (messages : List ReqResMessage) :
    yieldEach proc next (message :: messages) =
      yieldEach proc (yieldEach proc next messages) [message] := rfl

/-- More fuel than bytes changes nothing. -/
theorem eventsWithin_eq {fuel more : Nat} {bytes : List UInt8}
    (enough : bytes.length < fuel) (plenty : bytes.length < more) :
    eventsWithin proc fuel bytes = eventsWithin proc more bytes := by
  induction fuel generalizing more bytes with
  | zero => omega
  | succ fuel inductionHypothesis =>
      cases more with
      | zero => omega
      | succ more =>
          unfold eventsWithin
          cases read : (readMessage bytes).outcome with
          | error failure => rfl
          | ok result =>
              obtain ⟨message, rest⟩ := result
              have shorter := length_lt_of_readMessage read
              dsimp only
              rw [@inductionHypothesis more rest (by omega) (by omega)]

theorem eventsInOrder_of_error {bytes : List UInt8} {failure : MessageError}
    (stops : (readMessage bytes).outcome = .error failure) :
    eventsInOrder proc bytes = ⟨[], endingOf bytes failure⟩ := by
  unfold eventsInOrder eventsWithin
  rw [stops]

theorem eventsInOrder_of_ok
    {bytes rest : List UInt8} {message : ReqResMessage}
    (read : (readMessage bytes).outcome = .ok (message, rest)) :
    eventsInOrder proc bytes =
      yieldEach proc (eventsInOrder proc rest) [message] := by
  have shorter := length_lt_of_readMessage read
  unfold eventsInOrder
  rw [eventsWithin, read]
  dsimp only
  rw [eventsWithin_eq shorter (Nat.lt_succ_self _)]

theorem eventsInOrder_of_reads
    {bytes rest : List UInt8} {messages : List ReqResMessage}
    (reads : Reads readMessage bytes messages rest) :
    eventsInOrder proc bytes =
      yieldEach proc (eventsInOrder proc rest) messages := by
  induction reads with
  | done bytes => rfl
  | next first later inductionHypothesis =>
      rw [eventsInOrder_of_ok first, inductionHypothesis, ← yieldEach_cons]

/-- Nothing that follows the first message of a byte stream is malformed: after
a message that is well formed, others are, up to an end, and after one that is
not, there is no item that cannot be decoded. -/
def SoundAfterFirst (bytes : List UInt8) : Prop :=
  match (readMessage bytes).outcome with
  | .ok (_, rest) =>
      ∀ messages left failure, Reads readMessage rest messages left →
        (readMessage left).outcome = .error failure →
          failure = .cbor .unexpectedEnd
  | .error _ =>
      ∀ values rest failure, Reads decode bytes values rest →
        (decode rest).outcome = .error failure →
          failure = .unexpectedEnd ∨ values.length < 2

/-- Where a buffer cannot be decoded, its first message is not incomplete. -/
theorem first_real {bytes : List UInt8} {failure reason : MessageError}
    (fails : decodeReqResMessageSequencePrefix bytes = .error failure)
    (first : (readMessage bytes).outcome = .error reason) :
    reason ≠ .cbor .unexpectedEnd := by
  rintro rfl
  obtain ⟨_, whole⟩ := sequencePrefix_of_reads (.done bytes) first
  rw [whole] at fails
  cases fails

/-- A sound byte stream that cannot be decoded in one go fails for its first
message. -/
theorem SoundAfterFirst.first_error
    {bytes : List UInt8} {failure : MessageError}
    (sound : SoundAfterFirst bytes)
    (fails : decodeReqResMessageSequencePrefix bytes = .error failure) :
    (readMessage bytes).outcome = .error failure := by
  unfold SoundAfterFirst at sound
  split at sound
  · rename_i message rest first
    rcases sequencePrefix_cases bytes with
      ⟨_, _, whole, _⟩ | ⟨_, messages, left, reason, _, reads, stops, real⟩
    · rw [whole] at fails
      cases fails
    · cases reads with
      | done =>
          rw [first] at stops
          cases stops
      | next same later =>
          rw [first] at same
          cases same
          exact absurd (sound _ _ _ later stops) real
  · rename_i reason first
    rcases sequencePrefix_of_first_error first (first_real fails first) with
      whole | ⟨cause, whole⟩
    · rw [whole] at fails
      cases fails
      exact first
    · rw [whole] at fails
      cases fails
      obtain ⟨values, rest, reads, stops, inside⟩ :=
        reads_of_sequencePrefix_cbor whole
      have few := (sound _ _ _ reads stops).resolve_left inside
      exact readMessage_eq_error.mpr
        (Or.inl ⟨cause, reads.pair_error few stops, rfl⟩)

/-- A byte stream that fails for its first message only is sound. -/
theorem soundAfterFirst_of_first_error {bytes : List UInt8}
    (same : ∀ failure,
      decodeReqResMessageSequencePrefix bytes = .error failure →
        (readMessage bytes).outcome = .error failure) :
    SoundAfterFirst bytes := by
  unfold SoundAfterFirst
  split
  · rename_i message rest first
    intro messages left failure reads stops
    rcases sequencePrefix_cases bytes with
      ⟨_, _, _, again, ends⟩ | ⟨reason, _, _, _, whole, _⟩
    · obtain ⟨_, rfl⟩ := (Reads.next first reads).unique stops again ends
      rw [stops] at ends
      cases ends
      rfl
    · rw [same reason whole] at first
      cases first
  · intro values rest failure reads stops
    by_cases ends : failure = .unexpectedEnd
    · exact Or.inl ends
    · right
      have first := same _ (sequencePrefix_cbor reads stops ends)
      rcases readMessage_eq_error.mp first with
        ⟨reason, unpaired, _⟩ | ⟨_, _, _, _, undecoded⟩
      · exact reads.length_lt_of_pair_error unpaired
      · obtain ⟨reason, impossible⟩ := messageOf_eq_error undecoded
        cases impossible

/-- What is left of a sound byte stream is sound. -/
theorem SoundAfterFirst.rest
    {bytes rest : List UInt8} {messages : List ReqResMessage}
    (sound : SoundAfterFirst bytes)
    (reads : Reads readMessage bytes messages rest) : SoundAfterFirst rest := by
  cases reads with
  | done => exact sound
  | next first later =>
      apply soundAfterFirst_of_first_error
      intro failure fails
      have reads := Reads.next first later
      rcases sequencePrefix_cases bytes with
        ⟨_, _, _, all, ends⟩ | ⟨reason, _, _, _, whole, _⟩
      · obtain ⟨_, _, following⟩ := reads.after all ends
        obtain ⟨_, whole⟩ := sequencePrefix_of_reads following ends
        rw [whole] at fails
        cases fails
      · rw [sound.first_error whole] at first
        cases first

theorem endingOf_of_real {bytes : List UInt8} {failure : MessageError}
    (real : failure ≠ .cbor .unexpectedEnd) :
    endingOf bytes failure =
      some (StreamFailure.message failure : StreamFailure δ) := by
  unfold endingOf
  split
  · exact absurd rfl real
  · rfl

/-- A part of a sound byte stream that cannot be decoded fails as the first
message of the stream does. -/
theorem SoundAfterFirst.part_error
    {bytes : List UInt8} {failure : MessageError} {more : List UInt8}
    (sound : SoundAfterFirst (bytes ++ more))
    (fails : decodeReqResMessageSequencePrefix bytes = .error failure) :
    (readMessage (bytes ++ more)).outcome = .error failure ∧
      failure ≠ .cbor .unexpectedEnd := by
  obtain ⟨reason, whole⟩ := sequencePrefix_error_append fails more
  have first := sound.first_error whole
  suffices same : failure = reason by
    rw [same]
    exact ⟨first, first_real whole first⟩
  cases head : (readMessage bytes).outcome with
  | ok result =>
      rw [stable_readMessage.ok _ more _ _ head] at first
      cases first
  | error cause =>
      have real := first_real fails head
      rw [stable_readMessage.error _ more _ head real] at first
      cases first
      rcases sequencePrefix_of_first_error head real with
        part | ⟨item, part⟩
      · rw [part] at fails
        cases fails
        rfl
      · rw [part] at fails
        rw [sequencePrefix_cbor_append part more] at whole
        cases fails
        cases whole
        rfl

theorem eq_of_endingOf {bytes : List UInt8} {reason failure : MessageError}
    (ends : endingOf bytes reason =
      some (StreamFailure.message failure : StreamFailure δ)) :
    reason = failure := by
  unfold endingOf at ends
  split at ends
  · split at ends <;> cases ends
  · cases ends
    rfl

theorem decodePayload_ne_message (bytes : List UInt8)
    (failure : MessageError) :
    decodePayload bytes ≠
      (.error (.message failure) : Except (StreamFailure δ) CborValue) := by
  unfold decodePayload
  split <;> simp

/-- An error of the response is not one of its message. -/
theorem rpcErrorOf_ne_message (message : ReqResMessage)
    (failure : MessageError) : rpcErrorOf proc message ≠ .message failure := by
  unfold rpcErrorOf
  split
  · split
    · rename_i undecoded
      rintro rfl
      exact decodePayload_ne_message _ _ undecoded
    · split
      · split <;> simp
      · split <;> simp
  · simp

/-- What a message brings about is not a failure of the decoder of
messages. -/
theorem eventOf_ne_message (message : ReqResMessage)
    (failure : MessageError) :
    eventOf proc message ≠ .error (.message failure) := by
  unfold eventOf
  split
  · intro same
    exact rpcErrorOf_ne_message message failure (Except.error.inj same)
  · split
    · simp
    · split
      · simp
      · intro fails
        rcases Outcome.bind_eq_error.mp fails with
          undecoded | ⟨value, _, fails⟩
        · exact decodePayload_ne_message _ _ undecoded
        · split at fails
          · cases fails
          · cases fails

/-- A sound stream yields its messages in order, however it is split. -/
theorem stream_of_sound
    {chunks : List (List UInt8)} {buffered : List UInt8}
    (unread : (readMessage buffered).outcome = .error (.cbor .unexpectedEnd))
    (sound : SoundAfterFirst (buffered ++ chunks.flatten)) :
    streamServerEvents proc buffered chunks =
      eventsInOrder proc (buffered ++ chunks.flatten) := by
  induction chunks generalizing buffered with
  | nil =>
      rw [List.flatten_nil, List.append_nil, eventsInOrder_of_error unread]
      rfl
  | cons chunk chunks inductionHypothesis =>
      rw [List.flatten_cons, ← List.append_assoc] at sound ⊢
      unfold streamServerEvents
      rcases sequencePrefix_cases (buffered ++ chunk) with
        ⟨messages, readBytes, whole, reads, ends⟩ |
          ⟨failure, _, _, _, whole, _⟩
      · have longer := reads.append stable_readMessage chunks.flatten
        have kept :
            (if 0 < readBytes then (buffered ++ chunk).drop readBytes
              else buffered ++ chunk) = (buffered ++ chunk).drop readBytes := by
          split
          · rfl
          · rename_i nothing
            rw [Nat.eq_zero_of_not_pos nothing, List.drop_zero]
        rw [eventsInOrder_of_reads longer,
          ← inductionHypothesis ends (sound.rest longer)]
        simp only [whole, kept]
      · obtain ⟨fails, real⟩ := sound.part_error whole
        rw [eventsInOrder_of_error fails, endingOf_of_real real]
        simp only [whole]

/-- However a byte stream is split, its consumer sees the events that are in
it, exactly where nothing malformed follows its first message. -/
theorem stream_events_in_order
    (proc : ProcCodec δ ε α) (bytes : List UInt8) :
    (∀ chunks : List (List UInt8), chunks.flatten = bytes →
        streamServerEvents proc [] chunks = eventsInOrder proc bytes) ↔
      SoundAfterFirst bytes := by
  constructor
  · intro same
    apply soundAfterFirst_of_first_error
    intro failure fails
    have once := same [bytes] (by simp)
    simp only [streamServerEvents, List.nil_append, fails] at once
    cases first : (readMessage bytes).outcome with
    | error reason =>
        rw [eventsInOrder_of_error first] at once
        cases eq_of_endingOf (congrArg ServerEvents.failure once).symm
        rfl
    | ok result =>
        obtain ⟨message, rest⟩ := result
        rw [eventsInOrder_of_ok first] at once
        unfold yieldEach at once
        split at once
        · rename_i undecoded
          cases once
          exact absurd undecoded (eventOf_ne_message message failure)
        · exact absurd (congrArg ServerEvents.events once)
            (List.cons_ne_nil _ _).symm
  · rintro sound chunks rfl
    exact stream_of_sound rfl sound

/-- A procedure that answers with integers. -/
def integerCodec : ProcCodec DecodeError Unit Int where
  decodeResponse := Codegen.TypeScript.integer
  decodeError := fun _ => .ok ()
  errorCode := fun _ => ""
  errorMessage := fun _ => ""

/-- A `ResponseStreamChunk` of the integer seven. -/
def sevenMessage : List UInt8 := [0x06, 0xa1, 0x02, 0x41, 0x07]

/-- A good message is not delivered where a malformed byte comes in its
chunk. -/
theorem event_lost_before_malformed :
    eventsInOrder integerCodec (sevenMessage ++ [0xff]) =
        ⟨[7], some (.message (.cbor .unsupportedValue))⟩ ∧
      streamServerEvents integerCodec [] [sevenMessage, [0xff]] =
        ⟨[7], some (.message (.cbor .unsupportedValue))⟩ ∧
      streamServerEvents integerCodec [] [sevenMessage ++ [0xff]] =
        ⟨[], some (.message (.cbor .unsupportedValue))⟩ := by
  decide

end Web
end WhatsGoingOn
