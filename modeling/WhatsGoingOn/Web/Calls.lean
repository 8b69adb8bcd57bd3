import WhatsGoingOn.Web.ResponseStreams

/-!
# Calls with one response

The client reads all of a response before it decodes it.  It returns a value
only where the one message of the daemon came as a whole.
-/

namespace WhatsGoingOn
namespace Web

open Reader (Reads Spells)

/-! ## The program -/

/-- What a call with one response throws. -/
inductive CallFailure (δ : Type) where
  | message (failure : MessageError)
  /-- "expected complete ReqResMessage kind/map pairs" -/
  | unpaired
  /-- "expected one response message" -/
  | notOneResponse
  /-- "expected unary response message" -/
  | unexpectedKind
  /-- What `throwRpcError` throws, or the decoder of the response. -/
  | response (failure : StreamFailure δ)
  deriving DecidableEq, Repr

/-- The loop of `decodeCborSequence`, of which every turn takes a byte. -/
def decodeValuesWithin : Nat → List UInt8 → Except CborError (List CborValue)
  | 0, _ => .ok []
  | fuel + 1, bytes =>
      if bytes = [] then .ok []
      else
        match (decode bytes).outcome with
        | .error failure => .error failure
        | .ok (value, rest) => do
            let values ← decodeValuesWithin fuel rest
            pure (value :: values)

/-- All the values of a byte string, one after the other. -/
def decodeCborSequence (bytes : List UInt8) :
    Except CborError (List CborValue) :=
  decodeValuesWithin bytes.length bytes

variable {δ ε α : Type}

/-- The values in pairs, each pair a message. -/
def decodeReqResMessageSequence (bytes : List UInt8) :
    Except (CallFailure δ) (List ReqResMessage) :=
  match decodeCborSequence bytes with
  | .error failure => .error (.message (.cbor failure))
  | .ok values =>
      if values.length % 2 ≠ 0 then .error .unpaired
      else
        match messagesOfPairs (Reader.pairs values) with
        | .error failure => .error (.message failure)
        | .ok messages => .ok messages

/-- A unary call is answered by one message, which may carry an error. -/
def decodeUnaryResponse (proc : ProcCodec δ ε α)
    (messages : List ReqResMessage) :
    Except (CallFailure δ) (Option (List UInt8)) :=
  match messages with
  | [response] =>
      if response.kind = .responseUnaryError then
        .error (.response (rpcErrorOf proc response))
      else if response.kind ≠ .responseUnaryOk then .error .unexpectedKind
      else .ok response.payload
  | _ => .error .notOneResponse

/-- What `decodeResponse` makes of a payload, or of `undefined`. -/
def decodeUnaryPayload (proc : ProcCodec δ ε α) (undefined : Except δ α) :
    Option (List UInt8) → Except (CallFailure δ) α
  | none =>
      match undefined with
      | .ok value => .ok value
      | .error failure => .error (.response (.codec failure))
  | some payload =>
      match decodePayload payload with
      | .error failure => .error (.response failure)
      | .ok value =>
          match proc.decodeResponse value with
          | .ok response => .ok response
          | .error failure => .error (.response (.codec failure))

/-- `callUnary` and `callClientStream`, once the request is written: what they
make of the chunks that `readAll` collects. -/
def unaryResult (proc : ProcCodec δ ε α) (undefined : Except δ α)
    (chunks : List (List UInt8)) : Except (CallFailure δ) α := do
  let messages ← decodeReqResMessageSequence chunks.flatten
  let response ← decodeUnaryResponse proc messages
  decodeUnaryPayload proc undefined response

/-! ## Sequences of values -/

/-- Values that were read in front are decoded in front. -/
theorem decodeValuesWithin_of_reads {fuel : Nat} {bytes rest : List UInt8}
    {values : List CborValue} (enough : bytes.length ≤ fuel)
    (reads : Reads decode bytes values rest) :
    decodeValuesWithin fuel bytes =
      (values ++ ·) <$> decodeValuesWithin (fuel - values.length) rest := by
  induction reads generalizing fuel with
  | done bytes => cases decodeValuesWithin fuel bytes <;> rfl
  | @next bytes middle rest value values first later inductionHypothesis =>
      have shorter := length_lt_of_decode first
      cases fuel with
      | zero => omega
      | succ fuel =>
          have some : bytes ≠ [] := by
            rintro rfl
            simp at shorter
          have count : fuel + 1 - (value :: values).length =
              fuel - values.length := by
            rw [List.length_cons]
            omega
          rw [decodeValuesWithin, if_neg some, first, count]
          dsimp only
          rw [inductionHypothesis (by omega)]
          cases decodeValuesWithin (fuel - values.length) rest <;> rfl

theorem decodeCborSequence_of_reads {bytes : List UInt8}
    {values : List CborValue} (reads : Reads decode bytes values []) :
    decodeCborSequence bytes = .ok values := by
  rw [decodeCborSequence, decodeValuesWithin_of_reads (Nat.le_refl _) reads]
  cases bytes.length - values.length <;>
    exact congrArg Except.ok (List.append_nil values)

theorem length_le_of_reads {bytes rest : List UInt8}
    {values : List CborValue} (reads : Reads decode bytes values rest) :
    values.length + rest.length ≤ bytes.length := by
  induction reads with
  | done bytes => simp
  | next first later inductionHypothesis =>
      have shorter := length_lt_of_decode first
      rw [List.length_cons]
      omega

/-- What the loop makes of bytes that end in a value that fails. -/
theorem decodeCborSequence_of_error {bytes rest : List UInt8}
    {values : List CborValue} {failure : CborError}
    (reads : Reads decode bytes values rest) (some : rest ≠ [])
    (fails : (decode rest).outcome = .error failure) :
    decodeCborSequence bytes = .error failure := by
  have longer := length_le_of_reads reads
  have positive := List.length_pos_iff.mpr some
  rw [decodeCborSequence, decodeValuesWithin_of_reads (Nat.le_refl _) reads]
  obtain ⟨fuel, same⟩ : ∃ fuel, bytes.length - values.length = fuel + 1 :=
    ⟨bytes.length - values.length - 1, by omega⟩
  rw [same, decodeValuesWithin, if_neg some, fails]
  rfl

/-- The values of the messages of a stream. -/
theorem values_of_reads {bytes rest : List UInt8}
    {messages : List ReqResMessage}
    (reads : Reads readMessage bytes messages rest) :
    ∃ values, Reads decode bytes values rest ∧ values.length % 2 = 0 ∧
      messagesOfPairs (Reader.pairs values) = .ok messages := by
  induction reads with
  | done bytes => exact ⟨[], .done bytes, rfl, rfl⟩
  | next first later inductionHypothesis =>
      obtain ⟨kind, fields, paired, decoded⟩ := readMessage_eq_ok.mp first
      obtain ⟨middle, early, late⟩ := Reader.pair_eq_ok.mp paired
      obtain ⟨values, reads, even, same⟩ := inductionHypothesis
      refine ⟨kind :: fields :: values, .next early (.next late reads), ?_, ?_⟩
      · rw [List.length_cons, List.length_cons]
        omega
      · exact Outcome.bind_eq_ok.mpr
          ⟨_, decoded, Outcome.bind_eq_ok.mpr ⟨_, same, rfl⟩⟩

/-- The client decodes a whole sequence of messages. -/
theorem decodeReqResMessageSequence_of_reads {bytes : List UInt8}
    {messages : List ReqResMessage}
    (reads : Reads readMessage bytes messages []) :
    decodeReqResMessageSequence bytes =
      (.ok messages : Except (CallFailure δ) _) := by
  obtain ⟨values, reads, even, same⟩ := values_of_reads reads
  rw [decodeReqResMessageSequence, decodeCborSequence_of_reads reads]
  simp only [even, same]
  rfl

/-- Of a message that is cut, the client makes no message. -/
theorem decodeReqResMessageSequence_of_incomplete {bytes : List UInt8}
    (ends : (readMessage bytes).outcome = .error (.cbor .unexpectedEnd)) :
    (bytes = [] ∧ decodeReqResMessageSequence bytes =
        (.ok [] : Except (CallFailure δ) _)) ∨
      decodeReqResMessageSequence bytes =
        (.error .unpaired : Except (CallFailure δ) _) ∨
      decodeReqResMessageSequence bytes =
        (.error (.message (.cbor .unexpectedEnd)) :
          Except (CallFailure δ) _) := by
  rcases readMessage_eq_error.mp ends with
    ⟨reason, unpaired, same⟩ | ⟨_, _, _, -, undecoded⟩
  · cases same
    rcases Reader.pair_eq_error.mp unpaired with
      fails | ⟨kind, rest, first, fails⟩
    · by_cases none : bytes = []
      · rw [none]
        exact .inl ⟨rfl, rfl⟩
      · right
        right
        rw [decodeReqResMessageSequence,
          decodeCborSequence_of_error (.done bytes) none fails]
    · right
      by_cases none : rest = []
      · left
        rw [none] at first
        rw [decodeReqResMessageSequence,
          decodeCborSequence_of_reads (.next first (.done []))]
        rfl
      · right
        rw [decodeReqResMessageSequence,
          decodeCborSequence_of_error (.next first (.done rest)) none fails]
  · obtain ⟨reason, impossible⟩ := messageOf_eq_error undecoded
    cases impossible

/-! ## One response -/

/-- What the client makes of the one message that answers a call. -/
def responseOf (proc : ProcCodec δ ε α) (undefined : Except δ α)
    (message : ReqResMessage) : Except (CallFailure δ) α := do
  let response ← decodeUnaryResponse proc [message]
  decodeUnaryPayload proc undefined response

end Web
end WhatsGoingOn
