import WhatsGoingOn.Codegen.TypeScript
import WhatsGoingOn.Library.Outcome
import WhatsGoingOn.Library.Repeated

/-!
# The messages of a stream, at the web client

A message of a request/response stream is written as two CBOR values, its kind
and its fields.  The client decodes all the messages that its buffer has at
once.
-/

namespace WhatsGoingOn
namespace Web

open Codegen.TypeScript (DecodeError integer textValue bytesValue)
open Reader (Reads)

/-! ## Generated messages -/

/-- An error of the system or of the method. -/
inductive RpcErrorKind where
  | system
  | method
  deriving DecidableEq, Repr

/-- Why an authentication was refused. -/
inductive SessionAuthErrorCode where
  | unsupportedMechanism
  | invalidCredentials
  | malformedPayload
  | alreadyAuthenticated
  deriving DecidableEq, Repr

/-- The errors of the system. -/
inductive RpcErrorCode where
  | badMessage
  | unauthorized
  | missingPayload
  | notImplemented
  | permissionDenied
  | notFound
  | operationFailed
  | malformedPayload
  deriving DecidableEq, Repr

/-- An error of the system with its text. -/
structure RpcErrorPayload where
  code : RpcErrorCode
  message : String
  deriving DecidableEq, Repr

/-- `ReqResMessage` as it is generated. -/
inductive GeneratedReqResMessage where
  | requestUnary (procId : Int) (payload : Option (List UInt8))
  | requestStreamStart (procId : Int) (payload : Option (List UInt8))
  | requestStreamChunk (payload : List UInt8)
  | responseUnaryOk (payload : Option (List UInt8))
  | responseUnaryError (error : List UInt8) (errorKind : RpcErrorKind)
  | responseStreamStart (payload : Option (List UInt8))
  | responseStreamChunk (payload : List UInt8)
  | responseStreamErrorEnd (error : List UInt8) (errorKind : RpcErrorKind)
  | sessionAuthenticate (mechanism : String) (payload : List UInt8)
  | sessionAuthenticated
  | sessionAuthError (code : SessionAuthErrorCode) (message : String)
  deriving DecidableEq, Repr

/-- The entries of a map; anything else is an error. -/
def expectMap : CborValue → Except DecodeError (List (Int × CborValue))
  | .map entries => .ok entries
  | _ => .error .expectedMap

/-- The number of a variant and its fields. -/
def expectUnion :
    CborValue → Except DecodeError (Int × List (Int × CborValue))
  | .array [kind, fields] => do
      let variantId ← integer kind
      let fields ← expectMap fields
      pure (variantId, fields)
  | _ => .error .expectedUnionTuple

/-- A field that may be left out. -/
def optionalField {α : Type} (value : Option CborValue)
    (decode : CborValue → Except DecodeError α) :
    Except DecodeError (Option α) :=
  match value with
  | none => .ok none
  | some value => some <$> decode value

/-- A field that has a value when it is left out. -/
def fieldOrDefault {α : Type} (value : Option CborValue)
    (decode : CborValue → Except DecodeError α) (fallback : α) :
    Except DecodeError α :=
  match value with
  | none => .ok fallback
  | some value => decode value

/-- The kind of an error by its number. -/
def decodeRpcErrorKindValue (value : CborValue) :
    Except DecodeError RpcErrorKind := do
  match ← integer value with
  | 1 => pure .system
  | 2 => pure .method
  | id => throw (.unknownVariant "RpcErrorKind" id)

/-- The code of a refused authentication by its number. -/
def decodeSessionAuthErrorCodeValue (value : CborValue) :
    Except DecodeError SessionAuthErrorCode := do
  match ← integer value with
  | 1 => pure .unsupportedMechanism
  | 2 => pure .invalidCredentials
  | 3 => pure .malformedPayload
  | 4 => pure .alreadyAuthenticated
  | id => throw (.unknownVariant "SessionAuthErrorCode" id)

/-- The code of an error of the system by its number. -/
def decodeRpcErrorCodeValue (value : CborValue) :
    Except DecodeError RpcErrorCode := do
  match ← integer value with
  | 1 => pure .badMessage
  | 2 => pure .unauthorized
  | 3 => pure .missingPayload
  | 4 => pure .notImplemented
  | 6 => pure .permissionDenied
  | 7 => pure .notFound
  | 8 => pure .operationFailed
  | 9 => pure .malformedPayload
  | id => throw (.unknownVariant "RpcErrorCode" id)

/-- The defaults are a bad message and an empty text. -/
def decodeRpcErrorPayloadValue (value : CborValue) :
    Except DecodeError RpcErrorPayload := do
  let fields ← expectMap value
  let code ←
    fieldOrDefault (fields.lookup 1) decodeRpcErrorCodeValue .badMessage
  let message ← fieldOrDefault (fields.lookup 2) textValue ""
  pure ⟨code, message⟩

/-- The message of a union, with the defaults of fields that are left out. -/
def decodeReqResMessageValue (value : CborValue) :
    Except DecodeError GeneratedReqResMessage := do
  let (variantId, fields) ← expectUnion value
  match variantId with
  | 0 => do
      let procId ← fieldOrDefault (fields.lookup 1) integer 0
      let payload ← optionalField (fields.lookup 2) bytesValue
      pure (.requestUnary procId payload)
  | 1 => do
      let procId ← fieldOrDefault (fields.lookup 1) integer 0
      let payload ← optionalField (fields.lookup 2) bytesValue
      pure (.requestStreamStart procId payload)
  | 2 => do
      let payload ← fieldOrDefault (fields.lookup 2) bytesValue []
      pure (.requestStreamChunk payload)
  | 3 => do
      let payload ← optionalField (fields.lookup 2) bytesValue
      pure (.responseUnaryOk payload)
  | 4 => do
      let error ← fieldOrDefault (fields.lookup 3) bytesValue []
      let errorKind ←
        fieldOrDefault (fields.lookup 4) decodeRpcErrorKindValue .system
      pure (.responseUnaryError error errorKind)
  | 5 => do
      let payload ← optionalField (fields.lookup 2) bytesValue
      pure (.responseStreamStart payload)
  | 6 => do
      let payload ← fieldOrDefault (fields.lookup 2) bytesValue []
      pure (.responseStreamChunk payload)
  | 7 => do
      let error ← fieldOrDefault (fields.lookup 3) bytesValue []
      let errorKind ←
        fieldOrDefault (fields.lookup 4) decodeRpcErrorKindValue .system
      pure (.responseStreamErrorEnd error errorKind)
  | 8 => do
      let mechanism ← fieldOrDefault (fields.lookup 1) textValue ""
      let payload ← fieldOrDefault (fields.lookup 2) bytesValue []
      pure (.sessionAuthenticate mechanism payload)
  | 9 => pure .sessionAuthenticated
  | 10 => do
      let code ← fieldOrDefault (fields.lookup 1)
        decodeSessionAuthErrorCodeValue .unsupportedMechanism
      let message ← fieldOrDefault (fields.lookup 2) textValue ""
      pure (.sessionAuthError code message)
  | variantId => throw (.unknownVariant "ReqResMessage" variantId)

/-! ## Messages -/

/-- The kinds of messages, by the names that the client uses. -/
inductive ReqResMessageKind where
  | requestUnary
  | requestStreamStart
  | requestStreamChunk
  | responseUnaryOk
  | responseUnaryError
  | responseStreamStart
  | responseStreamChunk
  | responseStreamErrorEnd
  | sessionAuthenticate
  | sessionAuthenticated
  | sessionAuthError
  deriving DecidableEq, Repr

/-- `ReqResMessage`.  A property that a kind does not have is `undefined`. -/
structure ReqResMessage where
  kind : ReqResMessageKind
  procId : Option Int := none
  payload : Option (List UInt8) := none
  error : Option (List UInt8) := none
  errorKind : Option RpcErrorKind := none
  mechanism : Option String := none
  authErrorCode : Option SessionAuthErrorCode := none
  message : Option String := none
  deriving DecidableEq, Repr

/-- The message with all its fields optional, as the client keeps it. -/
def fromGeneratedReqResMessage : GeneratedReqResMessage → ReqResMessage
  | .requestUnary procId payload =>
      { kind := .requestUnary, procId := some procId, payload := payload }
  | .requestStreamStart procId payload =>
      { kind := .requestStreamStart, procId := some procId,
        payload := payload }
  | .requestStreamChunk payload =>
      { kind := .requestStreamChunk, payload := some payload }
  | .responseUnaryOk payload => { kind := .responseUnaryOk, payload := payload }
  | .responseUnaryError error errorKind =>
      { kind := .responseUnaryError, error := some error,
        errorKind := some errorKind }
  | .responseStreamStart payload =>
      { kind := .responseStreamStart, payload := payload }
  | .responseStreamChunk payload =>
      { kind := .responseStreamChunk, payload := some payload }
  | .responseStreamErrorEnd error errorKind =>
      { kind := .responseStreamErrorEnd, error := some error,
        errorKind := some errorKind }
  | .sessionAuthenticate mechanism payload =>
      { kind := .sessionAuthenticate, mechanism := some mechanism,
        payload := some payload }
  | .sessionAuthenticated => { kind := .sessionAuthenticated }
  | .sessionAuthError code message =>
      { kind := .sessionAuthError, authErrorCode := some code,
        message := some message }

/-! ## Prefixes -/

/-- A value and where in the buffer it ends. -/
structure CborSequencePrefixItem where
  value : CborValue
  endOffset : Nat

/-- The loop of `decodeCborSequencePrefix`, from an offset on, with as many
items as there are bytes at most. -/
def decodeItemsWithin : Nat → Nat → List UInt8 →
    Except CborError (List CborSequencePrefixItem)
  | 0, _, _ => .ok []
  | fuel + 1, offset, bytes =>
      if bytes = [] then .ok []
      else
        match (decode bytes).outcome with
        | .ok (value, rest) => do
            let endOffset := offset + (bytes.length - rest.length)
            let items ← decodeItemsWithin fuel endOffset rest
            pure (⟨value, endOffset⟩ :: items)
        | .error .unexpectedEnd => .ok []
        | .error failure => .error failure

/-- `decodeCborSequencePrefix`. -/
def decodeCborSequencePrefix (bytes : List UInt8) :
    Except CborError (List CborSequencePrefixItem) :=
  decodeItemsWithin bytes.length 0 bytes

/-- What `decodeReqResMessageSequencePrefix` throws. -/
inductive MessageError where
  | cbor (failure : CborError)
  | message (failure : DecodeError)
  deriving DecidableEq, Repr

/-- The message of its two values. -/
def messageOf (kind fields : CborValue) : Except MessageError ReqResMessage :=
  match decodeReqResMessageValue (.array [kind, fields]) with
  | .ok message => .ok (fromGeneratedReqResMessage message)
  | .error failure => .error (.message failure)

/-- The messages of pairs of items.  An item that is left over is dropped. -/
def messagesOf : List CborSequencePrefixItem →
    Except MessageError (List ReqResMessage)
  | kind :: fields :: items => do
      let message ← messageOf kind.value fields.value
      let messages ← messagesOf items
      pure (message :: messages)
  | _ => .ok []

/-- `decodeReqResMessageSequencePrefix`: the messages, and how many bytes they
take. -/
def decodeReqResMessageSequencePrefix (bytes : List UInt8) :
    Except MessageError (List ReqResMessage × Nat) :=
  match decodeCborSequencePrefix bytes with
  | .error failure => .error (.cbor failure)
  | .ok items => do
      let pairCount := items.length / 2
      let messages ← messagesOf items
      let readBytes :=
        if pairCount = 0 then 0
        else (items[pairCount * 2 - 1]?.map
          CborSequencePrefixItem.endOffset).getD 0
      pure (messages, readBytes)

/-! ## One message after the other -/

/-- Read one message. -/
def readMessage : Reader MessageError Empty ReqResMessage := fun bytes =>
  ⟨[], match (decode.pair bytes).outcome with
    | .error failure => .error (.cbor failure)
    | .ok ((kind, fields), rest) =>
        match messageOf kind fields with
        | .error failure => .error failure
        | .ok message => .ok (message, rest)⟩

/-! ## Items and messages of a buffer -/

/-- The loop over the items reads values until the decoder fails. -/
theorem decodeItemsWithin_reads
    {fuel offset : Nat} {bytes rest : List UInt8} {values : List CborValue}
    {failure : CborError}
    (enough : bytes.length ≤ fuel)
    (reads : Reads decode bytes values rest)
    (fails : (decode rest).outcome = .error failure) :
    (failure ≠ .unexpectedEnd ∧
        decodeItemsWithin fuel offset bytes = .error failure) ∨
      (failure = .unexpectedEnd ∧
        ∃ items, decodeItemsWithin fuel offset bytes = .ok items ∧
          items.map CborSequencePrefixItem.value = values ∧
          ∀ index item, items[index]? = some item →
            offset ≤ item.endOffset ∧
              Reads decode bytes (values.take (index + 1))
                (bytes.drop (item.endOffset - offset))) := by
  induction reads generalizing fuel offset with
  | done bytes =>
      cases fuel with
      | zero =>
          obtain rfl := List.length_eq_zero_iff.mp (Nat.le_zero.mp enough)
          cases fails
          exact Or.inr ⟨rfl, [], rfl, rfl, by simp⟩
      | succ fuel =>
          by_cases empty : bytes = []
          · subst empty
            cases fails
            exact Or.inr ⟨rfl, [], rfl, rfl, by simp⟩
          · rw [decodeItemsWithin, if_neg empty, fails]
            cases failure with
            | unexpectedEnd => exact Or.inr ⟨rfl, [], rfl, rfl, by simp⟩
            | _ => exact Or.inl ⟨by simp, rfl⟩
  | @next bytes middle rest value values first later inductionHypothesis =>
      have shorter := length_lt_of_decode first
      have dropped : bytes.drop (bytes.length - middle.length) = middle := by
        have suffix := consuming_decodeWithin bytes.length bytes value middle
          first
        exact (List.suffix_iff_eq_drop.mp suffix).symm
      cases fuel with
      | zero => omega
      | succ fuel =>
          have nonempty : bytes ≠ [] := by
            rintro rfl
            simp at shorter
          rw [decodeItemsWithin, if_neg nonempty, first]
          have short : middle.length ≤ fuel := by omega
          rcases @inductionHypothesis fuel
              (offset + (bytes.length - middle.length)) short fails with
            ⟨real, stops⟩ | ⟨ends, items, found, same, reach⟩
          · exact Or.inl ⟨real, by simp only [stops]; rfl⟩
          · refine Or.inr ⟨ends, _, by simp only [found]; rfl, ?_, ?_⟩
            · rw [List.map_cons, same]
            · intro index item lookup
              cases index with
              | zero =>
                  cases lookup
                  refine ⟨Nat.le_add_right _ _, ?_⟩
                  rw [Nat.add_sub_cancel_left, dropped]
                  exact .next first (.done _)
              | succ index =>
                  obtain ⟨after, reads⟩ := reach index item lookup
                  refine ⟨by omega, ?_⟩
                  rw [List.take_succ_cons]
                  refine .next first ?_
                  have same :
                      bytes.drop (item.endOffset - offset) =
                        middle.drop (item.endOffset -
                          (offset + (bytes.length - middle.length))) := by
                    apply Eq.trans _ (congrArg (List.drop _) dropped)
                    rw [List.drop_drop]
                    congr 1
                    omega
                  rw [same]
                  exact reads

/-- The messages of pairs of values. -/
def messagesOfPairs :
    List (CborValue × CborValue) → Except MessageError (List ReqResMessage)
  | [] => .ok []
  | (kind, fields) :: pairs => do
      let message ← messageOf kind fields
      let messages ← messagesOfPairs pairs
      pure (message :: messages)

theorem messagesOf_eq (items : List CborSequencePrefixItem) :
    messagesOf items =
      messagesOfPairs (Reader.pairs
        (items.map CborSequencePrefixItem.value)) := by
  induction items using List.twoStepInduction with
  | nil => rfl
  | singleton item => rfl
  | cons_cons kind fields items inductionHypothesis _ =>
      simp only [List.map_cons, Reader.pairs, messagesOf, messagesOfPairs]
      rw [inductionHypothesis]

/-- The pairs of a buffer end where its item before the last odd one does. -/
theorem reads_pairs_of_items
    {bytes : List UInt8} {values : List CborValue}
    {items : List CborSequencePrefixItem}
    (same : items.map CborSequencePrefixItem.value = values)
    (reach : ∀ index item, items[index]? = some item →
      Reads decode bytes (values.take (index + 1))
        (bytes.drop item.endOffset)) :
    Reads decode.pair bytes (Reader.pairs values)
      (bytes.drop (if items.length / 2 = 0 then 0
        else (items[items.length / 2 * 2 - 1]?.map
          CborSequencePrefixItem.endOffset).getD 0)) := by
  have length : items.length = values.length := by
    rw [← same, List.length_map]
  by_cases none : items.length / 2 = 0
  · have empty : Reader.pairs values = [] := by
      rw [← @Reader.pairs_take _ 0 values (by omega)]
      rfl
    rw [if_pos none, empty]
    exact .done _
  · have inside : items.length / 2 * 2 - 1 < items.length := by omega
    have last : items.length / 2 * 2 - 1 + 1 = values.length / 2 * 2 := by omega
    rw [if_neg none, List.getElem?_eq_getElem inside]
    have reads := reach _ _ (List.getElem?_eq_getElem inside)
    rw [last] at reads
    obtain ⟨middle, left, paired, unpaired, few⟩ := reads.pairs
    rw [Reader.pairs_take (Nat.le_refl _)] at paired
    have even : left = [] := by
      rw [List.length_take] at few
      apply List.length_eq_zero_iff.mp
      omega
    subst even
    cases unpaired
    exact paired

/-- A buffer that the decoder reads to its end has whole items, of which pairs
are messages. -/
theorem sequencePrefix_reads
    {bytes rest : List UInt8} {values : List CborValue} {failure : CborError}
    (reads : Reads decode bytes values rest)
    (fails : (decode rest).outcome = .error failure) :
    (failure ≠ .unexpectedEnd ∧
        decodeReqResMessageSequencePrefix bytes = .error (.cbor failure)) ∨
      (failure = .unexpectedEnd ∧
        ∃ readBytes, Reads decode.pair bytes (Reader.pairs values)
            (bytes.drop readBytes) ∧
          decodeReqResMessageSequencePrefix bytes =
            (messagesOfPairs (Reader.pairs values)).map (·, readBytes)) := by
  unfold decodeReqResMessageSequencePrefix decodeCborSequencePrefix
  rcases @decodeItemsWithin_reads _ 0 _ _ _ _ (Nat.le_refl _) reads fails with
    ⟨real, stops⟩ | ⟨ends, items, found, same, reach⟩
  · exact Or.inl ⟨real, by rw [stops]⟩
  · refine Or.inr ⟨ends, _, reads_pairs_of_items same ?_, ?_⟩
    · exact fun index item lookup => (reach index item lookup).2
    · rw [found, ← same, ← messagesOf_eq]
      dsimp only
      cases messagesOf items <;> rfl

theorem messageOf_eq_error {kind fields : CborValue} {failure : MessageError}
    (undecoded : messageOf kind fields = .error failure) :
    ∃ reason, failure = .message reason := by
  unfold messageOf at undecoded
  split at undecoded
  · cases undecoded
  · cases undecoded
    exact ⟨_, rfl⟩

/-- A message is read from two values. -/
theorem readMessage_eq_ok
    {bytes rest : List UInt8} {message : ReqResMessage} :
    (readMessage bytes).outcome = .ok (message, rest) ↔
      ∃ kind fields,
        (decode.pair bytes).outcome = .ok ((kind, fields), rest) ∧
          messageOf kind fields = .ok message := by
  unfold readMessage
  constructor
  · intro read
    split at read
    · cases read
    · rename_i kind fields _ paired
      split at read
      · cases read
      · rename_i decoded
        cases read
        exact ⟨kind, fields, paired, decoded⟩
  · rintro ⟨kind, fields, paired, decoded⟩
    simp only [paired, decoded]

/-- A message fails with its values or with what they say. -/
theorem readMessage_eq_error
    {bytes : List UInt8} {failure : MessageError} :
    (readMessage bytes).outcome = .error failure ↔
      (∃ reason, (decode.pair bytes).outcome = .error reason ∧
        .cbor reason = failure) ∨
      ∃ kind fields rest,
        (decode.pair bytes).outcome = .ok ((kind, fields), rest) ∧
          messageOf kind fields = .error failure := by
  unfold readMessage
  constructor
  · intro fails
    split at fails
    · rename_i reason unpaired
      cases fails
      exact Or.inl ⟨reason, unpaired, rfl⟩
    · rename_i kind fields rest paired
      split at fails
      · rename_i undecoded
        cases fails
        exact Or.inr ⟨kind, fields, rest, paired, undecoded⟩
      · cases fails
  · rintro (⟨reason, unpaired, rfl⟩ | ⟨kind, fields, rest, paired, undecoded⟩)
    · simp only [unpaired]
    · simp only [paired, undecoded]

/-- Reading a message does not depend on what follows it. -/
theorem stable_readMessage :
    Reader.Stable (.cbor .unexpectedEnd) readMessage where
  ok := by
    intro bytes more message rest read
    obtain ⟨kind, fields, paired, decoded⟩ := readMessage_eq_ok.mp read
    exact readMessage_eq_ok.mpr
      ⟨kind, fields, stable_decode.pair.ok _ more _ _ paired, decoded⟩
  error := by
    intro bytes more failure fails real
    rw [readMessage_eq_error] at fails ⊢
    rcases fails with
      ⟨reason, unpaired, rfl⟩ | ⟨kind, fields, rest, paired, undecoded⟩
    · have inside : reason ≠ .unexpectedEnd := by
        rintro rfl
        exact real rfl
      exact Or.inl
        ⟨reason, stable_decode.pair.error _ more _ unpaired inside, rfl⟩
    · exact Or.inr ⟨kind, fields, _,
        stable_decode.pair.ok _ more _ _ paired, undecoded⟩

theorem length_lt_of_readMessage
    {bytes rest : List UInt8} {message : ReqResMessage}
    (read : (readMessage bytes).outcome = .ok (message, rest)) :
    rest.length < bytes.length := by
  obtain ⟨kind, fields, paired, decoded⟩ := readMessage_eq_ok.mp read
  obtain ⟨middle, first, second⟩ := Reader.pair_eq_ok.mp paired
  exact (length_lt_of_decode second).trans (length_lt_of_decode first)

/-- Pairs that are messages are read as such. -/
theorem reads_messages
    {bytes middle : List UInt8} {pairs : List (CborValue × CborValue)}
    {messages : List ReqResMessage}
    (paired : Reads decode.pair bytes pairs middle)
    (each : messagesOfPairs pairs = .ok messages) :
    Reads readMessage bytes messages middle := by
  induction paired generalizing messages with
  | done bytes =>
      cases each
      exact .done bytes
  | @next bytes middle rest pair pairs first later inductionHypothesis =>
      obtain ⟨kind, fields⟩ := pair
      rw [messagesOfPairs] at each
      obtain ⟨message, decoded, each⟩ := Outcome.bind_eq_ok.mp each
      obtain ⟨messages, others, each⟩ := Outcome.bind_eq_ok.mp each
      cases each
      exact .next (readMessage_eq_ok.mpr ⟨kind, fields, first, decoded⟩)
        (inductionHypothesis others)

/-- The messages of pairs are read up to one that is not well formed. -/
theorem reads_messages_error
    {bytes middle : List UInt8} {pairs : List (CborValue × CborValue)}
    {failure : MessageError}
    (paired : Reads decode.pair bytes pairs middle)
    (stops : messagesOfPairs pairs = .error failure) :
    ∃ messages rest reason, Reads readMessage bytes messages rest ∧
      (readMessage rest).outcome = .error failure ∧
        failure = .message reason := by
  induction paired with
  | done bytes => cases stops
  | @next bytes middle rest pair pairs first later inductionHypothesis =>
      obtain ⟨kind, fields⟩ := pair
      rw [messagesOfPairs] at stops
      rcases Outcome.bind_eq_error.mp stops with
        undecoded | ⟨message, decoded, stops⟩
      · obtain ⟨reason, rfl⟩ := messageOf_eq_error undecoded
        refine ⟨[], bytes, reason, .done bytes, ?_, rfl⟩
        exact readMessage_eq_error.mpr
          (Or.inr ⟨kind, fields, middle, first, undecoded⟩)
      · have others : messagesOfPairs pairs = .error failure := by
          rcases Outcome.bind_eq_error.mp stops with
            others | ⟨messages, _, returned⟩
          · exact others
          · cases returned
        obtain ⟨messages, rest, reason, reads, fails, cause⟩ :=
          inductionHypothesis others
        exact ⟨message :: messages, rest, reason,
          .next (readMessage_eq_ok.mpr ⟨kind, fields, first, decoded⟩) reads,
          fails, cause⟩

/-- The decoder of a buffer gives the messages that it reads one after the
other up to an end, and fails where there is something else after them. -/
theorem sequencePrefix_cases (bytes : List UInt8) :
    (∃ messages readBytes,
      decodeReqResMessageSequencePrefix bytes = .ok (messages, readBytes) ∧
        Reads readMessage bytes messages (bytes.drop readBytes) ∧
          (readMessage (bytes.drop readBytes)).outcome =
            .error (.cbor .unexpectedEnd)) ∨
      ∃ failure messages rest reason,
        decodeReqResMessageSequencePrefix bytes = .error failure ∧
          Reads readMessage bytes messages rest ∧
            (readMessage rest).outcome = .error reason ∧
              reason ≠ .cbor .unexpectedEnd := by
  obtain ⟨values, rest, failure, reads, fails⟩ :=
    Reader.exists_reads (fun _ _ _ => length_lt_of_decode) bytes
  obtain ⟨middle, left, paired, unpaired, few⟩ := reads.pairs
  have stops : (decode.pair middle).outcome = .error failure :=
    unpaired.pair_error (by omega) fails
  have fails' : (readMessage middle).outcome = .error (.cbor failure) :=
    readMessage_eq_error.mpr (Or.inl ⟨failure, stops, rfl⟩)
  have whole := sequencePrefix_reads reads fails
  cases each : messagesOfPairs (Reader.pairs values) with
  | error reason =>
      obtain ⟨messages, rest, cause, before, unread, rfl⟩ :=
        reads_messages_error paired each
      right
      rcases whole with ⟨_, whole⟩ | ⟨_, readBytes, _, whole⟩
      · exact ⟨_, messages, rest, _, whole, before, unread, by simp⟩
      · rw [each] at whole
        exact ⟨_, messages, rest, _, whole, before, unread, by simp⟩
  | ok messages =>
      have before := reads_messages paired each
      rcases whole with ⟨real, whole⟩ | ⟨rfl, readBytes, paired', whole⟩
      · right
        exact ⟨_, messages, middle, _, whole, before, fails', by simpa⟩
      · left
        obtain rfl := paired.rest_unique paired'
        rw [each] at whole
        exact ⟨messages, readBytes, whole, before, fails'⟩

/-- The decoder of a buffer succeeds where it reads messages up to an end. -/
theorem sequencePrefix_of_reads
    {bytes rest : List UInt8} {messages : List ReqResMessage}
    (reads : Reads readMessage bytes messages rest)
    (ends : (readMessage rest).outcome = .error (.cbor .unexpectedEnd)) :
    ∃ readBytes,
      decodeReqResMessageSequencePrefix bytes = .ok (messages, readBytes) := by
  rcases sequencePrefix_cases bytes with
    ⟨others, readBytes, whole, again, stops⟩ |
      ⟨failure, others, left, reason, whole, again, stops, real⟩
  · obtain ⟨rfl, _⟩ := reads.unique ends again stops
    exact ⟨readBytes, whole⟩
  · obtain ⟨_, rfl⟩ := reads.unique ends again stops
    rw [ends] at stops
    cases stops
    exact absurd rfl real

/-- A buffer that cannot be decoded cannot be decoded with more bytes. -/
theorem sequencePrefix_error_append
    {bytes : List UInt8} {failure : MessageError}
    (fails : decodeReqResMessageSequencePrefix bytes = .error failure)
    (more : List UInt8) :
    ∃ reason, decodeReqResMessageSequencePrefix (bytes ++ more) =
      .error reason := by
  rcases sequencePrefix_cases bytes with
    ⟨messages, readBytes, whole, _⟩ |
      ⟨_, messages, rest, reason, _, reads, stops, real⟩
  · rw [whole] at fails
    cases fails
  · have longer := reads.append stable_readMessage more
    have still := stable_readMessage.error _ more _ stops real
    rcases sequencePrefix_cases (bytes ++ more) with
      ⟨_, readBytes, _, again, ends⟩ | ⟨reason, _, _, _, whole, _⟩
    · obtain ⟨_, same⟩ := longer.unique still again ends
      rw [← same, still] at ends
      cases ends
      exact absurd rfl real
    · exact ⟨reason, whole⟩

/-- The item that a buffer cannot be decoded for. -/
theorem reads_of_sequencePrefix_cbor
    {bytes : List UInt8} {failure : CborError}
    (fails : decodeReqResMessageSequencePrefix bytes =
      .error (.cbor failure)) :
    ∃ values rest, Reads decode bytes values rest ∧
      (decode rest).outcome = .error failure ∧ failure ≠ .unexpectedEnd := by
  obtain ⟨values, rest, reason, reads, stops⟩ :=
    Reader.exists_reads (fun _ _ _ => length_lt_of_decode) bytes
  rcases sequencePrefix_reads reads stops with
    ⟨real, whole⟩ | ⟨_, readBytes, paired, whole⟩
  · rw [whole] at fails
    cases fails
    exact ⟨values, rest, reads, stops, real⟩
  · rw [whole] at fails
    cases each : messagesOfPairs (Reader.pairs values) with
    | error reason =>
        obtain ⟨_, _, cause, _, _, rfl⟩ := reads_messages_error paired each
        rw [each] at fails
        cases fails
    | ok messages =>
        rw [each] at fails
        cases fails

/-- A buffer with an item that cannot be decoded fails for it. -/
theorem sequencePrefix_cbor
    {bytes rest : List UInt8} {values : List CborValue} {failure : CborError}
    (reads : Reads decode bytes values rest)
    (stops : (decode rest).outcome = .error failure)
    (real : failure ≠ .unexpectedEnd) :
    decodeReqResMessageSequencePrefix bytes = .error (.cbor failure) := by
  rcases sequencePrefix_reads reads stops with ⟨_, whole⟩ | ⟨ends, _⟩
  · exact whole
  · exact absurd ends real

theorem sequencePrefix_cbor_append
    {bytes : List UInt8} {failure : CborError}
    (fails : decodeReqResMessageSequencePrefix bytes = .error (.cbor failure))
    (more : List UInt8) :
    decodeReqResMessageSequencePrefix (bytes ++ more) =
      .error (.cbor failure) := by
  obtain ⟨values, rest, reads, stops, real⟩ :=
    reads_of_sequencePrefix_cbor fails
  exact sequencePrefix_cbor (reads.append stable_decode more)
    (stable_decode.error _ more _ stops real) real

/-- A buffer whose first message cannot be decoded fails as that message
does, or with an item that cannot be decoded. -/
theorem sequencePrefix_of_first_error
    {bytes : List UInt8} {failure : MessageError}
    (first : (readMessage bytes).outcome = .error failure)
    (real : failure ≠ .cbor .unexpectedEnd) :
    decodeReqResMessageSequencePrefix bytes = .error failure ∨
      ∃ reason, decodeReqResMessageSequencePrefix bytes =
        .error (.cbor reason) := by
  rcases readMessage_eq_error.mp first with
    ⟨reason, unpaired, rfl⟩ | ⟨kind, fields, rest, paired, undecoded⟩
  · have reads : ∃ values rest, Reads decode bytes values rest ∧
        (decode rest).outcome = .error reason := by
      rcases Reader.pair_eq_error.mp unpaired with
        fails | ⟨value, middle, read, fails⟩
      · exact ⟨[], bytes, .done bytes, fails⟩
      · exact ⟨[value], middle, .next read (.done middle), fails⟩
    obtain ⟨values, rest, reads, fails⟩ := reads
    refine Or.inl (sequencePrefix_cbor reads fails ?_)
    rintro rfl
    exact real rfl
  · obtain ⟨middle, early, late⟩ := Reader.pair_eq_ok.mp paired
    obtain ⟨values, left, reason, reads, fails⟩ :=
      Reader.exists_reads (fun _ _ _ => length_lt_of_decode) bytes
    have two : Reads decode bytes [kind, fields] rest :=
      .next early (.next late (.done rest))
    obtain ⟨later, rfl, _⟩ := two.after reads fails
    rcases sequencePrefix_reads reads fails with
      ⟨_, whole⟩ | ⟨_, readBytes, _, whole⟩
    · exact Or.inr ⟨reason, whole⟩
    · refine Or.inl (whole.trans ?_)
      simp only [List.cons_append, List.nil_append, Reader.pairs,
        messagesOfPairs, undecoded]
      rfl

end Web
end WhatsGoingOn
