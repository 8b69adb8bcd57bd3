import WhatsGoingOn.Daemon.CborBuffers
import WhatsGoingOn.Daemon.Wire

/-!
# Prefixes and sequences

Decoding the front of a buffer is stable: unless the decoder asks for more
input, more input changes nothing.  It asks for more exactly while the buffer
stops inside an item.
-/

namespace WhatsGoingOn
namespace Daemon

/-! ## Values at the front of a buffer -/

theorem consuming_decodeValue : Reader.Consuming decodeValue :=
  fun bytes => consuming_decodeValueWithin bytes.length bytes

/-- A decoded value has at least one byte. -/
theorem length_lt_of_decodeValue
    {bytes rest : List UInt8} {value : Value}
    (decoded : (decodeValue bytes).outcome = .ok (value, rest)) :
    rest.length < bytes.length := by
  cases bytes with
  | nil => cases decoded
  | cons initial tail =>
      rw [decodeValue_eq] at decoded
      obtain ⟨first, middle, read, decoded⟩ := Reader.bind_eq_ok.mp decoded
      simp only [readU8, Reader.byte_cons, Except.ok.injEq, Prod.mk.injEq]
        at read
      obtain ⟨rfl, rfl⟩ := read
      have suffix := (DecoderRelation.consuming.decodeMajor
        ⟨rfl, consuming_decodeValue⟩ _ _).2 tail value rest decoded
      have shorter := suffix.length_le
      rw [List.length_cons]
      omega

/-- Unless the decoder asks for more input, more input changes nothing. -/
theorem Value.decodePrefix_append
    {buffer : List UInt8}
    (decided : Value.decodePrefix buffer ≠ .ok none)
    (more : List UInt8) :
    Value.decodePrefix (buffer ++ more) = Value.decodePrefix buffer := by
  unfold Value.decodePrefix at decided ⊢
  cases outcome : (decodeValue buffer).outcome with
  | ok pair =>
      obtain ⟨value, rest⟩ := pair
      have extended := stable_decodeValue.ok buffer more value rest outcome
      simp only [extended, List.length_append, Nat.add_sub_add_right]
  | error failure =>
      have notEnding : failure ≠ ending := by
        rintro rfl
        rw [outcome] at decided
        exact decided rfl
      rw [stable_decodeValue.error buffer more failure outcome notEnding]
      cases failure with
      | panic cause => rfl
      | error failure => cases failure <;> rfl

/-- The decoder asks for more on every strict prefix of a whole value. -/
theorem Value.decodePrefix_of_strict_prefix
    {front more : List UInt8} {value : Value}
    (decoded : Value.decode (front ++ more) = .ok value)
    (strict : more ≠ []) :
    Value.decodePrefix front = .ok none := by
  have incomplete := stable_decodeValue.ending_of_strict_prefix
    (decode_eq_ok.mp decoded) strict
  rw [Value.decodePrefix, incomplete]

/-! ## Messages at the front of a buffer -/

/-- The two values of a message. -/
def decodePair : Decoder (Value × Value) := do
  let kind ← decodeValue
  let fields ← decodeValue
  pure (kind, fields)

theorem stable_decodePair : Reader.Stable ending decodePair :=
  stable_decodeValue.bind fun _ => stable_decodeValue.bind fun _ =>
    Reader.Stable.pure _

/-- What `decode_prefix` makes of the two values of a message. -/
def concludePrefix (length : Nat) :
    Except (Fault CborError) ((Value × Value) × List UInt8) →
      Except (Fault WireError) (Option (ReqResMessage × Nat))
  | .ok ((kind, fields), rest) =>
      match ReqResMessage.fromFlattenedParts kind fields with
      | .error failure => .error (.error failure)
      | .ok message => .ok (some (message, length - rest.length))
  | .error (.error .unexpectedEnd) => .ok none
  | .error fault => .error fault.ofCbor

/-- The first message of a buffer is decided by its first two values. -/
theorem decodePrefix_eq_concludePrefix
    {bytes : List UInt8}
    (small : bytes.length ≤ maxMessageSequenceSize) :
    ReqResMessage.decodePrefix bytes =
      concludePrefix bytes.length (decodePair bytes).outcome := by
  rw [ReqResMessage.decodePrefix, if_neg (not_lt.mpr small)]
  unfold Value.decodePrefix
  cases first : (decodeValue bytes).outcome with
  | error failure =>
      rw [decodePair, Reader.bind_of_error first]
      cases failure with
      | panic cause => rfl
      | error failure => cases failure <;> rfl
  | ok pair =>
      obtain ⟨kind, middle⟩ := pair
      have suffix := consuming_decodeValue _ _ _ first
      have dropped :
          bytes.drop (bytes.length - middle.length) = middle :=
        (List.suffix_iff_eq_drop.mp suffix).symm
      rw [decodePair, Reader.bind_of_ok first]
      dsimp only
      rw [dropped]
      cases second : (decodeValue middle).outcome with
      | error failure =>
          rw [Reader.bind_of_error second]
          cases failure with
          | panic cause => rfl
          | error failure => cases failure <;> rfl
      | ok pair =>
          obtain ⟨fields, rest⟩ := pair
          have lengths : bytes.length - middle.length +
              (middle.length - rest.length) = bytes.length - rest.length := by
            have outer := suffix.length_le
            have inner := (consuming_decodeValue _ _ _ second).length_le
            omega
          rw [Reader.bind_of_ok second]
          cases assembled : ReqResMessage.fromFlattenedParts kind fields <;>
            simp only [Reader.pure_apply, concludePrefix, lengths, assembled]

/-- Unless the decoder asks for more input, more input within the size limit
changes nothing. -/
theorem ReqResMessage.decodePrefix_append
    {buffer more : List UInt8}
    (small : (buffer ++ more).length ≤ maxMessageSequenceSize)
    (decided : ReqResMessage.decodePrefix buffer ≠ .ok none) :
    ReqResMessage.decodePrefix (buffer ++ more) =
      ReqResMessage.decodePrefix buffer := by
  have bufferSmall : buffer.length ≤ maxMessageSequenceSize := by
    rw [List.length_append] at small
    omega
  rw [decodePrefix_eq_concludePrefix bufferSmall] at decided ⊢
  rw [decodePrefix_eq_concludePrefix small]
  cases outcome : (decodePair buffer).outcome with
  | ok pair =>
      obtain ⟨⟨kind, fields⟩, rest⟩ := pair
      have extended := stable_decodePair.ok buffer more _ rest outcome
      simp only [extended, concludePrefix, List.length_append,
        Nat.add_sub_add_right]
  | error failure =>
      have notEnding : failure ≠ ending := by
        rintro rfl
        rw [outcome] at decided
        exact decided rfl
      rw [stable_decodePair.error buffer more failure outcome notEnding]
      cases failure with
      | panic cause => rfl
      | error failure => cases failure <;> rfl

/-- A message takes up bytes of the buffer, and no others. -/
theorem ReqResMessage.length_le_of_decodePrefix
    {bytes : List UInt8} {message : ReqResMessage} {consumed : Nat}
    (small : bytes.length ≤ maxMessageSequenceSize)
    (decoded : ReqResMessage.decodePrefix bytes =
      .ok (some (message, consumed))) :
    0 < consumed ∧ consumed ≤ bytes.length := by
  rw [decodePrefix_eq_concludePrefix small] at decoded
  cases outcome : (decodePair bytes).outcome with
  | error failure =>
      rw [outcome] at decoded
      cases failure with
      | panic cause => cases decoded
      | error failure => cases failure <;> cases decoded
  | ok pair =>
      obtain ⟨⟨kind, fields⟩, rest⟩ := pair
      obtain ⟨first, middle, readKind, remaining⟩ :=
        Reader.bind_eq_ok.mp outcome
      obtain ⟨second, after, readFields, returned⟩ :=
        Reader.bind_eq_ok.mp remaining
      simp only [Reader.pure_apply, Except.ok.injEq, Prod.mk.injEq]
        at returned
      have outer := length_lt_of_decodeValue readKind
      have inner := length_lt_of_decodeValue readFields
      rw [returned.2] at inner
      rw [outcome] at decoded
      cases assembled : ReqResMessage.fromFlattenedParts kind fields with
      | error failure => simp [concludePrefix, assembled] at decoded
      | ok found =>
          simp only [concludePrefix, assembled, Except.ok.injEq,
            Option.some.injEq, Prod.mk.injEq] at decoded
          omega

/-- The decoder asks for more on every strict prefix of a whole message. -/
theorem ReqResMessage.decodePrefix_of_strict_prefix
    {front more : List UInt8} {message : ReqResMessage}
    (small : (front ++ more).length ≤ maxMessageSequenceSize)
    (decoded : ReqResMessage.decodePrefix (front ++ more) =
      .ok (some (message, (front ++ more).length)))
    (strict : more ≠ []) :
    ReqResMessage.decodePrefix front = .ok none := by
  by_contra decided
  rw [ReqResMessage.decodePrefix_append small decided] at decoded
  have frontSmall : front.length ≤ maxMessageSequenceSize := by
    rw [List.length_append] at small
    omega
  have bound :=
    (ReqResMessage.length_le_of_decodePrefix frontSmall decoded).2
  have positive := List.length_pos_iff.mpr strict
  rw [List.length_append] at bound
  omega

/-! ## Lengths declared in a stream -/

/-- A length-prefixed head in a stream of values, reached after complete
values. -/
def StreamDeclares (stream : List UInt8) (request : BufferRequest) : Prop :=
  ∃ (complete : List Value) (rest : List UInt8),
    (∀ value ∈ complete, value.Wire) ∧
      stream = encodeItems complete ++ rest ∧ Declares rest request

theorem StreamDeclares.of_declares
    {stream : List UInt8} {request : BufferRequest}
    (declares : Declares stream request) : StreamDeclares stream request :=
  ⟨[], stream, by simp, rfl, declares⟩

/-- What a stream declares after its first value it declares. -/
theorem StreamDeclares.of_decodeValue
    {stream rest : List UInt8} {value : Value} {request : BufferRequest}
    (decoded : (decodeValue stream).outcome = .ok (value, rest))
    (declares : StreamDeclares rest request) :
    StreamDeclares stream request := by
  obtain ⟨tree, wire, rfl, _⟩ := sound_decodeValue stream value rest decoded
  obtain ⟨complete, after, wires, rfl, inner⟩ := declares
  refine ⟨tree :: complete, after, ?_, ?_, inner⟩
  · exact List.forall_mem_cons.mpr ⟨wire, wires⟩
  · rw [encodeItems, List.append_assoc]

/-- What a stream declares is declared by its first value or after it. -/
theorem StreamDeclares.cases_decodeValue
    {stream rest : List UInt8} {value : Value} {request : BufferRequest}
    (decoded : (decodeValue stream).outcome = .ok (value, rest))
    (declares : StreamDeclares stream request) :
    Declares stream request ∨ StreamDeclares rest request := by
  obtain ⟨complete, after, wires, spelled, inner⟩ := declares
  cases complete with
  | nil =>
      rw [encodeItems, List.nil_append] at spelled
      rw [spelled]
      exact .inl inner
  | cons tree trees =>
      rw [encodeItems, List.append_assoc] at spelled
      rw [List.forall_mem_cons] at wires
      rw [spelled, wires.1.readBack] at decoded
      simp only [Except.ok.injEq, Prod.mk.injEq] at decoded
      exact .inr ⟨trees, after, wires.2, decoded.2.symm, inner⟩

/-- An empty stream declares nothing. -/
theorem not_streamDeclares_nil (request : BufferRequest) :
    ¬ StreamDeclares [] request := by
  rintro ⟨complete, rest, _, spelled, declares⟩
  obtain ⟨_, rfl⟩ := List.append_eq_nil_iff.mp spelled.symm
  have requested := mem_bufferRequests_of_declares declares (by
    rintro ⟨cause, panicked⟩
    cases panicked)
  cases requested

theorem elementSize_le_of_declares
    {bytes : List UInt8} {request : BufferRequest}
    (declares : Declares bytes request) :
    request.elementSize ≤ valueSize := by
  induction declares with
  | payload => exact Nat.le_of_ble_eq_true rfl
  | items => exact Nat.le_refl _
  | item _ _ _ _ _ inductionHypothesis => exact inductionHypothesis
  | key _ _ _ _ _ _ inductionHypothesis => exact inductionHypothesis
  | value _ _ _ _ _ _ _ inductionHypothesis => exact inductionHypothesis

/-- Declared lengths within the size limit of a stream. -/
def DeclaresWithinLimit (stream : List UInt8) : Prop :=
  ∀ request, StreamDeclares stream request →
    request.capacity ≤ maxMessageSequenceSize

/-- Declared lengths within the size limit are never refused. -/
theorem not_panics_of_declaresWithinLimit
    {stream : List UInt8}
    (within : DeclaresWithinLimit stream) :
    ¬ Panics (decodeValue stream) := by
  refine (safe_decodeValue_iff stream).mpr fun request declares => ?_
  have capacity := within request (.of_declares declares)
  have elementSize := elementSize_le_of_declares declares
  calc
    request.capacity * request.elementSize
        ≤ maxMessageSequenceSize * valueSize :=
      Nat.mul_le_mul capacity elementSize
    _ ≤ isizeMax := by decide

theorem DeclaresWithinLimit.after_decodeValue
    {stream rest : List UInt8} {value : Value}
    (within : DeclaresWithinLimit stream)
    (decoded : (decodeValue stream).outcome = .ok (value, rest)) :
    DeclaresWithinLimit rest :=
  fun request declares => within request (.of_decodeValue decoded declares)

/-- The declared lengths of a stream, checked value by value. -/
theorem DeclaresWithinLimit.of_decodeValue
    {stream rest : List UInt8} {value : Value}
    (decoded : (decodeValue stream).outcome = .ok (value, rest))
    (requests : ∀ request ∈ Value.bufferRequests stream,
      request.capacity ≤ maxMessageSequenceSize)
    (within : DeclaresWithinLimit rest) :
    DeclaresWithinLimit stream := by
  intro request declares
  rcases declares.cases_decodeValue decoded with here | later
  · refine requests request (mem_bufferRequests_of_declares here ?_)
    rintro ⟨cause, panicked⟩
    rw [decoded] at panicked
    cases panicked
  · exact within request later

/-! ## Whole sequences -/

theorem decodeSequenceWithin_cons
    (fuel : Nat) (initial : UInt8) (tail : List UInt8) :
    Value.decodeSequenceWithin (fuel + 1) (initial :: tail) = (do
      let (value, rest) ← (decodeValue (initial :: tail)).outcome
      let values ← Value.decodeSequenceWithin fuel rest
      pure (value :: values)) := rfl

/-- A sequence that decodes is empty, or a value followed by a sequence. -/
theorem decodeSequenceWithin_eq_ok
    {fuel : Nat} {stream : List UInt8} {values : List Value}
    (decoded : Value.decodeSequenceWithin fuel stream = .ok values) :
    (stream = [] ∧ values = []) ∨
      ∃ smaller value rest others, values = value :: others ∧
        (decodeValue stream).outcome = .ok (value, rest) ∧
        Value.decodeSequenceWithin smaller rest = .ok others := by
  cases stream with
  | nil =>
      left
      cases fuel <;> simp_all [Value.decodeSequenceWithin]
  | cons initial tail =>
      right
      cases fuel with
      | zero => cases decoded
      | succ fuel =>
          rw [decodeSequenceWithin_cons] at decoded
          cases first : (decodeValue (initial :: tail)).outcome with
          | error failure => simp [first, bind, Except.bind] at decoded
          | ok pair =>
              obtain ⟨head, rest⟩ := pair
              cases others : Value.decodeSequenceWithin fuel rest with
              | error failure =>
                  simp [first, others, bind, Except.bind] at decoded
              | ok found =>
                  simp only [first, others, bind, Except.bind, pure,
                    Except.pure, Except.ok.injEq] at decoded
                  exact ⟨fuel, head, rest, found, decoded.symm, rfl, others⟩

end Daemon
end WhatsGoingOn
