import WhatsGoingOn.Daemon.Sequence

/-!
# The incremental message reader of the host

The host decodes the messages of a stream while its chunks arrive.  However
the stream is cut, the reader yields the same messages and ends the same way:
as an abstract reading of the whole stream, which knows nothing of chunks,
says.
-/

namespace WhatsGoingOn
namespace Host

open Daemon

/-- Failures of the message reader. -/
inductive ReadError where
  | wire (error : WireError)
  | bail (message : String)
  deriving DecidableEq, Repr

/-- Lift a fault of the wire layer. -/
def liftWire : Fault WireError → Fault ReadError
  | .error failure => .error (.wire failure)
  | .panic cause => .panic cause

/-- The reader of a stream.  `recv` holds the chunks that its reads will
return. -/
structure ReqResMessageReader where
  recv : List (List UInt8)
  buffer : List UInt8
  bytesRead : Nat
  finished : Bool

namespace ReqResMessageReader

/-- Nothing has been read. -/
def new (recv : List (List UInt8)) : ReqResMessageReader :=
  ⟨recv, [], 0, false⟩

/-- Append the next chunk to the buffer, or note the end of the stream. -/
def readMore (reader : ReqResMessageReader) :
    Except (Fault ReadError) ReqResMessageReader :=
  match reader.recv with
  | [] => .ok { reader with finished := true }
  | chunk :: recv =>
      if chunk.length = 0 then
        .ok { reader with recv := recv, finished := true }
      else if maxMessageSequenceSize < reader.bytesRead + chunk.length then
        .error (.error
          (.bail "reqres message sequence exceeds implementation limit"))
      else
        .ok {
          recv := recv
          buffer := reader.buffer ++ chunk
          bytesRead := reader.bytesRead + chunk.length
          finished := reader.finished }

/-- Steps the loop of `next` can still take. -/
def remaining (reader : ReqResMessageReader) : Nat :=
  2 * reader.recv.length + (if reader.finished then 0 else 1)

/-- Reading more leaves less to be read. -/
theorem remaining_readMore
    {reader after : ReqResMessageReader}
    (unfinished : ¬ reader.finished = true)
    (read : reader.readMore = .ok after) :
    after.remaining < reader.remaining := by
  unfold readMore at read
  split at read
  · cases read
    simp [remaining, unfinished]
  · rename_i chunk recv shape
    split at read
    · cases read
      simp only [remaining, shape, List.length_cons, unfinished, if_true]
      omega
    · split at read
      · cases read
      · cases read
        simp only [remaining, shape, List.length_cons, unfinished]
        omega

/-- `ReqResMessageReader::next`: the next message, or nothing at the end of
the stream. -/
def next (reader : ReqResMessageReader) :
    Except (Fault ReadError)
      (Option ReqResMessage × ReqResMessageReader) :=
  match ReqResMessage.decodePrefix reader.buffer with
  | .error fault => .error (liftWire fault)
  | .ok (some (message, consumed)) =>
      .ok (some message,
        { reader with buffer := reader.buffer.drop consumed })
  | .ok none =>
      if _ended : reader.finished = true then
        if reader.buffer.isEmpty then .ok (none, reader)
        else
          .error (.error (.bail
            "reqres message sequence ended with an incomplete message"))
      else
        match _read : reader.readMore with
        | .error fault => .error fault
        | .ok after => next after
termination_by reader.remaining
decreasing_by exact remaining_readMore _ended _read

theorem next_of_fault
    {reader : ReqResMessageReader} {fault : Fault WireError}
    (decoded : ReqResMessage.decodePrefix reader.buffer = .error fault) :
    reader.next = .error (liftWire fault) := by
  rw [next]
  simp [decoded]

theorem next_of_message
    {reader : ReqResMessageReader} {message : ReqResMessage} {consumed : Nat}
    (decoded : ReqResMessage.decodePrefix reader.buffer =
      .ok (some (message, consumed))) :
    reader.next = .ok (some message,
      { reader with buffer := reader.buffer.drop consumed }) := by
  rw [next]
  simp [decoded]

theorem next_of_finished
    {reader : ReqResMessageReader}
    (decoded : ReqResMessage.decodePrefix reader.buffer = .ok none)
    (finished : reader.finished = true) :
    reader.next =
      if reader.buffer.isEmpty then .ok (none, reader)
      else
        .error (.error (.bail
          "reqres message sequence ended with an incomplete message")) := by
  rw [next]
  simp [decoded, finished]

/-- Reading more is what the reader does without a message. -/
theorem next_of_readMore
    {reader after : ReqResMessageReader}
    (decoded : ReqResMessage.decodePrefix reader.buffer = .ok none)
    (unfinished : ¬ reader.finished = true)
    (read : reader.readMore = .ok after) :
    reader.next = after.next := by
  rw [next]
  simp only [decoded]
  rw [dif_neg unfinished]
  split
  · rename_i fault failed
    rw [read] at failed
    cases failed
  · rename_i other same
    rw [read] at same
    cases same
    rfl

end ReqResMessageReader

/-- What a stream ends with. -/
abbrev StreamEnd : Type :=
  Except (Fault ReadError) Unit

/-- Calling `next` until it returns no message or fails. -/
inductive Runs :
    ReqResMessageReader → List ReqResMessage → StreamEnd → Prop where
  | message
      {reader after : ReqResMessageReader} {message : ReqResMessage}
      {messages : List ReqResMessage} {outcome : StreamEnd} :
      reader.next = .ok (some message, after) →
      Runs after messages outcome →
      Runs reader (message :: messages) outcome
  | finished
      {reader after : ReqResMessageReader} :
      reader.next = .ok (none, after) →
      Runs reader [] (.ok ())
  | failed
      {reader : ReqResMessageReader} {fault : Fault ReadError} :
      reader.next = .error fault →
      Runs reader [] (.error fault)

/-- Reading a whole stream that is there at once. -/
inductive Yields :
    List UInt8 → List ReqResMessage → StreamEnd → Prop where
  | message
      {stream : List UInt8} {message : ReqResMessage} {consumed : Nat}
      {messages : List ReqResMessage} {outcome : StreamEnd} :
      ReqResMessage.decodePrefix stream = .ok (some (message, consumed)) →
      Yields (stream.drop consumed) messages outcome →
      Yields stream (message :: messages) outcome
  | finished : Yields [] [] (.ok ())
  | incomplete {stream : List UInt8} :
      ReqResMessage.decodePrefix stream = .ok none →
      stream ≠ [] →
      Yields stream [] (.error (.error (.bail
        "reqres message sequence ended with an incomplete message")))
  | failed {stream : List UInt8} {fault : Fault WireError} :
      ReqResMessage.decodePrefix stream = .error fault →
      Yields stream [] (.error (liftWire fault))

/-! ## One call of the reader -/

namespace ReqResMessageReader

/-- The bytes that were not yet returned as messages. -/
def pending (reader : ReqResMessageReader) : List UInt8 :=
  reader.buffer ++ reader.recv.flatten

/-- What holds of a reader between calls. -/
structure Ready (reader : ReqResMessageReader) : Prop where
  nonempty : ∀ chunk ∈ reader.recv, chunk ≠ []
  drained : reader.finished = true → reader.recv = []
  buffered : reader.buffer.length ≤ reader.bytesRead
  limit : reader.bytesRead + reader.recv.flatten.length ≤
    maxMessageSequenceSize

theorem Ready.pending_small {reader : ReqResMessageReader}
    (ready : reader.Ready) :
    reader.pending.length ≤ maxMessageSequenceSize := by
  have buffered := ready.buffered
  have limit := ready.limit
  rw [pending, List.length_append]
  omega

/-- Reading more of a ready reader succeeds and moves bytes from the stream to
the buffer. -/
theorem Ready.readMore {reader : ReqResMessageReader}
    (ready : reader.Ready) :
    ∃ after, reader.readMore = .ok after ∧ after.Ready ∧
      after.pending = reader.pending := by
  obtain ⟨recv, buffer, bytesRead, finished⟩ := reader
  cases recv with
  | nil =>
      exact ⟨_, rfl, ⟨ready.nonempty, fun _ => rfl, ready.buffered,
        ready.limit⟩, rfl⟩
  | cons chunk recv =>
      have chunkNonempty := ready.nonempty chunk List.mem_cons_self
      have limit := ready.limit
      have buffered := ready.buffered
      simp only [List.flatten_cons, List.length_append] at limit buffered
      have positive : chunk.length ≠ 0 := by
        simpa using chunkNonempty
      have within : ¬ maxMessageSequenceSize < bytesRead + chunk.length := by
        omega
      refine ⟨⟨recv, buffer ++ chunk, bytesRead + chunk.length, finished⟩,
        ?_, ⟨?_, ?_, ?_, ?_⟩, ?_⟩
      · simp only [ReqResMessageReader.readMore]
        rw [if_neg positive, if_neg within]
      · exact fun other member =>
          ready.nonempty other (List.mem_cons_of_mem _ member)
      · intro ended
        have impossible := ready.drained ended
        cases impossible
      · rw [List.length_append]
        exact Nat.add_le_add_right buffered _
      · change bytesRead + chunk.length + recv.flatten.length ≤ _
        omega
      · simp [pending]

/-- What a call of `next` does with the bytes that are still pending. -/
inductive NextSpec (reader : ReqResMessageReader) : Prop where
  | message
      {message : ReqResMessage} {consumed : Nat}
      {after : ReqResMessageReader}
      (decoded : ReqResMessage.decodePrefix reader.pending =
        .ok (some (message, consumed)))
      (returned : reader.next = .ok (some message, after))
      (ready : after.Ready)
      (dropped : after.pending = reader.pending.drop consumed)
  | finished
      {after : ReqResMessageReader}
      (empty : reader.pending = [])
      (returned : reader.next = .ok (none, after))
  | incomplete
      (decoded : ReqResMessage.decodePrefix reader.pending = .ok none)
      (nonempty : reader.pending ≠ [])
      (returned : reader.next = .error (.error (.bail
        "reqres message sequence ended with an incomplete message")))
  | failed
      {fault : Fault WireError}
      (decoded : ReqResMessage.decodePrefix reader.pending = .error fault)
      (returned : reader.next = .error (liftWire fault))

/-- A reader that is ready does what it should. -/
theorem Ready.next_spec {reader : ReqResMessageReader}
    (ready : reader.Ready) : NextSpec reader := by
  induction size : reader.remaining using Nat.strongRecOn
    generalizing reader with
  | _ size inductionHypothesis =>
      subst size
      have small := ready.pending_small
      by_cases undecided :
          ReqResMessage.decodePrefix reader.buffer = .ok none
      · by_cases finished : reader.finished = true
        · have whole : reader.pending = reader.buffer := by
            simp [pending, ready.drained finished]
          have returned := next_of_finished undecided finished
          by_cases empty : reader.buffer = []
          · refine NextSpec.finished (whole.trans empty) (?_ :
              reader.next = .ok (none, reader))
            rw [returned, empty]
            rfl
          · refine .incomplete (by rw [whole, undecided])
              (by rwa [whole]) ?_
            rw [returned, if_neg (by simpa using empty)]
        · obtain ⟨after, read, afterReady, same⟩ := ready.readMore
          have moved := next_of_readMore undecided finished read
          have spec := inductionHypothesis after.remaining
            (remaining_readMore finished read) afterReady rfl
          cases spec with
          | message decoded returned nextReady dropped =>
              exact .message (same ▸ decoded) (moved.trans returned)
                nextReady (same ▸ dropped)
          | finished empty returned =>
              exact .finished (same ▸ empty) (moved.trans returned)
          | incomplete decoded nonempty returned =>
              exact .incomplete (same ▸ decoded) (same ▸ nonempty)
                (moved.trans returned)
          | failed decoded returned =>
              exact .failed (same ▸ decoded) (moved.trans returned)
      · have extended : ReqResMessage.decodePrefix reader.pending =
            ReqResMessage.decodePrefix reader.buffer :=
          ReqResMessage.decodePrefix_append small undecided
        cases decoded : ReqResMessage.decodePrefix reader.buffer with
        | error fault =>
            exact .failed (extended.trans decoded) (next_of_fault decoded)
        | ok found =>
            cases found with
            | none => exact absurd decoded undecided
            | some pair =>
                obtain ⟨message, consumed⟩ := pair
                have bound := (ReqResMessage.length_le_of_decodePrefix
                  (Nat.le_trans (by simp [pending]) small) decoded).2
                have buffered := ready.buffered
                refine .message (extended.trans decoded)
                  (next_of_message decoded)
                  ⟨ready.nonempty, ready.drained, ?_, ready.limit⟩ ?_
                · simp only [List.length_drop]
                  omega
                · rw [pending, pending,
                    List.drop_append_of_le_length bound]

end ReqResMessageReader

/-! ## A whole run of the reader -/

/-- A run yields what an abstract reading of the pending bytes yields. -/
theorem Runs.yields
    {reader : ReqResMessageReader} {messages : List ReqResMessage}
    {outcome : StreamEnd}
    (runs : Runs reader messages outcome)
    (ready : reader.Ready) :
    Yields reader.pending messages outcome := by
  induction runs with
  | message returned _ inductionHypothesis =>
      cases ready.next_spec with
      | message decoded returnedHere afterReady dropped =>
          rw [returned] at returnedHere
          simp only [Except.ok.injEq, Prod.mk.injEq, Option.some.injEq]
            at returnedHere
          obtain ⟨rfl, rfl⟩ := returnedHere
          refine .message decoded ?_
          rw [← dropped]
          exact inductionHypothesis afterReady
      | finished _ returnedHere | incomplete _ _ returnedHere
      | failed _ returnedHere =>
          rw [returned] at returnedHere
          simp at returnedHere
  | finished returned =>
      cases ready.next_spec with
      | finished empty _ =>
          rw [empty]
          exact .finished
      | message _ returnedHere | incomplete _ _ returnedHere
      | failed _ returnedHere =>
          rw [returned] at returnedHere
          simp at returnedHere
  | failed returned =>
      cases ready.next_spec with
      | incomplete decoded nonempty returnedHere =>
          rw [returned] at returnedHere
          cases returnedHere
          exact .incomplete decoded nonempty
      | failed decoded returnedHere =>
          rw [returned] at returnedHere
          cases returnedHere
          exact .failed decoded
      | message _ returnedHere | finished _ returnedHere =>
          rw [returned] at returnedHere
          simp at returnedHere

/-- An abstract reading has one result. -/
theorem Yields.unique
    {stream : List UInt8} {messages others : List ReqResMessage}
    {outcome other : StreamEnd}
    (left : Yields stream messages outcome)
    (right : Yields stream others other) :
    messages = others ∧ outcome = other := by
  induction left generalizing others other with
  | message decoded _ inductionHypothesis =>
      cases right with
      | message decodedHere rest =>
          rw [decoded] at decodedHere
          simp only [Except.ok.injEq, Option.some.injEq, Prod.mk.injEq]
            at decodedHere
          obtain ⟨rfl, rfl⟩ := decodedHere
          obtain ⟨rfl, rfl⟩ := inductionHypothesis rest
          exact ⟨rfl, rfl⟩
      | finished => cases decoded
      | incomplete decodedHere _ | failed decodedHere =>
          rw [decoded] at decodedHere
          simp at decodedHere
  | finished =>
      cases right with
      | message decodedHere _ => cases decodedHere
      | finished => exact ⟨rfl, rfl⟩
      | incomplete _ nonempty => exact absurd rfl nonempty
      | failed decodedHere => cases decodedHere
  | incomplete decoded nonempty =>
      cases right with
      | finished => exact absurd rfl nonempty
      | incomplete _ _ => exact ⟨rfl, rfl⟩
      | message decodedHere _ | failed decodedHere =>
          rw [decoded] at decodedHere
          simp at decodedHere
  | failed decoded =>
      cases right with
      | finished => cases decoded
      | failed decodedHere =>
          rw [decoded] at decodedHere
          cases decodedHere
          exact ⟨rfl, rfl⟩
      | message decodedHere _ | incomplete decodedHere _ =>
          rw [decoded] at decodedHere
          simp at decodedHere

/-- Every ready reader runs to an end. -/
theorem ReqResMessageReader.Ready.runs
    {reader : ReqResMessageReader}
    (ready : reader.Ready) :
    ∃ messages outcome, Runs reader messages outcome := by
  induction size : reader.pending.length using Nat.strongRecOn
    generalizing reader with
  | _ size inductionHypothesis =>
      subst size
      cases ready.next_spec with
      | message decoded returned afterReady dropped =>
          have bound := ReqResMessage.length_le_of_decodePrefix
            ready.pending_small decoded
          obtain ⟨messages, outcome, runs⟩ := inductionHypothesis _
            (by rw [dropped, List.length_drop]; omega) afterReady rfl
          exact ⟨_, outcome, .message returned runs⟩
      | finished _ returned => exact ⟨[], _, .finished returned⟩
      | incomplete _ _ returned => exact ⟨[], _, .failed returned⟩
      | failed _ returned => exact ⟨[], _, .failed returned⟩

/-- A run of a ready reader is the abstract reading of the pending bytes. -/
theorem ReqResMessageReader.Ready.runs_iff_yields
    {reader : ReqResMessageReader}
    (ready : reader.Ready)
    (messages : List ReqResMessage) (outcome : StreamEnd) :
    Runs reader messages outcome ↔
      Yields reader.pending messages outcome := by
  constructor
  · intro runs
    exact runs.yields ready
  · intro yields
    obtain ⟨found, ending, runs⟩ := ready.runs
    obtain ⟨rfl, rfl⟩ := yields.unique (runs.yields ready)
    exact runs

/-- A reader that has not started, of a stream within the size limit. -/
theorem ready_new
    {chunks : List (List UInt8)}
    (nonempty : ∀ chunk ∈ chunks, chunk ≠ [])
    (small : chunks.flatten.length ≤ maxMessageSequenceSize) :
    (ReqResMessageReader.new chunks).Ready := by
  refine ⟨nonempty, fun ended => ?_, Nat.le_refl 0, ?_⟩
  · cases ended
  · simpa [ReqResMessageReader.new] using small

/-! ## Streams whose declared lengths are within the limit -/

/-- The two values of a message at the front of a stream. -/
theorem decodePrefix_eq_some
    {stream : List UInt8} {message : ReqResMessage} {consumed : Nat}
    (small : stream.length ≤ maxMessageSequenceSize)
    (decoded : ReqResMessage.decodePrefix stream =
      .ok (some (message, consumed))) :
    ∃ kind fields middle,
      (decodeValue stream).outcome = .ok (kind, middle) ∧
        (decodeValue middle).outcome =
          .ok (fields, stream.drop consumed) ∧
        ReqResMessage.fromFlattenedParts kind fields = .ok message := by
  rw [decodePrefix_eq_concludePrefix small] at decoded
  cases outcome : (decodePair stream).outcome with
  | error failure =>
      rw [outcome] at decoded
      cases failure with
      | panic cause => cases decoded
      | error failure => cases failure <;> cases decoded
  | ok pair =>
      obtain ⟨⟨kind, fields⟩, rest⟩ := pair
      obtain ⟨first, middle, readKind, remaining⟩ :=
        Reader.bind_eq_ok.mp outcome
      obtain ⟨second, after, readFields, returned⟩ :=
        Reader.bind_eq_ok.mp remaining
      simp only [Reader.pure_apply, Except.ok.injEq, Prod.mk.injEq]
        at returned
      obtain ⟨⟨rfl, rfl⟩, rfl⟩ := returned
      have suffix : after <:+ stream :=
        (consuming_decodeValue _ _ _ readFields).trans
          (consuming_decodeValue _ _ _ readKind)
      rw [outcome] at decoded
      cases assembled : ReqResMessage.fromFlattenedParts first second with
      | error failure => simp [concludePrefix, assembled] at decoded
      | ok found =>
          simp only [concludePrefix, assembled, Except.ok.injEq,
            Option.some.injEq, Prod.mk.injEq] at decoded
          obtain ⟨rfl, rfl⟩ := decoded
          refine ⟨first, second, middle, readKind, ?_, assembled⟩
          rw [readFields, ← List.suffix_iff_eq_drop.mp suffix]

/-- Declared lengths within the limit keep the decoder from panicking. -/
theorem decodePrefix_ne_panic
    {stream : List UInt8}
    (small : stream.length ≤ maxMessageSequenceSize)
    (within : DeclaresWithinLimit stream)
    (cause : Panic) :
    ReqResMessage.decodePrefix stream ≠ .error (.panic cause) := by
  intro panicked
  have unwound : (decodePair stream).outcome = .error (.panic cause) := by
    rw [decodePrefix_eq_concludePrefix small] at panicked
    cases outcome : (decodePair stream).outcome with
    | error failure =>
        rw [outcome] at panicked
        cases failure with
        | panic other => simpa [concludePrefix, Fault.ofCbor] using panicked
        | error failure => cases failure <;> cases panicked
    | ok pair =>
        obtain ⟨⟨kind, fields⟩, rest⟩ := pair
        rw [outcome] at panicked
        cases assembled : ReqResMessage.fromFlattenedParts kind fields <;>
          simp [concludePrefix, assembled] at panicked
  rcases Reader.bind_eq_error.mp unwound with
    first | ⟨kind, middle, readKind, remaining⟩
  · exact not_panics_of_declaresWithinLimit within ⟨cause, first⟩
  · rcases Reader.bind_eq_error.mp remaining with
      second | ⟨fields, rest, _, returned⟩
    · exact not_panics_of_declaresWithinLimit
        (within.after_decodeValue readKind) ⟨cause, second⟩
    · cases returned

/-- A stream within the limits does not end in a panic. -/
theorem Yields.ne_panic
    {stream : List UInt8} {messages : List ReqResMessage}
    {outcome : StreamEnd}
    (yields : Yields stream messages outcome)
    (small : stream.length ≤ maxMessageSequenceSize)
    (within : DeclaresWithinLimit stream)
    (cause : Panic) :
    outcome ≠ .error (.panic cause) := by
  induction yields with
  | message decoded _ inductionHypothesis =>
      obtain ⟨kind, fields, middle, readKind, readFields, _⟩ :=
        decodePrefix_eq_some small decoded
      refine inductionHypothesis ?_ ?_
      · exact Nat.le_trans (by simp) small
      · exact (within.after_decodeValue readKind).after_decodeValue readFields
  | finished => simp
  | incomplete => simp
  | @failed stream fault decoded =>
      intro same
      cases fault with
      | error failure => simp [liftWire] at same
      | panic other => exact decodePrefix_ne_panic small within other decoded

/-- Where the whole stream decodes at once, reading it yields the same
messages and a clean end. -/
theorem yields_of_decodePairs
    {fuel : Nat} {stream : List UInt8} {values : List Value}
    {messages : List ReqResMessage}
    (small : stream.length ≤ maxMessageSequenceSize)
    (decoded : Value.decodeSequenceWithin fuel stream = .ok values)
    (paired : ReqResMessage.decodePairs values = .ok messages) :
    Yields stream messages (.ok ()) := by
  induction values using ReqResMessage.decodePairs.induct
    generalizing fuel stream messages with
  | case1 =>
      rcases decodeSequenceWithin_eq_ok decoded with
        ⟨rfl, _⟩ | ⟨_, _, _, _, impossible, _⟩
      · cases paired
        exact .finished
      · cases impossible
  | case2 => cases paired
  | case3 kind fields values inductionHypothesis =>
      rcases decodeSequenceWithin_eq_ok decoded with
        ⟨_, impossible⟩ | ⟨more, first, middle, others, shape, readKind, tail⟩
      · cases impossible
      · obtain ⟨rfl, rfl⟩ := List.cons.inj shape
        rcases decodeSequenceWithin_eq_ok tail with
          ⟨_, impossible⟩ |
          ⟨fewer, second, rest, others, shape, readFields, tail⟩
        · cases impossible
        · obtain ⟨rfl, rfl⟩ := List.cons.inj shape
          rw [ReqResMessage.decodePairs] at paired
          cases assembled : ReqResMessage.fromFlattenedParts kind fields with
          | error failure => simp [assembled, bind, Except.bind] at paired
          | ok message =>
              cases remaining : ReqResMessage.decodePairs values with
              | error failure =>
                  simp [assembled, remaining, bind, Except.bind] at paired
              | ok found =>
                  simp only [assembled, remaining, bind, Except.bind, pure,
                    Except.pure, Except.ok.injEq] at paired
                  subst paired
                  have suffix : rest <:+ stream :=
                    (consuming_decodeValue _ _ _ readFields).trans
                      (consuming_decodeValue _ _ _ readKind)
                  have pair : (decodePair stream).outcome =
                      .ok ((kind, fields), rest) :=
                    Reader.bind_eq_ok.mpr ⟨_, _, readKind,
                      Reader.bind_eq_ok.mpr ⟨_, _, readFields, rfl⟩⟩
                  have front : ReqResMessage.decodePrefix stream =
                      .ok (some (message, stream.length - rest.length)) := by
                    rw [decodePrefix_eq_concludePrefix small, pair]
                    simp [concludePrefix, assembled]
                  refine .message front ?_
                  rw [← List.suffix_iff_eq_drop.mp suffix]
                  exact inductionHypothesis
                    (Nat.le_trans suffix.length_le small) tail remaining

/-- A sequence that is decoded at once is yielded message by message. -/
theorem yields_of_decodeSequence
    {stream : List UInt8} {messages : List ReqResMessage}
    (decoded : ReqResMessage.decodeSequence stream = .ok messages) :
    Yields stream messages (.ok ()) := by
  unfold ReqResMessage.decodeSequence at decoded
  split at decoded
  · cases decoded
  · rename_i small
    cases sequence : Value.decodeSequence stream with
    | error fault => simp [sequence] at decoded
    | ok values =>
        rw [sequence] at decoded
        dsimp only at decoded
        split at decoded
        · cases decoded
        · split at decoded
          · cases decoded
          · cases paired : ReqResMessage.decodePairs values with
            | error failure => simp [paired] at decoded
            | ok found =>
                simp only [paired, Except.ok.injEq] at decoded
                subst decoded
                exact yields_of_decodePairs (not_lt.mp small) sequence paired

/-- How a stream is cut into chunks does not matter. -/
structure ChunkingIrrelevant : Prop where
  /-- A value at the front of a buffer stays there when the buffer grows. -/
  valueStable : ∀ (buffer more : List UInt8) (value : Value) (consumed : Nat),
    Value.decodePrefix buffer = .ok (some (value, consumed)) →
      Value.decodePrefix (buffer ++ more) = .ok (some (value, consumed))
  /-- A strict prefix of the encoding of a value asks for more. -/
  valueNeedsMore : ∀ (front more : List UInt8) (value : Value),
    Value.decode (front ++ more) = .ok value → more ≠ [] →
      Value.decodePrefix front = .ok none
  /-- A message at the front of a buffer stays there when the buffer grows
  within the size limit. -/
  messageStable : ∀ (buffer more : List UInt8) (message : ReqResMessage)
    (consumed : Nat),
    (buffer ++ more).length ≤ maxMessageSequenceSize →
      ReqResMessage.decodePrefix buffer = .ok (some (message, consumed)) →
        ReqResMessage.decodePrefix (buffer ++ more) =
          .ok (some (message, consumed))
  /-- A strict prefix of a whole message asks for more. -/
  messageNeedsMore : ∀ (front more : List UInt8) (message : ReqResMessage),
    (front ++ more).length ≤ maxMessageSequenceSize →
      ReqResMessage.decodePrefix (front ++ more) =
        .ok (some (message, (front ++ more).length)) → more ≠ [] →
          ReqResMessage.decodePrefix front = .ok none
  /-- All cuts of a stream yield the same messages and the same end, which is
  clean or a definite error, and the messages of the whole stream where it
  decodes at once. -/
  runs : ∀ stream : List UInt8, stream.length ≤ maxMessageSequenceSize →
    DeclaresWithinLimit stream →
      ∃ (messages : List ReqResMessage) (outcome : StreamEnd),
        (∀ cause, outcome ≠ .error (.panic cause)) ∧
        (∀ chunks : List (List UInt8), chunks.flatten = stream →
          (∀ chunk ∈ chunks, chunk ≠ []) →
            ∀ yielded ended, Runs (.new chunks) yielded ended ↔
              yielded = messages ∧ ended = outcome) ∧
        ∀ whole, ReqResMessage.decodeSequence stream = .ok whole →
          messages = whole ∧ outcome = .ok ()

/-- What is yielded does not depend on the chunks. -/
theorem chunking_irrelevant : ChunkingIrrelevant where
  valueStable := by
    intro buffer more value consumed decoded
    rw [Value.decodePrefix_append (by simp [decoded]), decoded]
  valueNeedsMore := by
    intro front more value decoded strict
    exact Value.decodePrefix_of_strict_prefix decoded strict
  messageStable := by
    intro buffer more message consumed small decoded
    rw [ReqResMessage.decodePrefix_append small (by simp [decoded]), decoded]
  messageNeedsMore := by
    intro front more message small decoded strict
    exact ReqResMessage.decodePrefix_of_strict_prefix small decoded strict
  runs := by
    intro stream small within
    obtain ⟨messages, outcome, yields⟩ :
        ∃ messages outcome, Yields stream messages outcome := by
      by_cases empty : stream = []
      · exact ⟨[], .ok (), empty ▸ .finished⟩
      · have ready : (ReqResMessageReader.new [stream]).Ready :=
          ready_new (by simpa using empty) (by simpa using small)
        obtain ⟨messages, outcome, runs⟩ := ready.runs
        refine ⟨messages, outcome, ?_⟩
        simpa [ReqResMessageReader.pending, ReqResMessageReader.new] using
          runs.yields ready
    refine ⟨messages, outcome, yields.ne_panic small within, ?_, ?_⟩
    · rintro chunks rfl nonempty yielded ended
      have ready := ready_new nonempty small
      have whole : (ReqResMessageReader.new chunks).pending =
          chunks.flatten := rfl
      rw [ready.runs_iff_yields, whole]
      constructor
      · intro others
        exact others.unique yields
      · rintro ⟨rfl, rfl⟩
        exact yields
    · intro whole decoded
      exact yields.unique (yields_of_decodeSequence decoded)

/-- A request that arrives in three chunks is read as one message. -/
theorem chunking_irrelevant_three_chunks :
    Runs (.new [[0x00], [0xa1, 0x01], [0x02]])
      [.requestUnary 2 none] (.ok ()) := by
  have within : DeclaresWithinLimit [0x00, 0xa1, 0x01, 0x02] := by
    have kind : (decodeValue [0x00, 0xa1, 0x01, 0x02]).outcome =
        .ok (.u64 0, [0xa1, 0x01, 0x02]) := rfl
    have fields : (decodeValue [0xa1, 0x01, 0x02]).outcome =
        .ok (.map [(1, .u64 2)], []) := rfl
    have silent : Value.bufferRequests [0x00, 0xa1, 0x01, 0x02] = [] ∧
        Value.bufferRequests [0xa1, 0x01, 0x02] = [] := ⟨rfl, rfl⟩
    refine .of_decodeValue kind (by simp [silent.1]) ?_
    refine .of_decodeValue fields (by simp [silent.2]) ?_
    exact fun request declares =>
      absurd declares (not_streamDeclares_nil request)
  obtain ⟨messages, outcome, _, anyCut, atOnce⟩ :=
    chunking_irrelevant.runs [0x00, 0xa1, 0x01, 0x02] (by decide) within
  obtain ⟨rfl, rfl⟩ := atOnce [.requestUnary 2 none] (by rfl)
  exact (anyCut [[0x00], [0xa1, 0x01], [0x02]] rfl (by decide) _ _).mpr
    ⟨rfl, rfl⟩

end Host
end WhatsGoingOn
