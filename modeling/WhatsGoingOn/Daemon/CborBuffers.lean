import WhatsGoingOn.Daemon.CborRoundTrip

/-!
# Buffers of the daemon's CBOR decoder

The decoder allocates what a head declares before it looks at the bytes that
follow.  The heads it acts on are described here by the shape of the input
alone, and the requests and panics of the decoder are derived from them.
-/

namespace WhatsGoingOn
namespace Daemon

/-! ## Declared lengths -/

/-- A length-prefixed head in a byte string, reached after complete items. -/
inductive Declares : List UInt8 → BufferRequest → Prop where
  /-- A byte string or a text at the front. -/
  | payload
      (major : UInt8) (isPayload : major = 2 ∨ major = 3)
      (length : UInt64) (rest : List UInt8) :
      Declares (encodeTypeValue major length ++ rest)
        ⟨length.toNat, 1, rest.length⟩
  /-- An array at the front. -/
  | items (length : UInt64) (rest : List UInt8) :
      Declares (encodeTypeValue 4 length ++ rest)
        ⟨length.toNat, valueSize, rest.length⟩
  /-- A head inside an array, after some complete items. -/
  | item
      (length : UInt64) (complete : List Value)
      (wires : ∀ item ∈ complete, item.Wire)
      (unfinished : complete.length < length.toNat)
      {rest : List UInt8} {request : BufferRequest} :
      Declares rest request →
      Declares (encodeTypeValue 4 length ++ encodeItems complete ++ rest)
        request
  /-- A head in the place of a map key, after some complete entries. -/
  | key
      (length : UInt64) (complete : List (UInt64 × Value))
      (wires : ∀ entry ∈ complete, entry.2.Wire)
      (distinct : (SortedMap.keys complete).Nodup)
      (unfinished : complete.length < length.toNat)
      {rest : List UInt8} {request : BufferRequest} :
      Declares rest request →
      Declares (encodeTypeValue 5 length ++ encodeEntries complete ++ rest)
        request
  /-- A head inside the value of a map entry, after some complete entries. -/
  | value
      (length : UInt64) (complete : List (UInt64 × Value))
      (wires : ∀ entry ∈ complete, entry.2.Wire)
      (distinct : (SortedMap.keys complete).Nodup)
      (unfinished : complete.length < length.toNat)
      (key : UInt64)
      {rest : List UInt8} {request : BufferRequest} :
      Declares rest request →
      Declares
        (encodeTypeValue 5 length ++ encodeEntries complete ++
          (encodeTypeValue 0 key ++ rest))
        request

/-! ## Every request is a declared length -/

/-- The argument of a head asks for no buffer. -/
theorem requests_decodeArgument (additional : UInt8) (bytes : List UInt8) :
    (decodeArgument additional bytes).requests = [] := by
  have silent : ∀ width narrower,
      (readArgument width narrower bytes).requests = [] := by
    intro width narrower
    refine List.eq_nil_iff_forall_not_mem.mpr fun request member => ?_
    rcases Reader.mem_requests_bind.mp member with
      taken | ⟨front, rest, _, returned⟩
    · simp only [readExact, Reader.take] at taken
      split at taken <;> cases taken
    · split at returned <;> cases returned
  unfold decodeArgument
  split
  · rfl
  · split
    · exact silent 1 23
    · exact silent 2 0xff
    · exact silent 4 0xffff
    · exact silent 8 0xffffffff
    · rfl

/-- The item loop requests what one of its items requests. -/
theorem mem_requests_decodeItems
    {decode : Decoder Value}
    (sound : SoundDecoder decode)
    {count : Nat} {done : List Value} {bytes : List UInt8}
    {request : BufferRequest}
    (member : request ∈
      (Reader.loop (decodeItem decode) count done bytes).requests) :
    ∃ (complete : List Value) (rest : List UInt8),
      (∀ item ∈ complete, item.Wire) ∧ complete.length < count ∧
        bytes = encodeItems complete ++ rest ∧
        request ∈ (decode rest).requests := by
  induction count generalizing done bytes with
  | zero => cases member
  | succ count inductionHypothesis =>
      rw [Reader.loop_succ] at member
      rcases Reader.mem_requests_bind.mp member with
        first | ⟨next, middle, pushed, later⟩
      · rcases Reader.mem_requests_bind.mp first with
          now | ⟨item, middle, _, returned⟩
        · exact ⟨[], bytes, by simp, Nat.succ_pos count, rfl, now⟩
        · cases returned
      · obtain ⟨item, after, read, returned⟩ := Reader.bind_eq_ok.mp pushed
        simp only [Reader.pure_apply, Except.ok.injEq, Prod.mk.injEq]
          at returned
        obtain ⟨rfl, rfl⟩ := returned
        obtain ⟨tree, wire, rfl, rfl⟩ := sound bytes item after read
        obtain ⟨complete, rest, wires, short, rfl, requested⟩ :=
          inductionHypothesis later
        refine ⟨tree :: complete, rest, ?_, Nat.succ_lt_succ short, ?_,
          requested⟩
        · exact List.forall_mem_cons.mpr ⟨wire, wires⟩
        · rw [encodeItems, List.append_assoc]

/-- The entry loop requests what one of its keys or values requests. -/
theorem mem_requests_decodeEntries
    {decode : Decoder Value}
    (sound : SoundDecoder decode)
    {count : Nat} {map : List (UInt64 × Value)} {bytes : List UInt8}
    {request : BufferRequest}
    (member : request ∈
      (Reader.loop (decodeEntry decode) count map bytes).requests) :
    ∃ (complete : List (UInt64 × Value)) (rest : List UInt8),
      (∀ entry ∈ complete, entry.2.Wire) ∧
        SortedMap.Fresh complete map ∧
        complete.length < count ∧
        bytes = encodeEntries complete ++ rest ∧
        (request ∈ (decode rest).requests ∨
          ∃ (key : UInt64) (after : List UInt8),
            rest = encodeTypeValue 0 key ++ after ∧
              request ∈ (decode after).requests) := by
  induction count generalizing map bytes with
  | zero => cases member
  | succ count inductionHypothesis =>
      rw [Reader.loop_succ] at member
      rcases Reader.mem_requests_bind.mp member with
        first | ⟨next, middle, inserted, later⟩
      · refine ⟨[], bytes, by simp, by simp [SortedMap.Fresh],
          Nat.succ_pos count, rfl, ?_⟩
        rcases Reader.mem_requests_bind.mp first with
          now | ⟨key, middle, readKey, continued⟩
        · exact .inl now
        · obtain ⟨keyTree, _, rfl, sorted⟩ := sound bytes key middle readKey
          split at continued
          · rename_i key
            obtain rfl := eq_u64_of_sorted sorted
            refine .inr ⟨key, middle, rfl, ?_⟩
            rcases Reader.mem_requests_bind.mp continued with
              now | ⟨value, rest, _, returned⟩
            · exact now
            · split at returned <;> cases returned
          · cases continued
      · obtain ⟨key, tree, wire, absent, rfl, rfl⟩ :=
          decodeEntry_sound sound inserted
        obtain ⟨complete, rest, wires, fresh, short, rfl, requested⟩ :=
          inductionHypothesis later
        refine ⟨(key, tree) :: complete, rest, ?_, ?_,
          Nat.succ_lt_succ short, ?_, requested⟩
        · exact List.forall_mem_cons.mpr ⟨wire, wires⟩
        · exact (SortedMap.fresh_cons (key, tree) complete tree.sorted
            map).mpr ⟨absent, fresh⟩
        · rw [encodeEntries, ← List.append_assoc]

/-- A payload asks for one buffer, of the declared length. -/
theorem mem_requests_readPayload
    {additional : UInt8} {bytes : List UInt8} {request : BufferRequest}
    (member : request ∈ (readPayload additional bytes).requests) :
    ∃ length rest,
      (decodeArgument additional bytes).outcome = .ok (length, rest) ∧
        request = ⟨length.toNat, 1, rest.length⟩ := by
  rcases Reader.mem_requests_bind.mp member with
    head | ⟨length, rest, read, checked⟩
  · rw [requests_decodeArgument] at head
    cases head
  · refine ⟨length, rest, read, ?_⟩
    rcases Reader.mem_requests_bind.mp checked with
      converted | ⟨count, unread, converted, allocated⟩
    · rw [checkedLen_apply] at converted
      cases converted
    · rw [checkedLen_apply] at converted
      simp only [Except.ok.injEq, Prod.mk.injEq] at converted
      obtain ⟨rfl, rfl⟩ := converted
      rcases Reader.mem_requests_bind.mp allocated with
        requested | ⟨_, unread, _, taken⟩
      · simpa [allocate, Reader.request_apply] using requested
      · simp only [readExact, Reader.take] at taken
        split at taken <;> cases taken

/-- Where nested calls request declared lengths, so does the whole call. -/
theorem declares_of_decodeMajor
    {decode : Decoder Value}
    (sound : SoundDecoder decode)
    (inner : ∀ bytes request,
      request ∈ (decode bytes).requests → Declares bytes request)
    {major additional : UInt8} {bytes : List UInt8}
    {request : BufferRequest}
    (member : request ∈
      (decodeMajor decode major additional bytes).requests) :
    Declares ((major <<< 5 ||| additional) :: bytes) request := by
  unfold decodeMajor at member
  split at member
  · rcases Reader.mem_requests_bind.mp member with
      head | ⟨argument, rest, _, returned⟩
    · rw [requests_decodeArgument] at head
      cases head
    · cases returned
  · rcases Reader.mem_requests_bind.mp member with
      head | ⟨encoded, rest, _, returned⟩
    · rw [requests_decodeArgument] at head
      cases head
    · split at returned <;> cases returned
  · rcases Reader.mem_requests_bind.mp member with
      requested | ⟨payload, rest, _, returned⟩
    · obtain ⟨length, rest, read, rfl⟩ := mem_requests_readPayload requested
      rw [encodeTypeValue_of_decodeArgument 2 read]
      exact .payload 2 (.inl rfl) length rest
    · cases returned
  · rcases Reader.mem_requests_bind.mp member with
      requested | ⟨payload, rest, _, returned⟩
    · obtain ⟨length, rest, read, rfl⟩ := mem_requests_readPayload requested
      rw [encodeTypeValue_of_decodeArgument 3 read]
      exact .payload 3 (.inr rfl) length rest
    · cases spelled : Bytes.ofUtf8 payload with
      | none =>
          rw [spelled] at returned
          cases returned
      | some content =>
          rw [spelled] at returned
          cases returned
  · rcases Reader.mem_requests_bind.mp member with
      head | ⟨length, rest, read, checked⟩
    · rw [requests_decodeArgument] at head
      cases head
    · rw [encodeTypeValue_of_decodeArgument 4 read]
      rcases Reader.mem_requests_bind.mp checked with
        converted | ⟨count, unread, converted, allocated⟩
      · rw [checkedLen_apply] at converted
        cases converted
      · rw [checkedLen_apply] at converted
        simp only [Except.ok.injEq, Prod.mk.injEq] at converted
        obtain ⟨rfl, rfl⟩ := converted
        rcases Reader.mem_requests_bind.mp allocated with
          requested | ⟨_, unread, granted, filled⟩
        · obtain rfl : request = ⟨length.toNat, valueSize, rest.length⟩ := by
            simpa [allocate, Reader.request_apply] using requested
          exact .items length rest
        · obtain ⟨_, rfl⟩ := allocate_sound granted
          rcases Reader.mem_requests_bind.mp filled with
            looped | ⟨items, unread, _, returned⟩
          · obtain ⟨complete, rest, wires, short, rfl, requested⟩ :=
              mem_requests_decodeItems sound looped
            rw [← List.append_assoc]
            exact .item length complete wires short (inner _ _ requested)
          · cases returned
  · rcases Reader.mem_requests_bind.mp member with
      head | ⟨length, rest, read, checked⟩
    · rw [requests_decodeArgument] at head
      cases head
    · rw [encodeTypeValue_of_decodeArgument 5 read]
      rcases Reader.mem_requests_bind.mp checked with
        converted | ⟨count, unread, converted, filled⟩
      · rw [checkedLen_apply] at converted
        cases converted
      · rw [checkedLen_apply] at converted
        simp only [Except.ok.injEq, Prod.mk.injEq] at converted
        obtain ⟨rfl, rfl⟩ := converted
        rcases Reader.mem_requests_bind.mp filled with
          looped | ⟨map, unread, _, returned⟩
        · obtain ⟨complete, rest, wires, fresh, short, rfl, requested⟩ :=
            mem_requests_decodeEntries sound looped
          rw [← List.append_assoc]
          rcases requested with inKey | ⟨key, after, rfl, inValue⟩
          · exact .key length complete wires fresh.1 short (inner _ _ inKey)
          · exact .value length complete wires fresh.1 short key
              (inner _ _ inValue)
        · cases returned
  · split at member
    · cases member
    · cases member
    · cases member
    · rcases Reader.mem_requests_bind.mp member with
        taken | ⟨payload, rest, _, returned⟩
      · simp only [readExact, Reader.take] at taken
        split at taken <;> cases taken
      · cases returned
    · cases member
  · cases member

/-- Every buffer that a decoder asks for is declared in its input. -/
theorem declares_of_decodeValueWithin
    (fuel : Nat)
    {bytes : List UInt8} {request : BufferRequest}
    (member : request ∈ (decodeValueWithin fuel bytes).requests) :
    Declares bytes request := by
  induction fuel generalizing bytes request with
  | zero => cases member
  | succ fuel inductionHypothesis =>
      cases bytes with
      | nil => cases member
      | cons initial rest =>
          rcases Reader.mem_requests_bind.mp member with
            first | ⟨head, after, first, requested⟩
          · cases first
          · simp only [readU8, Reader.byte_cons, Except.ok.injEq,
              Prod.mk.injEq] at first
            obtain ⟨rfl, rfl⟩ := first
            have declared := declares_of_decodeMajor
              (sound_decodeValueWithin fuel)
              (fun _ _ => inductionHypothesis) requested
            rwa [initial_split] at declared

/-- The decoder requests only lengths that the input declares. -/
theorem declares_of_mem_bufferRequests
    {bytes : List UInt8} {request : BufferRequest}
    (member : request ∈ Value.bufferRequests bytes) :
    Declares bytes request :=
  declares_of_decodeValueWithin bytes.length member

/-! ## Every declared length is requested -/

/-- A read that panics. -/
def Panics {α : Type}
    (result : ReadResult (Fault CborError) BufferRequest α) : Prop :=
  ∃ cause, result.outcome = .error (.panic cause)

theorem Panics.of_includes
    {α β : Type}
    {whole : ReadResult (Fault CborError) BufferRequest α}
    {part : ReadResult (Fault CborError) BufferRequest β}
    (includes : Reader.Includes whole part)
    (panics : Panics part) : Panics whole := by
  obtain ⟨cause, panicked⟩ := panics
  exact ⟨cause, includes.failure _ panicked⟩

/-- Decoding an array includes the allocation of its items. -/
theorem includes_allocate (length : UInt64) (rest : List UInt8) :
    Reader.Includes (decodeValue (encodeTypeValue 4 length ++ rest))
      (allocate length.toNat valueSize rest) := by
  obtain ⟨additional, payload, decoded, read⟩ :=
    decodeValue_head 4 length (by decide)
  rw [decoded]
  refine (Reader.ContinuesAs.bind (by rw [read]) _).includes.trans ?_
  refine (Reader.ContinuesAs.bind (by rw [checkedLen_apply])
    _).includes.trans ?_
  exact Reader.Includes.bind_first _ _ _

/-- Decoding an array includes the loop over its items. -/
theorem includes_decodeItems
    {length : UInt64}
    (granted : length.toNat * valueSize ≤ isizeMax)
    (rest : List UInt8) :
    Reader.Includes (decodeValue (encodeTypeValue 4 length ++ rest))
      (Reader.loop (decodeItem decodeValue) length.toNat [] rest) := by
  obtain ⟨additional, payload, decoded, read⟩ :=
    decodeValue_head 4 length (by decide)
  rw [decoded]
  refine (Reader.ContinuesAs.bind (by rw [read]) _).includes.trans ?_
  refine (Reader.ContinuesAs.bind (by rw [checkedLen_apply])
    _).includes.trans ?_
  refine (Reader.ContinuesAs.bind (allocate_of_granted granted rest)
    _).includes.trans ?_
  exact Reader.Includes.bind_first _ _ _

/-- Decoding a map includes the loop over its entries. -/
theorem includes_decodeEntries (length : UInt64) (rest : List UInt8) :
    Reader.Includes (decodeValue (encodeTypeValue 5 length ++ rest))
      (Reader.loop (decodeEntry decodeValue) length.toNat [] rest) := by
  obtain ⟨additional, payload, decoded, read⟩ :=
    decodeValue_head 5 length (by decide)
  rw [decoded]
  refine (Reader.ContinuesAs.bind (by rw [read]) _).includes.trans ?_
  refine (Reader.ContinuesAs.bind (by rw [checkedLen_apply])
    _).includes.trans ?_
  exact Reader.Includes.bind_first _ _ _

/-- What decoding the next item asks for is asked for by the array. -/
theorem includes_item
    {complete : List Value}
    (wires : ∀ item ∈ complete, item.Wire)
    {count : Nat}
    (unfinished : complete.length < count)
    (rest : List UInt8) :
    Reader.Includes
      (Reader.loop (decodeItem decodeValue) count []
        (encodeItems complete ++ rest))
      (decodeValue rest) := by
  refine (decodeItems_continues complete
    (fun item member => (wires item member).readBack)
    (Nat.le_of_lt unfinished) [] rest).includes.trans ?_
  obtain ⟨more, same⟩ := Nat.exists_eq_add_of_lt unfinished
  rw [show count - complete.length = more + 1 by omega, Reader.loop_succ]
  exact (Reader.Includes.bind_first _ _ _).trans
    (Reader.Includes.bind_first _ _ _)

/-- What decoding the next entry asks for is asked for by the map. -/
theorem includes_entry
    {complete : List (UInt64 × Value)}
    (wires : ∀ entry ∈ complete, entry.2.Wire)
    (distinct : (SortedMap.keys complete).Nodup)
    {count : Nat}
    (unfinished : complete.length < count)
    (rest : List UInt8) :
    Reader.Includes
      (Reader.loop (decodeEntry decodeValue) count []
        (encodeEntries complete ++ rest))
      (decodeEntry decodeValue
        (SortedMap.insertAll
          (complete.map fun entry => (entry.1, entry.2.sorted)) [])
        rest) := by
  refine (decodeEntries_continues complete
    (fun entry member => (wires entry member).readBack)
    (Nat.le_of_lt unfinished) []
    ((SortedMap.fresh_empty complete).mpr distinct) rest).includes.trans ?_
  obtain ⟨more, same⟩ := Nat.exists_eq_add_of_lt unfinished
  rw [show count - complete.length = more + 1 by omega, Reader.loop_succ]
  exact Reader.Includes.bind_first _ _ _

/-- Unless it panics, the decoder requests every declared length. -/
theorem mem_bufferRequests_of_declares
    {bytes : List UInt8} {request : BufferRequest}
    (declares : Declares bytes request)
    (safe : ¬ Panics (decodeValue bytes)) :
    request ∈ Value.bufferRequests bytes := by
  induction declares with
  | payload major isPayload length rest =>
      have isMajor : major.toNat < 8 := by
        rcases isPayload with rfl | rfl <;> decide
      obtain ⟨additional, front, decoded, read⟩ :=
        decodeValue_head major length isMajor
      have allocated : (⟨length.toNat, 1, rest.length⟩ : BufferRequest) ∈
          (readPayload additional (front ++ rest)).requests := by
        refine Reader.mem_requests_bind.mpr
          (.inr ⟨_, _, by rw [read], ?_⟩)
        refine Reader.mem_requests_bind.mpr
          (.inr ⟨_, _, by rw [checkedLen_apply], ?_⟩)
        exact Reader.mem_requests_bind.mpr (.inl List.mem_cons_self)
      rw [Value.bufferRequests, decoded]
      rcases isPayload with rfl | rfl
      · exact Reader.mem_requests_bind.mpr (.inl allocated)
      · exact Reader.mem_requests_bind.mpr (.inl allocated)
  | items length rest =>
      exact (includes_allocate length rest).requests List.mem_cons_self
  | @item length complete wires unfinished rest request _
      inductionHypothesis =>
      rw [List.append_assoc] at safe ⊢
      have granted : length.toNat * valueSize ≤ isizeMax := by
        by_contra refused
        refine safe (Panics.of_includes (includes_allocate length _)
          ⟨.capacityOverflow, ?_⟩)
        simp [allocate, Reader.request_apply, refused]
      have includes := (includes_decodeItems granted _).trans
        (includes_item wires unfinished rest)
      exact includes.requests (inductionHypothesis fun panics =>
        safe (Panics.of_includes includes panics))
  | @key length complete wires distinct unfinished rest request _
      inductionHypothesis =>
      rw [List.append_assoc] at safe ⊢
      have includes := ((includes_decodeEntries length _).trans
        (includes_entry wires distinct unfinished rest)).trans
        (Reader.Includes.bind_first _ _ _)
      exact includes.requests (inductionHypothesis fun panics =>
        safe (Panics.of_includes includes panics))
  | @value length complete wires distinct unfinished key rest request _
      inductionHypothesis =>
      rw [List.append_assoc] at safe ⊢
      have includes := (((includes_decodeEntries length _).trans
        (includes_entry wires distinct unfinished
          (encodeTypeValue 0 key ++ rest))).trans
        (Reader.ContinuesAs.bind (decodeValue_key key rest) _).includes).trans
        (Reader.Includes.bind_first _ _ _)
      exact includes.requests (inductionHypothesis fun panics =>
        safe (Panics.of_includes includes panics))

/-! ## Panics are refused requests -/

/-- A read panics exactly when one of its requests was refused. -/
def TracksRefusals {α : Type} (reader : Decoder α) : Prop :=
  ∀ bytes, Panics (reader bytes) ↔
    ∃ request ∈ (reader bytes).requests, ¬ request.Granted

namespace TracksRefusals

theorem silent
    {α : Type} {reader : Decoder α}
    (quiet : ∀ bytes, (reader bytes).requests = [])
    (orderly : ∀ bytes, ¬ Panics (reader bytes)) :
    TracksRefusals reader := by
  intro bytes
  simp [quiet bytes, orderly bytes]

/-- Refusals are tracked through two readers one after the other. -/
theorem bind
    {α β : Type} {reader : Decoder α} {next : α → Decoder β}
    (first : TracksRefusals reader)
    (second : ∀ value, TracksRefusals (next value)) :
    TracksRefusals (reader >>= next) := by
  intro bytes
  have firstHere := first bytes
  unfold Panics at firstHere ⊢
  cases outcome : (reader bytes).outcome with
  | error failure =>
      rw [Reader.bind_of_error outcome]
      simpa [outcome] using firstHere
  | ok pair =>
      obtain ⟨value, rest⟩ := pair
      have secondHere := second value rest
      unfold Panics at secondHere
      have quiet : ¬ ∃ request ∈ (reader bytes).requests,
          ¬ request.Granted := by
        rw [← firstHere, outcome]
        simp
      rw [Reader.bind_of_ok outcome]
      simp only [List.mem_append, or_and_right, exists_or]
      rw [secondHere]
      exact (or_iff_right quiet).symm

/-- Tracking refusals is a relation that the decoder keeps. -/
theorem relation :
    DecoderRelation fun (α : Type) (left right : Decoder α) =>
      left = right ∧ TracksRefusals left where
  pure := fun value => ⟨rfl, silent (fun _ => rfl) (by simp [Panics])⟩
  bind := by
    rintro α β left right nextLeft nextRight ⟨rfl, first⟩ second
    have same : nextLeft = nextRight := funext fun value => (second value).1
    exact ⟨by rw [same], bind first fun value => (second value).2⟩
  reject := fun failure =>
    ⟨rfl, silent (fun _ => rfl) (by simp [Panics, reject])⟩
  readExact := by
    refine fun count => ⟨rfl, silent ?_ ?_⟩
    · intro bytes
      unfold readExact Reader.take
      split <;> rfl
    · intro bytes
      unfold Panics readExact Reader.take
      split <;> simp
  allocate := by
    refine fun capacity elementSize => ⟨rfl, fun bytes => ?_⟩
    unfold Panics allocate
    rw [Reader.request_apply]
    by_cases granted : capacity * elementSize ≤ isizeMax
    · simp [granted, BufferRequest.Granted]
    · simpa [granted, BufferRequest.Granted] using not_le.mp granted

end TracksRefusals

/-- The decoder panics exactly where a buffer is refused. -/
theorem tracksRefusals_decodeValueWithin (fuel : Nat) :
    TracksRefusals (decodeValueWithin fuel) := by
  induction fuel with
  | zero => exact TracksRefusals.silent (fun _ => rfl) (by simp [Panics,
      decodeValueWithin])
  | succ fuel inductionHypothesis =>
      refine TracksRefusals.bind ?_ fun initial => ?_
      · refine TracksRefusals.silent ?_ ?_
        · intro bytes
          cases bytes <;> rfl
        · intro bytes
          cases bytes <;> simp [Panics, readU8]
      · exact (TracksRefusals.relation.decodeMajor
          ⟨rfl, inductionHypothesis⟩ _ _).2

/-- The decoder panics exactly when a requested buffer exceeds
`isize::MAX`. -/
theorem panics_decodeValue_iff (bytes : List UInt8) :
    Panics (decodeValue bytes) ↔
      ∃ request ∈ Value.bufferRequests bytes, ¬ request.Granted :=
  tracksRefusals_decodeValueWithin bytes.length bytes

/-- No declared length is refused exactly when the decoder does not panic. -/
theorem safe_decodeValue_iff (bytes : List UInt8) :
    ¬ Panics (decodeValue bytes) ↔
      ∀ request, Declares bytes request → request.Granted := by
  constructor
  · intro safe request declares
    by_contra refused
    exact safe ((panics_decodeValue_iff bytes).mpr
      ⟨request, mem_bufferRequests_of_declares declares safe, refused⟩)
  · intro granted panics
    obtain ⟨request, member, refused⟩ :=
      (panics_decodeValue_iff bytes).mp panics
    exact refused (granted request (declares_of_mem_bufferRequests member))

/-! ## The bound on allocations -/

theorem decode_panics_iff (bytes : List UInt8) :
    (∃ cause, Value.decode bytes = .error (.panic cause)) ↔
      Panics (decodeValue bytes) := by
  unfold Panics Value.decode
  cases outcome : (decodeValue bytes).outcome with
  | error failure => simp [bind, Except.bind]
  | ok pair =>
      obtain ⟨value, rest⟩ := pair
      cases rest <;> simp [bind, Except.bind, pure, Except.pure, throw,
        throwThe, MonadExceptOf.throw]

theorem decodePrefix_panics_iff (bytes : List UInt8) :
    (∃ cause, Value.decodePrefix bytes = .error (.panic cause)) ↔
      Panics (decodeValue bytes) := by
  unfold Panics Value.decodePrefix
  cases outcome : (decodeValue bytes).outcome with
  | error failure =>
      cases failure with
      | panic cause => simp
      | error failure => cases failure <;> simp
  | ok pair => simp

/-- Decoding neither panics nor requests a buffer that breaks the bound. -/
structure DecodesWithin
    (bound : BufferRequest → Prop) (bytes : List UInt8) : Prop where
  decode : ∀ cause, Value.decode bytes ≠ .error (.panic cause)
  decodePrefix : ∀ cause, Value.decodePrefix bytes ≠ .error (.panic cause)
  buffers : ∀ request ∈ Value.bufferRequests bytes, bound request

/-- A buffer has room for at most as many elements as bytes are unread. -/
def BufferRequest.ElementsUnread (request : BufferRequest) : Prop :=
  request.capacity ≤ request.unread

/-- A buffer spans at most as many bytes as are unread. -/
def BufferRequest.BytesUnread (request : BufferRequest) : Prop :=
  request.capacity * request.elementSize ≤ request.unread

/-- Decoding stays within a bound exactly when every declared length does and
none is refused by the allocator. -/
theorem decodesWithin_iff
    (bound : BufferRequest → Prop) (bytes : List UInt8) :
    DecodesWithin bound bytes ↔
      ∀ request, Declares bytes request →
        bound request ∧ request.Granted := by
  constructor
  · intro within request declares
    have safe : ¬ Panics (decodeValue bytes) := by
      intro panics
      obtain ⟨cause, panicked⟩ := (decode_panics_iff bytes).mpr panics
      exact within.decode cause panicked
    exact ⟨within.buffers request
        (mem_bufferRequests_of_declares declares safe),
      (safe_decodeValue_iff bytes).mp safe request declares⟩
  · intro declared
    have safe : ¬ Panics (decodeValue bytes) :=
      (safe_decodeValue_iff bytes).mpr fun request declares =>
        (declared request declares).2
    refine ⟨fun cause panicked => ?_, fun cause panicked => ?_, ?_⟩
    · exact safe ((decode_panics_iff bytes).mp ⟨cause, panicked⟩)
    · exact safe ((decodePrefix_panics_iff bytes).mp ⟨cause, panicked⟩)
    · intro request member
      exact (declared request (declares_of_mem_bufferRequests member)).1

/-- The decoder bounds its buffers by the unread input exactly where the input
declares no length that exceeds it, whether buffers are measured in elements
or in bytes. -/
theorem allocations_bounded_iff (bytes : List UInt8) :
    (DecodesWithin BufferRequest.ElementsUnread bytes ↔
      ∀ request, Declares bytes request →
        request.capacity ≤ request.unread ∧
          request.capacity * request.elementSize ≤ isizeMax) ∧
    (DecodesWithin BufferRequest.BytesUnread bytes ↔
      ∀ request, Declares bytes request →
        request.capacity * request.elementSize ≤ request.unread ∧
          request.capacity * request.elementSize ≤ isizeMax) :=
  ⟨decodesWithin_iff BufferRequest.ElementsUnread bytes,
    decodesWithin_iff BufferRequest.BytesUnread bytes⟩

/-- A head that declares `2 ^ 64 - 1` bytes panics, and one that declares a
megabyte allocates it, before any byte is read. -/
theorem allocations_not_bounded :
    ¬ DecodesWithin BufferRequest.ElementsUnread
        [0x5b, 0xff, 0xff, 0xff, 0xff, 0xff, 0xff, 0xff, 0xff] ∧
      ¬ DecodesWithin BufferRequest.ElementsUnread
        [0x5a, 0x00, 0x10, 0x00, 0x00] := by
  constructor
  · intro within
    exact within.decode .capacityOverflow rfl
  · intro within
    have requested : (⟨2 ^ 20, 1, 0⟩ : BufferRequest) ∈
        Value.bufferRequests [0x5a, 0x00, 0x10, 0x00, 0x00] :=
      List.mem_singleton.mpr rfl
    have bounded : 2 ^ 20 ≤ 0 := within.buffers _ requested
    exact absurd bounded (by decide)

end Daemon
end WhatsGoingOn
