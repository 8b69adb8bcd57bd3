import WhatsGoingOn.Daemon.CborBuffers
import WhatsGoingOn.Daemon.Wire

/-!
# Datagrams received by the host

A datagram comes from any peer, before or after authentication.  The host
answers a ping with a pong that carries the same id.  The decoder of the ping
id accepts every `u64`, but the encoder of the pong refuses ids above
`2 ^ 53 - 1`.
-/

namespace WhatsGoingOn
namespace Host

open Daemon

/-- `handle_wire_datagram`: the response to send, if any. -/
def handleWireDatagram (bytes : List UInt8) :
    Except Panic (Option (List UInt8)) :=
  match DatagramMessage.decode bytes with
  | .ok (.ping pingId) => do
      let response ← (DatagramMessage.pong pingId).encode
      pure (some response)
  | .ok (.pong _) => .ok none
  | .error (.error _) => .ok none
  | .error (.panic cause) => .error cause

/-! ## Decoded messages and the trees they come from -/

/-- The ping id of a message. -/
def pingIdOf : DatagramMessage → UInt64
  | .ping pingId => pingId
  | .pong pingId => pingId

/-- The variant id of a message. -/
def variantIdOf : DatagramMessage → UInt64
  | .ping _ => 1
  | .pong _ => 2

/-- A message is encoded exactly when its ping id is in range. -/
theorem encode_isOk_iff (message : DatagramMessage) :
    (∃ bytes, message.encode = .ok bytes) ↔
      (pingIdOf message).toNat ≤ maxU53 := by
  cases message with
  | ping pingId | pong pingId =>
      by_cases large : maxU53 < pingId.toNat
      · simp [DatagramMessage.encode, DatagramMessage.encodeValue, encodeU53,
          pingIdOf, large, bind, Except.bind]
      · simp [DatagramMessage.encode, DatagramMessage.encodeValue, encodeU53,
          pingIdOf, large, bind, Except.bind, pure, Except.pure,
          not_lt.mp large]

/-- On the wire only an unsigned integer reads as one. -/
theorem expectU64_sorted
    {tree : Value} {number : UInt64}
    (wire : tree.Wire) :
    expectU64 tree.sorted = .ok number ↔ tree = .u64 number := by
  cases tree with
  | array items => simp [expectU64]
  | map entries => simp [expectU64]
  | i64 value =>
      have negative : value.toInt < 0 := wire.self.2.2
      change expectU64 (.i64 value) = .ok number ↔ _
      simp [expectU64, not_le.mpr negative]
  | u64 value =>
      change expectU64 (.u64 value) = .ok number ↔ _
      simp [expectU64]
  | null | bool | f64 | bytes | text => simp [expectU64, Value.sorted,
      Value.fold]

/-- Sorting the entries of a tree sorts the values that lookups find. -/
theorem lookup_sorted
    {entries : List (UInt64 × Value)}
    (distinct : (SortedMap.keys entries).Nodup)
    (key : UInt64) :
    (SortedMap.insertAll
      (entries.map fun entry => (entry.1, entry.2.sorted)) []).lookup key =
      (entries.lookup key).map Value.sorted := by
  have sortedDistinct : (SortedMap.keys
      (entries.map fun entry => (entry.1, entry.2.sorted))).Nodup := by
    simpa using distinct
  rw [← SortedMap.lookup_map]
  exact (SortedMap.lookup_of_perm
    (SortedMap.perm_sort sortedDistinct).symm sortedDistinct key).symm

/-- The tree of a datagram whose ping id exceeds `2 ^ 53 - 1`. -/
def Oversized (tree : Value) : Prop :=
  ∃ (variantId pingId : UInt64) (fields : List (UInt64 × Value)),
    tree = .array [.u64 variantId, .map fields] ∧
      (variantId = 1 ∨ variantId = 2) ∧
      (1, .u64 pingId) ∈ fields ∧ maxU53 < pingId.toNat

/-- What the generated decoder accepts. -/
theorem decodeValue_eq_ok {value : Value} {message : DatagramMessage} :
    DatagramMessage.decodeValue value = .ok message ↔
      ∃ (kind : Value) (fields : List (UInt64 × Value)),
        value = .array [kind, .map fields] ∧
        expectU64 kind = .ok (variantIdOf message) ∧
        fieldOrDefault (fields.lookup 1) expectU64 0 =
          .ok (pingIdOf message) := by
  constructor
  · intro decoded
    unfold DatagramMessage.decodeValue at decoded
    cases union : expectUnion value with
    | error failure => simp [union, bind, Except.bind] at decoded
    | ok pair =>
        obtain ⟨variantId, fields⟩ := pair
        obtain ⟨kind, rfl, number⟩ := expectUnion_eq_ok.mp union
        refine ⟨kind, fields, rfl, ?_⟩
        rw [union] at decoded
        simp only [bind, Except.bind] at decoded
        cases field : fieldOrDefault (fields.lookup 1) expectU64 0 with
        | error failure =>
            rw [field] at decoded
            split at decoded <;> cases decoded
        | ok pingId =>
            rw [field] at decoded
            split at decoded
            · cases decoded
              exact ⟨number, rfl⟩
            · cases decoded
              exact ⟨number, rfl⟩
            · cases decoded
  · rintro ⟨kind, fields, rfl, number, field⟩
    have union : expectUnion (.array [kind, .map fields]) =
        .ok (variantIdOf message, fields) :=
      expectUnion_eq_ok.mpr ⟨kind, rfl, number⟩
    unfold DatagramMessage.decodeValue
    rw [union]
    cases message <;>
      simp_all [variantIdOf, pingIdOf, bind, Except.bind, pure, Except.pure]

/-- The ping id is out of range exactly when the tree on the wire says so. -/
theorem exists_large_iff_oversized
    {tree : Value}
    (wire : tree.Wire) :
    (∃ message, DatagramMessage.decodeValue tree.sorted = .ok message ∧
        maxU53 < (pingIdOf message).toNat) ↔
      Oversized tree := by
  constructor
  · rintro ⟨message, decoded, large⟩
    obtain ⟨kind, fields, shape, number, field⟩ :=
      decodeValue_eq_ok.mp decoded
    cases tree with
    | array items =>
        rw [Value.sorted_array] at shape
        injection shape with itemsShape
        obtain ⟨kindTree, others, rfl, rfl, othersShape⟩ :=
          List.map_eq_cons_iff.mp itemsShape
        obtain ⟨fieldsTree, rfl, fieldsShape⟩ :=
          List.map_eq_singleton_iff.mp othersShape
        obtain ⟨entries, rfl, rfl⟩ := eq_map_of_sorted fieldsShape
        have kindWire : kindTree.Wire := wire.item (by simp)
        have fieldsWire : (Value.map entries).Wire := wire.item (by simp)
        obtain rfl := (expectU64_sorted kindWire).mp number
        rw [lookup_sorted fieldsWire.self.2.1] at field
        cases found : entries.lookup 1 with
        | none =>
            rw [found] at field
            simp only [Option.map_none, fieldOrDefault, Except.ok.injEq]
              at field
            rw [← field] at large
            exact absurd large (by decide)
        | some idTree =>
            rw [found] at field
            have member := SortedMap.mem_of_lookup found
            have idWire : idTree.Wire := fieldsWire.entry member
            obtain rfl := (expectU64_sorted idWire).mp field
            refine ⟨_, _, entries, rfl, ?_, member, large⟩
            cases message
            · exact .inl rfl
            · exact .inr rfl
    | map entries =>
        rw [Value.sorted_map] at shape
        cases shape
    | null | bool | u64 | i64 | f64 | bytes | text => cases shape
  · rintro ⟨variantId, pingId, entries, rfl, isMessage, member, large⟩
    have fieldsWire : (Value.map entries).Wire := wire.item (by simp)
    have distinct : (SortedMap.keys entries).Nodup := fieldsWire.self.2.1
    have field : fieldOrDefault
        ((SortedMap.insertAll (entries.map fun entry =>
          (entry.1, entry.2.sorted)) []).lookup 1) expectU64 0 =
        .ok pingId := by
      rw [lookup_sorted distinct, SortedMap.lookup_of_mem distinct member]
      rfl
    rw [Value.sorted_array, List.map_cons, List.map_singleton,
      Value.sorted_map]
    rcases isMessage with rfl | rfl
    · exact ⟨.ping pingId,
        decodeValue_eq_ok.mpr ⟨_, _, rfl, rfl, field⟩, large⟩
    · exact ⟨.pong pingId,
        decodeValue_eq_ok.mpr ⟨_, _, rfl, rfl, field⟩, large⟩

/-! ## What the host promises for a datagram -/

/-- A ping is answered with the pong of the same id, everything else is
ignored, and every decoded message can be encoded again. -/
structure Handled (bytes : List UInt8) : Prop where
  ping : ∀ pingId, DatagramMessage.decode bytes = .ok (.ping pingId) →
    ∃ response, (DatagramMessage.pong pingId).encode = .ok response ∧
      handleWireDatagram bytes = .ok (some response)
  other : (∀ pingId, DatagramMessage.decode bytes ≠ .ok (.ping pingId)) →
    handleWireDatagram bytes = .ok none
  encodable : ∀ message, DatagramMessage.decode bytes = .ok message →
    ∃ encoded, message.encode = .ok encoded

/-- A datagram is decoded from the bytes that spell its value. -/
theorem decode_eq_ok_iff
    {bytes : List UInt8} {message : DatagramMessage} :
    DatagramMessage.decode bytes = .ok message ↔
      ∃ tree : Value, Spells tree bytes ∧
        DatagramMessage.decodeValue tree.sorted = .ok message := by
  unfold DatagramMessage.decode
  constructor
  · intro decoded
    cases outcome : Value.decode bytes with
    | error fault => simp [outcome] at decoded
    | ok value =>
        obtain ⟨tree, spells, rfl⟩ := Daemon.decode_eq_ok_iff.mp outcome
        refine ⟨tree, spells, ?_⟩
        rw [outcome] at decoded
        dsimp only at decoded
        split at decoded
        · rename_i found same
          cases decoded
          exact same
        · cases decoded
  · rintro ⟨tree, spells, decoded⟩
    have outcome := Daemon.decode_eq_ok_iff.mpr ⟨tree, spells, rfl⟩
    simp [outcome, decoded]

/-- Every decoded message is in range exactly when no tree of the datagram is
oversized. -/
theorem inRange_iff (bytes : List UInt8) :
    (∀ message, DatagramMessage.decode bytes = .ok message →
        (pingIdOf message).toNat ≤ maxU53) ↔
      ∀ tree, Spells tree bytes → ¬ Oversized tree := by
  constructor
  · intro inRange tree spells oversized
    obtain ⟨message, decoded, large⟩ :=
      (exists_large_iff_oversized spells.1).mpr oversized
    exact absurd (inRange message (decode_eq_ok_iff.mpr
      ⟨tree, spells, decoded⟩)) (not_le.mpr large)
  · intro fits message decoded
    obtain ⟨tree, spells, decodedTree⟩ := decode_eq_ok_iff.mp decoded
    by_contra large
    exact fits tree spells ((exists_large_iff_oversized spells.1).mp
      ⟨message, decodedTree, not_le.mp large⟩)

theorem decode_panic_iff (bytes : List UInt8) :
    (∃ cause, DatagramMessage.decode bytes = .error (.panic cause)) ↔
      Panics (decodeValue bytes) := by
  rw [← decode_panics_iff]
  unfold DatagramMessage.decode
  cases outcome : Value.decode bytes with
  | error fault => cases fault <;> simp [Fault.ofCbor]
  | ok value =>
      cases decoded : DatagramMessage.decodeValue value <;> simp [decoded]

/-- The host keeps its promise exactly for the datagrams that declare no
length the allocator refuses and carry no oversized ping id. -/
theorem handled_iff (bytes : List UInt8) :
    Handled bytes ↔
      (∀ request, Declares bytes request →
        request.capacity * request.elementSize ≤ isizeMax) ∧
        ∀ tree, Spells tree bytes → ¬ Oversized tree := by
  have refused : (∀ request, Declares bytes request →
        request.capacity * request.elementSize ≤ isizeMax) ↔
      ¬ ∃ cause, DatagramMessage.decode bytes = .error (.panic cause) := by
    rw [decode_panic_iff]
    exact (safe_decodeValue_iff bytes).symm
  rw [refused, ← inRange_iff]
  constructor
  · intro handled
    refine ⟨?_, fun message decoded => ?_⟩
    · rintro ⟨cause, panicked⟩
      have ignored := handled.other (by simp [panicked])
      rw [handleWireDatagram, panicked] at ignored
      cases ignored
    · exact (encode_isOk_iff message).mp (handled.encodable message decoded)
  · rintro ⟨safe, inRange⟩
    refine ⟨fun pingId decoded => ?_, fun notPing => ?_,
      fun message decoded => ?_⟩
    · obtain ⟨response, encoded⟩ :=
        (encode_isOk_iff (.pong pingId)).mpr
          (inRange (.ping pingId) decoded)
      refine ⟨response, encoded, ?_⟩
      simp [handleWireDatagram, decoded, encoded, bind, Except.bind, pure,
        Except.pure]
    · unfold handleWireDatagram
      split
      · rename_i pingId decoded
        exact absurd decoded (notPing pingId)
      · rfl
      · rfl
      · rename_i cause panicked
        exact absurd ⟨cause, panicked⟩ safe
    · exact (encode_isOk_iff message).mpr (inRange message decoded)

/-- A ping with id `2 ^ 53` makes the host panic. -/
theorem not_handled_large_ping :
    ¬ Handled [0x82, 0x01, 0xa1, 0x01,
      0x1b, 0x00, 0x20, 0x00, 0x00, 0x00, 0x00, 0x00, 0x00] := by
  intro handled
  have decoded : DatagramMessage.decode [0x82, 0x01, 0xa1, 0x01,
      0x1b, 0x00, 0x20, 0x00, 0x00, 0x00, 0x00, 0x00, 0x00] =
        .ok (.ping 9007199254740992) := by
    rfl
  obtain ⟨response, encoded, _⟩ := handled.ping _ decoded
  have refused : (DatagramMessage.pong 9007199254740992).encode =
      .error (.expect "generated datagram message failed to encode") := by
    rfl
  rw [refused] at encoded
  cases encoded

end Host
end WhatsGoingOn
