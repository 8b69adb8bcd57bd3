import WhatsGoingOn.Daemon.Cbor

/-!
# Round trips of the daemon's CBOR codec

The decoder accepts exactly the encodings of wire trees: trees whose maps list
distinct keys, in any order.  Its result is the tree with sorted maps.
-/

namespace WhatsGoingOn
namespace Daemon

/-! ## Heads -/

/-- An initial byte is its major type and its additional bits. -/
theorem initial_split (initial : UInt8) :
    (initial >>> 5) <<< 5 ||| (initial &&& 0x1f) = initial := by
  have everyByte : ∀ byte : Fin 256,
      (UInt8.ofNat byte >>> 5) <<< 5 ||| (UInt8.ofNat byte &&& 0x1f) =
        UInt8.ofNat byte := by
    decide +kernel
  simpa using everyByte ⟨initial.toNat, initial.toNat_lt⟩

/-- Major type and additional bits of an initial byte. -/
theorem initial_parts
    (major additional : UInt8)
    (isMajor : major.toNat < 8)
    (isAdditional : additional.toNat < 32) :
    (major <<< 5 ||| additional) >>> 5 = major ∧
      (major <<< 5 ||| additional) &&& 0x1f = additional := by
  have everyPair : ∀ (left : Fin 8) (right : Fin 32),
      (UInt8.ofNat left <<< 5 ||| UInt8.ofNat right) >>> 5 =
          UInt8.ofNat left ∧
        (UInt8.ofNat left <<< 5 ||| UInt8.ofNat right) &&& 0x1f =
          UInt8.ofNat right := by
    decide
  simpa using everyPair ⟨major.toNat, isMajor⟩ ⟨additional.toNat, isAdditional⟩

/-- A number that needs the width is read back from it. -/
theorem readArgument_bigEndian
    {width narrower : Nat} {value : UInt64}
    (wide : narrower < value.toNat)
    (fits : value.toNat < 256 ^ width)
    (rest : List UInt8) :
    readArgument width narrower
        (Bytes.bigEndian width value.toNat ++ rest) =
      ⟨[], .ok (value, rest)⟩ := by
  have taken : readExact width (Bytes.bigEndian width value.toNat ++ rest) =
      ⟨[], .ok (Bytes.bigEndian width value.toNat, rest)⟩ :=
    Reader.take_append ending (Bytes.length_bigEndian ..) rest
  unfold readArgument
  rw [Reader.bind_of_ok (by rw [taken])]
  simp only [taken, Bytes.ofBigEndian_bigEndian _ _ fits,
    UInt64.ofNat_toNat, if_neg (not_le.mpr wide), Reader.pure_apply,
    List.append_nil]

/-- A number that was read from a width needs that width. -/
theorem readArgument_sound
    {width narrower : Nat} {bytes rest : List UInt8} {value : UInt64}
    (narrow : width ≤ 8)
    (read : (readArgument width narrower bytes).outcome =
      .ok (value, rest)) :
    narrower < value.toNat ∧ value.toNat < 256 ^ width ∧
      bytes = Bytes.bigEndian width value.toNat ++ rest := by
  obtain ⟨front, middle, taken, returned⟩ := Reader.bind_eq_ok.mp read
  obtain ⟨length, rfl⟩ := Reader.take_eq_ok.mp taken
  have bound : Bytes.ofBigEndian front < 256 ^ width := by
    rw [← length]
    exact Bytes.ofBigEndian_lt front
  have fitsWord : Bytes.ofBigEndian front < 2 ^ 64 :=
    calc
      Bytes.ofBigEndian front < 256 ^ width := bound
      _ ≤ 256 ^ 8 := Nat.pow_le_pow_right (by norm_num) narrow
      _ = 2 ^ 64 := by norm_num
  have number := UInt64.toNat_ofNat_of_lt' fitsWord
  split at returned
  · cases returned
  · rename_i wide
    simp only [Reader.pure_apply, Except.ok.injEq, Prod.mk.injEq] at returned
    rw [← returned.1, ← returned.2, number]
    rw [number] at wide
    refine ⟨not_le.mp wide, bound, ?_⟩
    rw [← length, Bytes.bigEndian_ofBigEndian]

/-- A head whose argument follows the initial byte is read back. -/
theorem decodeArgument_of_form
    {major additional : UInt8} {width narrower : Nat} {value : UInt64}
    (isMajor : major.toNat < 8)
    (isAdditional : additional.toNat < 32)
    (form : decodeArgument additional = readArgument width narrower)
    (wide : narrower < value.toNat)
    (fits : value.toNat < 256 ^ width) :
    ∃ initial payload,
      (major <<< 5 ||| additional) :: Bytes.bigEndian width value.toNat =
          initial :: payload ∧
        initial >>> 5 = major ∧
        ∀ rest, decodeArgument (initial &&& 0x1f) (payload ++ rest) =
          ⟨[], .ok (value, rest)⟩ := by
  obtain ⟨shifted, masked⟩ :=
    initial_parts major additional isMajor isAdditional
  refine ⟨_, _, rfl, shifted, fun rest => ?_⟩
  rw [masked, form]
  exact readArgument_bigEndian wide fits rest

/-- The decoder reads back every head that the encoder writes. -/
theorem decodeArgument_encodeTypeValue
    (major : UInt8) (value : UInt64)
    (isMajor : major.toNat < 8) :
    ∃ initial payload,
      encodeTypeValue major value = initial :: payload ∧
        initial >>> 5 = major ∧
        ∀ rest, decodeArgument (initial &&& 0x1f) (payload ++ rest) =
          ⟨[], .ok (value, rest)⟩ := by
  have valueBound := value.toNat_lt
  unfold encodeTypeValue
  dsimp only
  split
  · rename_i direct
    have byte : value.toUInt8.toNat = value.toNat := by
      rw [UInt64.toNat_toUInt8]
      omega
    have small : value.toUInt8 ≤ 23 := by
      rw [UInt8.le_iff_toNat_le, byte]
      exact Nat.le_of_lt_succ direct
    have same : value.toUInt8.toUInt64 = value := by
      apply UInt64.toNat_inj.mp
      rw [UInt8.toNat_toUInt64, byte]
    obtain ⟨shifted, masked⟩ :=
      initial_parts major value.toUInt8 isMajor (by omega)
    refine ⟨_, [], rfl, shifted, fun rest => ?_⟩
    unfold decodeArgument
    rw [masked, if_pos small, same]
    rfl
  · split
    · exact decodeArgument_of_form isMajor (by decide) rfl
        (by omega) (by omega)
    · split
      · exact decodeArgument_of_form isMajor (by decide) rfl
          (by omega) (by omega)
      · split
        · exact decodeArgument_of_form isMajor (by decide) rfl
            (by omega) (by omega)
        · exact decodeArgument_of_form isMajor (by decide) rfl
            (by omega) (by omega)

/-- Every head that the decoder accepts is the one the encoder writes. -/
theorem encodeTypeValue_of_decodeArgument
    (major : UInt8)
    {additional : UInt8} {bytes rest : List UInt8} {value : UInt64}
    (read : (decodeArgument additional bytes).outcome =
      .ok (value, rest)) :
    (major <<< 5 ||| additional) :: bytes =
      encodeTypeValue major value ++ rest := by
  unfold decodeArgument at read
  unfold encodeTypeValue
  dsimp only
  split at read
  · rename_i small
    rw [UInt8.le_iff_toNat_le] at small
    simp only [Reader.pure_apply, Except.ok.injEq, Prod.mk.injEq] at read
    have direct : value.toNat < 24 := by
      rw [← read.1, UInt8.toNat_toUInt64]
      exact Nat.lt_succ_of_le small
    rw [if_pos direct, ← read.1, ← read.2, UInt8.toUInt8_toUInt64]
    rfl
  · split at read
    · obtain ⟨wide, fits, rfl⟩ := readArgument_sound (by decide) read
      rw [if_neg (by omega), if_pos (by omega)]
      rfl
    · obtain ⟨wide, fits, rfl⟩ := readArgument_sound (by decide) read
      rw [if_neg (by omega), if_neg (by omega), if_pos (by omega)]
      rfl
    · obtain ⟨wide, fits, rfl⟩ := readArgument_sound (by decide) read
      rw [if_neg (by omega), if_neg (by omega), if_neg (by omega),
        if_pos (by omega)]
      rfl
    · obtain ⟨wide, fits, rfl⟩ := readArgument_sound (by decide) read
      rw [if_neg (by omega), if_neg (by omega), if_neg (by omega),
        if_neg (by omega)]
      rfl
    · cases read

/-! ## Decoding what was encoded -/

theorem decodeValue_cons (initial : UInt8) (rest : List UInt8) :
    decodeValue (initial :: rest) =
      decodeMajor decodeValue (initial >>> 5) (initial &&& 0x1f) rest := by
  have equation := congrFun decodeValue_eq (initial :: rest)
  have first : (readU8 (initial :: rest)).outcome = .ok (initial, rest) := rfl
  rwa [Reader.bind_of_ok first] at equation

/-- After a head the decoder is left with the argument and the bytes that
follow. -/
theorem decodeValue_head
    (major : UInt8) (argument : UInt64)
    (isMajor : major.toNat < 8) :
    ∃ additional payload,
      (∀ rest, decodeValue (encodeTypeValue major argument ++ rest) =
        decodeMajor decodeValue major additional (payload ++ rest)) ∧
      ∀ rest, decodeArgument additional (payload ++ rest) =
        ⟨[], .ok (argument, rest)⟩ := by
  obtain ⟨initial, payload, head, shifted, read⟩ :=
    decodeArgument_encodeTypeValue major argument isMajor
  refine ⟨initial &&& 0x1f, payload, fun rest => ?_, read⟩
  rw [head, List.cons_append, decodeValue_cons, shifted]

@[simp] theorem checkedLen_apply (length : UInt64) (bytes : List UInt8) :
    checkedLen length bytes = ⟨[], .ok (length.toNat, bytes)⟩ := by
  have bound := length.toNat_lt
  have fits : length.toNat ≤ usizeMax := by
    unfold usizeMax
    omega
  rw [checkedLen, if_pos fits]
  rfl

theorem allocate_of_granted
    {capacity elementSize : Nat}
    (granted : capacity * elementSize ≤ isizeMax)
    (bytes : List UInt8) :
    (allocate capacity elementSize bytes).outcome = .ok ((), bytes) := by
  simp [allocate, Reader.request_apply, granted]

/-- Keys are read back. -/
theorem decodeValue_key (key : UInt64) (rest : List UInt8) :
    (decodeValue (encodeTypeValue 0 key ++ rest)).outcome =
      .ok (.u64 key, rest) := by
  obtain ⟨additional, payload, decoded, read⟩ :=
    decodeValue_head 0 key (by decide)
  rw [decoded]
  exact Reader.bind_eq_ok.mpr ⟨key, rest, by rw [read], rfl⟩

/-- A payload is read back behind a head with its length. -/
theorem readPayload_of_argument
    {additional : UInt8} {front payload rest : List UInt8}
    (read : decodeArgument additional front =
      ⟨[], .ok (UInt64.ofNat payload.length, payload ++ rest)⟩)
    (small : payload.length ≤ isizeMax) :
    (readPayload additional front).outcome = .ok (payload, rest) := by
  have fitsWord : payload.length < 2 ^ 64 := by
    unfold isizeMax at small
    omega
  have length := UInt64.toNat_ofNat_of_lt' fitsWord
  refine Reader.bind_eq_ok.mpr ⟨_, _, by rw [read], ?_⟩
  refine Reader.bind_eq_ok.mpr ⟨_, _, by rw [checkedLen_apply], ?_⟩
  refine Reader.bind_eq_ok.mpr
    ⟨(), _, allocate_of_granted (by omega) _, ?_⟩
  exact Reader.take_eq_ok.mpr ⟨length.symm, rfl⟩

/-- A value is read back, whatever follows its bytes. -/
def ReadBack (tree : Value) : Prop :=
  ∀ rest, (decodeValue (encodeValue tree ++ rest)).outcome =
    .ok (tree.sorted, rest)

/-- The item loop passes over items that are read back. -/
theorem decodeItems_continues
    (items : List Value)
    (readBack : ∀ item ∈ items, ReadBack item)
    {count : Nat}
    (enough : items.length ≤ count)
    (done : List Value) (rest : List UInt8) :
    Reader.ContinuesAs
      (Reader.loop (decodeItem decodeValue) count done
        (encodeItems items ++ rest))
      (Reader.loop (decodeItem decodeValue) (count - items.length)
        (done ++ items.map Value.sorted) rest) := by
  induction items generalizing count done with
  | nil => simpa [encodeItems] using Reader.ContinuesAs.refl _
  | cons item items inductionHypothesis =>
      obtain ⟨count, rfl⟩ : ∃ previous, count = previous + 1 :=
        Nat.exists_eq_add_of_lt (Nat.lt_of_lt_of_le (Nat.succ_pos _) enough)
          |>.imp fun _ same => by omega
      have read :
          (decodeItem decodeValue done
            (encodeItems (item :: items) ++ rest)).outcome =
            .ok (done ++ [item.sorted], encodeItems items ++ rest) := by
        rw [encodeItems, List.append_assoc]
        exact Reader.bind_eq_ok.mpr
          ⟨_, _, readBack item List.mem_cons_self _, rfl⟩
      have tail := inductionHypothesis
        (fun part member => readBack part (List.mem_cons_of_mem _ member))
        (Nat.le_of_succ_le_succ enough) (done ++ [item.sorted])
      rw [Reader.loop_succ]
      refine (Reader.ContinuesAs.bind read _).trans ?_
      simpa using tail

/-- The entry loop passes over entries with new keys. -/
theorem decodeEntries_continues
    (entries : List (UInt64 × Value))
    (readBack : ∀ entry ∈ entries, ReadBack entry.2)
    {count : Nat}
    (enough : entries.length ≤ count)
    (map : List (UInt64 × Value))
    (fresh : SortedMap.Fresh entries map)
    (rest : List UInt8) :
    Reader.ContinuesAs
      (Reader.loop (decodeEntry decodeValue) count map
        (encodeEntries entries ++ rest))
      (Reader.loop (decodeEntry decodeValue) (count - entries.length)
        (SortedMap.insertAll
          (entries.map fun entry => (entry.1, entry.2.sorted)) map)
        rest) := by
  induction entries generalizing count map with
  | nil => simpa [encodeEntries] using Reader.ContinuesAs.refl _
  | cons entry entries inductionHypothesis =>
      obtain ⟨key, value⟩ := entry
      obtain ⟨count, rfl⟩ : ∃ previous, count = previous + 1 :=
        Nat.exists_eq_add_of_lt (Nat.lt_of_lt_of_le (Nat.succ_pos _) enough)
          |>.imp fun _ same => by omega
      obtain ⟨keyAbsent, stillFresh⟩ :=
        (SortedMap.fresh_cons (key, value) entries value.sorted map).mp fresh
      have notFound : ¬ (map.lookup key).isSome := by
        rw [SortedMap.lookup_isSome_iff]
        exact keyAbsent
      have read :
          (decodeEntry decodeValue map
            (encodeEntries ((key, value) :: entries) ++ rest)).outcome =
            .ok (SortedMap.insert key value.sorted map,
              encodeEntries entries ++ rest) := by
        rw [encodeEntries, List.append_assoc, List.append_assoc]
        refine Reader.bind_eq_ok.mpr ⟨_, _, decodeValue_key key _, ?_⟩
        refine Reader.bind_eq_ok.mpr
          ⟨_, _, readBack (key, value) List.mem_cons_self _, ?_⟩
        rw [if_neg notFound]
        rfl
      have tail := inductionHypothesis
        (fun part member => readBack part (List.mem_cons_of_mem _ member))
        (Nat.le_of_succ_le_succ enough) _ stillFresh
      rw [Reader.loop_succ]
      refine (Reader.ContinuesAs.bind read _).trans ?_
      simpa using tail

/-- The decoder reads back every tree of the wire, with sorted maps. -/
theorem Value.Wire.readBack {tree : Value}
    (wire : tree.Wire) : ReadBack tree := by
  induction tree using Value.induct with
  | null =>
      intro rest
      exact congrArg ReadResult.outcome (decodeValue_cons 0xf6 rest)
  | bool value =>
      intro rest
      cases value
      · exact congrArg ReadResult.outcome (decodeValue_cons 0xf4 rest)
      · exact congrArg ReadResult.outcome (decodeValue_cons 0xf5 rest)
  | u64 value => exact decodeValue_key value
  | i64 value =>
      intro rest
      have negative : value.toInt < 0 := wire.self.2.2
      have bound := value.le_toInt
      have fitsWord : (-1 - value.toInt).toNat < 2 ^ 64 := by omega
      have number := UInt64.toNat_ofNat_of_lt' fitsWord
      obtain ⟨additional, payload, decoded, read⟩ := decodeValue_head 1
        (UInt64.ofNat (-1 - value.toInt).toNat) (by decide)
      rw [encodeValue, if_neg (not_le.mpr negative), decoded]
      refine Reader.bind_eq_ok.mpr ⟨_, rest, by rw [read], ?_⟩
      have small : ¬ i64Max < (UInt64.ofNat (-1 - value.toInt).toNat).toNat := by
        rw [number, i64Max]
        omega
      have same : Int64.ofInt
          (-1 - ((UInt64.ofNat (-1 - value.toInt).toNat).toNat : Int)) =
            value := by
        rw [number, Int.toNat_of_nonneg (by omega), Int.sub_sub_self,
          Int64.ofInt_toInt]
      rw [if_neg small, same]
      rfl
  | f64 bits =>
      intro rest
      have taken : (readExact 8 (Bytes.bigEndian 8 bits.toNat ++ rest)).outcome =
          .ok (Bytes.bigEndian 8 bits.toNat, rest) :=
        Reader.take_eq_ok.mpr ⟨Bytes.length_bigEndian .., rfl⟩
      rw [encodeValue, List.cons_append, decodeValue_cons]
      refine Reader.bind_eq_ok.mpr ⟨_, _, taken, ?_⟩
      rw [Bytes.ofBigEndian_bigEndian _ _ bits.toNat_lt, UInt64.ofNat_toNat]
      rfl
  | bytes payload =>
      intro rest
      obtain ⟨additional, front, decoded, read⟩ := decodeValue_head 2
        (UInt64.ofNat payload.length) (by decide)
      rw [encodeValue, List.append_assoc, decoded]
      exact Reader.bind_eq_ok.mpr
        ⟨payload, rest, readPayload_of_argument (read _) wire.self.1, rfl⟩
  | text content =>
      intro rest
      obtain ⟨additional, front, decoded, read⟩ := decodeValue_head 3
        (UInt64.ofNat (Bytes.utf8 content).length) (by decide)
      rw [encodeValue, List.append_assoc, decoded]
      refine Reader.bind_eq_ok.mpr
        ⟨_, rest, readPayload_of_argument (read _) wire.self.1, ?_⟩
      rw [Bytes.ofUtf8_utf8]
      rfl
  | array items inductionHypothesis =>
      intro rest
      have size : items.length * valueSize ≤ isizeMax := wire.self.1
      have fitsWord : items.length < 2 ^ 64 := by
        unfold valueSize isizeMax at size
        omega
      have length := UInt64.toNat_ofNat_of_lt' fitsWord
      obtain ⟨additional, front, decoded, read⟩ := decodeValue_head 4
        (UInt64.ofNat items.length) (by decide)
      have loop := (decodeItems_continues items
        (fun item member => inductionHypothesis item member
          (wire.item member)) (Nat.le_refl _) [] rest).outcome
      rw [Nat.sub_self] at loop
      rw [encodeValue, List.append_assoc, decoded]
      refine Reader.bind_eq_ok.mpr ⟨_, _, by rw [read], ?_⟩
      refine Reader.bind_eq_ok.mpr ⟨_, _, by rw [checkedLen_apply], ?_⟩
      rw [length]
      refine Reader.bind_eq_ok.mpr ⟨(), _, allocate_of_granted size _, ?_⟩
      refine Reader.bind_eq_ok.mpr ⟨_, rest, loop, ?_⟩
      rw [Value.sorted_array]
      rfl
  | map entries inductionHypothesis =>
      intro rest
      have size : entries.length ≤ usizeMax := wire.self.1
      have distinct : (SortedMap.keys entries).Nodup := wire.self.2.1
      have fitsWord : entries.length < 2 ^ 64 := by
        unfold usizeMax at size
        omega
      have length := UInt64.toNat_ofNat_of_lt' fitsWord
      obtain ⟨additional, front, decoded, read⟩ := decodeValue_head 5
        (UInt64.ofNat entries.length) (by decide)
      have loop := (decodeEntries_continues entries
        (fun entry member => inductionHypothesis entry member
          (wire.entry member)) (Nat.le_refl _) []
        ((SortedMap.fresh_empty entries).mpr distinct) rest).outcome
      rw [Nat.sub_self] at loop
      rw [encodeValue, List.append_assoc, decoded]
      refine Reader.bind_eq_ok.mpr ⟨_, _, by rw [read], ?_⟩
      refine Reader.bind_eq_ok.mpr ⟨_, _, by rw [checkedLen_apply], ?_⟩
      rw [length]
      refine Reader.bind_eq_ok.mpr ⟨_, rest, loop, ?_⟩
      rw [Value.sorted_map]
      rfl

/-! ## Encoding what was decoded -/

/-- Whatever the decoder accepts is the encoding of a tree of the wire, and
its value is that tree with sorted maps. -/
def SoundDecoder (decode : Decoder Value) : Prop :=
  ∀ bytes value rest, (decode bytes).outcome = .ok (value, rest) →
    ∃ tree : Value, tree.Wire ∧ bytes = encodeValue tree ++ rest ∧
      tree.sorted = value

/-- Only a key sorts to a key. -/
theorem eq_u64_of_sorted
    {tree : Value} {key : UInt64}
    (sorted : tree.sorted = .u64 key) : tree = .u64 key := by
  cases tree with
  | array items =>
      rw [Value.sorted_array] at sorted
      cases sorted
  | map entries =>
      rw [Value.sorted_map] at sorted
      cases sorted
  | null | bool | u64 | i64 | f64 | bytes | text => exact sorted

/-- Only a map sorts to a map. -/
theorem eq_map_of_sorted
    {tree : Value} {fields : List (UInt64 × Value)}
    (sorted : tree.sorted = .map fields) :
    ∃ entries, tree = .map entries ∧
      fields = SortedMap.insertAll
        (entries.map fun entry => (entry.1, entry.2.sorted)) [] := by
  cases tree with
  | array items =>
      rw [Value.sorted_array] at sorted
      cases sorted
  | map entries =>
      rw [Value.sorted_map] at sorted
      cases sorted
      exact ⟨entries, rfl, rfl⟩
  | null | bool | u64 | i64 | f64 | bytes | text => cases sorted

/-- Items that were decoded were written one after the other. -/
theorem decodeItems_sound
    {decode : Decoder Value}
    (sound : SoundDecoder decode)
    {count : Nat} {done items : List Value} {bytes rest : List UInt8}
    (decoded : (Reader.loop (decodeItem decode) count done bytes).outcome =
      .ok (items, rest)) :
    ∃ trees : List Value, trees.length = count ∧
      (∀ tree ∈ trees, tree.Wire) ∧
      bytes = encodeItems trees ++ rest ∧
      items = done ++ trees.map Value.sorted := by
  induction count generalizing done bytes with
  | zero =>
      rw [Reader.loop_zero, Reader.pure_apply] at decoded
      simp only [Except.ok.injEq, Prod.mk.injEq] at decoded
      exact ⟨[], rfl, by simp, by simp [encodeItems, decoded.2],
        by simp [decoded.1]⟩
  | succ count inductionHypothesis =>
      rw [Reader.loop_succ] at decoded
      obtain ⟨next, middle, pushed, remaining⟩ := Reader.bind_eq_ok.mp decoded
      obtain ⟨item, after, read, returned⟩ := Reader.bind_eq_ok.mp pushed
      simp only [Reader.pure_apply, Except.ok.injEq, Prod.mk.injEq]
        at returned
      obtain ⟨rfl, rfl⟩ := returned
      obtain ⟨tree, wire, rfl, rfl⟩ := sound bytes item after read
      obtain ⟨trees, length, wires, rfl, rfl⟩ := inductionHypothesis remaining
      refine ⟨tree :: trees, by simp [length], ?_, ?_, ?_⟩
      · exact List.forall_mem_cons.mpr ⟨wire, wires⟩
      · rw [encodeItems, List.append_assoc]
      · simp

/-- One step of the entry loop reads a new key and its value. -/
theorem decodeEntry_sound
    {decode : Decoder Value}
    (sound : SoundDecoder decode)
    {map next : List (UInt64 × Value)} {bytes rest : List UInt8}
    (decoded : (decodeEntry decode map bytes).outcome = .ok (next, rest)) :
    ∃ (key : UInt64) (tree : Value), tree.Wire ∧
      key ∉ SortedMap.keys map ∧
      bytes = encodeTypeValue 0 key ++ encodeValue tree ++ rest ∧
      next = SortedMap.insert key tree.sorted map := by
  obtain ⟨first, middle, readKey, continued⟩ := Reader.bind_eq_ok.mp decoded
  obtain ⟨keyTree, _, rfl, sorted⟩ := sound bytes first middle readKey
  split at continued
  · rename_i key
    obtain rfl := eq_u64_of_sorted sorted
    obtain ⟨value, after, readValue, inserted⟩ :=
      Reader.bind_eq_ok.mp continued
    obtain ⟨tree, wire, rfl, rfl⟩ := sound middle value after readValue
    split at inserted
    · cases inserted
    · rename_i absent
      simp only [Reader.pure_apply, Except.ok.injEq, Prod.mk.injEq]
        at inserted
      obtain ⟨rfl, rfl⟩ := inserted
      rw [SortedMap.lookup_isSome_iff] at absent
      refine ⟨key, tree, wire, absent, ?_, rfl⟩
      rw [List.append_assoc]
      rfl
  · cases continued

/-- Entries that were decoded were written one after the other, under ids that
are new. -/
theorem decodeEntries_sound
    {decode : Decoder Value}
    (sound : SoundDecoder decode)
    {count : Nat} {map result : List (UInt64 × Value)}
    {bytes rest : List UInt8}
    (decoded : (Reader.loop (decodeEntry decode) count map bytes).outcome =
      .ok (result, rest)) :
    ∃ trees : List (UInt64 × Value), trees.length = count ∧
      (∀ entry ∈ trees, entry.2.Wire) ∧
      SortedMap.Fresh trees map ∧
      bytes = encodeEntries trees ++ rest ∧
      result = SortedMap.insertAll
        (trees.map fun entry => (entry.1, entry.2.sorted)) map := by
  induction count generalizing map bytes with
  | zero =>
      rw [Reader.loop_zero, Reader.pure_apply] at decoded
      simp only [Except.ok.injEq, Prod.mk.injEq] at decoded
      exact ⟨[], rfl, by simp, by simp [SortedMap.Fresh],
        by simp [encodeEntries, decoded.2], by simp [decoded.1]⟩
  | succ count inductionHypothesis =>
      rw [Reader.loop_succ] at decoded
      obtain ⟨next, middle, inserted, remaining⟩ :=
        Reader.bind_eq_ok.mp decoded
      obtain ⟨key, tree, wire, absent, rfl, rfl⟩ :=
        decodeEntry_sound sound inserted
      obtain ⟨trees, length, wires, fresh, rfl, rfl⟩ :=
        inductionHypothesis remaining
      refine ⟨(key, tree) :: trees, by simp [length], ?_, ?_, ?_, ?_⟩
      · exact List.forall_mem_cons.mpr ⟨wire, wires⟩
      · exact (SortedMap.fresh_cons (key, tree) trees tree.sorted map).mpr
          ⟨absent, fresh⟩
      · rw [encodeEntries, ← List.append_assoc]
      · rfl

theorem allocate_sound
    {capacity elementSize : Nat} {bytes rest : List UInt8} {result : Unit}
    (allocated : (allocate capacity elementSize bytes).outcome =
      .ok (result, rest)) :
    capacity * elementSize ≤ isizeMax ∧ bytes = rest := by
  simp only [allocate, Reader.request_apply] at allocated
  split at allocated
  · rename_i fits
    simp only [Except.ok.injEq, Prod.mk.injEq] at allocated
    exact ⟨of_decide_eq_true fits, allocated.2⟩
  · cases allocated

/-- A payload that was read stands behind a head with its length. -/
theorem readPayload_sound
    {additional : UInt8} {bytes payload rest : List UInt8}
    (read : (readPayload additional bytes).outcome = .ok (payload, rest)) :
    payload.length ≤ isizeMax ∧
      (decodeArgument additional bytes).outcome =
        .ok (UInt64.ofNat payload.length, payload ++ rest) := by
  obtain ⟨argument, after, readHead, checked⟩ := Reader.bind_eq_ok.mp read
  obtain ⟨length, unread, converted, allocated⟩ :=
    Reader.bind_eq_ok.mp checked
  rw [checkedLen_apply] at converted
  simp only [Except.ok.injEq, Prod.mk.injEq] at converted
  obtain ⟨rfl, rfl⟩ := converted
  obtain ⟨_, unread, granted, taken⟩ := Reader.bind_eq_ok.mp allocated
  obtain ⟨fits, rfl⟩ := allocate_sound granted
  obtain ⟨length, rfl⟩ := Reader.take_eq_ok.mp taken
  rw [length, UInt64.ofNat_toNat]
  exact ⟨by rwa [mul_one] at fits, readHead⟩

/-- What one call accepts is the encoding of a tree. -/
def SoundMajor (decode : Decoder Value) (major additional : UInt8) : Prop :=
  ∀ bytes value rest,
    (decodeMajor decode major additional bytes).outcome = .ok (value, rest) →
      ∃ tree : Value, tree.Wire ∧
        (major <<< 5 ||| additional) :: bytes = encodeValue tree ++ rest ∧
        tree.sorted = value

section Majors

variable {decode : Decoder Value} {additional : UInt8}

theorem sound_unsigned : SoundMajor decode 0 additional := by
  intro bytes value rest decoded
  obtain ⟨argument, after, read, returned⟩ := Reader.bind_eq_ok.mp decoded
  simp only [Reader.pure_apply, Except.ok.injEq, Prod.mk.injEq] at returned
  obtain ⟨rfl, rfl⟩ := returned
  exact ⟨.u64 argument, Value.Every.leaf ⟨trivial, trivial, trivial⟩ rfl,
    encodeTypeValue_of_decodeArgument 0 read, rfl⟩

theorem sound_negative : SoundMajor decode 1 additional := by
  intro bytes value rest decoded
  obtain ⟨encoded, after, read, returned⟩ := Reader.bind_eq_ok.mp decoded
  split at returned
  · cases returned
  · rename_i small
    simp only [Reader.pure_apply, Except.ok.injEq, Prod.mk.injEq] at returned
    obtain ⟨rfl, rfl⟩ := returned
    unfold i64Max at small
    have number : (Int64.ofInt (-1 - (encoded.toNat : Int))).toInt =
        -1 - (encoded.toNat : Int) :=
      Int64.toInt_ofInt_of_le (by omega) (by omega)
    have negative : (Int64.ofInt (-1 - (encoded.toNat : Int))).toInt < 0 := by
      omega
    refine ⟨.i64 (Int64.ofInt (-1 - (encoded.toNat : Int))),
      Value.Every.leaf ⟨trivial, trivial, negative⟩ rfl, ?_, rfl⟩
    rw [encodeValue, if_neg (not_le.mpr negative), number,
      Int.sub_sub_self, Int.toNat_natCast, UInt64.ofNat_toNat]
    exact encodeTypeValue_of_decodeArgument 1 read

theorem sound_bytes : SoundMajor decode 2 additional := by
  intro bytes value rest decoded
  obtain ⟨payload, after, read, returned⟩ := Reader.bind_eq_ok.mp decoded
  simp only [Reader.pure_apply, Except.ok.injEq, Prod.mk.injEq] at returned
  obtain ⟨rfl, rfl⟩ := returned
  obtain ⟨small, readHead⟩ := readPayload_sound read
  refine ⟨.bytes payload,
    Value.Every.leaf ⟨small, trivial, trivial⟩ rfl, ?_, rfl⟩
  rw [encodeTypeValue_of_decodeArgument 2 readHead, encodeValue,
    List.append_assoc]

theorem sound_text : SoundMajor decode 3 additional := by
  intro bytes value rest decoded
  obtain ⟨payload, after, read, returned⟩ := Reader.bind_eq_ok.mp decoded
  obtain ⟨small, readHead⟩ := readPayload_sound read
  cases spelled : Bytes.ofUtf8 payload with
  | none =>
      rw [spelled] at returned
      cases returned
  | some content =>
      rw [spelled] at returned
      simp only [Reader.pure_apply, Except.ok.injEq, Prod.mk.injEq]
        at returned
      obtain ⟨rfl, rfl⟩ := returned
      obtain rfl := Bytes.utf8_of_ofUtf8 spelled
      refine ⟨.text content,
        Value.Every.leaf ⟨small, trivial, trivial⟩ rfl, ?_, rfl⟩
      rw [encodeTypeValue_of_decodeArgument 3 readHead, encodeValue,
        List.append_assoc]

/-- The buffer that was granted bounds the items of an array. -/
theorem sound_array (sound : SoundDecoder decode) :
    SoundMajor decode 4 additional := by
  intro bytes value rest decoded
  obtain ⟨argument, after, read, checked⟩ := Reader.bind_eq_ok.mp decoded
  obtain ⟨length, unread, converted, allocated⟩ :=
    Reader.bind_eq_ok.mp checked
  rw [checkedLen_apply] at converted
  simp only [Except.ok.injEq, Prod.mk.injEq] at converted
  obtain ⟨rfl, rfl⟩ := converted
  obtain ⟨_, unread, granted, filled⟩ := Reader.bind_eq_ok.mp allocated
  obtain ⟨fits, rfl⟩ := allocate_sound granted
  obtain ⟨items, unread, looped, returned⟩ := Reader.bind_eq_ok.mp filled
  simp only [Reader.pure_apply, Except.ok.injEq, Prod.mk.injEq] at returned
  obtain ⟨rfl, rfl⟩ := returned
  obtain ⟨trees, length, wires, rfl, rfl⟩ := decodeItems_sound sound looped
  refine ⟨.array trees, Value.Every.array ⟨?_, trivial, trivial⟩ wires,
    ?_, ?_⟩
  · rwa [← length] at fits
  · rw [encodeTypeValue_of_decodeArgument 4 read, encodeValue, length,
      UInt64.ofNat_toNat, List.append_assoc]
  · rw [Value.sorted_array, List.nil_append]

/-- The keys of a map that was read are new one after the other. -/
theorem sound_map (sound : SoundDecoder decode) :
    SoundMajor decode 5 additional := by
  intro bytes value rest decoded
  obtain ⟨argument, after, read, checked⟩ := Reader.bind_eq_ok.mp decoded
  obtain ⟨length, unread, converted, filled⟩ := Reader.bind_eq_ok.mp checked
  rw [checkedLen_apply] at converted
  simp only [Except.ok.injEq, Prod.mk.injEq] at converted
  obtain ⟨rfl, rfl⟩ := converted
  obtain ⟨entries, unread, looped, returned⟩ := Reader.bind_eq_ok.mp filled
  simp only [Reader.pure_apply, Except.ok.injEq, Prod.mk.injEq] at returned
  obtain ⟨rfl, rfl⟩ := returned
  obtain ⟨trees, length, wires, fresh, rfl, rfl⟩ :=
    decodeEntries_sound sound looped
  have bound := argument.toNat_lt
  refine ⟨.map trees, Value.Every.map ⟨?_, fresh.1, trivial⟩ wires, ?_, ?_⟩
  · change trees.length ≤ usizeMax
    unfold usizeMax
    omega
  · rw [encodeTypeValue_of_decodeArgument 5 read, encodeValue, length,
      UInt64.ofNat_toNat, List.append_assoc]
  · rw [Value.sorted_map]

theorem sound_float : SoundMajor decode 7 27 := by
  intro bytes value rest decoded
  obtain ⟨payload, after, taken, returned⟩ := Reader.bind_eq_ok.mp decoded
  simp only [Reader.pure_apply, Except.ok.injEq, Prod.mk.injEq] at returned
  obtain ⟨rfl, rfl⟩ := returned
  obtain ⟨length, rfl⟩ := Reader.take_eq_ok.mp taken
  have bound : Bytes.ofBigEndian payload < 2 ^ 64 := by
    have below := Bytes.ofBigEndian_lt payload
    rw [length] at below
    exact below
  refine ⟨.f64 (UInt64.ofNat (Bytes.ofBigEndian payload)),
    Value.Every.leaf ⟨trivial, trivial, trivial⟩ rfl, ?_, rfl⟩
  rw [encodeValue, UInt64.toNat_ofNat_of_lt' bound, ← length,
    Bytes.bigEndian_ofBigEndian]
  rfl

/-- What one call accepts, when its nested calls are sound: one case for each
major type. -/
theorem decodeMajor_sound (sound : SoundDecoder decode) (major : UInt8) :
    SoundMajor decode major additional := by
  intro bytes value rest decoded
  have accepted := decoded
  unfold decodeMajor at decoded
  split at decoded
  · exact sound_unsigned bytes value rest accepted
  · exact sound_negative bytes value rest accepted
  · exact sound_bytes bytes value rest accepted
  · exact sound_text bytes value rest accepted
  · exact sound_array sound bytes value rest accepted
  · exact sound_map sound bytes value rest accepted
  · split at decoded
    · cases decoded
      exact ⟨.bool false, Value.Every.leaf ⟨trivial, trivial, trivial⟩ rfl,
        rfl, rfl⟩
    · cases decoded
      exact ⟨.bool true, Value.Every.leaf ⟨trivial, trivial, trivial⟩ rfl,
        rfl, rfl⟩
    · cases decoded
      exact ⟨.null, Value.Every.leaf ⟨trivial, trivial, trivial⟩ rfl,
        rfl, rfl⟩
    · exact sound_float bytes value rest accepted
    · cases decoded
  · cases decoded

end Majors

/-- Whatever is decoded was written so, up to the order of maps. -/
theorem sound_decodeValueWithin (fuel : Nat) :
    SoundDecoder (decodeValueWithin fuel) := by
  induction fuel with
  | zero =>
      intro bytes value rest decoded
      cases decoded
  | succ fuel inductionHypothesis =>
      intro bytes value rest decoded
      obtain ⟨initial, after, first, decoded⟩ := Reader.bind_eq_ok.mp decoded
      cases bytes with
      | nil => cases first
      | cons head tail =>
          simp only [readU8, Reader.byte_cons, Except.ok.injEq,
            Prod.mk.injEq] at first
          obtain ⟨rfl, rfl⟩ := first
          have joined := initial_split head
          have spelled := decodeMajor_sound inductionHypothesis _ _ _ _ decoded
          rwa [joined] at spelled

/-- The decoder accepts only encodings of trees of the wire. -/
theorem sound_decodeValue : SoundDecoder decodeValue :=
  fun bytes => sound_decodeValueWithin bytes.length bytes

/-! ## Lengths and normalisation -/

theorem length_encodeItems (items : List Value) :
    (encodeItems items).length =
      (items.map fun item => (encodeValue item).length).sum := by
  induction items with
  | nil => rfl
  | cons item items inductionHypothesis =>
      simp [encodeItems, inductionHypothesis]

theorem length_encodeEntries (entries : List (UInt64 × Value)) :
    (encodeEntries entries).length =
      (entries.map fun entry =>
        (encodeTypeValue 0 entry.1).length +
          (encodeValue entry.2).length).sum := by
  induction entries with
  | nil => rfl
  | cons entry entries inductionHypothesis =>
      obtain ⟨key, value⟩ := entry
      simp [encodeEntries, inductionHypothesis, Nat.add_assoc]

/-- Sorting the maps of a tree keeps the length of its encoding. -/
theorem length_encodeValue_sorted {tree : Value}
    (wire : tree.Wire) :
    (encodeValue tree.sorted).length = (encodeValue tree).length := by
  induction tree using Value.induct with
  | null | bool | u64 | i64 | f64 | bytes | text => rfl
  | array items inductionHypothesis =>
      have same : (items.map Value.sorted).map
            (fun item => (encodeValue item).length) =
          items.map fun item => (encodeValue item).length := by
        rw [List.map_map]
        refine List.map_congr_left fun item member => ?_
        exact inductionHypothesis item member (wire.item member)
      rw [Value.sorted_array, encodeValue, encodeValue, List.length_append,
        List.length_append, length_encodeItems, length_encodeItems, same,
        List.length_map]
  | map entries inductionHypothesis =>
      have distinct : (SortedMap.keys entries).Nodup := wire.self.2.1
      have permutation :
          (SortedMap.insertAll
            (entries.map fun entry => (entry.1, entry.2.sorted)) []).Perm
            (entries.map fun entry => (entry.1, entry.2.sorted)) := by
        refine SortedMap.perm_sort ?_
        simpa using distinct
      have same : (entries.map fun entry => (entry.1, entry.2.sorted)).map
            (fun entry => (encodeTypeValue 0 entry.1).length +
              (encodeValue entry.2).length) =
          entries.map fun entry => (encodeTypeValue 0 entry.1).length +
            (encodeValue entry.2).length := by
        rw [List.map_map]
        refine List.map_congr_left fun entry member => ?_
        have valueSame :=
          inductionHypothesis entry member (wire.entry member)
        simp only [Function.comp_apply, valueSame]
      rw [Value.sorted_map, encodeValue, encodeValue, List.length_append,
        List.length_append, length_encodeEntries, length_encodeEntries,
        permutation.length_eq, (permutation.map _).sum_nat, same,
        List.length_map]

/-- Normalisation is invisible in the encoding. -/
theorem encodeValue_normalize (value : Value) :
    encodeValue value.normalize = encodeValue value := by
  induction value using Value.induct with
  | null | bool | u64 | f64 | bytes | text => rfl
  | i64 value =>
      rw [Value.normalize_i64, encodeValue]
      split
      · rfl
      · rename_i negative
        rw [encodeValue, if_neg negative]
  | array items inductionHypothesis =>
      have same : encodeItems (items.map Value.normalize) =
          encodeItems items := by
        induction items with
        | nil => rfl
        | cons item items tailHypothesis =>
            have tailSame := tailHypothesis fun part member =>
              inductionHypothesis part (List.mem_cons_of_mem _ member)
            rw [List.map_cons, encodeItems, encodeItems, tailSame,
              inductionHypothesis item List.mem_cons_self]
      rw [Value.normalize_array, encodeValue, encodeValue, same,
        List.length_map]
  | map entries inductionHypothesis =>
      have same : encodeEntries
            (entries.map fun entry => (entry.1, entry.2.normalize)) =
          encodeEntries entries := by
        induction entries with
        | nil => rfl
        | cons entry entries tailHypothesis =>
            obtain ⟨key, value⟩ := entry
            have tailSame := tailHypothesis fun part member =>
              inductionHypothesis part (List.mem_cons_of_mem _ member)
            have valueSame := inductionHypothesis (key, value)
              List.mem_cons_self
            rw [List.map_cons, encodeEntries, encodeEntries, tailSame,
              valueSame]
      rw [Value.normalize_map, encodeValue, encodeValue, same,
        List.length_map]

/-! ## The round trips -/

theorem decode_eq_ok {bytes : List UInt8} {value : Value} :
    Value.decode bytes = .ok value ↔
      (decodeValue bytes).outcome = .ok (value, []) := by
  unfold Value.decode
  cases outcome : (decodeValue bytes).outcome with
  | error failure => simp [bind, Except.bind]
  | ok pair =>
      obtain ⟨decoded, rest⟩ := pair
      cases rest <;> simp [bind, Except.bind, pure, Except.pure, throw,
        throwThe, MonadExceptOf.throw]

/-- A tree of the wire and the byte string that spells it. -/
def Spells (tree : Value) (bytes : List UInt8) : Prop :=
  tree.Wire ∧ encodeValue tree = bytes

/-- The decoder accepts a byte string exactly when a tree of the wire spells
it, and returns the tree with sorted maps. -/
theorem decode_eq_ok_iff {bytes : List UInt8} {value : Value} :
    Value.decode bytes = .ok value ↔
      ∃ tree : Value, Spells tree bytes ∧ tree.sorted = value := by
  rw [decode_eq_ok]
  constructor
  · intro decoded
    obtain ⟨tree, wire, spelled, sorted⟩ :=
      sound_decodeValue bytes value [] decoded
    rw [List.append_nil] at spelled
    exact ⟨tree, ⟨wire, spelled.symm⟩, sorted⟩
  · rintro ⟨tree, ⟨wire, rfl⟩, rfl⟩
    simpa using wire.readBack []

/-- Where two trees are read back from one byte string, they sort alike and
leave the same bytes. -/
theorem ReadBack.inj
    {left right : Value} {leftRest rightRest : List UInt8}
    (leftRead : ReadBack left)
    (rightRead : ReadBack right)
    (same : encodeValue left ++ leftRest = encodeValue right ++ rightRest) :
    left.sorted = right.sorted ∧ leftRest = rightRest := by
  have leftOutcome := leftRead leftRest
  rw [same, rightRead rightRest] at leftOutcome
  simp only [Except.ok.injEq, Prod.mk.injEq] at leftOutcome
  exact ⟨leftOutcome.1.symm, leftOutcome.2.symm⟩

theorem ReadBack.sorted_eq
    {left right : Value}
    (leftRead : ReadBack left)
    (rightRead : ReadBack right)
    (same : encodeValue left = encodeValue right) :
    left.sorted = right.sorted := by
  have appended : encodeValue left ++ [] = encodeValue right ++ [] := by
    rw [same]
  exact (leftRead.inj rightRead appended).1

/-- Item lists with the same encoding are equal when their items are told
apart by their encodings. -/
theorem encodeItems_injective
    {left right : List Value}
    (leftWires : ∀ item ∈ left, item.Wire)
    (rightWires : ∀ item ∈ right, item.Wire)
    (distinguished : ∀ item ∈ left, ∀ other : Value, other.Wire →
      encodeValue item = encodeValue other → item = other)
    (length : left.length = right.length)
    (same : encodeItems left = encodeItems right) : left = right := by
  induction left generalizing right with
  | nil => exact (List.length_eq_zero_iff.mp length.symm).symm
  | cons item items inductionHypothesis =>
      cases right with
      | nil => cases length
      | cons other others =>
          rw [List.forall_mem_cons] at leftWires rightWires distinguished
          rw [encodeItems, encodeItems] at same
          obtain ⟨_, restSame⟩ :=
            leftWires.1.readBack.inj rightWires.1.readBack same
          rw [restSame] at same
          have headSame := distinguished.1 other rightWires.1
            (List.append_cancel_right same)
          have tailSame := inductionHypothesis leftWires.2 rightWires.2
            distinguished.2 (Nat.succ.inj length) restSame
          rw [headSame, tailSame]

/-- Entry lists with the same encoding are equal when their values are told
apart by their encodings. -/
theorem encodeEntries_injective
    {left right : List (UInt64 × Value)}
    (leftWires : ∀ entry ∈ left, entry.2.Wire)
    (rightWires : ∀ entry ∈ right, entry.2.Wire)
    (distinguished : ∀ entry ∈ left, ∀ other : Value, other.Wire →
      encodeValue entry.2 = encodeValue other → entry.2 = other)
    (length : left.length = right.length)
    (same : encodeEntries left = encodeEntries right) : left = right := by
  induction left generalizing right with
  | nil => exact (List.length_eq_zero_iff.mp length.symm).symm
  | cons entry entries inductionHypothesis =>
      cases right with
      | nil => cases length
      | cons other others =>
          obtain ⟨key, value⟩ := entry
          obtain ⟨otherKey, otherValue⟩ := other
          rw [List.forall_mem_cons] at leftWires rightWires distinguished
          rw [encodeEntries, encodeEntries, List.append_assoc,
            List.append_assoc] at same
          obtain ⟨keySame, valueSame⟩ :=
            @ReadBack.inj (.u64 key) (.u64 otherKey) _ _
              (decodeValue_key key) (decodeValue_key otherKey) same
          obtain rfl : key = otherKey := by
            injection keySame
          obtain ⟨_, restSame⟩ :=
            leftWires.1.readBack.inj rightWires.1.readBack valueSame
          rw [restSame] at valueSame
          have headSame := distinguished.1 otherValue rightWires.1
            (List.append_cancel_right valueSame)
          have tailSame := inductionHypothesis leftWires.2 rightWires.2
            distinguished.2 (Nat.succ.inj length) restSame
          rw [tailSame]
          exact congrArg (fun item => (key, item) :: others) headSame

/-- No two trees of the wire have the same encoding. -/
theorem encodeValue_injective
    {left right : Value}
    (leftWire : left.Wire)
    (rightWire : right.Wire)
    (same : encodeValue left = encodeValue right) : left = right := by
  have sortedSame := leftWire.readBack.sorted_eq rightWire.readBack same
  induction left using Value.induct generalizing right with
  | null | bool | u64 | i64 | f64 | bytes | text =>
      cases right with
      | array items =>
          rw [Value.sorted_array] at sortedSame
          cases sortedSame
      | map entries =>
          rw [Value.sorted_map] at sortedSame
          cases sortedSame
      | null | bool | u64 | i64 | f64 | bytes | text => exact sortedSame
  | array items inductionHypothesis =>
      rw [Value.sorted_array] at sortedSame
      cases right with
      | array others =>
          rw [Value.sorted_array] at sortedSame
          injection sortedSame with itemsSorted
          have length : items.length = others.length := by
            simpa using congrArg List.length itemsSorted
          rw [encodeValue, encodeValue, length] at same
          rw [encodeItems_injective (fun _ => leftWire.item)
            (fun _ => rightWire.item) ?_ length
            (List.append_cancel_left same)]
          intro item member other otherWire otherSame
          have itemWire : item.Wire := leftWire.item member
          exact inductionHypothesis item member itemWire otherWire otherSame
            (itemWire.readBack.sorted_eq otherWire.readBack otherSame)
      | map entries =>
          rw [Value.sorted_map] at sortedSame
          cases sortedSame
      | null | bool | u64 | i64 | f64 | bytes | text => cases sortedSame
  | map entries inductionHypothesis =>
      rw [Value.sorted_map] at sortedSame
      cases right with
      | array others =>
          rw [Value.sorted_array] at sortedSame
          cases sortedSame
      | map others =>
          rw [Value.sorted_map] at sortedSame
          injection sortedSame with entriesSorted
          have leftDistinct : (SortedMap.keys entries).Nodup :=
            leftWire.self.2.1
          have rightDistinct : (SortedMap.keys others).Nodup :=
            rightWire.self.2.1
          have length : entries.length = others.length := by
            have sortedLength := congrArg List.length entriesSorted
            rw [(SortedMap.perm_sort (by simpa using leftDistinct)).length_eq,
              (SortedMap.perm_sort (by simpa using rightDistinct)).length_eq,
              List.length_map, List.length_map] at sortedLength
            exact sortedLength
          rw [encodeValue, encodeValue, length] at same
          rw [encodeEntries_injective (fun _ => leftWire.entry)
            (fun _ => rightWire.entry) ?_ length
            (List.append_cancel_left same)]
          intro entry member other otherWire otherSame
          have entryWire : entry.2.Wire := leftWire.entry member
          exact inductionHypothesis entry member entryWire otherWire
            otherSame
            (entryWire.readBack.sorted_eq otherWire.readBack otherSame)
      | null | bool | u64 | i64 | f64 | bytes | text => cases sortedSame

/-- Decoding an encoded value normalises it. -/
theorem Value.Valid.decode_encode {value : Value}
    (valid : value.Valid) : Value.decode value.encode = .ok value.normalize := by
  refine decode_eq_ok_iff.mpr
    ⟨value.normalize, ⟨valid.wire_normalize, ?_⟩, ?_⟩
  · exact encodeValue_normalize value
  · exact Value.sorted_eq_self
      (Value.ordered_normalize (valid.mono fun _ holds => holds.2))

/-- The codec round trip.  Decoding an encoded value normalises it.  Encoding
a decoded value gives back its length, its value, and, where the keys of every
map of the input ascend, the input itself. -/
theorem codec_round_trip :
    (∀ value : Value, value.Valid →
      Value.decode value.encode = .ok value.normalize) ∧
    ∀ (bytes : List UInt8) (value : Value),
      Value.decode bytes = .ok value →
        value.encode.length = bytes.length ∧
        Value.decode value.encode = .ok value ∧
        (∃! tree : Value, Spells tree bytes) ∧
        ∀ tree : Value, Spells tree bytes →
          tree.sorted = value ∧
          (tree.Every Value.Ordered → value.encode = bytes) := by
  constructor
  · exact fun value valid => valid.decode_encode
  · intro bytes value decoded
    obtain ⟨tree, spells, rfl⟩ := decode_eq_ok_iff.mp decoded
    have unique : ∀ other : Value, Spells other bytes → other = tree :=
      fun other otherSpells => encodeValue_injective otherSpells.1 spells.1
        (otherSpells.2.trans spells.2.symm)
    refine ⟨?_, ?_, ⟨tree, spells, unique⟩, ?_⟩
    · rw [← spells.2]
      exact length_encodeValue_sorted spells.1
    · exact decode_eq_ok_iff.mpr ⟨tree.sorted,
        ⟨spells.1.wire_sorted, rfl⟩,
        Value.sorted_eq_self spells.1.ordered_sorted⟩
    · intro other otherSpells
      obtain rfl := unique other otherSpells
      refine ⟨rfl, fun ordered => ?_⟩
      rw [Value.sorted_eq_self ordered]
      exact spells.2

/-- A signed five comes back unsigned, and two entries listed in descending
order come back sorted. -/
theorem codec_round_trip_two_entries :
    Value.decode (Value.map [(1, .i64 5)]).encode =
        .ok (Value.map [(1, .i64 5)]).normalize ∧
      Value.decode (Value.map [(1, .u64 5), (2, .bool false)]).encode =
        .ok (.map [(1, .u64 5), (2, .bool false)]) := by
  have valid : (Value.map [(1, .i64 5)]).Valid := by
    refine Value.Every.map ⟨by decide, by decide⟩ ?_
    simp only [List.mem_singleton, forall_eq]
    exact Value.Every.leaf ⟨trivial, trivial⟩ rfl
  have decoded : Value.decode [0xa2, 0x02, 0xf4, 0x01, 0x05] =
      .ok (.map [(1, .u64 5), (2, .bool false)]) := rfl
  exact ⟨codec_round_trip.1 _ valid, (codec_round_trip.2 _ _ decoded).2.1⟩

end Daemon
end WhatsGoingOn
