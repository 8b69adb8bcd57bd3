import WhatsGoingOn.Daemon.CborRoundTrip
import WhatsGoingOn.Web.Cbor

/-!
# Agreement of the daemon's and the web client's CBOR codecs

Every value of the daemon has an image among the values of the web client.  In
the common profile both encoders write the same bytes, and the web client's
decoder reads them back except for the byte order marks that it drops.
-/

namespace WhatsGoingOn
namespace Web

open Daemon (Value)

/-! ## The image of a value -/

/-- The double nearest to a natural number, ties to even. -/
def roundToDouble (value : Nat) : Nat :=
  let unit := 2 ^ (value.log2 - 52)
  let quotient := value / unit
  let excess := value % unit
  if 2 * excess < unit ∨ 2 * excess = unit ∧ quotient % 2 = 0 then
    quotient * unit
  else (quotient + 1) * unit

/-- `Number`, of an integer. -/
def toNumber (value : Int) : Int :=
  if value < 0 then -(roundToDouble value.natAbs : Int)
  else roundToDouble value.natAbs

/-- The image of a value without parts. -/
def scalarImage : Value → CborValue
  | .null => .null
  | .bool value => .bool value
  | .u64 value => .number (.integer (toNumber value.toNat))
  | .i64 value => .number (.integer (toNumber value.toInt))
  | .f64 bits => .f64 bits
  | .bytes payload => .bytes payload
  | .text content => .text content
  | .array _ => .array []
  | .map _ => .map []

/-- The JavaScript value that corresponds to a value. -/
def image : Value → CborValue :=
  Value.fold scalarImage .array fun entries =>
    .map (entries.map fun entry => (toNumber entry.1.toNat, entry.2))

@[simp] theorem image_array (items : List Value) :
    image (.array items) = .array (items.map image) :=
  Value.fold_array ..

@[simp] theorem image_map (entries : List (UInt64 × Value)) :
    image (.map entries) =
      .map (entries.map fun entry =>
        (toNumber entry.1.toNat, image entry.2)) := by
  refine (Value.fold_map ..).trans ?_
  rw [List.map_map]
  rfl

/-- Numbers within the safe integers are not rounded. -/
theorem roundToDouble_of_safe {value : Nat}
    (safe : value ≤ maxSafeInteger) : roundToDouble value = value := by
  have small : value.log2 - 52 = 0 := by
    have bound : value.log2 < 53 ∨ value = 0 := by
      by_cases zero : value = 0
      · exact .inr zero
      · refine .inl ((Nat.log2_lt zero).mpr ?_)
        unfold maxSafeInteger at safe
        omega
    rcases bound with bound | rfl
    · omega
    · rfl
  unfold roundToDouble
  rw [small]
  simp [Nat.mod_one]

/-- Rounding does not make an integer safe. -/
theorem lt_roundToDouble {value : Nat}
    (large : maxSafeInteger < value) :
    maxSafeInteger < roundToDouble value := by
  have nonzero : value ≠ 0 := by
    rintro rfl
    exact absurd large (Nat.not_lt_zero _)
  have wide : 53 ≤ value.log2 := by
    refine (Nat.le_log2 nonzero).mpr ?_
    unfold maxSafeInteger at large
    omega
  have split : 2 ^ value.log2 =
      2 ^ 52 * 2 ^ (value.log2 - 52) := by
    rw [← pow_add]
    congr 1
    omega
  have enough : 2 ^ 52 ≤ value / 2 ^ (value.log2 - 52) := by
    rw [Nat.le_div_iff_mul_le (Nat.two_pow_pos _), ← split]
    exact Nat.log2_self_le nonzero
  have unit : 2 ≤ 2 ^ (value.log2 - 52) := by
    calc
      2 = 2 ^ 1 := rfl
      _ ≤ 2 ^ (value.log2 - 52) :=
        Nat.pow_le_pow_right (by norm_num) (by omega)
  have product : 2 ^ 52 * 2 ≤
      value / 2 ^ (value.log2 - 52) * 2 ^ (value.log2 - 52) :=
    Nat.mul_le_mul enough unit
  have lower : maxSafeInteger < 2 ^ 52 * 2 := by decide
  unfold roundToDouble
  dsimp only
  split
  · omega
  · rw [Nat.add_mul]
    omega

theorem isSafeInteger_eq_true {value : Int} :
    isSafeInteger value = true ↔ value.natAbs ≤ maxSafeInteger := by
  unfold isSafeInteger
  rw [decide_eq_true_iff]
  omega

theorem isSafeInteger_natCast {value : Nat} :
    isSafeInteger value = true ↔ value ≤ maxSafeInteger := by
  rw [isSafeInteger_eq_true, Int.natAbs_natCast]

theorem toNumber_of_safe {value : Int}
    (safe : isSafeInteger value = true) : toNumber value = value := by
  unfold toNumber
  rw [roundToDouble_of_safe (isSafeInteger_eq_true.mp safe)]
  split <;> omega

theorem natAbs_toNumber (value : Int) :
    (toNumber value).natAbs = roundToDouble value.natAbs := by
  unfold toNumber
  split <;> omega

/-- Safe integers are exact, and no other integer is safe as a number. -/
theorem isSafeInteger_toNumber (value : Int) :
    isSafeInteger (toNumber value) = isSafeInteger value := by
  rw [Bool.eq_iff_iff, isSafeInteger_eq_true, isSafeInteger_eq_true,
    natAbs_toNumber]
  constructor
  · intro safe
    by_contra large
    exact absurd safe (not_le.mpr (lt_roundToDouble (not_le.mp large)))
  · intro safe
    rwa [roundToDouble_of_safe safe]

/-! ## The common profile -/

/-- What the profile demands of one part of a value, and the sizes that
JavaScript values have. -/
def InProfile : Value → Prop
  | .u64 value => isSafeInteger value.toNat = true
  | .i64 value => isSafeInteger value.toInt = true
  | .f64 bits => isFinite bits = true
  | .bytes payload => payload.length ≤ maxSafeInteger
  | .text content => (Bytes.utf8 content).length ≤ maxSafeInteger
  | .array items => items.length ≤ maxArrayLength
  | .map entries =>
      entries.length ≤ maxSafeInteger ∧ SortedMap.Ascending entries ∧
        ∀ entry ∈ entries, isSafeInteger entry.1.toNat = true
  | .null | .bool _ => True

instance : (value : Value) → Decidable (InProfile value)
  | .u64 value => inferInstanceAs (Decidable (isSafeInteger value.toNat = true))
  | .i64 value => inferInstanceAs (Decidable (isSafeInteger value.toInt = true))
  | .f64 bits => inferInstanceAs (Decidable (isFinite bits = true))
  | .bytes payload =>
      inferInstanceAs (Decidable (payload.length ≤ maxSafeInteger))
  | .text content =>
      inferInstanceAs
        (Decidable ((Bytes.utf8 content).length ≤ maxSafeInteger))
  | .array items => inferInstanceAs (Decidable (items.length ≤ maxArrayLength))
  | .map entries =>
      inferInstanceAs (Decidable (entries.length ≤ maxSafeInteger ∧
        SortedMap.Ascending entries ∧
          ∀ entry ∈ entries, isSafeInteger entry.1.toNat = true))
  | .null | .bool _ => .isTrue trivial

/-- A value of the common profile. -/
def CommonProfile (value : Value) : Prop :=
  value.Every InProfile

/-- What is in the common profile is a value of either side. -/
theorem CommonProfile.valid {value : Value}
    (common : CommonProfile value) : value.Valid := by
  refine common.mono fun part inside => ?_
  have small : maxSafeInteger ≤ Daemon.isizeMax := by decide
  cases part with
  | bytes payload => exact ⟨Nat.le_trans inside small, trivial⟩
  | text content => exact ⟨Nat.le_trans inside small, trivial⟩
  | array items =>
      have bound : items.length ≤ 2 ^ 32 - 1 := inside
      refine ⟨?_, trivial⟩
      unfold Value.Sized Daemon.valueSize Daemon.isizeMax
      omega
  | map entries =>
      have bound : entries.length ≤ maxSafeInteger := inside.1
      have wide : maxSafeInteger ≤ Daemon.usizeMax := by decide
      exact ⟨Nat.le_trans bound wide, inside.2.1⟩
  | null | bool | u64 | i64 | f64 => exact ⟨trivial, trivial⟩

/-! ## Heads -/

theorem head_ofNat (major additional : Nat) :
    UInt8.ofNat (major <<< 5 ||| additional) =
      UInt8.ofNat major <<< 5 ||| UInt8.ofNat additional := by
  rw [UInt8.ofNat_or, UInt8.ofNat_shiftLeft _ _ (by decide)]
  rfl

theorem bigEndian_one (value : Nat) :
    Bytes.bigEndian 1 value = [UInt8.ofNat value] := rfl

theorem bigEndian_two (value : Nat) :
    Bytes.bigEndian 2 value =
      [UInt8.ofNat (value >>> 8), UInt8.ofNat (value &&& 0xff)] := by
  have low : UInt8.ofNat (value &&& 0xff) = UInt8.ofNat value := by
    rw [Nat.and_two_pow_sub_one_eq_mod value 8]
    apply UInt8.toNat_inj.mp
    rw [UInt8.toNat_ofNat', UInt8.toNat_ofNat', Nat.mod_mod]
  rw [low, Nat.shiftRight_eq_div_pow]
  rfl

/-- Both encoders write the same heads. -/
theorem encodeTypeValue_eq (major : Nat) (value : UInt64)
    (safe : isSafeInteger value.toNat = true) :
    encodeTypeValue major value.toNat =
      .ok (Daemon.encodeTypeValue (UInt8.ofNat major) value) := by
  have direct : UInt8.ofNat value.toNat = value.toUInt8 := by
    apply UInt8.toNat_inj.mp
    rw [UInt8.toNat_ofNat', UInt64.toNat_toUInt8]
  have unsigned : ¬ (isSafeInteger value.toNat = false ∨
      (value.toNat : Int) < 0) := by
    simp [safe]
  unfold encodeTypeValue Daemon.encodeTypeValue
  rw [if_neg unsigned]
  simp only [Int.toNat_natCast, head_ofNat, direct, bigEndian_one,
    bigEndian_two]
  split
  · rfl
  · split
    · rfl
    · split
      · rfl
      · split <;> rfl

/-- The loop reads the digits of a big-endian number. -/
theorem readFixedUint_append
    (front rest : List UInt8) :
    (readFixedUint front.length (front ++ rest)).outcome =
      .ok (Bytes.ofBigEndian front, rest) := by
  have digits : ∀ (front : List UInt8) (value : Nat),
      (Reader.loop readDigit front.length value (front ++ rest)).outcome =
        .ok (front.foldl (fun value byte => value * 256 + byte.toNat) value,
          rest) := by
    intro front
    induction front with
    | nil => exact fun value => rfl
    | cons first front inductionHypothesis =>
        intro value
        have read : (readDigit value (first :: (front ++ rest))).outcome =
            .ok (value * 256 + first.toNat, front ++ rest) := rfl
        exact Reader.bind_eq_ok.mpr ⟨_, _, read, inductionHypothesis _⟩
  exact digits front 0

theorem readFixedUint_bigEndian (width value : Nat) (rest : List UInt8) :
    (readFixedUint width (Bytes.bigEndian width value ++ rest)).outcome =
      .ok (value % 256 ^ width, rest) := by
  have read := readFixedUint_append (Bytes.bigEndian width value) rest
  rwa [Bytes.length_bigEndian, Bytes.ofBigEndian_bigEndian_mod] at read

/-- Eight bytes that hold a safe integer are read as it. -/
theorem readU64AsU53_bigEndian {value : Nat}
    (safe : value ≤ maxSafeInteger) (rest : List UInt8) :
    (readU64AsU53 (Bytes.bigEndian 8 value ++ rest)).outcome =
      .ok (value, rest) := by
  have word : maxSafeInteger < 2 ^ 53 := by decide
  have high : value / 256 ^ 4 % 256 ^ 4 = value / 2 ^ 32 := by
    norm_num
    omega
  have low : value % 256 ^ 4 = value % 2 ^ 32 := by norm_num
  rw [Bytes.bigEndian_add 4 4, List.append_assoc]
  refine Reader.bind_eq_ok.mpr
    ⟨_, _, readFixedUint_bigEndian 4 _ _, ?_⟩
  refine Reader.bind_eq_ok.mpr
    ⟨_, _, readFixedUint_bigEndian 4 _ _, ?_⟩
  rw [high, low, if_neg (by omega)]
  have whole : value / 2 ^ 32 * 0x100000000 + value % 2 ^ 32 = value := by
    omega
  rw [whole, safeUnsigned, if_neg (not_lt.mpr safe)]
  rfl

/-- The web client reads the argument of every head that the daemon writes
for a safe integer. -/
theorem readArg_encodeTypeValue
    {major : UInt8} {value : UInt64}
    (isMajor : major.toNat < 8)
    (safe : isSafeInteger value.toNat = true) :
    ∃ initial payload,
      Daemon.encodeTypeValue major value = initial :: payload ∧
        initial >>> 5 = major ∧
        ∀ rest, (readArg (initial &&& 0x1f) (payload ++ rest)).outcome =
          .ok (value.toNat, rest) := by
  have word : value.toNat ≤ maxSafeInteger := isSafeInteger_natCast.mp safe
  unfold Daemon.encodeTypeValue
  dsimp only
  split
  · rename_i direct
    have byte : value.toUInt8.toNat = value.toNat := by
      rw [UInt64.toNat_toUInt8]
      omega
    have small : value.toUInt8 < 24 := by
      rw [UInt8.lt_iff_toNat_lt, byte]
      exact direct
    obtain ⟨shifted, masked⟩ :=
      Daemon.initial_parts major value.toUInt8 isMajor (by omega)
    refine ⟨_, [], rfl, shifted, fun rest => ?_⟩
    unfold readArg
    rw [masked, if_pos small, byte]
    rfl
  · split
    · rename_i fits
      obtain ⟨shifted, masked⟩ :=
        Daemon.initial_parts major 24 isMajor (by decide)
      refine ⟨_, _, rfl, shifted, fun rest => ?_⟩
      have digit : (UInt8.ofNat value.toNat).toNat = value.toNat := by
        rw [UInt8.toNat_ofNat']
        omega
      rw [masked, bigEndian_one]
      change Except.ok ((UInt8.ofNat value.toNat).toNat, rest) = _
      rw [digit]
    · split
      · rename_i fits
        obtain ⟨shifted, masked⟩ :=
          Daemon.initial_parts major 25 isMajor (by decide)
        refine ⟨_, _, rfl, shifted, fun rest => ?_⟩
        have read := readFixedUint_bigEndian 2 value.toNat rest
        rw [Nat.mod_eq_of_lt (by omega)] at read
        rw [masked]
        exact read
      · split
        · rename_i fits
          obtain ⟨shifted, masked⟩ :=
            Daemon.initial_parts major 26 isMajor (by decide)
          refine ⟨_, _, rfl, shifted, fun rest => ?_⟩
          have read := readFixedUint_bigEndian 4 value.toNat rest
          rw [Nat.mod_eq_of_lt (by omega)] at read
          rw [masked]
          exact read
        · obtain ⟨shifted, masked⟩ :=
            Daemon.initial_parts major 27 isMajor (by decide)
          refine ⟨_, _, rfl, shifted, fun rest => ?_⟩
          rw [masked]
          exact readU64AsU53_bigEndian word rest

/-! ## Both encoders write the same bytes -/

theorem encodeTypeValue_natCast (major : Nat) {value : Nat}
    (safe : value ≤ maxSafeInteger) :
    encodeTypeValue major value =
      .ok (Daemon.encodeTypeValue (UInt8.ofNat major)
        (UInt64.ofNat value)) := by
  have word : maxSafeInteger < UInt64.size := by decide
  have number : (UInt64.ofNat value).toNat = value :=
    UInt64.toNat_ofNat_of_lt' (Nat.lt_of_le_of_lt safe word)
  have same := encodeTypeValue_eq major (UInt64.ofNat value)
  rw [number] at same
  exact same (isSafeInteger_natCast.mpr safe)

/-- Safe integers are written with the same head by both. -/
theorem encodeNumber_toNumber {value : Int}
    (safe : isSafeInteger value = true) :
    encodeNumber (.integer (toNumber value)) =
      .ok (if 0 ≤ value then
          Daemon.encodeTypeValue 0 (UInt64.ofNat value.toNat)
        else
          Daemon.encodeTypeValue 1 (UInt64.ofNat (-1 - value).toNat)) := by
  have bound := isSafeInteger_eq_true.mp safe
  rw [toNumber_of_safe safe, encodeNumber, if_pos safe]
  split
  · rename_i nonnegative
    obtain ⟨number, rfl⟩ := Int.eq_ofNat_of_zero_le nonnegative
    exact encodeTypeValue_natCast 0 (by omega)
  · rename_i negative
    obtain ⟨number, same⟩ :=
      Int.eq_ofNat_of_zero_le (show 0 ≤ -1 - value by omega)
    rw [same]
    exact encodeTypeValue_natCast 1 (by omega)

/-- Items are written to the same bytes when each of them is. -/
theorem encodeItems_image
    {items : List Value}
    (same : ∀ item ∈ items,
      encode (image item) = .ok (Daemon.encodeValue item)) :
    encodeItems (items.map image) = .ok (Daemon.encodeItems items) := by
  induction items with
  | nil => rfl
  | cons item items inductionHypothesis =>
      rw [List.map_cons, encodeItems, same item List.mem_cons_self,
        inductionHypothesis fun other member =>
          same other (List.mem_cons_of_mem _ member)]
      rfl

/-- Entries are written to the same bytes when each value is. -/
theorem encodeEntries_image
    {entries : List (UInt64 × Value)}
    (same : ∀ entry ∈ entries,
      encode (image entry.2) = .ok (Daemon.encodeValue entry.2)) :
    encodeEntries (entries.map fun entry =>
        (toNumber entry.1.toNat, image entry.2)) =
      entries.map fun entry =>
        (toNumber entry.1.toNat, .ok (Daemon.encodeValue entry.2)) := by
  induction entries with
  | nil => rfl
  | cons entry entries inductionHypothesis =>
      rw [List.map_cons, List.map_cons, encodeEntries,
        same entry List.mem_cons_self,
        inductionHypothesis fun other member =>
          same other (List.mem_cons_of_mem _ member)]

/-- Entries in ascending order are left in order by the client. -/
theorem sortEntries_image {α : Type}
    {entries : List (UInt64 × Value)}
    (ascending : SortedMap.Ascending entries)
    (safe : ∀ entry ∈ entries, isSafeInteger entry.1.toNat = true)
    (transform : Value → α) :
    sortEntries (entries.map fun entry =>
        (toNumber entry.1.toNat, transform entry.2)) =
      entries.map fun entry =>
        (toNumber entry.1.toNat, transform entry.2) := by
  refine List.mergeSort_of_pairwise ?_
  rw [List.pairwise_map]
  refine ascending.imp_of_mem fun {left right} leftMember rightMember below => ?_
  rw [toNumber_of_safe (safe left leftMember),
    toNumber_of_safe (safe right rightMember), decide_eq_true_iff]
  have numbers := UInt64.lt_iff_toNat_lt.mp below
  omega

/-- The entries of a map are written to the same bytes by both. -/
theorem writeEntries_image
    {entries : List (UInt64 × Value)}
    (safe : ∀ entry ∈ entries, isSafeInteger entry.1.toNat = true) :
    writeEntries (entries.map fun entry =>
        (toNumber entry.1.toNat, .ok (Daemon.encodeValue entry.2))) =
      .ok (Daemon.encodeEntries entries) := by
  induction entries with
  | nil => rfl
  | cons entry entries inductionHypothesis =>
      obtain ⟨key, value⟩ := entry
      have keySafe : isSafeInteger key.toNat = true :=
        safe (key, value) List.mem_cons_self
      have unsigned : ¬ (isSafeInteger key.toNat = false ∨
          (key.toNat : Int) < 0) := by
        simp [keySafe]
      rw [List.map_cons, writeEntries,
        inductionHypothesis fun other member =>
          safe other (List.mem_cons_of_mem _ member)]
      simp only [toNumber_of_safe keySafe, if_neg unsigned,
        encodeTypeValue_eq 0 key keySafe]
      rfl

/-- In the common profile both encoders write the same bytes. -/
theorem encodeCbor_image {value : Value}
    (common : CommonProfile value) :
    encodeCbor (image value) = .ok value.encode := by
  change encode (image value) = .ok (Daemon.encodeValue value)
  induction value using Value.induct with
  | null => rfl
  | bool value => cases value <;> rfl
  | u64 value =>
      have safe : isSafeInteger value.toNat = true := common.self
      refine (encodeNumber_toNumber safe).trans ?_
      rw [if_pos (Int.natCast_nonneg _), Int.toNat_natCast,
        UInt64.ofNat_toNat]
      rfl
  | i64 value => exact encodeNumber_toNumber common.self
  | f64 bits => rfl
  | bytes payload =>
      have small : payload.length ≤ maxSafeInteger := common.self
      exact Outcome.bind_eq_ok.mpr
        ⟨_, encodeTypeValue_natCast 2 small, rfl⟩
  | text content =>
      have small : (Bytes.utf8 content).length ≤ maxSafeInteger :=
        common.self
      exact Outcome.bind_eq_ok.mpr
        ⟨_, encodeTypeValue_natCast 3 small, rfl⟩
  | array items inductionHypothesis =>
      have short : items.length ≤ maxArrayLength := common.self
      have small : items.length ≤ maxSafeInteger :=
        Nat.le_trans short (by decide)
      have body := encodeItems_image fun item member =>
        inductionHypothesis item member (common.item member)
      rw [image_array, encode, List.length_map,
        encodeTypeValue_natCast 4 small, body]
      rfl
  | map entries inductionHypothesis =>
      obtain ⟨small, ascending, safe⟩ := common.self
      have values := encodeEntries_image fun entry member =>
        inductionHypothesis entry member (common.entry member)
      rw [image_map, encode, List.length_map,
        encodeTypeValue_natCast 5 small, values,
        sortEntries_image ascending safe fun value =>
          Except.ok (Daemon.encodeValue value),
        writeEntries_image safe]
      rfl

/-! ## The web client reads what the daemon wrote -/

/-- Drop the byte order mark of a text. -/
def stripScalar : Value → Value
  | .text content => .text (stripByteOrderMark content)
  | value => value

/-- Drop the byte order mark of every text. -/
def stripMarks : Value → Value :=
  Value.fold stripScalar .array .map

@[simp] theorem stripMarks_array (items : List Value) :
    stripMarks (.array items) = .array (items.map stripMarks) :=
  Value.fold_array ..

@[simp] theorem stripMarks_map (entries : List (UInt64 × Value)) :
    stripMarks (.map entries) =
      .map (entries.map fun entry => (entry.1, stripMarks entry.2)) :=
  Value.fold_map ..

/-- What the web client makes of the bytes of a value. -/
def ReadBack (value : Value) : Prop :=
  ∀ rest, (decode (Daemon.encodeValue value ++ rest)).outcome =
    .ok (image (stripMarks value), rest)

/-- After a head the decoder is left with the argument and the bytes that
follow. -/
theorem decode_head
    (major : UInt8) (value : UInt64)
    (isMajor : major.toNat < 8)
    (safe : isSafeInteger value.toNat = true) :
    ∃ additional payload,
      (∀ rest, decode (Daemon.encodeTypeValue major value ++ rest) =
        decodeMajor decode major additional (payload ++ rest)) ∧
      ∀ rest, (readArg additional (payload ++ rest)).outcome =
        .ok (value.toNat, rest) := by
  obtain ⟨initial, payload, head, shifted, read⟩ :=
    readArg_encodeTypeValue isMajor safe
  refine ⟨initial &&& 0x1f, payload, fun rest => ?_, read⟩
  rw [head, List.cons_append, decode_cons, shifted]

/-- The head of a length that is safe. -/
theorem decode_length
    (major : UInt8) {length : Nat}
    (isMajor : major.toNat < 8)
    (small : length ≤ maxSafeInteger) :
    ∃ additional payload,
      (∀ rest,
        decode (Daemon.encodeTypeValue major (UInt64.ofNat length) ++ rest) =
          decodeMajor decode major additional (payload ++ rest)) ∧
      ∀ rest, (readArg additional (payload ++ rest)).outcome =
        .ok (length, rest) := by
  have word : maxSafeInteger < UInt64.size := by decide
  have number : (UInt64.ofNat length).toNat = length :=
    UInt64.toNat_ofNat_of_lt' (Nat.lt_of_le_of_lt small word)
  have head := decode_head major (UInt64.ofNat length) isMajor
  rw [number] at head
  exact head (isSafeInteger_natCast.mpr small)

theorem decode_unsigned {value : UInt64}
    (safe : isSafeInteger value.toNat = true) (rest : List UInt8) :
    (decode (Daemon.encodeTypeValue 0 value ++ rest)).outcome =
      .ok (.number (.integer value.toNat), rest) := by
  obtain ⟨additional, payload, decoded, read⟩ :=
    decode_head 0 value (by decide) safe
  rw [decoded]
  exact Reader.bind_eq_ok.mpr ⟨_, _, read rest, rfl⟩

/-- The client reads the items of an array back, without byte order marks. -/
theorem decodeItems_read
    {items : List Value}
    (readBack : ∀ item ∈ items, ReadBack item)
    (done : List CborValue) (rest : List UInt8) :
    (Reader.loop (decodeItem decode) items.length done
        (Daemon.encodeItems items ++ rest)).outcome =
      .ok (done ++ items.map (image ∘ stripMarks), rest) := by
  induction items generalizing done with
  | nil => simp [Daemon.encodeItems, Reader.loop_zero]
  | cons item items inductionHypothesis =>
      have read : (decodeItem decode done
          (Daemon.encodeItems (item :: items) ++ rest)).outcome =
            .ok (done ++ [image (stripMarks item)],
              Daemon.encodeItems items ++ rest) := by
        rw [Daemon.encodeItems, List.append_assoc]
        exact Reader.bind_eq_ok.mpr
          ⟨_, _, readBack item List.mem_cons_self _, rfl⟩
      have tail := inductionHypothesis
        (fun other member => readBack other (List.mem_cons_of_mem _ member))
        (done ++ [image (stripMarks item)])
      refine Reader.bind_eq_ok.mpr ⟨_, _, read, ?_⟩
      simpa using tail

/-- The client reads the entries of a map back, without byte order marks. -/
theorem decodeEntries_read
    {entries : List (UInt64 × Value)}
    (readBack : ∀ entry ∈ entries, ReadBack entry.2)
    (ascending : SortedMap.Ascending entries)
    (safe : ∀ entry ∈ entries, isSafeInteger entry.1.toNat = true)
    {done : List (Int × CborValue)}
    (fresh : ∀ entry ∈ entries, done.lookup (entry.1.toNat : Int) = none)
    (rest : List UInt8) :
    (Reader.loop (decodeEntry decode) entries.length done
        (Daemon.encodeEntries entries ++ rest)).outcome =
      .ok (done ++ entries.map fun entry =>
        ((entry.1.toNat : Int), image (stripMarks entry.2)), rest) := by
  induction entries generalizing done with
  | nil => simp [Daemon.encodeEntries, Reader.loop_zero]
  | cons entry entries inductionHypothesis =>
      obtain ⟨key, value⟩ := entry
      obtain ⟨below, ascending⟩ := List.pairwise_cons.mp ascending
      have keySafe : isSafeInteger key.toNat = true :=
        safe (key, value) List.mem_cons_self
      have unsigned : ¬ (isSafeInteger key.toNat = false ∨
          (key.toNat : Int) < 0) := by
        simp [keySafe]
      have notFound : ¬ (done.lookup (key.toNat : Int)).isSome := by
        simp [fresh (key, value) List.mem_cons_self]
      have read : (decodeEntry decode done
          (Daemon.encodeEntries ((key, value) :: entries) ++ rest)).outcome =
            .ok (done ++ [((key.toNat : Int), image (stripMarks value))],
              Daemon.encodeEntries entries ++ rest) := by
        rw [Daemon.encodeEntries, List.append_assoc, List.append_assoc]
        refine Reader.bind_eq_ok.mpr ⟨_, _, decode_unsigned keySafe _, ?_⟩
        dsimp only
        rw [if_neg unsigned, if_neg notFound]
        exact Reader.bind_eq_ok.mpr
          ⟨_, _, readBack (key, value) List.mem_cons_self _, rfl⟩
      have laterFresh : ∀ later ∈ entries,
          (done ++ [((key.toNat : Int), image (stripMarks value))]).lookup
            (later.1.toNat : Int) = none := by
        intro later member
        have different : ((later.1.toNat : Int) == key.toNat) = false := by
          have less : key.toNat < later.1.toNat :=
            UInt64.lt_iff_toNat_lt.mp (below later member)
          rw [beq_eq_false_iff_ne]
          omega
        rw [List.lookup_append,
          fresh later (List.mem_cons_of_mem _ member), List.lookup_cons,
          different]
        rfl
      have tail := inductionHypothesis
        (fun other member => readBack other (List.mem_cons_of_mem _ member))
        ascending
        (fun other member => safe other (List.mem_cons_of_mem _ member))
        laterFresh
      refine Reader.bind_eq_ok.mpr ⟨_, _, read, ?_⟩
      simpa using tail

theorem image_stripMarks_map
    {entries : List (UInt64 × Value)}
    (safe : ∀ entry ∈ entries, isSafeInteger entry.1.toNat = true) :
    image (stripMarks (.map entries)) =
      .map (entries.map fun entry =>
        ((entry.1.toNat : Int), image (stripMarks entry.2))) := by
  rw [stripMarks_map, image_map, List.map_map]
  congr 1
  apply List.map_congr_left
  intro entry member
  exact Prod.ext (toNumber_of_safe (safe entry member)) rfl

/-- The web client reads every value of the common profile that the daemon
wrote, without the byte order marks of its texts. -/
theorem CommonProfile.readBack {value : Value}
    (common : CommonProfile value) : ReadBack value := by
  induction value using Value.induct with
  | null => exact fun rest => congrArg ReadResult.outcome (decode_cons 0xf6 _)
  | bool value =>
      intro rest
      cases value
      · exact congrArg ReadResult.outcome (decode_cons 0xf4 rest)
      · exact congrArg ReadResult.outcome (decode_cons 0xf5 rest)
  | u64 value =>
      intro rest
      have safe : isSafeInteger value.toNat = true := common.self
      refine (decode_unsigned safe rest).trans ?_
      change _ = Except.ok
        (CborValue.number (.integer (toNumber value.toNat)), rest)
      rw [toNumber_of_safe safe]
  | i64 value =>
      intro rest
      have safe : isSafeInteger value.toInt = true := common.self
      have bound := isSafeInteger_eq_true.mp safe
      change _ = Except.ok
        (CborValue.number (.integer (toNumber value.toInt)), rest)
      rw [toNumber_of_safe safe, Daemon.encodeValue]
      split
      · rename_i nonnegative
        have small : value.toInt.toNat ≤ maxSafeInteger := by omega
        obtain ⟨additional, head, decoded, read⟩ :=
          decode_length 0 (by decide) small
        rw [decoded]
        refine Reader.bind_eq_ok.mpr ⟨_, _, read rest, ?_⟩
        rw [Int.toNat_of_nonneg nonnegative]
        rfl
      · rename_i negative
        have small : (-1 - value.toInt).toNat ≤ maxSafeInteger - 1 := by
          omega
        obtain ⟨additional, head, decoded, read⟩ :=
          decode_length 1 (by decide) (Nat.le_trans small (Nat.sub_le _ _))
        have argument : (readNegativeArg additional (head ++ rest)).outcome =
            .ok ((-1 - value.toInt).toNat, rest) := by
          refine Reader.bind_eq_ok.mpr ⟨_, _, read rest, ?_⟩
          rw [if_neg (not_lt.mpr small)]
          rfl
        have same : -1 - ((-1 - value.toInt).toNat : Int) = value.toInt := by
          omega
        rw [decoded]
        refine Reader.bind_eq_ok.mpr ⟨_, _, argument, ?_⟩
        rw [same]
        rfl
  | f64 bits =>
      intro rest
      have finite : isFinite bits = true := common.self
      have number : Bytes.ofBigEndian (Bytes.bigEndian 8 bits.toNat) =
          bits.toNat :=
        Bytes.ofBigEndian_bigEndian 8 _ bits.toNat_lt
      refine (congrArg ReadResult.outcome (decode_cons 0xfb _)).trans ?_
      refine Reader.bind_eq_ok.mpr ⟨_, _,
        Reader.take_eq_ok.mpr ⟨Bytes.length_bigEndian .., rfl⟩, ?_⟩
      rw [number, UInt64.ofNat_toNat, cborF64, if_pos finite]
      rfl
  | bytes payload =>
      intro rest
      have small : payload.length ≤ maxSafeInteger := common.self
      obtain ⟨additional, head, decoded, read⟩ :=
        decode_length 2 (by decide) small
      rw [Daemon.encodeValue, List.append_assoc, decoded]
      refine Reader.bind_eq_ok.mpr ⟨_, _, read _, ?_⟩
      exact Reader.bind_eq_ok.mpr
        ⟨_, _, Reader.take_eq_ok.mpr ⟨rfl, rfl⟩, rfl⟩
  | text content =>
      intro rest
      have small : (Bytes.utf8 content).length ≤ maxSafeInteger :=
        common.self
      have text : (decodeText (Bytes.utf8 content) rest).outcome =
          .ok (stripByteOrderMark content, rest) := by
        rw [decodeText, Bytes.ofUtf8_utf8]
        rfl
      obtain ⟨additional, head, decoded, read⟩ :=
        decode_length 3 (by decide) small
      rw [Daemon.encodeValue, List.append_assoc, decoded]
      refine Reader.bind_eq_ok.mpr ⟨_, _, read _, ?_⟩
      refine Reader.bind_eq_ok.mpr
        ⟨_, _, Reader.take_eq_ok.mpr ⟨rfl, rfl⟩, ?_⟩
      exact Reader.bind_eq_ok.mpr ⟨_, _, text, rfl⟩
  | array items inductionHypothesis =>
      intro rest
      have short : items.length ≤ maxArrayLength := common.self
      have body := decodeItems_read
        (fun item member =>
          inductionHypothesis item member (common.item member)) [] rest
      obtain ⟨additional, head, decoded, read⟩ :=
        decode_length 4 (by decide) (Nat.le_trans short (by decide))
      rw [Daemon.encodeValue, List.append_assoc, decoded,
        stripMarks_array, image_array, List.map_map]
      refine Reader.bind_eq_ok.mpr ⟨_, _, read _, ?_⟩
      rw [if_neg (not_lt.mpr short)]
      exact Reader.bind_eq_ok.mpr ⟨_, _, body, rfl⟩
  | map entries inductionHypothesis =>
      intro rest
      obtain ⟨small, ascending, safe⟩ := common.self
      have fresh : ∀ entry ∈ entries,
          ([] : List (Int × CborValue)).lookup (entry.1.toNat : Int) = none :=
        fun _ _ => rfl
      have body := decodeEntries_read
        (fun entry member =>
          inductionHypothesis entry member (common.entry member))
        ascending safe fresh rest
      obtain ⟨additional, head, decoded, read⟩ :=
        decode_length 5 (by decide) small
      rw [Daemon.encodeValue, List.append_assoc, decoded,
        image_stripMarks_map safe]
      refine Reader.bind_eq_ok.mpr ⟨_, _, read _, ?_⟩
      exact Reader.bind_eq_ok.mpr ⟨_, _, body, rfl⟩

/-! ## When the codecs agree -/

/-- A text does not begin with a byte order mark. -/
def Unmarked : Value → Prop
  | .text content => content.toList.head? ≠ some '\uFEFF'
  | _ => True

/-- A text loses its first character exactly when it is a byte order mark. -/
theorem stripByteOrderMark_eq_self {text : String} :
    stripByteOrderMark text = text ↔ text.toList.head? ≠ some '\uFEFF' := by
  unfold stripByteOrderMark
  split
  · rename_i rest marked
    constructor
    · intro same
      have lists := congrArg String.toList same
      rw [String.toList_ofList, marked] at lists
      exact absurd (congrArg List.length lists) (by simp)
    · intro unmarked
      exact absurd (by rw [marked]; rfl) unmarked
  · rename_i unmarked
    refine ⟨fun _ head => ?_, fun _ => rfl⟩
    obtain ⟨rest, same⟩ := List.head?_eq_some_iff.mp head
    exact unmarked rest same

/-- Dropping the byte order marks changes the image exactly where there are
some. -/
theorem image_stripMarks {value : Value} :
    image (stripMarks value) = image value ↔ value.Every Unmarked := by
  induction value using Value.induct with
  | null | bool | u64 | i64 | f64 | bytes =>
      exact ⟨fun _ => .leaf trivial rfl, fun _ => rfl⟩
  | text content =>
      constructor
      · intro same
        injection same with texts
        exact .leaf (stripByteOrderMark_eq_self.mp texts) rfl
      · intro unmarked
        exact congrArg CborValue.text
          (stripByteOrderMark_eq_self.mpr unmarked.self)
  | array items inductionHypothesis =>
      rw [stripMarks_array, image_array, image_array, List.map_map,
        CborValue.array.injEq, List.map_inj_left]
      constructor
      · intro same
        exact .array trivial fun item member =>
          (inductionHypothesis item member).mp (same item member)
      · intro unmarked item member
        exact (inductionHypothesis item member).mpr (unmarked.item member)
  | map entries inductionHypothesis =>
      rw [stripMarks_map, image_map, image_map, List.map_map,
        CborValue.map.injEq, List.map_inj_left]
      constructor
      · intro same
        refine .map trivial fun entry member => ?_
        exact (inductionHypothesis entry member).mp
          (congrArg Prod.snd (same entry member))
      · intro unmarked entry member
        exact Prod.ext rfl
          ((inductionHypothesis entry member).mpr (unmarked.entry member))

theorem decodeCbor_encode {value : Value}
    (common : CommonProfile value) :
    decodeCbor value.encode = .ok (image (stripMarks value)) := by
  have read := common.readBack []
  rw [List.append_nil] at read
  unfold decodeCbor
  exact Outcome.bind_eq_ok.mpr ⟨_, read, rfl⟩

/-- Each side reads what the other side wrote, with nothing altered but the
sign that an integer of the daemon carries in its type. -/
def CodecsAgree (value : Value) : Prop :=
  decodeCbor value.encode = .ok (image value) ∧
    ∃ bytes, encodeCbor (image value) = .ok bytes ∧
      Value.decode bytes = .ok value.normalize

/-- In the common profile the codecs agree on exactly the values without a
text that begins with a byte order mark. -/
theorem codecs_agree_iff
    (value : Value)
    (common : CommonProfile value) :
    CodecsAgree value ↔ value.Every Unmarked := by
  have written : ∃ bytes, encodeCbor (image value) = .ok bytes ∧
      Value.decode bytes = .ok value.normalize :=
    ⟨_, encodeCbor_image common, common.valid.decode_encode⟩
  unfold CodecsAgree
  rw [decodeCbor_encode common, Except.ok.injEq, image_stripMarks]
  exact and_iff_left written

/-- The codecs agree on a nested value without such a text. -/
theorem codecs_agree_on_array :
    CodecsAgree (.array [.text "a", .map [(1, .u64 5)]]) := by
  have common : CommonProfile (.array [.text "a", .map [(1, .u64 5)]]) := by
    refine .array (by decide) ?_
    simp only [List.mem_cons, List.not_mem_nil, or_false, forall_eq_or_imp,
      forall_eq]
    refine ⟨.leaf (by decide) rfl, .map (by decide) ?_⟩
    simp only [List.mem_singleton, forall_eq]
    exact .leaf (by decide) rfl
  refine (codecs_agree_iff _ common).mpr (.array trivial ?_)
  simp only [List.mem_cons, List.not_mem_nil, or_false, forall_eq_or_imp,
    forall_eq]
  refine ⟨.leaf ?_ rfl, .map trivial ?_⟩
  · change "a".toList.head? ≠ some '\uFEFF'
    decide
  · simp only [List.mem_singleton, forall_eq]
    exact .leaf trivial rfl

/-- The text that consists of a byte order mark comes back empty. -/
theorem codecs_disagree_on_mark :
    CommonProfile (.text "\uFEFF") ∧
      decodeCbor (Value.text "\uFEFF").encode = .ok (.text "") ∧
      ¬ CodecsAgree (.text "\uFEFF") := by
  have common : CommonProfile (.text "\uFEFF") :=
    .leaf (by decide) rfl
  have stripped : decodeCbor (Value.text "\uFEFF").encode =
      .ok (.text "") := decodeCbor_encode common
  refine ⟨common, stripped, fun agree => ?_⟩
  have altered := stripped.symm.trans agree.1
  injection altered with same
  injection same with texts
  exact absurd texts (by decide)

end Web
end WhatsGoingOn
