import WhatsGoingOn.Library.Bytes
import WhatsGoingOn.Library.SortedMap

/-!
# CBOR values of the daemon

The daemon's in-memory CBOR values, and the limits the Rust language puts on
them on a 64-bit target.  A map is the list of its entries.  In the values the
daemon holds the keys ascend; in the tree spelled by a byte string they stand
in the order in which the bytes list them.
-/

namespace WhatsGoingOn
namespace Daemon

/-- `isize::MAX`: no Rust allocation or slice spans more bytes. -/
def isizeMax : Nat := 2 ^ 63 - 1

/-- `usize::MAX`. -/
def usizeMax : Nat := 2 ^ 64 - 1

/-- `i64::MAX`. -/
def i64Max : Nat := 2 ^ 63 - 1

/-- A CBOR value.  Floats are kept as their bit patterns. -/
inductive Value where
  | null
  | bool (value : Bool)
  | u64 (value : UInt64)
  | i64 (value : Int64)
  | f64 (bits : UInt64)
  | bytes (payload : List UInt8)
  | text (content : String)
  | array (items : List Value)
  | map (entries : List (UInt64 × Value))

/-- `size_of::<Value>()`: a 24-byte payload and the variant tag. -/
def valueSize : Nat := 32

namespace Value

/-- Induction over a value, its items and the values of its entries. -/
@[elab_as_elim]
theorem induct {motive : Value → Prop}
    (null : motive .null)
    (bool : ∀ value, motive (.bool value))
    (u64 : ∀ value, motive (.u64 value))
    (i64 : ∀ value, motive (.i64 value))
    (f64 : ∀ bits, motive (.f64 bits))
    (bytes : ∀ payload, motive (.bytes payload))
    (text : ∀ content, motive (.text content))
    (array : ∀ items, (∀ item ∈ items, motive item) → motive (.array items))
    (map : ∀ entries,
      (∀ entry ∈ entries, motive entry.2) → motive (.map entries))
    (value : Value) : motive value :=
  @Value.rec motive
    (fun items => ∀ item ∈ items, motive item)
    (fun entries => ∀ entry ∈ entries, motive entry.2)
    (fun entry => motive entry.2)
    null bool u64 i64 f64 bytes text array map
    (by simp)
    (fun _ _ headHolds tailHolds => by
      simpa using ⟨headHolds, tailHolds⟩)
    (by simp)
    (fun _ _ headHolds tailHolds => by
      intro entry member
      rcases List.mem_cons.mp member with rfl | inTail
      · exact headHolds
      · exact tailHolds entry inTail)
    (fun _ _ valueHolds => valueHolds)
    value

/-! ## Folds -/

mutual

/-- Rebuild a value bottom-up. -/
def fold {β : Type}
    (scalar : Value → β)
    (array : List β → β)
    (map : List (UInt64 × β) → β) : Value → β
  | .array items => array (foldItems scalar array map items)
  | .map entries => map (foldEntries scalar array map entries)
  | value => scalar value

/-- Fold every item of an array. -/
def foldItems {β : Type}
    (scalar : Value → β)
    (array : List β → β)
    (map : List (UInt64 × β) → β) : List Value → List β
  | [] => []
  | item :: items =>
      fold scalar array map item :: foldItems scalar array map items

/-- Fold the value of every entry of a map. -/
def foldEntries {β : Type}
    (scalar : Value → β)
    (array : List β → β)
    (map : List (UInt64 × β) → β) :
    List (UInt64 × Value) → List (UInt64 × β)
  | [] => []
  | (key, value) :: entries =>
      (key, fold scalar array map value) ::
        foldEntries scalar array map entries

end

section Fold

variable {β : Type}
variable (scalar : Value → β)
variable (array : List β → β)
variable (map : List (UInt64 × β) → β)

theorem foldItems_eq_map (items : List Value) :
    foldItems scalar array map items =
      items.map (fold scalar array map) := by
  induction items with
  | nil => rfl
  | cons item items inductionHypothesis =>
      rw [foldItems, inductionHypothesis, List.map_cons]

theorem foldEntries_eq_map (entries : List (UInt64 × Value)) :
    foldEntries scalar array map entries =
      entries.map fun entry => (entry.1, fold scalar array map entry.2) := by
  induction entries with
  | nil => rfl
  | cons entry entries inductionHypothesis =>
      obtain ⟨key, value⟩ := entry
      rw [foldEntries, inductionHypothesis, List.map_cons]

theorem fold_array (items : List Value) :
    fold scalar array map (.array items) =
      array (items.map (fold scalar array map)) := by
  rw [fold, foldItems_eq_map]

theorem fold_map (entries : List (UInt64 × Value)) :
    fold scalar array map (.map entries) =
      map (entries.map fun entry =>
        (entry.1, fold scalar array map entry.2)) := by
  rw [fold, foldEntries_eq_map]

end Fold

/-! ## Properties of every part of a value -/

/-- Items of an array and values of a map. -/
def children : Value → List Value
  | .array items => items
  | .map entries => entries.map Prod.snd
  | _ => []

/-- A property of a value and of everything nested in it. -/
inductive Every (property : Value → Prop) : Value → Prop where
  | intro {value : Value} :
      property value →
      (∀ child ∈ value.children, Every property child) →
      Every property value

namespace Every

variable {property : Value → Prop}

theorem self {value : Value} (every : value.Every property) :
    property value := by
  cases every with
  | intro holds _ => exact holds

theorem child {value part : Value}
    (every : value.Every property)
    (member : part ∈ value.children) :
    part.Every property := by
  cases every with
  | intro _ below => exact below part member

theorem item {items : List Value} {part : Value}
    (every : (Value.array items).Every property)
    (member : part ∈ items) :
    part.Every property :=
  every.child member

theorem entry {entries : List (UInt64 × Value)} {part : UInt64 × Value}
    (every : (Value.map entries).Every property)
    (member : part ∈ entries) :
    part.2.Every property :=
  every.child (List.mem_map_of_mem member)

/-- A value with no parts has every property that holds of it. -/
theorem leaf {value : Value}
    (holds : property value)
    (childless : value.children = []) :
    value.Every property := by
  refine .intro holds ?_
  intro child member
  rw [childless] at member
  cases member

theorem array {items : List Value}
    (holds : property (.array items))
    (below : ∀ item ∈ items, item.Every property) :
    (Value.array items).Every property :=
  .intro holds below

theorem map {entries : List (UInt64 × Value)}
    (holds : property (.map entries))
    (below : ∀ entry ∈ entries, entry.2.Every property) :
    (Value.map entries).Every property := by
  refine .intro holds ?_
  intro child member
  obtain ⟨entry, inEntries, rfl⟩ := List.mem_map.mp member
  exact below entry inEntries

/-- A property of every part holds where it passes from all that is nested in
a value to the value. -/
theorem of_step
    (step : ∀ value : Value,
      (∀ part ∈ value.children, part.Every property) → property value)
    (value : Value) : value.Every property := by
  have extend : ∀ value : Value,
      (∀ part ∈ value.children, part.Every property) →
        value.Every property := fun value below =>
    .intro (step value below) below
  induction value using Value.induct with
  | null | bool | u64 | i64 | f64 | bytes | text =>
      exact extend _ fun _ member => by cases member
  | array items inductionHypothesis => exact extend _ inductionHypothesis
  | map entries inductionHypothesis =>
      refine extend _ fun part member => ?_
      obtain ⟨entry, inEntries, rfl⟩ := List.mem_map.mp member
      exact inductionHypothesis entry inEntries

theorem mono {other : Value → Prop} {value : Value}
    (every : value.Every property)
    (weaker : ∀ part, property part → other part) :
    value.Every other := by
  induction every with
  | intro holds _ inductionHypothesis =>
      exact .intro (weaker _ holds) inductionHypothesis

theorem and {other : Value → Prop} {value : Value}
    (first : value.Every property) (second : value.Every other) :
    value.Every fun part => property part ∧ other part := by
  induction first with
  | intro holds _ inductionHypothesis =>
      exact .intro ⟨holds, second.self⟩ fun child member =>
        inductionHypothesis child member (second.child member)

end Every

/-! ## Values the daemon can hold, and trees that bytes can spell -/

/-- The sizes that Rust's collections admit. -/
def Sized : Value → Prop
  | .bytes payload => payload.length ≤ isizeMax
  | .text content => (Bytes.utf8 content).length ≤ isizeMax
  | .array items => items.length * valueSize ≤ isizeMax
  | .map entries => entries.length ≤ usizeMax
  | _ => True

/-- A `BTreeMap` iterates over its keys in ascending order. -/
def Ordered : Value → Prop
  | .map entries => SortedMap.Ascending entries
  | _ => True

/-- No key of a map is listed twice. -/
def Distinct : Value → Prop
  | .map entries => (SortedMap.keys entries).Nodup
  | _ => True

/-- A signed integer stands for a negative number. -/
def Signed : Value → Prop
  | .i64 value => value.toInt < 0
  | _ => True

instance : (value : Value) → Decidable value.Sized
  | .bytes payload => inferInstanceAs (Decidable (payload.length ≤ isizeMax))
  | .text content =>
      inferInstanceAs (Decidable ((Bytes.utf8 content).length ≤ isizeMax))
  | .array items =>
      inferInstanceAs (Decidable (items.length * valueSize ≤ isizeMax))
  | .map entries => inferInstanceAs (Decidable (entries.length ≤ usizeMax))
  | .null | .bool _ | .u64 _ | .i64 _ | .f64 _ => .isTrue trivial

instance : (value : Value) → Decidable value.Ordered
  | .map entries =>
      inferInstanceAs (Decidable (SortedMap.Ascending entries))
  | .null | .bool _ | .u64 _ | .i64 _ | .f64 _ | .bytes _ | .text _
  | .array _ => .isTrue trivial

/-- A value that the Rust type can hold. -/
def Valid (value : Value) : Prop :=
  value.Every fun part => part.Sized ∧ part.Ordered

/-- A tree that a byte string of the profile can spell, its map entries in the
order in which the bytes list them. -/
def Wire (tree : Value) : Prop :=
  tree.Every fun part => part.Sized ∧ part.Distinct ∧ part.Signed

/-- The one normalisation the wire imposes: a signed integer that is not
negative comes back unsigned. -/
def normalizeScalar : Value → Value
  | .i64 value =>
      if 0 ≤ value.toInt then .u64 (UInt64.ofNat value.toInt.toNat)
      else .i64 value
  | value => value

/-- Normalise every integer of a value. -/
def normalize : Value → Value :=
  fold normalizeScalar .array .map

/-- Sort the entries of every map of a tree by inserting them one after
another. -/
def sorted : Value → Value :=
  fold id .array fun entries => .map (SortedMap.insertAll entries [])

theorem normalize_i64 (value : Int64) :
    (Value.i64 value).normalize =
      if 0 ≤ value.toInt then .u64 (UInt64.ofNat value.toInt.toNat)
      else .i64 value := rfl

@[simp] theorem normalize_array (items : List Value) :
    (Value.array items).normalize = .array (items.map normalize) :=
  fold_array ..

@[simp] theorem normalize_map (entries : List (UInt64 × Value)) :
    (Value.map entries).normalize =
      .map (entries.map fun entry => (entry.1, entry.2.normalize)) :=
  fold_map ..

@[simp] theorem sorted_array (items : List Value) :
    (Value.array items).sorted = .array (items.map sorted) :=
  fold_array ..

@[simp] theorem sorted_map (entries : List (UInt64 × Value)) :
    (Value.map entries).sorted =
      .map (SortedMap.insertAll
        (entries.map fun entry => (entry.1, entry.2.sorted)) []) :=
  fold_map ..

/-- Sorting a value whose maps ascend already changes nothing. -/
theorem sorted_eq_self {value : Value}
    (ordered : value.Every Ordered) : value.sorted = value := by
  induction value using Value.induct with
  | null | bool | u64 | i64 | f64 | bytes | text => rfl
  | array items inductionHypothesis =>
      have same : items.map sorted = items := by
        rw [List.map_congr_left (g := id), List.map_id]
        intro item member
        exact inductionHypothesis item member (ordered.item member)
      rw [sorted_array, same]
  | map entries inductionHypothesis =>
      have same :
          (entries.map fun entry => (entry.1, entry.2.sorted)) = entries := by
        rw [List.map_congr_left (g := id), List.map_id]
        intro entry member
        exact Prod.ext rfl
          (inductionHypothesis entry member (ordered.entry member))
      have ascending : SortedMap.Ascending entries := ordered.self
      rw [sorted_map, same, SortedMap.insertAll_of_ascending ascending]

/-- A normalised value of the daemon is a tree that bytes can spell. -/
theorem Valid.wire_normalize {value : Value}
    (valid : value.Valid) : value.normalize.Wire := by
  induction value using Value.induct with
  | null | bool | u64 | f64 | bytes | text =>
      exact Every.leaf ⟨valid.self.1, trivial, trivial⟩ rfl
  | i64 value =>
      rw [normalize_i64]
      split
      · exact Every.leaf ⟨trivial, trivial, trivial⟩ rfl
      · rename_i negative
        exact Every.leaf ⟨trivial, trivial, not_le.mp negative⟩ rfl
  | array items inductionHypothesis =>
      rw [normalize_array]
      refine Every.array ⟨?_, trivial, trivial⟩ ?_
      · simpa [Sized] using valid.self.1
      · intro item member
        obtain ⟨original, inItems, rfl⟩ := List.mem_map.mp member
        exact inductionHypothesis original inItems (valid.item inItems)
  | map entries inductionHypothesis =>
      have ascending : SortedMap.Ascending entries := valid.self.2
      rw [normalize_map]
      refine Every.map ⟨?_, ?_, trivial⟩ ?_
      · simpa [Sized] using valid.self.1
      · simpa [Distinct] using ascending.nodup
      · intro entry member
        obtain ⟨original, inEntries, rfl⟩ := List.mem_map.mp member
        exact inductionHypothesis original inEntries (valid.entry inEntries)

/-- Normalisation keeps the maps ascending. -/
theorem ordered_normalize {value : Value}
    (ordered : value.Every Ordered) : value.normalize.Every Ordered := by
  induction value using Value.induct with
  | null | bool | u64 | f64 | bytes | text =>
      exact Every.leaf trivial rfl
  | i64 value =>
      rw [normalize_i64]
      split <;> exact Every.leaf trivial rfl
  | array items inductionHypothesis =>
      rw [normalize_array]
      refine Every.array trivial ?_
      intro item member
      obtain ⟨original, inItems, rfl⟩ := List.mem_map.mp member
      exact inductionHypothesis original inItems (ordered.item inItems)
  | map entries inductionHypothesis =>
      have ascending : SortedMap.Ascending entries := ordered.self
      rw [normalize_map]
      refine Every.map (SortedMap.ascending_map normalize ascending) ?_
      intro entry member
      obtain ⟨original, inEntries, rfl⟩ := List.mem_map.mp member
      exact inductionHypothesis original inEntries (ordered.entry inEntries)

/-- Sorting the maps of a tree orders it and keeps what bytes can spell. -/
theorem Wire.every_sorted {tree : Value}
    (wire : tree.Wire) :
    tree.sorted.Every fun part =>
      part.Sized ∧ part.Ordered ∧ part.Distinct ∧ part.Signed := by
  induction tree using Value.induct with
  | null | bool | u64 | i64 | f64 | bytes | text =>
      exact Every.leaf ⟨wire.self.1, trivial, wire.self.2⟩ rfl
  | array items inductionHypothesis =>
      rw [sorted_array]
      refine Every.array ⟨?_, trivial, trivial, trivial⟩ ?_
      · simpa [Sized] using wire.self.1
      · intro item member
        obtain ⟨original, inItems, rfl⟩ := List.mem_map.mp member
        exact inductionHypothesis original inItems (wire.item inItems)
  | map entries inductionHypothesis =>
      have distinct : (SortedMap.keys entries).Nodup := wire.self.2.1
      have permutation :
          (SortedMap.insertAll
            (entries.map fun entry => (entry.1, entry.2.sorted)) []).Perm
            (entries.map fun entry => (entry.1, entry.2.sorted)) := by
        refine SortedMap.perm_sort ?_
        simpa using distinct
      have ascending : SortedMap.Ascending
          (SortedMap.insertAll
            (entries.map fun entry => (entry.1, entry.2.sorted)) []) :=
        SortedMap.ascending_insertAll _ List.Pairwise.nil
      rw [sorted_map]
      refine Every.map ⟨?_, ascending, ascending.nodup, trivial⟩ ?_
      · have size := wire.self.1
        simp only [Sized] at size ⊢
        rwa [permutation.length_eq, List.length_map]
      · intro entry member
        obtain ⟨original, inEntries, rfl⟩ :=
          List.mem_map.mp (permutation.subset member)
        exact inductionHypothesis original inEntries (wire.entry inEntries)

theorem Wire.wire_sorted {tree : Value}
    (wire : tree.Wire) : tree.sorted.Wire :=
  wire.every_sorted.mono fun _ holds => ⟨holds.1, holds.2.2⟩

theorem Wire.ordered_sorted {tree : Value}
    (wire : tree.Wire) : tree.sorted.Every Ordered :=
  wire.every_sorted.mono fun _ holds => holds.2.1

end Value
end Daemon
end WhatsGoingOn
