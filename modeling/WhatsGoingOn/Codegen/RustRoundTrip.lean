import WhatsGoingOn.Codegen.RustDecoder
import WhatsGoingOn.Daemon.CborRoundTrip
import Mathlib.Logic.Relation

/-!
# Round trips of the generated Rust codec

A generated decoder reads back what the generated encoder of the same type
wrote, also after fields it does not know were added.
-/

namespace WhatsGoingOn
namespace Codegen

open Daemon

variable {π : Type} {schema : Schema π}

/-! ## Decoding an encoded value -/

/-- What the encoder makes of a value, and the decoder of that. -/
def ReadBack {type : TypeRef π} (value : RustValue schema type)
    (tree : Value) : Prop :=
  value.encodeExpr = .ok tree ∧ tree.Every Value.Ordered ∧
    decodeExpr schema tree type = .ok value

/-- Every entry of a map is ordered inside. -/
def OrderedEntries (entries : List (UInt64 × Value)) : Prop :=
  SortedMap.Ascending entries ∧
    ∀ entry ∈ entries, entry.2.Every Value.Ordered

theorem OrderedEntries.nil : OrderedEntries [] :=
  ⟨List.Pairwise.nil, by simp⟩

theorem OrderedEntries.insert
    {key : UInt64} {value : Value} {entries : List (UInt64 × Value)}
    (ordered : OrderedEntries entries)
    (valueOrdered : value.Every Value.Ordered) :
    OrderedEntries (SortedMap.insert key value entries) := by
  refine ⟨SortedMap.ascending_insert key value ordered.1, ?_⟩
  intro entry member
  rcases SortedMap.mem_insert member with rfl | old
  · exact valueOrdered
  · exact ordered.2 entry old

/-- Insert the value of a field, if it has one. -/
def insertField (id : UInt64) (value : Option Value)
    (map : List (UInt64 × Value)) : List (UInt64 × Value) :=
  match value with
  | some value => SortedMap.insert id value map
  | none => map

theorem encodeFields_cons
    {field : FieldDeclaration π} {fields : List (FieldDeclaration π)}
    (head : RustField schema field) (tail : RustFields schema fields)
    (map : List (UInt64 × Value)) :
    (RustFields.cons head tail).encodeFields map = (do
      let value ← head.encodeField
      tail.encodeFields (insertField field.id value map)) := by
  rw [RustFields.encodeFields]
  cases head.encodeField with
  | error failure => rfl
  | ok value => cases value <;> rfl

theorem OrderedEntries.insertField
    {id : UInt64} {value : Option Value} {map : List (UInt64 × Value)}
    (ordered : OrderedEntries map)
    (valueOrdered : ∀ tree ∈ value, tree.Every Value.Ordered) :
    OrderedEntries (insertField id value map) := by
  cases value with
  | none => exact ordered
  | some tree => exact ordered.insert (valueOrdered tree rfl)

/-- Adding a field changes nothing at other ids. -/
theorem lookup_insertField
    {id : UInt64} (value : Option Value) {map : List (UInt64 × Value)}
    (fresh : map.lookup id = none)
    (other : UInt64) :
    (insertField id value map).lookup other =
      if other = id then value else map.lookup other := by
  cases value with
  | none =>
      split
      · rename_i same
        rw [same]
        exact fresh
      · rfl
  | some tree => exact SortedMap.lookup_insert id other tree map

mutual

/-- The decoder reads back every value in range. -/
theorem RustValue.readBack {type : TypeRef π} :
    (value : RustValue schema type) → value.Within .documented →
      ∃ tree, ReadBack value tree
  | .u53 value, within => by
      have encoded : encodeU53 value = .ok (.u64 value) :=
        if_neg (not_lt.mpr (by exact_mod_cast within.2))
      exact ⟨.u64 value, encoded, .leaf trivial rfl, rfl⟩
  | .i53 value, within => by
      have encoded : encodeI53 value = .ok (.i64 value) := if_pos within
      exact ⟨.i64 value, encoded, .leaf trivial rfl, rfl⟩
  | .f64 bits, within => by
      have encoded : encodeF64 bits = .ok (.f64 bits) := if_pos within
      exact ⟨.f64 bits, encoded, .leaf trivial rfl, rfl⟩
  | .string content, _ =>
      ⟨.text content, rfl, .leaf trivial rfl, rfl⟩
  | .bool value, _ => ⟨.bool value, rfl, .leaf trivial rfl, rfl⟩
  | .bytes payload, _ => ⟨.bytes payload, rfl, .leaf trivial rfl, rfl⟩
  | .void, _ => ⟨.null, rfl, .leaf trivial rfl, rfl⟩
  | .array items, within => by
      obtain ⟨trees, encoded, ordered, decoded⟩ := items.readBack within
      refine ⟨.array trees, ?_, .array trivial ordered, ?_⟩
      · exact Outcome.bind_eq_ok.mpr ⟨trees, encoded, rfl⟩
      · rw [decodeExpr]
        exact Outcome.map_eq_ok.mpr ⟨items, decoded, rfl⟩
  | .struct declared values, within => by
      obtain ⟨entries, encoded, ordered, _, read⟩ :=
        values.readBack within (struct_ids_nodup declared) [] .nil
          (fun _ _ => rfl)
      refine ⟨.map entries, ?_, .map ordered.1 ordered.2, ?_⟩
      · exact Outcome.bind_eq_ok.mpr ⟨entries, encoded, rfl⟩
      · exact (decodeExpr_struct_eq_ok declared).mpr
          ⟨entries, values, rfl, rfl, read⟩
  | .enum declared variant member, _ =>
      ⟨.u64 variant.id, rfl, .leaf trivial rfl,
        (decodeExpr_enum_eq_ok declared).mpr ⟨variant, member, rfl, rfl⟩⟩
  | .union declared variant member values, within => by
      have unique := (union_ids_nodup declared).2 variant member
      obtain ⟨entries, encoded, ordered, _, read⟩ :=
        values.readBack within unique [] .nil (fun _ _ => rfl)
      refine ⟨.array [.u64 variant.id, .map entries], ?_, ?_, ?_⟩
      · exact Outcome.bind_eq_ok.mpr ⟨entries, encoded, rfl⟩
      · refine .array trivial ?_
        simp only [List.mem_cons, List.not_mem_nil, or_false, forall_eq_or_imp,
          forall_eq]
        exact ⟨.leaf trivial rfl, .map ordered.1 ordered.2⟩
      · exact (decodeExpr_union_eq_ok declared).mpr
          ⟨variant, member, _, entries, values, rfl, rfl, rfl, read⟩

/-- The items of an array are read back. -/
theorem RustItems.readBack {item : TypeRef π} :
    (items : RustItems schema item) → items.Within .documented →
      ∃ trees, items.encodeArray = .ok trees ∧
        (∀ tree ∈ trees, tree.Every Value.Ordered) ∧
        decodeArray schema trees item = .ok items
  | .nil, _ => ⟨[], rfl, by simp, rfl⟩
  | .cons head tail, within => by
      obtain ⟨tree, headEncoded, headOrdered, headDecoded⟩ :=
        head.readBack within.1
      obtain ⟨trees, tailEncoded, tailOrdered, tailDecoded⟩ :=
        tail.readBack within.2
      refine ⟨tree :: trees, ?_, ?_, ?_⟩
      · rw [RustItems.encodeArray, headEncoded, tailEncoded]
        rfl
      · simpa using ⟨headOrdered, tailOrdered⟩
      · rw [decodeArray, headDecoded, tailDecoded]
        rfl

/-- The fields of a struct are read back, and other ids are as they were. -/
theorem RustFields.readBack {fields : List (FieldDeclaration π)} :
    (values : RustFields schema fields) → values.Within .documented →
      (fields.map (·.id)).Nodup → (map : List (UInt64 × Value)) →
        OrderedEntries map →
          (∀ field ∈ fields, map.lookup field.id = none) →
            ∃ entries, values.encodeFields map = .ok entries ∧
              OrderedEntries entries ∧
              (∀ id ∉ fields.map (·.id),
                entries.lookup id = map.lookup id) ∧
              ∀ index, ReadsField schema entries (values.get index)
  | .nil, _, _, map, ordered, _ =>
      ⟨map, rfl, ordered, fun _ _ => rfl, fun index => index.elim0⟩
  | @RustFields.cons _ _ field fields head tail, within, unique, map,
      ordered, fresh => by
      obtain ⟨notLater, unique⟩ := List.nodup_cons.mp unique
      obtain ⟨value, headEncoded, headOrdered, headRead⟩ :=
        head.readBack within.1
      have inserted := lookup_insertField value
        (fresh field List.mem_cons_self)
      have laterFresh : ∀ later ∈ fields,
          (insertField field.id value map).lookup later.id = none := by
        intro later member
        have different : later.id ≠ field.id := fun same =>
          notLater (List.mem_map.mpr ⟨later, member, same⟩)
        rw [inserted, if_neg different]
        exact fresh later (List.mem_cons_of_mem _ member)
      obtain ⟨entries, tailEncoded, entriesOrdered, kept, tailRead⟩ :=
        tail.readBack within.2 unique _ (ordered.insertField headOrdered)
          laterFresh
      refine ⟨entries, ?_, entriesOrdered, ?_, ?_⟩
      · rw [encodeFields_cons, headEncoded]
        exact tailEncoded
      · intro id unknown
        rw [List.map_cons, List.mem_cons, not_or] at unknown
        rw [kept id unknown.2, inserted, if_neg unknown.1]
      · intro index
        cases index using Fin.cases with
        | zero =>
            refine headRead entries ?_
            rw [kept field.id notLater, inserted, if_pos rfl]
        | succ index => exact tailRead index

/-- A field is read back from entries that have its value. -/
theorem RustField.readBack {field : FieldDeclaration π} :
    (part : RustField schema field) → part.Within .documented →
      ∃ value, part.encodeField = .ok value ∧
        (∀ tree ∈ value, tree.Every Value.Ordered) ∧
        ∀ entries : List (UInt64 × Value), entries.lookup field.id = value →
          ReadsField schema entries part
  | .required isRequired value, within => by
      obtain ⟨tree, encoded, ordered, decoded⟩ := value.readBack within
      refine ⟨some tree, ?_, ?_, ?_⟩
      · rw [RustField.encodeField, encoded]
        rfl
      · simpa using ordered
      · exact fun entries found => .required found decoded isRequired
  | .absent isOptional, _ => by
      exact ⟨none, rfl, by simp, fun entries found =>
        .absent found isOptional⟩
  | .present isOptional value, within => by
      obtain ⟨tree, encoded, ordered, decoded⟩ := value.readBack within
      refine ⟨some tree, ?_, ?_, ?_⟩
      · rw [RustField.encodeField, encoded]
        rfl
      · simpa using ordered
      · exact fun entries found => .present found decoded isOptional

end

/-! ## Unknown fields -/

/-- One field with an unknown id is added to one struct of an encoding. -/
inductive AddsUnknownField (schema : Schema π) :
    TypeRef π → Value → Value → Prop
  | struct {path : π} {name : String} {fields : List (FieldDeclaration π)}
      (declared : schema.declaration path = .struct name fields)
      {entries : List (UInt64 × Value)} {id : UInt64} {value : Value}
      (unknown : ∀ field ∈ fields, field.id ≠ id) :
      AddsUnknownField schema (.named path) (.map entries)
        (.map (SortedMap.insert id value entries))
  | union {path : π} {name : String}
      {variants : List (UnionVariantDeclaration π)}
      (declared : schema.declaration path = .union name variants)
      {variant : UnionVariantDeclaration π} (member : variant ∈ variants)
      {entries : List (UInt64 × Value)} {id : UInt64} {value : Value}
      (unknown : ∀ field ∈ variant.fields, field.id ≠ id) :
      AddsUnknownField schema (.named path)
        (.array [.u64 variant.id, .map entries])
        (.array [.u64 variant.id, .map (SortedMap.insert id value entries)])
  | item {item : TypeRef π} {before after : List Value} {value more : Value}
      (inside : AddsUnknownField schema item value more) :
      AddsUnknownField schema (.array item)
        (.array (before ++ value :: after)) (.array (before ++ more :: after))
  | structField {path : π} {name : String}
      {fields : List (FieldDeclaration π)}
      (declared : schema.declaration path = .struct name fields)
      {field : FieldDeclaration π} (member : field ∈ fields)
      {entries : List (UInt64 × Value)} {value more : Value}
      (found : entries.lookup field.id = some value)
      (inside : AddsUnknownField schema field.type value more) :
      AddsUnknownField schema (.named path) (.map entries)
        (.map (SortedMap.insert field.id more entries))
  | unionField {path : π} {name : String}
      {variants : List (UnionVariantDeclaration π)}
      (declared : schema.declaration path = .union name variants)
      {variant : UnionVariantDeclaration π} (inVariants : variant ∈ variants)
      {field : FieldDeclaration π} (member : field ∈ variant.fields)
      {entries : List (UInt64 × Value)} {value more : Value}
      (found : entries.lookup field.id = some value)
      (inside : AddsUnknownField schema field.type value more) :
      AddsUnknownField schema (.named path)
        (.array [.u64 variant.id, .map entries])
        (.array [.u64 variant.id,
          .map (SortedMap.insert field.id more entries)])

/-- Fields that read alike decode alike. -/
theorem decodeFields_congr
    {fields : List (FieldDeclaration π)}
    {entries others : List (UInt64 × Value)}
    (same : ∀ field ∈ fields,
      readField schema entries field = readField schema others field) :
    decodeFields fields (decodeEntries schema entries) =
      decodeFields fields (decodeEntries schema others) := by
  induction fields with
  | nil => rfl
  | cons field fields inductionHypothesis =>
      rw [decodeFields, decodeFields, ← readField_eq, ← readField_eq,
        same field List.mem_cons_self,
        inductionHypothesis fun later member =>
          same later (List.mem_cons_of_mem _ member)]

/-- Structs are read alike from entries that agree on their fields. -/
theorem decodeExpr_struct_congr
    {path : π} {name : String} {fields : List (FieldDeclaration π)}
    (declared : schema.declaration path = .struct name fields)
    {entries others : List (UInt64 × Value)}
    (same : ∀ field ∈ fields,
      readField schema entries field = readField schema others field) :
    decodeExpr schema (.map entries) (.named path) =
      decodeExpr schema (.map others) (.named path) := by
  rw [decodeExpr_struct declared, decodeExpr_struct declared]
  change (do
    let values ← decodeFields fields (decodeEntries schema entries)
    pure (RustValue.struct declared values)) = _
  rw [decodeFields_congr same]
  rfl

/-- Variants are read alike from entries that agree on their fields. -/
theorem decodeExpr_union_congr
    {path : π} {name : String}
    {variants : List (UnionVariantDeclaration π)}
    (declared : schema.declaration path = .union name variants)
    {variant : UnionVariantDeclaration π} (member : variant ∈ variants)
    {entries others : List (UInt64 × Value)}
    (same : ∀ field ∈ variant.fields,
      readField schema entries field = readField schema others field) :
    decodeExpr schema (.array [.u64 variant.id, .map entries])
        (.named path) =
      decodeExpr schema (.array [.u64 variant.id, .map others])
        (.named path) := by
  have found := (find?_id_eq_some (union_ids_nodup declared).1).mpr
    ⟨member, rfl⟩
  rw [decodeExpr_union declared, decodeExpr_union declared]
  change decodeUnion declared variant.id (decodeEntries schema entries) =
    decodeUnion declared variant.id (decodeEntries schema others)
  unfold decodeUnion
  split
  · rename_i other otherFound
    cases found.symm.trans otherFound
    rw [decodeFields_congr same]
  · rename_i notFound
    cases found.symm.trans notFound

theorem readField_insert_unknown
    {field : FieldDeclaration π} {entries : List (UInt64 × Value)}
    {id : UInt64} {value : Value} (unknown : field.id ≠ id) :
    readField schema (SortedMap.insert id value entries) field =
      readField schema entries field := by
  unfold readField
  rw [SortedMap.lookup_insert, if_neg unknown]

/-- A second value that is read alike changes no field. -/
theorem readField_insert_same
    {field other : FieldDeclaration π} {entries : List (UInt64 × Value)}
    {value more : Value} {fields : List (FieldDeclaration π)}
    (unique : (fields.map (·.id)).Nodup)
    (member : field ∈ fields) (otherMember : other ∈ fields)
    (found : entries.lookup field.id = some value)
    (same : decodeExpr schema more field.type =
      decodeExpr schema value field.type) :
    readField schema (SortedMap.insert field.id more entries) other =
      readField schema entries other := by
  by_cases equal : other.id = field.id
  · obtain rfl := List.inj_on_of_nodup_map unique otherMember member equal
    unfold readField
    rw [SortedMap.lookup_insert, if_pos rfl, found]
    simp only [same]
  · exact readField_insert_unknown equal

theorem decodeArray_congr
    {item : TypeRef π} {before after : List Value} {value more : Value}
    (same : decodeExpr schema more item = decodeExpr schema value item) :
    decodeArray schema (before ++ more :: after) item =
      decodeArray schema (before ++ value :: after) item := by
  induction before with
  | nil =>
      rw [List.nil_append, List.nil_append, decodeArray, decodeArray, same]
  | cons first before inductionHypothesis =>
      rw [List.cons_append, List.cons_append, decodeArray, decodeArray,
        inductionHypothesis]

/-- The decoder ignores unknown fields. -/
theorem AddsUnknownField.decode_eq
    {type : TypeRef π} {value more : Value}
    (added : AddsUnknownField schema type value more) :
    decodeExpr schema more type = decodeExpr schema value type := by
  induction added with
  | struct declared unknown =>
      exact decodeExpr_struct_congr declared fun field member =>
        readField_insert_unknown (unknown field member)
  | union declared member unknown =>
      exact decodeExpr_union_congr declared member fun field inVariant =>
        readField_insert_unknown (unknown field inVariant)
  | item inside inductionHypothesis =>
      rw [decodeExpr, decodeExpr, decodeArray_congr inductionHypothesis]
  | structField declared member found inside inductionHypothesis =>
      exact decodeExpr_struct_congr declared fun other otherMember =>
        readField_insert_same (struct_ids_nodup declared) member otherMember
          found inductionHypothesis
  | unionField declared inVariants member found inside
      inductionHypothesis =>
      exact decodeExpr_union_congr declared inVariants
        fun other otherMember =>
          readField_insert_same ((union_ids_nodup declared).2 _ inVariants)
            member otherMember found inductionHypothesis

/-! ## Signed and unsigned integers -/

/-- A function that refuses every number, array and map does not see a
normalisation. -/
theorem expect_normalize
    {α : Type} (expect : Value → Except CodecError α) {failure : CodecError}
    (unsigned : ∀ value, expect (.u64 value) = .error failure)
    (signed : ∀ value, expect (.i64 value) = .error failure)
    (array : ∀ items, expect (.array items) = .error failure)
    (map : ∀ entries, expect (.map entries) = .error failure)
    (value : Value) :
    expect value.normalize = expect value := by
  cases value with
  | i64 value =>
      rw [Value.normalize_i64]
      split
      · rw [unsigned, signed]
      · rfl
  | array items => rw [Value.normalize_array, array, array]
  | map entries => rw [Value.normalize_map, map, map]
  | null | bool | u64 | f64 | bytes | text => rfl

/-- A number that is signed or not is read alike as an unsigned one. -/
theorem expectU64_normalize (value : Value) :
    expectU64 value.normalize = expectU64 value := by
  cases value with
  | i64 value =>
      rw [Value.normalize_i64]
      split
      · rename_i nonnegative
        exact (if_pos nonnegative).symm
      · rfl
  | array items =>
      rw [Value.normalize_array]
      rfl
  | map entries =>
      rw [Value.normalize_map]
      rfl
  | null | bool | u64 | f64 | bytes | text => rfl

/-- A number that is signed or not is read alike as a signed one. -/
theorem expectI64_normalize (value : Value) :
    expectI64 value.normalize = expectI64 value := by
  cases value with
  | i64 value =>
      rw [Value.normalize_i64]
      split
      · rename_i nonnegative
        have below := value.toInt_lt
        have small : value.toInt.toNat < 2 ^ 64 := by omega
        have number :
            (UInt64.ofNat value.toInt.toNat).toNat = value.toInt.toNat :=
          UInt64.toNat_ofNat_of_lt' small
        have fits : value.toInt.toNat ≤ i64Max := by
          unfold i64Max
          omega
        change (if (UInt64.ofNat value.toInt.toNat).toNat ≤ i64Max then
          Except.ok (Int64.ofInt (UInt64.ofNat value.toInt.toNat).toNat)
          else .error CodecError.expectedInteger) = .ok value
        rw [number, if_pos fits, Int.toNat_of_nonneg nonnegative,
          Int64.ofInt_toInt]
      · rfl
  | array items =>
      rw [Value.normalize_array]
      rfl
  | map entries =>
      rw [Value.normalize_map]
      rfl
  | null | bool | u64 | f64 | bytes | text => rfl

theorem decodeEntries_eq_map (entries : List (UInt64 × Value)) :
    decodeEntries schema entries =
      entries.map fun entry =>
        (entry.1, fun type => decodeExpr schema entry.2 type) := by
  induction entries with
  | nil => rfl
  | cons entry entries inductionHypothesis =>
      rw [decodeEntries, inductionHypothesis, List.map_cons]

/-- Arrays are read alike after their items are normalised. -/
theorem decodeArray_map_normalize
    {items : List Value}
    (same : ∀ item ∈ items, ∀ type : TypeRef π,
      decodeExpr schema item.normalize type = decodeExpr schema item type)
    (type : TypeRef π) :
    decodeArray schema (items.map Value.normalize) type =
      decodeArray schema items type := by
  induction items with
  | nil => rfl
  | cons item items inductionHypothesis =>
      rw [List.map_cons, decodeArray, decodeArray,
        same item List.mem_cons_self, inductionHypothesis fun other member =>
          same other (List.mem_cons_of_mem _ member)]

/-- Entries are read alike after their values are normalised. -/
theorem decodeEntries_map_normalize
    {entries : List (UInt64 × Value)}
    (same : ∀ entry ∈ entries, ∀ type : TypeRef π,
      decodeExpr schema entry.2.normalize type =
        decodeExpr schema entry.2 type) :
    decodeEntries schema
        (entries.map fun entry => (entry.1, entry.2.normalize)) =
      decodeEntries schema entries := by
  rw [decodeEntries_eq_map, decodeEntries_eq_map, List.map_map]
  apply List.map_congr_left
  intro entry member
  exact Prod.ext rfl (funext (same entry member))

/-- Normalising keeps a map and normalises its values. -/
theorem expectMap_normalize (value : Value) :
    expectMap value.normalize =
      (List.map fun entry => (entry.1, entry.2.normalize)) <$>
        expectMap value := by
  cases value with
  | i64 value =>
      rw [Value.normalize_i64]
      split <;> rfl
  | array items =>
      rw [Value.normalize_array]
      rfl
  | map entries =>
      rw [Value.normalize_map]
      rfl
  | null | bool | u64 | f64 | bytes | text => rfl

/-- The variant id and the entries of a normalised union tuple. -/
theorem expectUnion_normalize (value : Value) :
    expectUnion value.normalize =
      (fun tuple => (tuple.1, tuple.2.map fun entry =>
        (entry.1, entry.2.normalize))) <$> expectUnion value := by
  cases value with
  | array items =>
      rw [Value.normalize_array]
      match items with
      | [] => rfl
      | [_] => rfl
      | _ :: _ :: _ :: _ => rfl
      | [kind, body] =>
          change (do
            let variantId ← expectU64 kind.normalize
            let fields ← expectMap body.normalize
            pure (variantId, fields)) = _ <$> (do
              let variantId ← expectU64 kind
              let fields ← expectMap body
              pure (variantId, fields))
          rw [expectU64_normalize, expectMap_normalize]
          cases expectU64 kind with
          | error failure => rfl
          | ok variantId => cases expectMap body <;> rfl
  | i64 value =>
      rw [Value.normalize_i64]
      split <;> rfl
  | map entries =>
      rw [Value.normalize_map]
      rfl
  | null | bool | u64 | f64 | bytes | text => rfl

/-- Decoding a normalised value, where the items and the entries inside it
decode alike. -/
theorem decode_normalize_of_parts
    (value : Value)
    (items : ∀ items, value = .array items → ∀ type : TypeRef π,
      decodeArray schema (items.map Value.normalize) type =
        decodeArray schema items type)
    (entries : ∀ entries, value = .map entries →
      decodeEntries schema
          (entries.map fun entry => (entry.1, entry.2.normalize)) =
        decodeEntries schema entries)
    (fields : ∀ kind entries, value = .array [kind, .map entries] →
      decodeEntries schema
          (entries.map fun entry => (entry.1, entry.2.normalize)) =
        decodeEntries schema entries)
    (type : TypeRef π) :
    decodeExpr schema value.normalize type =
      decodeExpr schema value type := by
  cases type with
  | primitive name =>
      cases name with
      | u53 => rw [decodeExpr, decodeExpr, expectU64_normalize]
      | i53 => rw [decodeExpr, decodeExpr, expectI64_normalize]
      | f64 =>
          rw [decodeExpr, decodeExpr, expect_normalize expectF64
            (fun _ => rfl) (fun _ => rfl) (fun _ => rfl) fun _ => rfl]
      | string =>
          rw [decodeExpr, decodeExpr, expect_normalize expectText
            (fun _ => rfl) (fun _ => rfl) (fun _ => rfl) fun _ => rfl]
      | bool =>
          rw [decodeExpr, decodeExpr, expect_normalize expectBool
            (fun _ => rfl) (fun _ => rfl) (fun _ => rfl) fun _ => rfl]
      | bytes =>
          rw [decodeExpr, decodeExpr, expect_normalize expectBytes
            (fun _ => rfl) (fun _ => rfl) (fun _ => rfl) fun _ => rfl]
  | void => rw [decodeExpr, decodeExpr]
  | array item =>
      cases value with
      | array parts =>
          rw [Value.normalize_array, decodeExpr, decodeExpr, items _ rfl]
      | i64 value =>
          rw [Value.normalize_i64]
          split <;> rfl
      | map entries =>
          rw [Value.normalize_map]
          rfl
      | null | bool | u64 | f64 | bytes | text => rfl
  | named path =>
      cases declared : schema.declaration path with
      | struct name members =>
          rw [decodeExpr_struct declared, decodeExpr_struct declared,
            expectMap_normalize]
          cases map : expectMap value with
          | error failure => rfl
          | ok found =>
              have same := entries found (expectMap_eq_ok.mp map)
              change (decodeFields members (decodeEntries schema
                (found.map fun entry => (entry.1, entry.2.normalize))) >>=
                  fun values => pure (RustValue.struct declared values)) = _
              rw [same]
              rfl
      | enum name variants =>
          rw [decodeExpr_enum declared, decodeExpr_enum declared,
            expectU64_normalize]
      | union name variants =>
          rw [decodeExpr_union declared, decodeExpr_union declared,
            expectUnion_normalize]
          cases tuple : expectUnion value with
          | error failure => rfl
          | ok found =>
              obtain ⟨kind, isPair, _⟩ := expectUnion_eq_ok.mp tuple
              have same := fields kind found.2 isPair
              change decodeUnion declared found.1 (decodeEntries schema
                (found.2.map fun entry => (entry.1, entry.2.normalize))) = _
              rw [same]
              rfl

/-- The decoder, and the decoders of the entries of a map, do not see whether
an integer that is not negative is signed. -/
theorem decode_normalize_and_entries (value : Value) :
    (∀ type : TypeRef π, decodeExpr schema value.normalize type =
      decodeExpr schema value type) ∧
    ∀ entries, value = .map entries →
      decodeEntries schema
          (entries.map fun entry => (entry.1, entry.2.normalize)) =
        decodeEntries schema entries := by
  induction value using Value.induct with
  | null | bool | u64 | i64 | f64 | bytes | text =>
      refine ⟨decode_normalize_of_parts _ ?_ ?_ ?_, ?_⟩
      · exact fun _ same => nomatch same
      · exact fun _ same => nomatch same
      · exact fun _ _ same => nomatch same
      · exact fun _ same => nomatch same
  | array items inductionHypothesis =>
      refine ⟨decode_normalize_of_parts _ ?_ ?_ ?_, ?_⟩
      · rintro parts ⟨⟩
        exact decodeArray_map_normalize fun part member =>
          (inductionHypothesis part member).1
      · exact fun _ same => nomatch same
      · rintro kind entries ⟨⟩
        exact (inductionHypothesis (.map entries) (.tail _ (.head _))).2 _ rfl
      · exact fun _ same => nomatch same
  | map entries inductionHypothesis =>
      have entriesSame := decodeEntries_map_normalize
        fun entry member => (inductionHypothesis entry member).1
      refine ⟨decode_normalize_of_parts _ ?_ ?_ ?_, ?_⟩
      · exact fun _ same => nomatch same
      · rintro others ⟨⟩
        exact entriesSame
      · exact fun _ _ same => nomatch same
      · rintro others ⟨⟩
        exact entriesSame

/-- The decoder does not see whether an integer that is not negative is
signed. -/
theorem decode_normalize (value : Value) (type : TypeRef π) :
    decodeExpr schema value.normalize type =
      decodeExpr schema value type :=
  (decode_normalize_and_entries value).1 type

/-! ## The round trip -/

/-- Values that were extended step by step by unknown fields. -/
abbrev AddsUnknownFields (schema : Schema π) (type : TypeRef π) :
    Value → Value → Prop :=
  Relation.ReflTransGen (AddsUnknownField schema type)

theorem AddsUnknownFields.decode_eq
    {type : TypeRef π} {value more : Value}
    (added : AddsUnknownFields schema type value more) :
    decodeExpr schema more type = decodeExpr schema value type := by
  induction added with
  | refl => rfl
  | tail _ step inductionHypothesis =>
      exact step.decode_eq.trans inductionHypothesis

theorem decode_of_decode
    {path : π} {bytes : List UInt8} {tree : Value}
    {value : RustValue schema (.named path)}
    (bytesDecoded : Value.decode bytes = .ok tree)
    (decoded : decodeExpr schema tree (.named path) = .ok value) :
    decode schema path bytes = .ok value := by
  unfold decode
  rw [bytesDecoded]
  simp only [decoded]

/-- The generated codec of a schema reads back what it wrote, ignores unknown
fields, and fills missing fields as the default rule says. -/
structure RoundTrips (schema : Schema π) : Prop where
  /-- A value in range is read back, also after unknown fields were added. -/
  value : ∀ {type : TypeRef π} (value : RustValue schema type),
    value.Within .documented →
      ∃ tree, value.encodeExpr = .ok tree ∧
        ∀ more, AddsUnknownFields schema type tree more →
          decodeExpr schema more type = .ok value
  /-- So is its byte string, and every byte string of the extended value. -/
  bytes : ∀ {path : π} (value : RustValue schema (.named path)),
    value.Within .documented →
      ∃ tree, value.encodeExpr = .ok tree ∧
        value.tryEncode = .ok tree.encode ∧
        ∀ more, AddsUnknownFields schema (.named path) tree more →
          (more.Valid → decode schema path more.encode = .ok value) ∧
          ∀ bytes, Value.decode bytes = .ok more.normalize →
            decode schema path bytes = .ok value
  /-- A struct is decoded field by field. -/
  structFields : ∀ {path : π} {name : String}
    {fields : List (FieldDeclaration π)}
    (declared : schema.declaration path = .struct name fields)
    (entries : List (UInt64 × Value)) (values : RustFields schema fields),
      decodeExpr schema (.map entries) (.named path) =
          .ok (.struct declared values) ↔
        ∀ index, ReadsField schema entries (values.get index)
  /-- So is a variant of a union. -/
  unionFields : ∀ {path : π} {name : String}
    {variants : List (UnionVariantDeclaration π)}
    (declared : schema.declaration path = .union name variants)
    (variant : UnionVariantDeclaration π) (member : variant ∈ variants)
    (entries : List (UInt64 × Value))
    (values : RustFields schema variant.fields),
      decodeExpr schema (.array [.u64 variant.id, .map entries])
          (.named path) = .ok (.union declared variant member values) ↔
        ∀ index, ReadsField schema entries (values.get index)
  /-- Defaults of the types that need no declaration. -/
  scalarDefaults :
    defaultExpr schema (.primitive .u53) = .u53 0 ∧
      defaultExpr schema (.primitive .i53) = .i53 0 ∧
      defaultExpr schema (.primitive .f64) = .f64 0 ∧
      defaultExpr schema (.primitive .string) = .string "" ∧
      defaultExpr schema (.primitive .bool) = .bool false ∧
      defaultExpr schema (.primitive .bytes) = .bytes [] ∧
      defaultExpr schema .void = .void ∧
      ∀ item, defaultExpr schema (.array item) = .array .nil
  /-- The default of a struct has all of its fields missing. -/
  structDefault : ∀ {path : π} {name : String}
    {fields : List (FieldDeclaration π)},
    schema.declaration path = .struct name fields →
      decodeExpr schema (.map []) (.named path) =
        .ok (defaultExpr schema (.named path))
  /-- The default of an enum is its first variant. -/
  enumDefault : ∀ {path : π} {name : String}
    {first : EnumVariantDeclaration} {others : List EnumVariantDeclaration},
    schema.declaration path = .enum name (first :: others) →
      decodeExpr schema (.u64 first.id) (.named path) =
        .ok (defaultExpr schema (.named path))
  /-- The default of a union is its first variant, with all of the fields of
  the variant missing. -/
  unionDefault : ∀ {path : π} {name : String}
    {first : UnionVariantDeclaration π}
    {others : List (UnionVariantDeclaration π)},
    schema.declaration path = .union name (first :: others) →
      decodeExpr schema (.array [.u64 first.id, .map []]) (.named path) =
        .ok (defaultExpr schema (.named path))

theorem readsField_nil {fields : List (FieldDeclaration π)}
    (index : Fin fields.length) :
    ReadsField schema [] ((missingFields schema fields).get index) := by
  induction fields with
  | nil => exact index.elim0
  | cons field fields inductionHypothesis =>
      cases index using Fin.cases with
      | zero => exact readField_eq_ok.mp rfl
      | succ index => exact inductionHypothesis index

/-- Every checked schema has a codec that round trips. -/
theorem generated_round_trip (schema : Schema π) : RoundTrips schema where
  value := by
    intro type value within
    obtain ⟨tree, encoded, _, decoded⟩ := value.readBack within
    exact ⟨tree, encoded, fun more added => added.decode_eq.trans decoded⟩
  bytes := by
    intro path value within
    obtain ⟨tree, encoded, _, decoded⟩ := value.readBack within
    refine ⟨tree, encoded, Outcome.bind_eq_ok.mpr ⟨tree, encoded, rfl⟩, ?_⟩
    intro more added
    have normalDecoded : decodeExpr schema more.normalize (.named path) =
        .ok value := by
      rw [decode_normalize, added.decode_eq, decoded]
    exact ⟨fun valid => decode_of_decode valid.decode_encode normalDecoded,
      fun bytes spelled => decode_of_decode spelled normalDecoded⟩
  structFields := by
    intro path name fields declared entries values
    rw [decodeExpr_struct_eq_ok declared]
    constructor
    · rintro ⟨_, _, ⟨⟩, ⟨⟩, reads⟩
      exact reads
    · exact fun reads => ⟨entries, values, rfl, rfl, reads⟩
  unionFields := by
    intro path name variants declared variant member entries values
    rw [decodeExpr_union_eq_ok declared]
    constructor
    · rintro ⟨_, _, _, _, _, ⟨⟩, _, ⟨⟩, reads⟩
      exact reads
    · exact fun reads =>
        ⟨variant, member, _, entries, values, rfl, rfl, rfl, reads⟩
  scalarDefaults := ⟨rfl, rfl, rfl, rfl, rfl, rfl, rfl, fun _ => rfl⟩
  structDefault := by
    intro path name fields declared
    rw [defaultExpr_struct declared]
    exact (decodeExpr_struct_eq_ok declared).mpr
      ⟨[], _, rfl, rfl, readsField_nil⟩
  enumDefault := by
    intro path name first others declared
    rw [defaultExpr_enum declared (List.cons_ne_nil _ _)]
    exact (decodeExpr_enum_eq_ok declared).mpr
      ⟨first, List.mem_cons_self, rfl, rfl⟩
  unionDefault := by
    intro path name first others declared
    rw [defaultExpr_union declared (List.cons_ne_nil _ _)]
    exact (decodeExpr_union_eq_ok declared).mpr
      ⟨first, List.mem_cons_self, _, [], _, rfl, rfl, rfl, readsField_nil⟩

/-- The fields of a folder, which contains folders. -/
def folderFields : List (FieldDeclaration Unit) :=
  [⟨1, "name", false, .primitive .string⟩,
    ⟨2, "size", true, .primitive .u53⟩,
    ⟨3, "children", false, .array (.named ())⟩]

/-- A schema with one recursive struct. -/
def folderSchema : Schema Unit where
  declaration _ := .struct "Folder" folderFields
  rank _ := 0
  uniqueIds _ :=
    show (folderFields.map (·.id)).Nodup by decide
  safeIds _ :=
    show ∀ id ∈ folderFields.map (·.id), id.toNat ≤ maxU53 by
      simp [folderFields, maxU53]
  hasVariant _ := trivial
  sized _ type member := by
    simp only [Declaration.fieldTypes, folderFields, List.map_cons,
      List.map_nil, List.mem_cons, List.not_mem_nil, or_false] at member
    rcases member with rfl | rfl | rfl <;> exact Nat.le_refl 0

/-- A folder without a size. -/
def folder (name : String) (children : RustItems folderSchema (.named ())) :
    RustValue folderSchema (.named ()) :=
  .struct rfl
    (.cons (.required rfl (.string name))
      (.cons (.absent rfl)
        (.cons (.required rfl (.array children)) .nil)))

/-- A folder in a folder is read back after a field was added to the inner
one. -/
theorem generated_round_trip_folder :
    (folder "src" (.cons (folder "host" .nil) .nil)).encodeExpr =
        .ok (.map [(1, .text "src"),
          (3, .array [.map [(1, .text "host"), (3, .array [])]])]) ∧
      decodeExpr folderSchema
          (.map [(1, .text "src"),
            (3, .array [.map [(1, .text "host"), (3, .array []),
              (9, .null)]])])
          (.named ()) =
        .ok (folder "src" (.cons (folder "host" .nil) .nil)) := by
  refine ⟨rfl, ?_⟩
  obtain ⟨tree, encoded, decoded⟩ :=
    (generated_round_trip folderSchema).value
      (folder "src" (.cons (folder "host" .nil) .nil))
      ⟨trivial, trivial, ⟨⟨trivial, trivial, trivial, trivial⟩, trivial⟩,
        trivial⟩
  cases encoded
  refine decoded _ (.single ?_)
  exact @AddsUnknownField.structField _ folderSchema () _ folderFields rfl
    ⟨3, "children", false, .array (.named ())⟩ (by simp [folderFields]) _ _ _
    rfl (@AddsUnknownField.item _ _ _ [] [] _ _
      (@AddsUnknownField.struct _ folderSchema () _ folderFields rfl
        [(1, .text "host"), (3, .array [])] 9 .null (by decide)))

end Codegen
end WhatsGoingOn
