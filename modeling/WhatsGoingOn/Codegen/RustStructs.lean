import WhatsGoingOn.Codegen.RustRoundTrip
import Mathlib.Data.List.Perm.Subperm
import Mathlib.Data.List.Nodup

/-!
# Structs of the generated Rust code

How the fields of a generated struct are read from and written to a value of
its type, and that the encoding of every value which fits into memory is made
of values that the Rust types can hold.
-/

namespace WhatsGoingOn
namespace Codegen

open Daemon

variable {π : Type} {schema : Schema π}

/-! ## Fields of structs -/

/-- The fields of a struct. -/
def RustValue.structFields
    {path : π} {name : String} {fields : List (FieldDeclaration π)}
    (declared : schema.declaration path = .struct name fields) :
    RustValue schema (.named path) → RustFields schema fields
  | .struct found values =>
      have same : _ = fields := by
        rw [declared] at found
        injection found with _ same
        exact same.symm
      same ▸ values
  | .enum found _ _ => absurd (declared.symm.trans found) nofun
  | .union found _ _ _ => absurd (declared.symm.trans found) nofun

namespace RustField

variable {field : FieldDeclaration π}

/-- The value of a field that is not optional. -/
def value (isRequired : field.optional = false) :
    RustField schema field → RustValue schema field.type
  | .required _ value => value
  | .absent isOptional => absurd (isRequired.symm.trans isOptional) nofun
  | .present _ value => value

/-- The value of an optional field. -/
def value? : RustField schema field → Option (RustValue schema field.type)
  | .required _ value => some value
  | .absent _ => none
  | .present _ value => some value

/-- An optional field. -/
def ofOption (isOptional : field.optional = true) :
    Option (RustValue schema field.type) → RustField schema field
  | none => .absent isOptional
  | some value => .present isOptional value

@[simp] theorem value?_ofOption (isOptional : field.optional = true)
    (content : Option (RustValue schema field.type)) :
    (ofOption isOptional content).value? = content := by
  cases content with
  | none => rfl
  | some value => rfl

end RustField

namespace RustValue

/-- The number that a u53 value holds. -/
def toU53 : RustValue schema (.primitive .u53) → UInt64
  | .u53 value => value

/-- The number that an i53 value holds. -/
def toI53 : RustValue schema (.primitive .i53) → Int64
  | .i53 value => value

/-- The text that a string value holds. -/
def toText : RustValue schema (.primitive .string) → String
  | .string content => content

/-- The truth value that a bool value holds. -/
def toBool : RustValue schema (.primitive .bool) → Bool
  | .bool value => value

end RustValue

/-! ## Values that fit into memory -/

mutual

/-- Every text, byte string and array is one that Rust's collections admit. -/
def RustValue.Held {type : TypeRef π} : RustValue schema type → Prop
  | .string content => (Bytes.utf8 content).length ≤ isizeMax
  | .bytes payload => payload.length ≤ isizeMax
  | .array items => items.count * valueSize ≤ isizeMax ∧ items.Held
  | .struct _ values => values.Held
  | .union _ _ _ values => values.Held
  | .u53 _ | .i53 _ | .f64 _ | .bool _ | .void | .enum _ _ _ => True

/-- Every item fits into memory. -/
def RustItems.Held {item : TypeRef π} : RustItems schema item → Prop
  | .nil => True
  | .cons head tail => head.Held ∧ tail.Held

/-- The number of items. -/
def RustItems.count {item : TypeRef π} : RustItems schema item → Nat
  | .nil => 0
  | .cons _ tail => tail.count + 1

/-- Every field fits into memory. -/
def RustFields.Held {fields : List (FieldDeclaration π)} :
    RustFields schema fields → Prop
  | .nil => True
  | .cons head tail => head.Held ∧ tail.Held

/-- The value of the field, if it is there, fits into memory. -/
def RustField.Held {field : FieldDeclaration π} :
    RustField schema field → Prop
  | .required _ value => value.Held
  | .absent _ => True
  | .present _ value => value.Held

end

theorem RustField.within_ofOption
    {field : FieldDeclaration π} (isOptional : field.optional = true)
    {content : Option (RustValue schema field.type)} {ranges : Ranges}
    (within : ∀ value ∈ content, value.Within ranges) :
    (ofOption isOptional content).Within ranges := by
  cases content with
  | none => trivial
  | some value => exact within value rfl

theorem RustField.held_ofOption
    {field : FieldDeclaration π} (isOptional : field.optional = true)
    {content : Option (RustValue schema field.type)}
    (held : ∀ value ∈ content, value.Held) :
    (ofOption isOptional content).Held := by
  cases content with
  | none => trivial
  | some value => exact held value rfl

/-- The ids of fields are safe integers, so there are not too many of them. -/
theorem length_le_of_safeIds {fields : List (FieldDeclaration π)}
    (unique : (fields.map (·.id)).Nodup)
    (safe : ∀ id ∈ fields.map (·.id), id.toNat ≤ maxU53) :
    fields.length ≤ usizeMax := by
  have numbers : ((fields.map (·.id)).map UInt64.toNat).Nodup :=
    unique.map fun _ _ => UInt64.toNat.inj
  have below : (fields.map (·.id)).map UInt64.toNat ⊆
      List.range (maxU53 + 1) := by
    intro number member
    obtain ⟨id, known, rfl⟩ := List.mem_map.mp member
    exact List.mem_range.mpr (Nat.lt_succ_of_le (safe id known))
  calc fields.length
      = ((fields.map (·.id)).map UInt64.toNat).length := by simp
    _ ≤ (List.range (maxU53 + 1)).length := (numbers.subperm below).length_le
    _ ≤ usizeMax := by
        rw [List.length_range]
        decide

theorem struct_length_le
    {path : π} {name : String} {fields : List (FieldDeclaration π)}
    (declared : schema.declaration path = .struct name fields) :
    fields.length ≤ usizeMax := by
  have safe := schema.safeIds path
  rw [declared] at safe
  exact length_le_of_safeIds (struct_ids_nodup declared) safe

/-- A variant of a union has no more fields than memory has room for. -/
theorem union_length_le
    {path : π} {name : String}
    {variants : List (UnionVariantDeclaration π)}
    (declared : schema.declaration path = .union name variants)
    {variant : UnionVariantDeclaration π} (member : variant ∈ variants) :
    variant.fields.length ≤ usizeMax := by
  have safe := schema.safeIds path
  rw [declared] at safe
  refine length_le_of_safeIds
    ((union_ids_nodup declared).2 variant member) fun id known => ?_
  exact safe id
    (List.mem_flatMap.mpr ⟨variant, member, List.mem_cons_of_mem _ known⟩)

/-- Entries whose values can be held. -/
def SizedEntries (entries : List (UInt64 × Value)) : Prop :=
  ∀ entry ∈ entries, entry.2.Every Value.Sized

theorem SizedEntries.nil : SizedEntries [] := by
  simp [SizedEntries]

/-- A map that gains a field still fits into memory. -/
theorem SizedEntries.insertField
    {id : UInt64} {value : Option Value} {map : List (UInt64 × Value)}
    (sized : SizedEntries map)
    (valueSized : ∀ tree ∈ value, tree.Every Value.Sized) :
    SizedEntries (insertField id value map) ∧
      (insertField id value map).length ≤ map.length + 1 := by
  cases value with
  | none => exact ⟨sized, Nat.le_succ _⟩
  | some tree =>
      refine ⟨?_, SortedMap.length_insert_le id tree map⟩
      intro entry member
      rcases SortedMap.mem_insert member with rfl | old
      · exact valueSized tree rfl
      · exact sized entry old

mutual

/-- What a value that fits into memory is encoded as can be held. -/
theorem RustValue.sized {type : TypeRef π} :
    (value : RustValue schema type) → value.Held →
      ∀ {tree : Value}, value.encodeExpr = .ok tree → tree.Every Value.Sized
  | .u53 value, _, tree, encoded => by
      rw [RustValue.encodeExpr, encodeU53] at encoded
      split at encoded
      · cases encoded
      · cases encoded
        exact .leaf trivial rfl
  | .i53 value, _, tree, encoded => by
      rw [RustValue.encodeExpr, encodeI53] at encoded
      split at encoded
      · cases encoded
        exact .leaf trivial rfl
      · cases encoded
  | .f64 bits, _, tree, encoded => by
      rw [RustValue.encodeExpr, encodeF64] at encoded
      split at encoded
      · cases encoded
        exact .leaf trivial rfl
      · cases encoded
  | .string content, held, tree, encoded => by
      cases encoded
      exact .leaf held rfl
  | .bool value, _, tree, encoded => by
      cases encoded
      exact .leaf trivial rfl
  | .bytes payload, held, tree, encoded => by
      cases encoded
      exact .leaf held rfl
  | .void, _, tree, encoded => by
      cases encoded
      exact .leaf trivial rfl
  | .array items, held, tree, encoded => by
      obtain ⟨trees, itemsEncoded, same⟩ := Outcome.bind_eq_ok.mp encoded
      cases same
      obtain ⟨sized, length⟩ := items.sized held.2 itemsEncoded
      refine .array ?_ sized
      exact (congrArg (· * valueSize) length).le.trans held.1
  | .struct declared values, held, tree, encoded => by
      obtain ⟨entries, fieldsEncoded, same⟩ := Outcome.bind_eq_ok.mp encoded
      cases same
      obtain ⟨sized, length⟩ := values.sized held .nil fieldsEncoded
      rw [List.length_nil, Nat.zero_add] at length
      exact .map (length.trans (struct_length_le declared)) sized
  | .enum declared variant member, _, tree, encoded => by
      cases encoded
      exact .leaf trivial rfl
  | .union declared variant member values, held, tree, encoded => by
      obtain ⟨entries, fieldsEncoded, same⟩ := Outcome.bind_eq_ok.mp encoded
      cases same
      obtain ⟨sized, length⟩ := values.sized held .nil fieldsEncoded
      rw [List.length_nil, Nat.zero_add] at length
      have map : (Value.map entries).Every Value.Sized :=
        .map (length.trans (union_length_le declared member)) sized
      have kind : (Value.u64 variant.id).Every Value.Sized :=
        .leaf trivial rfl
      refine .array (show 2 * valueSize ≤ isizeMax by decide) ?_
      simpa using ⟨kind, map⟩

/-- What is written for the items of an array fits into memory. -/
theorem RustItems.sized {item : TypeRef π} :
    (items : RustItems schema item) → items.Held →
      ∀ {trees : List Value}, items.encodeArray = .ok trees →
        (∀ tree ∈ trees, tree.Every Value.Sized) ∧
          trees.length = items.count
  | .nil, _, trees, encoded => by
      cases encoded
      exact ⟨by simp, rfl⟩
  | .cons head tail, held, trees, encoded => by
      obtain ⟨tree, headEncoded, others⟩ := Outcome.bind_eq_ok.mp encoded
      obtain ⟨rest, tailEncoded, same⟩ := Outcome.bind_eq_ok.mp others
      cases same
      have headSized := head.sized held.1 headEncoded
      obtain ⟨sized, length⟩ := tail.sized held.2 tailEncoded
      exact ⟨by simpa using ⟨headSized, sized⟩, congrArg Nat.succ length⟩

/-- What is written for the fields of a struct fits into memory. -/
theorem RustFields.sized {fields : List (FieldDeclaration π)} :
    (values : RustFields schema fields) → values.Held →
      ∀ {map entries : List (UInt64 × Value)}, SizedEntries map →
        values.encodeFields map = .ok entries →
          SizedEntries entries ∧
            entries.length ≤ map.length + fields.length
  | .nil, _, map, entries, sized, encoded => by
      cases encoded
      exact ⟨sized, Nat.le_refl _⟩
  | .cons head tail, held, map, entries, sized, encoded => by
      rw [encodeFields_cons] at encoded
      obtain ⟨value, headEncoded, rest⟩ := Outcome.bind_eq_ok.mp encoded
      obtain ⟨inserted, few⟩ :=
        sized.insertField (head.sized held.1 headEncoded)
      obtain ⟨all, length⟩ := tail.sized held.2 inserted rest
      refine ⟨all, ?_⟩
      simp only [List.length_cons]
      omega

/-- What is written for a field fits into memory. -/
theorem RustField.sized {field : FieldDeclaration π} :
    (part : RustField schema field) → part.Held →
      ∀ {value : Option Value}, part.encodeField = .ok value →
        ∀ tree ∈ value, tree.Every Value.Sized
  | .required _ content, held, value, encoded => by
      obtain ⟨tree, contentEncoded, same⟩ := Outcome.bind_eq_ok.mp encoded
      cases same
      rintro _ ⟨⟩
      exact content.sized held contentEncoded
  | .absent _, _, value, encoded => by
      cases encoded
      exact fun _ member => nomatch member
  | .present _ content, held, value, encoded => by
      obtain ⟨tree, contentEncoded, same⟩ := Outcome.bind_eq_ok.mp encoded
      cases same
      rintro _ ⟨⟩
      exact content.sized held contentEncoded

end

/-- A value in range that fits into memory is read back from its bytes. -/
theorem RustValue.decode_tryEncode
    {path : π} {value : RustValue schema (.named path)}
    (within : value.Within .documented) (held : value.Held) :
    ∃ bytes, value.tryEncode = .ok bytes ∧
      decode schema path bytes = .ok value := by
  obtain ⟨tree, encoded, ordered, _⟩ := value.readBack within
  obtain ⟨_, same, written, reads⟩ :=
    (generated_round_trip schema).bytes value within
  cases encoded.symm.trans same
  have valid : tree.Valid :=
    (value.sized held encoded).and ordered
  exact ⟨tree.encode, written, (reads tree .refl).1 valid⟩

end Codegen
end WhatsGoingOn
