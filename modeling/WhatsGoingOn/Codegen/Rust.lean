import WhatsGoingOn.Codegen.Schema

/-!
# The generated Rust codec

The values of a generated Rust type, and the encoder, the decoder and the
default that the generator emits for it, as functions of the schema.
-/

namespace WhatsGoingOn
namespace Codegen

open Daemon

variable {π : Type}

/-! ## Values of the generated types -/

mutual

/-- A value of the Rust type that is generated for a type reference. -/
inductive RustValue (schema : Schema π) : TypeRef π → Type where
  | u53 (value : UInt64) : RustValue schema (.primitive .u53)
  | i53 (value : Int64) : RustValue schema (.primitive .i53)
  | f64 (bits : UInt64) : RustValue schema (.primitive .f64)
  | string (content : String) : RustValue schema (.primitive .string)
  | bool (value : Bool) : RustValue schema (.primitive .bool)
  | bytes (payload : List UInt8) : RustValue schema (.primitive .bytes)
  | void : RustValue schema .void
  | array {item : TypeRef π} (items : RustItems schema item) :
      RustValue schema (.array item)
  | struct {path : π} {name : String} {fields : List (FieldDeclaration π)}
      (declared : schema.declaration path = .struct name fields)
      (values : RustFields schema fields) :
      RustValue schema (.named path)
  | enum {path : π} {name : String} {variants : List EnumVariantDeclaration}
      (declared : schema.declaration path = .enum name variants)
      (variant : EnumVariantDeclaration) (member : variant ∈ variants) :
      RustValue schema (.named path)
  | union {path : π} {name : String}
      {variants : List (UnionVariantDeclaration π)}
      (declared : schema.declaration path = .union name variants)
      (variant : UnionVariantDeclaration π) (member : variant ∈ variants)
      (values : RustFields schema variant.fields) :
      RustValue schema (.named path)

/-- The items of a `Vec`. -/
inductive RustItems (schema : Schema π) : TypeRef π → Type where
  | nil {item : TypeRef π} : RustItems schema item
  | cons {item : TypeRef π} (head : RustValue schema item)
      (tail : RustItems schema item) : RustItems schema item

/-- The fields of a struct or of a union variant. -/
inductive RustFields (schema : Schema π) :
    List (FieldDeclaration π) → Type where
  | nil : RustFields schema []
  | cons {field : FieldDeclaration π} {fields : List (FieldDeclaration π)}
      (head : RustField schema field) (tail : RustFields schema fields) :
      RustFields schema (field :: fields)

/-- One field: an `Option` where it is optional. -/
inductive RustField (schema : Schema π) : FieldDeclaration π → Type where
  | required {field : FieldDeclaration π} (isRequired : field.optional = false)
      (value : RustValue schema field.type) : RustField schema field
  | absent {field : FieldDeclaration π} (isOptional : field.optional = true) :
      RustField schema field
  | present {field : FieldDeclaration π} (isOptional : field.optional = true)
      (value : RustValue schema field.type) : RustField schema field

end

variable {schema : Schema π}

/-! ## What they denote, and their ranges -/

mutual

/-- What a Rust value denotes. -/
def RustValue.denote {type : TypeRef π} : RustValue schema type → Data
  | .u53 value => .integer value.toNat
  | .i53 value => .integer value.toInt
  | .f64 bits => .float bits
  | .string content => .text content
  | .bool value => .bool value
  | .bytes payload => .bytes payload
  | .void => .unit
  | .array items => .array items.denote
  | .struct _ values => .record values.denote
  | .enum _ variant _ => .enum variant.id
  | .union _ variant _ values => .union variant.id values.denote

/-- The data of the items of an array. -/
def RustItems.denote {item : TypeRef π} : RustItems schema item → List Data
  | .nil => []
  | .cons head tail => head.denote :: tail.denote

/-- The data of the fields of a struct, in the order of the schema. -/
def RustFields.denote {fields : List (FieldDeclaration π)} :
    RustFields schema fields → List Data
  | .nil => []
  | .cons head tail => head.denote :: tail.denote

/-- The data of one field. -/
def RustField.denote {field : FieldDeclaration π} :
    RustField schema field → Data
  | .required _ value => value.denote
  | .absent _ => .absent
  | .present _ value => .present value.denote

end

mutual

/-- Every integer and every float is in the range of its schema type. -/
def RustValue.Within (ranges : Ranges) {type : TypeRef π} :
    RustValue schema type → Prop
  | .u53 value => ranges.u53 value.toNat
  | .i53 value => ranges.i53 value.toInt
  | .f64 bits => ranges.f64 bits
  | .array items => items.Within ranges
  | .struct _ values => values.Within ranges
  | .union _ _ _ values => values.Within ranges
  | .string _ | .bool _ | .bytes _ | .void | .enum _ _ _ => True

/-- Every item is in its range. -/
def RustItems.Within (ranges : Ranges) {item : TypeRef π} :
    RustItems schema item → Prop
  | .nil => True
  | .cons head tail => head.Within ranges ∧ tail.Within ranges

/-- Every field is in its range. -/
def RustFields.Within (ranges : Ranges)
    {fields : List (FieldDeclaration π)} : RustFields schema fields → Prop
  | .nil => True
  | .cons head tail => head.Within ranges ∧ tail.Within ranges

/-- The value of the field, if it is there, is in its range. -/
def RustField.Within (ranges : Ranges) {field : FieldDeclaration π} :
    RustField schema field → Prop
  | .required _ value => value.Within ranges
  | .absent _ => True
  | .present _ value => value.Within ranges

end

/-! ## The generated encoder -/

mutual

/-- The encoder of a type. -/
def RustValue.encodeExpr {type : TypeRef π} :
    RustValue schema type → Except CodecError Value
  | .u53 value => encodeU53 value
  | .i53 value => encodeI53 value
  | .f64 bits => encodeF64 bits
  | .string content => .ok (.text content)
  | .bool value => .ok (.bool value)
  | .bytes payload => .ok (.bytes payload)
  | .void => .ok .null
  | .array items => do
      let values ← items.encodeArray
      pure (.array values)
  | .struct _ values => do
      let fields ← values.encodeFields []
      pure (.map fields)
  | .enum _ variant _ => .ok (.u64 variant.id)
  | .union _ variant _ values => do
      let fields ← values.encodeFields []
      pure (.array [.u64 variant.id, .map fields])

/-- The loop of `encode_array`. -/
def RustItems.encodeArray {item : TypeRef π} :
    RustItems schema item → Except CodecError (List Value)
  | .nil => .ok []
  | .cons head tail => do
      let value ← head.encodeExpr
      let values ← tail.encodeArray
      pure (value :: values)

/-- Insert the fields into the map, one after another. -/
def RustFields.encodeFields {fields : List (FieldDeclaration π)} :
    RustFields schema fields → List (UInt64 × Value) →
      Except CodecError (List (UInt64 × Value))
  | .nil, map => .ok map
  | @RustFields.cons _ _ field _ head tail, map => do
      match ← head.encodeField with
      | some value => tail.encodeFields (SortedMap.insert field.id value map)
      | none => tail.encodeFields map

/-- The value to insert for a field, if any. -/
def RustField.encodeField {field : FieldDeclaration π} :
    RustField schema field → Except CodecError (Option Value)
  | .required _ value => do
      let value ← value.encodeExpr
      pure (some value)
  | .absent _ => .ok none
  | .present _ value => do
      let value ← value.encodeExpr
      pure (some value)

end

/-! ## Defaults -/

/-- Defaults of fields, from the defaults of their types. -/
def defaultFields
    {bound : Nat}
    (default : ∀ type : TypeRef π,
      type.rank schema.rank ≤ bound → RustValue schema type) :
    (fields : List (FieldDeclaration π)) →
      (∀ field ∈ fields, field.type.rank schema.rank ≤ bound) →
        RustFields schema fields
  | [], _ => .nil
  | field :: fields, small =>
      .cons
        (if isOptional : field.optional = true then .absent isOptional
          else .required (FieldDeclaration.required_of_not isOptional)
            (default field.type (small field List.mem_cons_self)))
        (defaultFields default fields
          fun other member => small other (List.mem_cons_of_mem _ member))

/-- The default of a type whose rank is bounded. -/
def defaultWithin (schema : Schema π) :
    (bound : Nat) → (type : TypeRef π) →
      type.rank schema.rank ≤ bound → RustValue schema type
  | _, .primitive .u53, _ => .u53 0
  | _, .primitive .i53, _ => .i53 0
  | _, .primitive .f64, _ => .f64 0
  | _, .primitive .string, _ => .string ""
  | _, .primitive .bool, _ => .bool false
  | _, .primitive .bytes, _ => .bytes []
  | _, .void, _ => .void
  | _, .array _, _ => .array .nil
  | 0, .named _, small => absurd small Schema.named_rank_pos
  | bound + 1, .named path, small =>
      match declared : schema.declaration path with
      | .struct _ fields =>
          .struct declared
            (defaultFields (defaultWithin schema bound) fields
              (Schema.fields_smaller small declared))
      | .enum _ variants =>
          have nonempty := Schema.enum_nonempty declared
          .enum declared (variants.head nonempty) (List.head_mem nonempty)
      | .union _ variants =>
          have nonempty := Schema.union_nonempty declared
          .union declared (variants.head nonempty) (List.head_mem nonempty)
            (defaultFields (defaultWithin schema bound) _
              (Schema.head_fields_smaller small declared nonempty))

-- The equations are derived here, once for all proofs about defaults.
attribute [grind =] defaultFields defaultWithin

/-- The default of a type. -/
def defaultExpr (schema : Schema π) (type : TypeRef π) :
    RustValue schema type :=
  defaultWithin schema (type.rank schema.rank) type Schema.rank_le_self

/-! ## The generated decoder -/

/-- The decoder of a present field, once its type is known. -/
abbrev FieldDecoder (schema : Schema π) : Type :=
  ∀ type : TypeRef π, Except CodecError (RustValue schema type)

/-- Decode one field, from the decoder of its value where it is present. -/
def decodeField
    (field : FieldDeclaration π)
    (value : Option (FieldDecoder schema)) :
    Except CodecError (RustField schema field) :=
  if isOptional : field.optional = true then do
    match ← optionalField value fun decode => decode field.type with
    | some value => pure (.present isOptional value)
    | none => pure (.absent isOptional)
  else do
    let value ← fieldOrDefault value (fun decode => decode field.type)
      (defaultExpr schema field.type)
    pure (.required (FieldDeclaration.required_of_not isOptional) value)

/-- Decode the fields in the order of their declaration. -/
def decodeFields :
    (fields : List (FieldDeclaration π)) →
      List (UInt64 × FieldDecoder schema) →
        Except CodecError (RustFields schema fields)
  | [], _ => .ok .nil
  | field :: fields, values => do
      let head ← decodeField field (values.lookup field.id)
      let tail ← decodeFields fields values
      pure (.cons head tail)

/-- The enum variant with an id. -/
def decodeVariant
    {path : π} {name : String} {variants : List EnumVariantDeclaration}
    (declared : schema.declaration path = .enum name variants)
    (variantId : UInt64) : Except CodecError (RustValue schema (.named path)) :=
  match found : variants.find? (·.id == variantId) with
  | some variant =>
      .ok (.enum declared variant (List.mem_of_find?_eq_some found))
  | none => .error (.unknownEnumVariant name variantId)

/-- The union variant with an id, and its fields. -/
def decodeUnion
    {path : π} {name : String} {variants : List (UnionVariantDeclaration π)}
    (declared : schema.declaration path = .union name variants)
    (variantId : UInt64)
    (values : List (UInt64 × FieldDecoder schema)) :
    Except CodecError (RustValue schema (.named path)) :=
  match found : variants.find? (·.id == variantId) with
  | some variant => do
      let fields ← decodeFields variant.fields values
      pure (.union declared variant (List.mem_of_find?_eq_some found) fields)
  | none => .error (.unknownUnionVariant name variantId)

mutual

/-- The decoder of a type. -/
def decodeExpr (schema : Schema π) :
    Value → (type : TypeRef π) → Except CodecError (RustValue schema type)
  | value, .primitive .u53 => .u53 <$> expectU64 value
  | value, .primitive .i53 => .i53 <$> expectI64 value
  | value, .primitive .f64 => .f64 <$> expectF64 value
  | value, .primitive .string => .string <$> expectText value
  | value, .primitive .bool => .bool <$> expectBool value
  | value, .primitive .bytes => .bytes <$> expectBytes value
  | _, .void => .ok .void
  | value, .array item =>
      match value with
      | .array items => .array <$> decodeArray schema items item
      | _ => .error .expectedArray
  | value, .named path =>
      match declared : schema.declaration path with
      | .struct _ fields =>
          match value with
          | .map entries =>
              .struct declared <$>
                decodeFields fields (decodeEntries schema entries)
          | _ => .error .expectedMap
      | .enum _ _ => do
          let variantId ← expectU64 value
          decodeVariant declared variantId
      | .union _ _ =>
          -- `expect_union`, then the arm of the variant
          match value with
          | .array [kind, body] => do
              let variantId ← expectU64 kind
              match body with
              | .map entries =>
                  decodeUnion declared variantId
                    (decodeEntries schema entries)
              | _ => .error .expectedMap
          | _ => .error .expectedArray

/-- The loop of `decode_array`. -/
def decodeArray (schema : Schema π) :
    List Value → (item : TypeRef π) →
      Except CodecError (RustItems schema item)
  | [], _ => .ok .nil
  | value :: values, item => do
      let head ← decodeExpr schema value item
      let tail ← decodeArray schema values item
      pure (.cons head tail)

/-- The decoders of the values of a map. -/
def decodeEntries (schema : Schema π) :
    List (UInt64 × Value) → List (UInt64 × FieldDecoder schema)
  | [] => []
  | (key, value) :: entries =>
      (key, fun type => decodeExpr schema value type) ::
        decodeEntries schema entries

end

-- The equations are derived here, once for all proofs about the decoder.
attribute [grind =] decodeExpr decodeArray decodeEntries

/-! ## Byte strings -/

/-- The generated `try_encode`. -/
def RustValue.tryEncode {path : π} (value : RustValue schema (.named path)) :
    Except CodecError (List UInt8) := do
  let value ← value.encodeExpr
  pure value.encode

/-- The generated `decode`. -/
def decode (schema : Schema π) (path : π) (bytes : List UInt8) :
    Except (Fault CodecError) (RustValue schema (.named path)) :=
  match Value.decode bytes with
  | .error (.error failure) => .error (.error (.cbor failure))
  | .error (.panic cause) => .error (.panic cause)
  | .ok value =>
      match decodeExpr schema value (.named path) with
      | .ok result => .ok result
      | .error failure => .error (.error failure)

end Codegen
end WhatsGoingOn
