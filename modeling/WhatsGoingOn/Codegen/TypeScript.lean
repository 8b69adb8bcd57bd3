import WhatsGoingOn.Codegen.Schema
import WhatsGoingOn.Library.Outcome
import WhatsGoingOn.Web.Cbor

/-!
# The generated TypeScript decoder

The decoder and the default that the TypeScript generator emits for a type, as
functions of the schema.  A decoded value is given by what it denotes.
-/

namespace WhatsGoingOn
namespace Codegen
namespace TypeScript

open Web (CborValue)

variable {π : Type}

/-- Errors of a generated decoder. -/
inductive DecodeError where
  /-- "expected CBOR map" -/
  | expectedMap
  /-- "expected CBOR union tuple" -/
  | expectedUnionTuple
  /-- "expected CBOR array" -/
  | expectedArray
  /-- "expected CBOR integer" -/
  | expectedInteger
  /-- "expected CBOR f64" -/
  | expectedF64
  /-- "expected CBOR text" -/
  | expectedText
  /-- "expected CBOR bool" -/
  | expectedBool
  /-- "expected CBOR bytes" -/
  | expectedBytes
  /-- "unknown `typeName` variant `variantId`" -/
  | unknownVariant (typeName : String) (variantId : Int)
  deriving DecidableEq, Repr

/-! ## Runtime helpers -/

/-- An integer that is safe; anything else is an error. -/
def integer : CborValue → Except DecodeError Int
  | .number (.integer value) =>
      if Web.isSafeInteger value then .ok value else .error .expectedInteger
  | _ => .error .expectedInteger

/-- A number that stands for a float. -/
def f64Value : CborValue → Except DecodeError UInt64
  | .f64 bits => .ok bits
  | _ => .error .expectedF64

/-- A text; anything else is an error. -/
def textValue : CborValue → Except DecodeError String
  | .text content => .ok content
  | _ => .error .expectedText

/-- A truth value; anything else is an error. -/
def boolValue : CborValue → Except DecodeError Bool
  | .bool value => .ok value
  | _ => .error .expectedBool

/-- A byte string; anything else is an error. -/
def bytesValue : CborValue → Except DecodeError (List UInt8)
  | .bytes payload => .ok payload
  | _ => .error .expectedBytes

/-- What an optional property denotes: `undefined` is an absent one. -/
def optionalProperty : Data → Data
  | .unit => .absent
  | value => .present value

/-! ## Defaults -/

/-- Defaults of fields, from the defaults of their types.  An optional field
is left out, so its property is `undefined`. -/
def defaultFields
    {rank : π → Nat} {bound : Nat}
    (default : ∀ type : TypeRef π, type.rank rank ≤ bound → Data) :
    (fields : List (FieldDeclaration π)) →
      (∀ field ∈ fields, field.type.rank rank ≤ bound) → List Data
  | [], _ => []
  | field :: fields, small =>
      (if field.optional then .absent
        else default field.type (small field List.mem_cons_self)) ::
        defaultFields default fields
          fun other member => small other (List.mem_cons_of_mem _ member)

/-- The default of a type whose rank is bounded. -/
def defaultWithin (schema : Schema π) :
    (bound : Nat) → (type : TypeRef π) →
      type.rank schema.rank ≤ bound → Data
  | _, .primitive .string, _ => .text ""
  | _, .primitive .bool, _ => .bool false
  | _, .primitive .bytes, _ => .bytes []
  | _, .primitive .f64, _ => .float 0
  | _, .primitive .u53, _ => .integer 0
  | _, .primitive .i53, _ => .integer 0
  | _, .void, _ => .unit
  | _, .array _, _ => .array []
  | 0, .named _, small => absurd small Schema.named_rank_pos
  | bound + 1, .named path, small =>
      match declared : schema.declaration path with
      | .struct _ fields =>
          .record (defaultFields (defaultWithin schema bound) fields
            (Schema.fields_smaller small declared))
      | .enum _ variants =>
          .enum (variants.head (Schema.enum_nonempty declared)).id
      | .union _ variants =>
          .union (variants.head (Schema.union_nonempty declared)).id
            (defaultFields (defaultWithin schema bound)
              (variants.head (Schema.union_nonempty declared)).fields
              (Schema.head_fields_smaller small declared _))

-- The equations are derived here, once for all proofs about defaults.
attribute [grind =] defaultFields defaultWithin

/-- The default of a type. -/
def defaultExpr (schema : Schema π) (type : TypeRef π) : Data :=
  defaultWithin schema (type.rank schema.rank) type Schema.rank_le_self

/-! ## The generated decoder -/

/-- The decoder of a present field, once its type is known. -/
abbrev FieldDecoder (π : Type) : Type :=
  TypeRef π → Except DecodeError Data

/-- Decode one field, from the decoder of its value where it is present. -/
def decodeField (schema : Schema π) (field : FieldDeclaration π)
    (value : Option (FieldDecoder π)) : Except DecodeError Data :=
  match value with
  | none =>
      if field.optional then .ok .absent
      else .ok (defaultExpr schema field.type)
  | some decode =>
      if field.optional then optionalProperty <$> decode field.type
      else decode field.type

/-- Decode the fields in the order of their declaration. -/
def decodeFields (schema : Schema π) :
    List (FieldDeclaration π) → List (Int × FieldDecoder π) →
      Except DecodeError (List Data)
  | [], _ => .ok []
  | field :: fields, values => do
      let head ← decodeField schema field
        (values.lookup (field.id.toNat : Int))
      let tail ← decodeFields schema fields values
      pure (head :: tail)

/-- The variant with an id, and its fields. -/
def decodeUnion (schema : Schema π) (name : String)
    (variants : List (UnionVariantDeclaration π)) (variantId : Int)
    (values : List (Int × FieldDecoder π)) : Except DecodeError Data :=
  match variants.find? fun variant => (variant.id.toNat : Int) == variantId with
  | some variant => do
      let fields ← decodeFields schema variant.fields values
      pure (.union variant.id fields)
  | none => .error (.unknownVariant name variantId)

mutual

/-- The decoder of a type. -/
def decodeExpr (schema : Schema π) :
    CborValue → TypeRef π → Except DecodeError Data
  | value, .primitive .u53 => .integer <$> integer value
  | value, .primitive .i53 => .integer <$> integer value
  | value, .primitive .f64 => .float <$> f64Value value
  | value, .primitive .string => .text <$> textValue value
  | value, .primitive .bool => .bool <$> boolValue value
  | value, .primitive .bytes => .bytes <$> bytesValue value
  | _, .void => .ok .unit
  | value, .array item =>
      match value with
      | .array items => .array <$> decodeArray schema items item
      | _ => .error .expectedArray
  | value, .named path =>
      match schema.declaration path with
      | .struct _ fields =>
          match value with
          | .map entries =>
              .record <$>
                decodeFields schema fields (decodeEntries schema entries)
          | _ => .error .expectedMap
      | .enum name variants => do
          let id ← integer value
          match variants.find? fun variant => (variant.id.toNat : Int) == id with
          | some variant => pure (.enum variant.id)
          | none => throw (.unknownVariant name id)
      | .union name variants =>
          -- `expectUnion`, then the case of the variant
          match value with
          | .array [kind, body] => do
              let variantId ← integer kind
              match body with
              | .map entries =>
                  decodeUnion schema name variants variantId
                    (decodeEntries schema entries)
              | _ => throw .expectedMap
          | _ => .error .expectedUnionTuple

/-- `map` over the items of an array. -/
def decodeArray (schema : Schema π) :
    List CborValue → TypeRef π → Except DecodeError (List Data)
  | [], _ => .ok []
  | value :: values, item => do
      let head ← decodeExpr schema value item
      let tail ← decodeArray schema values item
      pure (head :: tail)

/-- The decoders of the values of a map. -/
def decodeEntries (schema : Schema π) :
    List (Int × CborValue) → List (Int × FieldDecoder π)
  | [] => []
  | (key, value) :: entries =>
      (key, fun type => decodeExpr schema value type) ::
        decodeEntries schema entries

end

-- The equations are derived here, once for all proofs about the decoder.
attribute [grind =] decodeExpr decodeArray decodeEntries

end TypeScript
end Codegen
end WhatsGoingOn
