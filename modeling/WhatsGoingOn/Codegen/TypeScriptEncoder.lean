import WhatsGoingOn.Codegen.Schema
import WhatsGoingOn.Library.Outcome
import WhatsGoingOn.Web.CborAgreement

/-!
# The generated TypeScript encoder

The types that the TypeScript generator declares, and the encoder that it emits
for them, as functions of the schema.  A value carries what its JavaScript type
promises: an object of a union is one of the variants, a property that is there
is not `undefined`, and no string or array is longer than JavaScript has them.
-/

namespace WhatsGoingOn
namespace Codegen

open Web (CborError CborValue isFinite isSafeInteger maxArrayLength
  maxSafeInteger)

variable {π : Type}

/-! ## Values of the generated types -/

/-- A JavaScript number at an integer type. -/
inductive IntegerNumber where
  | integral (value : Int)
  /-- A fraction, an infinity or not a number. -/
  | other (bits : UInt64)
  deriving DecidableEq, Repr

mutual

/-- Values of the TypeScript type that is generated for a type. -/
inductive TypeScriptValue (schema : Schema π) : TypeRef π → Type where
  | u53 (value : IntegerNumber) : TypeScriptValue schema (.primitive .u53)
  | i53 (value : IntegerNumber) : TypeScriptValue schema (.primitive .i53)
  | f64 (bits : UInt64) : TypeScriptValue schema (.primitive .f64)
  | string (content : String)
      (short : (Bytes.utf8 content).length ≤ maxSafeInteger) :
      TypeScriptValue schema (.primitive .string)
  | bool (value : Bool) : TypeScriptValue schema (.primitive .bool)
  | bytes (payload : List UInt8) (short : payload.length ≤ maxSafeInteger) :
      TypeScriptValue schema (.primitive .bytes)
  | void : TypeScriptValue schema .void
  | array {item : TypeRef π} {length : Nat} (short : length ≤ maxArrayLength)
      (items : TypeScriptItems schema item length) :
      TypeScriptValue schema (.array item)
  | struct {path : π} {name : String} {fields : List (FieldDeclaration π)}
      (declared : schema.declaration path = .struct name fields)
      (values : TypeScriptFields schema fields) :
      TypeScriptValue schema (.named path)
  | enum {path : π} {name : String} {variants : List EnumVariantDeclaration}
      (declared : schema.declaration path = .enum name variants)
      (variant : EnumVariantDeclaration) (member : variant ∈ variants) :
      TypeScriptValue schema (.named path)
  | union {path : π} {name : String}
      {variants : List (UnionVariantDeclaration π)}
      (declared : schema.declaration path = .union name variants)
      (variant : UnionVariantDeclaration π) (member : variant ∈ variants)
      (values : TypeScriptFields schema variant.fields) :
      TypeScriptValue schema (.named path)

/-- The items of an array of a length. -/
inductive TypeScriptItems (schema : Schema π) :
    TypeRef π → Nat → Type where
  | nil {item : TypeRef π} : TypeScriptItems schema item 0
  | cons {item : TypeRef π} {length : Nat} (head : TypeScriptValue schema item)
      (tail : TypeScriptItems schema item length) :
      TypeScriptItems schema item (length + 1)

/-- The properties of an object, in the order of the declaration. -/
inductive TypeScriptFields (schema : Schema π) :
    List (FieldDeclaration π) → Type where
  | nil : TypeScriptFields schema []
  | cons {field : FieldDeclaration π} {fields : List (FieldDeclaration π)}
      (head : TypeScriptField schema field)
      (tail : TypeScriptFields schema fields) :
      TypeScriptFields schema (field :: fields)

/-- One property.  The checker demands a required one, and the encoder looks
whether it is there. -/
inductive TypeScriptField (schema : Schema π) :
    FieldDeclaration π → Type where
  | required {field : FieldDeclaration π} (isRequired : field.optional = false)
      (value : TypeScriptValue schema field.type) :
      TypeScriptField schema field
  | missing {field : FieldDeclaration π} (isRequired : field.optional = false)
      (notVoid : field.type ≠ .void) : TypeScriptField schema field
  | absent {field : FieldDeclaration π} (isOptional : field.optional = true) :
      TypeScriptField schema field
  | present {field : FieldDeclaration π} (isOptional : field.optional = true)
      (notVoid : field.type ≠ .void)
      (value : TypeScriptValue schema field.type) :
      TypeScriptField schema field

end

variable {schema : Schema π}

/-! ## What they denote -/

/-- What a number denotes. -/
def IntegerNumber.denote : IntegerNumber → Data
  | .integral value => .integer value
  | .other bits => .float bits

mutual

/-- What a TypeScript value denotes. -/
def TypeScriptValue.denote {type : TypeRef π} :
    TypeScriptValue schema type → Data
  | .u53 value => value.denote
  | .i53 value => value.denote
  | .f64 bits => .float bits
  | .string content _ => .text content
  | .bool value => .bool value
  | .bytes payload _ => .bytes payload
  | .void => .unit
  | .array _ items => .array items.denote
  | .struct _ values => .record values.denote
  | .enum _ variant _ => .enum variant.id
  | .union _ variant _ values => .union variant.id values.denote

/-- The data of the items of an array. -/
def TypeScriptItems.denote {item : TypeRef π} {length : Nat} :
    TypeScriptItems schema item length → List Data
  | .nil => []
  | .cons head tail => head.denote :: tail.denote

/-- The data of the fields of a struct, in the order of the schema. -/
def TypeScriptFields.denote {fields : List (FieldDeclaration π)} :
    TypeScriptFields schema fields → List Data
  | .nil => []
  | .cons head tail => head.denote :: tail.denote

/-- The data of one field; a missing value is data that is absent. -/
def TypeScriptField.denote {field : FieldDeclaration π} :
    TypeScriptField schema field → Data
  | .required _ value => value.denote
  | .missing _ _ => .absent
  | .absent _ => .absent
  | .present _ _ value => .present value.denote

end

/-! ## Runtime helpers -/

namespace TypeScript

/-- Errors of a generated encoder. -/
inductive EncodeError where
  /-- "missing required field `label`" -/
  | missingRequiredField (label : String)
  /-- "expected u53" -/
  | expectedU53
  /-- "expected i53" -/
  | expectedI53
  /-- "expected CBOR integer" -/
  | expectedInteger
  | cbor (failure : CborError)
  deriving DecidableEq, Repr

/-- A safe integer that is not negative. -/
def u53 : IntegerNumber → Except EncodeError CborValue
  | .integral value =>
      if isSafeInteger value = false ∨ value < 0 then .error .expectedU53
      else .ok (.number (.integer value))
  | .other _ => .error .expectedU53

/-- A safe integer of either sign. -/
def i53 : IntegerNumber → Except EncodeError CborValue
  | .integral value =>
      if isSafeInteger value then .ok (.number (.integer value))
      else .error .expectedI53
  | .other _ => .error .expectedI53

/-- `f64`, which calls `cborF64`. -/
def f64 (bits : UInt64) : Except EncodeError CborValue :=
  if isFinite bits then .ok (.f64 bits)
  else .error (.cbor .expectedFiniteF64)

/-- `integer`, of the value of an enum. -/
def enumInteger (variantId : UInt64) : Except EncodeError CborValue :=
  if isSafeInteger variantId.toNat then
    .ok (.number (.integer variantId.toNat))
  else .error .expectedInteger

/-- `fields.set`.  The ids of a declaration are distinct, so every call adds an
entry. -/
def setField (id : UInt64) (value : Option CborValue)
    (fields : List (Int × CborValue)) : List (Int × CborValue) :=
  match value with
  | some value => ((id.toNat : Int), value) :: fields
  | none => fields

end TypeScript

open TypeScript

/-! ## The generated encoder -/

mutual

/-- The encoder of a type. -/
def TypeScriptValue.encodeExpr {type : TypeRef π} :
    TypeScriptValue schema type → Except TypeScript.EncodeError CborValue
  | .u53 value => TypeScript.u53 value
  | .i53 value => TypeScript.i53 value
  | .f64 bits => TypeScript.f64 bits
  | .string content _ => .ok (.text content)
  | .bool value => .ok (.bool value)
  | .bytes payload _ => .ok (.bytes payload)
  | .void => .ok .null
  | .array _ items => do
      let values ← items.encodeArray
      pure (.array values)
  | @TypeScriptValue.struct _ _ _ name _ _ values => do
      let fields ← values.encodeFields name
      pure (.map fields)
  | .enum _ variant _ => enumInteger variant.id
  | @TypeScriptValue.union _ _ _ name _ _ variant _ values => do
      let fields ← values.encodeFields (name ++ "." ++ variant.name)
      pure (.array [.number (.integer variant.id.toNat), .map fields])

/-- `map` over the items of an array. -/
def TypeScriptItems.encodeArray {item : TypeRef π} {length : Nat} :
    TypeScriptItems schema item length →
      Except TypeScript.EncodeError (List CborValue)
  | .nil => .ok []
  | .cons head tail => do
      let value ← head.encodeExpr
      let values ← tail.encodeArray
      pure (value :: values)

/-- The entries that are set, one after another. -/
def TypeScriptFields.encodeFields {fields : List (FieldDeclaration π)} :
    TypeScriptFields schema fields → String →
      Except TypeScript.EncodeError (List (Int × CborValue))
  | .nil, _ => .ok []
  | @TypeScriptFields.cons _ _ field _ head tail, label => do
      let value ← head.encodeField label
      let entries ← tail.encodeFields label
      pure (setField field.id value entries)

/-- The value to set for a property, if any. -/
def TypeScriptField.encodeField {field : FieldDeclaration π} :
    TypeScriptField schema field → String →
      Except TypeScript.EncodeError (Option CborValue)
  | .required _ value, _ => do
      let value ← value.encodeExpr
      pure (some value)
  | .missing _ _, label =>
      .error (.missingRequiredField (label ++ "." ++ field.name))
  | .absent _, _ => .ok none
  | .present _ _ value, _ => do
      let value ← value.encodeExpr
      pure (some value)

end

/-- `encodeRequest`: the bytes of a payload. -/
def TypeScriptValue.tryEncode {type : TypeRef π}
    (value : TypeScriptValue schema type) :
    Except TypeScript.EncodeError (List UInt8) := do
  let value ← value.encodeExpr
  match Web.encodeCbor value with
  | .ok payload => .ok payload
  | .error failure => .error (.cbor failure)

end Codegen
end WhatsGoingOn
