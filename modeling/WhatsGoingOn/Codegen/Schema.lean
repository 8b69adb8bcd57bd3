import WhatsGoingOn.Daemon.Codec

/-!
# Schemas of the code generators

Both generators read the same declarations.  A schema is kept after its
references were resolved and its ids were checked, so a type path is an element
of an arbitrary type of paths and always has a declaration.
-/

namespace WhatsGoingOn
namespace Codegen

/-- Names of the primitive types. -/
inductive PrimitiveTypeName where
  | u53
  | i53
  | f64
  | string
  | bool
  | bytes
  deriving DecidableEq, Repr

/-- A reference to a type. -/
inductive TypeRef (π : Type) where
  | primitive (name : PrimitiveTypeName)
  | named (path : π)
  | array (item : TypeRef π)
  | void

/-- A field of a struct or of a union variant. -/
structure FieldDeclaration (π : Type) where
  id : UInt64
  name : String
  optional : Bool
  type : TypeRef π

/-- A variant of an enum. -/
structure EnumVariantDeclaration where
  id : UInt64
  name : String

/-- A variant of a union. -/
structure UnionVariantDeclaration (π : Type) where
  id : UInt64
  name : String
  fields : List (FieldDeclaration π)

/-- The declaration of a named type. -/
inductive Declaration (π : Type) where
  | struct (name : String) (fields : List (FieldDeclaration π))
  | enum (name : String) (variants : List EnumVariantDeclaration)
  | union (name : String) (variants : List (UnionVariantDeclaration π))

variable {π : Type}

namespace Declaration

/-- `validateUniqueIds`, for every list of fields and variants. -/
def UniqueIds : Declaration π → Prop
  | .struct _ fields => (fields.map (·.id)).Nodup
  | .enum _ variants => (variants.map (·.id)).Nodup
  | .union _ variants =>
      (variants.map (·.id)).Nodup ∧
        ∀ variant ∈ variants, (variant.fields.map (·.id)).Nodup

/-- Ids of all fields and variants of a declaration. -/
def ids : Declaration π → List UInt64
  | .struct _ fields => fields.map (·.id)
  | .enum _ variants => variants.map (·.id)
  | .union _ variants =>
      variants.flatMap fun variant =>
        variant.id :: variant.fields.map (·.id)

/-- `requiredId`: ids are safe integers. -/
def SafeIds (declaration : Declaration π) : Prop :=
  ∀ id ∈ declaration.ids, id.toNat ≤ Daemon.maxU53

/-- The default of an enum or a union is its first variant. -/
def HasVariant : Declaration π → Prop
  | .struct _ _ => True
  | .enum _ variants => variants ≠ []
  | .union _ variants => variants ≠ []

/-- Types of all fields of a declaration. -/
def fieldTypes : Declaration π → List (TypeRef π)
  | .struct _ fields => fields.map (·.type)
  | .enum _ _ => []
  | .union _ variants =>
      variants.flatMap fun variant => variant.fields.map (·.type)

end Declaration

/-- The rank of a type, from the ranks of the paths.  Values of array and
primitive types have defaults that need no other type. -/
def TypeRef.rank (rank : π → Nat) : TypeRef π → Nat
  | .named path => rank path + 1
  | _ => 0

/-- A checked schema.  The ranks say that no type contains itself other than
through an array, which the Rust compiler demands of the generated types. -/
structure Schema (π : Type) where
  declaration : π → Declaration π
  rank : π → Nat
  uniqueIds : ∀ path, (declaration path).UniqueIds
  safeIds : ∀ path, (declaration path).SafeIds
  hasVariant : ∀ path, (declaration path).HasVariant
  sized : ∀ path, ∀ type ∈ (declaration path).fieldTypes,
    type.rank rank ≤ rank path

theorem FieldDeclaration.required_of_not {field : FieldDeclaration π}
    (required : ¬field.optional = true) : field.optional = false :=
  Bool.eq_false_of_not_eq_true required

namespace Schema

variable {schema : Schema π} {path : π} {bound : Nat}

theorem rank_le_self {type : TypeRef π} :
    type.rank schema.rank ≤ type.rank schema.rank :=
  Nat.le_refl _

theorem named_rank_pos : ¬(TypeRef.named path).rank schema.rank ≤ 0 :=
  Nat.not_succ_le_zero _

theorem fieldTypes_smaller
    (small : (TypeRef.named path).rank schema.rank ≤ bound + 1) :
    ∀ type ∈ (schema.declaration path).fieldTypes,
      type.rank schema.rank ≤ bound := fun type member =>
  Nat.le_trans (schema.sized path type member) (Nat.le_of_succ_le_succ small)

theorem fields_smaller {name : String} {fields : List (FieldDeclaration π)}
    (small : (TypeRef.named path).rank schema.rank ≤ bound + 1)
    (declared : schema.declaration path = .struct name fields) :
    ∀ field ∈ fields, field.type.rank schema.rank ≤ bound := by
  intro field member
  refine fieldTypes_smaller small field.type ?_
  rw [declared]
  exact List.mem_map_of_mem member

theorem enum_nonempty {name : String} {variants : List EnumVariantDeclaration}
    (declared : schema.declaration path = .enum name variants) :
    variants ≠ [] := by
  have hasVariant := schema.hasVariant path
  rw [declared] at hasVariant
  exact hasVariant

theorem union_nonempty {name : String}
    {variants : List (UnionVariantDeclaration π)}
    (declared : schema.declaration path = .union name variants) :
    variants ≠ [] := by
  have hasVariant := schema.hasVariant path
  rw [declared] at hasVariant
  exact hasVariant

/-- The fields of a union's first variant have a smaller rank. -/
theorem head_fields_smaller {name : String}
    {variants : List (UnionVariantDeclaration π)}
    (small : (TypeRef.named path).rank schema.rank ≤ bound + 1)
    (declared : schema.declaration path = .union name variants)
    (nonempty : variants ≠ []) :
    ∀ field ∈ (variants.head nonempty).fields,
      field.type.rank schema.rank ≤ bound := by
  intro field member
  refine fieldTypes_smaller small field.type ?_
  rw [declared]
  exact List.mem_flatMap.mpr
    ⟨_, List.head_mem nonempty, List.mem_map_of_mem member⟩

end Schema

/-! ## Numeric ranges -/

/-- The numbers that are taken for each numeric primitive type.  Every range
has the default of its type. -/
structure Ranges where
  u53 : Int → Prop
  i53 : Int → Prop
  f64 : UInt64 → Prop
  u53_zero : u53 0
  i53_zero : i53 0
  f64_zero : f64 0

namespace Ranges

/-- The ranges of the documentation. -/
def documented : Ranges where
  u53 value := 0 ≤ value ∧ value ≤ Daemon.maxU53
  i53 value := -(Daemon.maxU53 : Int) ≤ value ∧ value ≤ Daemon.maxU53
  f64 bits := Daemon.isFinite bits = true
  u53_zero := by decide
  i53_zero := by decide
  f64_zero := by decide

end Ranges

/-! ## What values denote -/

/-- What a value of the generated Rust or TypeScript types denotes.  Records
list their fields in the order of the declaration. -/
inductive Data where
  | integer (value : Int)
  | float (bits : UInt64)
  | text (content : String)
  | bool (value : Bool)
  | bytes (payload : List UInt8)
  | unit
  | enum (variantId : UInt64)
  | array (items : List Data)
  | record (fields : List Data)
  | union (variantId : UInt64) (fields : List Data)
  | absent
  | present (value : Data)

end Codegen
end WhatsGoingOn
