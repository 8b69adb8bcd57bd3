import WhatsGoingOn.Codegen.RustRoundTrip
import WhatsGoingOn.Codegen.TypeScriptDecoder

/-!
# Agreement of the generated Rust and TypeScript decoders

Both decoders take exactly the values that have the shape of the type, each
with numeric ranges of its own, and both then return the same.  They agree on a
value and reject whatever the documentation rejects exactly when neither of
them takes a number out of the documented range.
-/

namespace WhatsGoingOn
namespace Codegen

open Daemon (Value)

variable {π : Type} {schema : Schema π}

/-- No field is of type void.  TypeScript cannot tell a void value from an
absent one. -/
def Schema.VoidFree (schema : Schema π) : Prop :=
  ∀ path, ∀ type ∈ (schema.declaration path).fieldTypes, type ≠ .void

theorem Schema.VoidFree.struct
    (voidFree : schema.VoidFree)
    {path : π} {name : String} {fields : List (FieldDeclaration π)}
    (declared : schema.declaration path = .struct name fields)
    (field : FieldDeclaration π) (member : field ∈ fields) :
    field.type ≠ .void := by
  apply voidFree path
  rw [declared]
  exact List.mem_map_of_mem member

/-- No field of a variant of a union is void either. -/
theorem Schema.VoidFree.union
    (voidFree : schema.VoidFree)
    {path : π} {name : String}
    {variants : List (UnionVariantDeclaration π)}
    (declared : schema.declaration path = .union name variants)
    {variant : UnionVariantDeclaration π} (inVariants : variant ∈ variants)
    (field : FieldDeclaration π) (member : field ∈ variant.fields) :
    field.type ≠ .void := by
  apply voidFree path
  rw [declared]
  exact List.mem_flatMap.mpr
    ⟨variant, inVariants, List.mem_map_of_mem member⟩

/-- Only void values denote the unit. -/
theorem RustValue.optionalProperty_denote
    {type : TypeRef π} (value : RustValue schema type)
    (notVoid : type ≠ .void) :
    TypeScript.optionalProperty value.denote = .present value.denote := by
  cases value with
  | void => exact absurd rfl notVoid
  | u53 | i53 | f64 | string | bool | bytes | array | struct | enum | union =>
      rfl

mutual

/-- On values that fit its ranges, the TypeScript decoder returns what the
Rust decoder returns. -/
theorem RustValue.typeScript_decodes (voidFree : schema.VoidFree)
    {type : TypeRef π} :
    (value : RustValue schema type) → (tree : Value) →
      decodeExpr schema tree type = .ok value →
        Fits .typeScript schema type tree →
          TypeScript.decodeExpr schema (Web.image tree) type =
            .ok value.denote
  | .u53 value, tree, decoded, fits => by
      rw [decodeExpr] at decoded
      obtain ⟨number, isU64, same⟩ := Outcome.map_eq_ok.mp decoded
      cases same
      cases fits with
      | u53 isInteger inRange =>
          cases (expectU64_eq_ok.mp isU64).symm.trans isInteger
          rw [TypeScript.decodeExpr]
          exact Outcome.map_eq_ok.mpr
            ⟨_, TypeScript.integer_image.mpr ⟨isInteger, inRange⟩, rfl⟩
  | .i53 value, tree, decoded, fits => by
      rw [decodeExpr] at decoded
      obtain ⟨number, isI64, same⟩ := Outcome.map_eq_ok.mp decoded
      cases same
      cases fits with
      | i53 isInteger inRange =>
          cases (expectI64_eq_ok.mp isI64).symm.trans isInteger
          rw [TypeScript.decodeExpr]
          exact Outcome.map_eq_ok.mpr
            ⟨_, TypeScript.integer_image.mpr ⟨isInteger, inRange⟩, rfl⟩
  | .f64 bits, tree, decoded, fits => by
      cases fits with
      | f64 =>
          cases decoded
          rfl
  | .string content, tree, decoded, fits => by
      cases fits with
      | string =>
          cases decoded
          rfl
  | .bool value, tree, decoded, fits => by
      cases fits with
      | bool =>
          cases decoded
          rfl
  | .bytes payload, tree, decoded, fits => by
      cases fits with
      | bytes =>
          cases decoded
          rfl
  | .void, tree, _, _ => by
      rw [TypeScript.decodeExpr]
      rfl
  | .array items, tree, decoded, fits => by
      cases fits with
      | array inside =>
          rw [decodeExpr] at decoded
          obtain ⟨found, itemsDecoded, same⟩ := Outcome.map_eq_ok.mp decoded
          cases same
          exact TypeScript.decodeExpr_array_eq_ok.mpr
            ⟨_, _, rfl,
              items.typeScript_decodes voidFree _ itemsDecoded inside, rfl⟩
  | .struct declared values, tree, decoded, fits => by
      obtain ⟨entries, found, rfl, same, reads⟩ :=
        (decodeExpr_struct_eq_ok declared).mp decoded
      cases same
      obtain ⟨_, ⟨⟩, inside⟩ := (fits_struct declared).mp fits
      exact (TypeScript.decodeExpr_struct_eq_ok declared).mpr
        ⟨entries, _, rfl, values.typeScript_decodes voidFree entries reads
          inside (voidFree.struct declared), rfl⟩
  | .enum declared variant member, tree, decoded, fits => by
      obtain ⟨found, foundMember, number, same⟩ :=
        (decodeExpr_enum_eq_ok declared).mp decoded
      cases same
      exact (TypeScript.decodeExpr_enum_eq_ok declared).mpr
        ⟨variant, member, expectU64_eq_ok.mp number, rfl⟩
  | .union declared variant member values, tree, decoded, fits => by
      obtain ⟨found, foundMember, kind, entries, foundValues, rfl, number,
        same, reads⟩ := (decodeExpr_union_eq_ok declared).mp decoded
      cases same
      have isId := expectU64_eq_ok.mp number
      obtain ⟨other, otherMember, _, _, ⟨⟩, otherId, inside⟩ :=
        (fits_union declared).mp fits
      cases variant_eq_of_id (union_ids_nodup declared).1 member otherMember
        isId otherId
      exact (TypeScript.decodeExpr_union_eq_ok declared).mpr
        ⟨variant, member, kind, entries, _, rfl, isId,
          values.typeScript_decodes voidFree entries reads inside
            (voidFree.union declared member), rfl⟩

/-- The client's decoder reads the items of an array that Rust has read. -/
theorem RustItems.typeScript_decodes (voidFree : schema.VoidFree)
    {item : TypeRef π} :
    (items : RustItems schema item) → (trees : List Value) →
      decodeArray schema trees item = .ok items →
        (∀ tree ∈ trees, Fits .typeScript schema item tree) →
          List.Forall₂ (fun tree result =>
            TypeScript.decodeExpr schema (Web.image tree) item = .ok result)
            trees items.denote
  | .nil, trees, decoded, fits => by
      cases trees with
      | nil => exact .nil
      | cons tree trees =>
          obtain ⟨head, _, decoded⟩ := Outcome.bind_eq_ok.mp decoded
          obtain ⟨tail, _, same⟩ := Outcome.bind_eq_ok.mp decoded
          cases same
  | .cons head tail, trees, decoded, fits => by
      cases trees with
      | nil => cases decoded
      | cons tree trees =>
          obtain ⟨first, headDecoded, decoded⟩ :=
            Outcome.bind_eq_ok.mp decoded
          obtain ⟨rest, tailDecoded, same⟩ := Outcome.bind_eq_ok.mp decoded
          cases same
          rw [List.forall_mem_cons] at fits
          exact .cons (head.typeScript_decodes voidFree tree headDecoded fits.1)
            (tail.typeScript_decodes voidFree trees tailDecoded fits.2)

/-- The client's decoder reads the fields of a struct that Rust has read. -/
theorem RustFields.typeScript_decodes (voidFree : schema.VoidFree)
    {fields : List (FieldDeclaration π)} :
    (values : RustFields schema fields) →
      (entries : List (UInt64 × Value)) →
        (∀ index, ReadsField schema entries (values.get index)) →
          FieldsFit .typeScript schema fields entries →
            (∀ field ∈ fields, field.type ≠ .void) →
              List.Forall₂ (TypeScript.ReadsProperty schema entries) fields
                values.denote
  | .nil, _, _, _, _ => .nil
  | @RustFields.cons _ _ field fields head tail, entries, reads, fits,
      notVoid => by
      unfold FieldsFit at fits
      rw [List.forall_mem_cons] at fits notVoid
      exact .cons
        (head.typeScript_decodes voidFree entries
          (reads ⟨0, Nat.succ_pos _⟩) fits.1 notVoid.1)
        (tail.typeScript_decodes voidFree entries
          (fun index => reads index.succ) fits.2 notVoid.2)

/-- The client's decoder reads a field that Rust has read. -/
theorem RustField.typeScript_decodes (voidFree : schema.VoidFree)
    {field : FieldDeclaration π} :
    (part : RustField schema field) → (entries : List (UInt64 × Value)) →
      ReadsField schema entries part →
        (∀ value, entries.lookup field.id = some value →
          Fits .typeScript schema field.type value) →
            field.type ≠ .void →
              TypeScript.ReadsProperty schema entries field part.denote
  | .required isRequired value, entries, reads, fits, _ => by
      unfold TypeScript.ReadsProperty
      cases reads with
      | default missing =>
          simp only [missing, TypeScript.missingProperty, isRequired]
          exact (TypeScript.defaultExpr_eq_denote field.type).symm
      | required found decoded =>
          simp only [found, TypeScript.presentProperty, isRequired]
          exact ⟨_, value.typeScript_decodes voidFree _ decoded
            (fits _ found), rfl⟩
  | .absent isOptional, entries, reads, _, _ => by
      unfold TypeScript.ReadsProperty
      cases reads with
      | absent missing =>
          simp only [missing, TypeScript.missingProperty, isOptional]
          rfl
  | .present isOptional value, entries, reads, fits, notVoid => by
      unfold TypeScript.ReadsProperty
      cases reads with
      | present found decoded =>
          simp only [found, TypeScript.presentProperty, isOptional]
          exact ⟨_, value.typeScript_decodes voidFree _ decoded
            (fits _ found), (value.optionalProperty_denote notVoid).symm⟩

end

/-! ## When the decoders agree -/

/-- The decoders of a type agree on a value, and take it only where all of its
numbers are in the documented ranges. -/
structure DecodersAgree (schema : Schema π) (type : TypeRef π)
    (tree : Value) : Prop where
  /-- Both take the value or both reject it. -/
  accepted : (∃ value, decodeExpr schema tree type = .ok value) ↔
    ∃ result, TypeScript.decodeExpr schema (Web.image tree) type = .ok result
  /-- Both decode it to the same. -/
  same : ∀ value result, decodeExpr schema tree type = .ok value →
    TypeScript.decodeExpr schema (Web.image tree) type = .ok result →
      result = value.denote
  /-- Whatever is taken is in range. -/
  inRange : ∀ value, decodeExpr schema tree type = .ok value →
    value.Within .documented
  /-- Whatever is taken can be encoded again and is read back. -/
  reencoded : ∀ value, decodeExpr schema tree type = .ok value →
    ∃ encoded, value.encodeExpr = .ok encoded ∧
      decodeExpr schema encoded type = .ok value

/-- The decoders agree on exactly the values for which fitting the ranges of
the Rust types, or those of the TypeScript decoder, means fitting the
documented ranges. -/
theorem decoders_agree_iff
    (voidFree : schema.VoidFree)
    (type : TypeRef π) (tree : Value) :
    DecodersAgree schema type tree ↔
      (Fits .rust schema type tree → Fits .documented schema type tree) ∧
        (Fits .typeScript schema type tree →
          Fits .documented schema type tree) := by
  constructor
  · intro agree
    have rustDocumented : (∃ value, decodeExpr schema tree type = .ok value) →
        Fits .documented schema type tree := by
      rintro ⟨value, decoded⟩
      exact (value.within_iff tree decoded).mp (agree.inRange value decoded)
    exact ⟨fun fits => rustDocumented fits.rust_decodes,
      fun fits => rustDocumented
        (agree.accepted.mpr (TypeScript.decodes_of_fits fits))⟩
  · rintro ⟨rustDocumented, typeScriptDocumented⟩
    have documented : ∀ value, decodeExpr schema tree type = .ok value →
        Fits .documented schema type tree := fun value decoded =>
      rustDocumented ((value.within_iff tree decoded).mp value.within_rust)
    have translated : ∀ value, decodeExpr schema tree type = .ok value →
        TypeScript.decodeExpr schema (Web.image tree) type =
          .ok value.denote := fun value decoded =>
      value.typeScript_decodes voidFree tree decoded
        ((documented value decoded).mono
          Ranges.documented_narrower_typeScript)
    have inRange : ∀ value, decodeExpr schema tree type = .ok value →
        value.Within .documented := fun value decoded =>
      (value.within_iff tree decoded).mpr (documented value decoded)
    refine ⟨⟨?_, ?_⟩, ?_, inRange, ?_⟩
    · rintro ⟨value, decoded⟩
      exact ⟨_, translated value decoded⟩
    · rintro ⟨result, decoded⟩
      have fits := typeScriptDocumented (TypeScript.fits_of_decodes decoded)
      exact (fits.mono Ranges.documented_narrower_rust).rust_decodes
    · intro value result decoded otherDecoded
      exact Except.ok.inj
        (otherDecoded.symm.trans (translated value decoded))
    · intro value decoded
      obtain ⟨encoded, isEncoded, _, readBack⟩ :=
        value.readBack (inRange value decoded)
      exact ⟨encoded, isEncoded, readBack⟩

theorem voidFree_folderSchema : folderSchema.VoidFree := by
  intro path type member
  simp only [folderSchema, Declaration.fieldTypes, folderFields,
    List.map_cons, List.map_nil, List.mem_cons, List.not_mem_nil,
    or_false] at member
  rcases member with rfl | rfl | rfl <;>
    · intro same
      cases same

/-- The decoders agree on a folder without a name. -/
theorem decoders_agree_on_folder :
    DecodersAgree folderSchema (.named ()) (.map [(2, .u64 7)]) := by
  have fits : Fits .documented folderSchema (.named ())
      (.map [(2, .u64 7)]) := by
    refine .struct rfl fun field member value found => ?_
    simp only [folderFields, List.mem_cons, List.not_mem_nil, or_false]
      at member
    rcases member with rfl | rfl | rfl
    · cases found
    · cases found
      refine .u53 rfl ?_
      change (0 : Int) ≤ 7 ∧ (7 : Int) ≤ Daemon.maxU53
      decide
    · cases found
  exact (decoders_agree_iff voidFree_folderSchema _ _).mpr
    ⟨fun _ => fits, fun _ => fits⟩

/-- The Rust decoder of u53 takes 2^53, which the TypeScript decoder rejects.
The TypeScript decoder takes minus one, which the Rust decoder rejects. -/
theorem decoders_disagree_on_u53 :
    ¬ DecodersAgree folderSchema (.primitive .u53)
        (.u64 9007199254740992) ∧
      ¬ DecodersAgree folderSchema (.primitive .u53) (.i64 (-1)) := by
  constructor
  · intro agree
    obtain ⟨result, decoded⟩ := agree.accepted.mp ⟨.u53 _, rfl⟩
    cases TypeScript.fits_of_decodes decoded with
    | u53 isInteger inRange =>
        cases isInteger
        have safe : Web.isSafeInteger 9007199254740992 = true := inRange
        exact absurd safe (by decide)
  · intro agree
    have safe : Web.isSafeInteger (-1) = true := by decide
    have taken : Fits .typeScript folderSchema (.primitive .u53)
        (.i64 (-1)) := .u53 rfl safe
    obtain ⟨value, decoded⟩ :=
      agree.accepted.mpr (TypeScript.decodes_of_fits taken)
    cases decoded

end Codegen
end WhatsGoingOn
