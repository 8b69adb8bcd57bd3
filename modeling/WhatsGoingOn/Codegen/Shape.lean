import WhatsGoingOn.Codegen.RustDecoder
import WhatsGoingOn.Web.Cbor

/-!
# The shape of a type

A value fits a type when it has the shape of the type and its numbers are in
given ranges.  The generated Rust decoder takes exactly the values that fit the
ranges of the Rust types.
-/

namespace WhatsGoingOn
namespace Codegen

open Daemon

variable {π : Type} {schema : Schema π}

/-! ## Shapes -/

namespace Ranges

/-- The numbers that the Rust types hold. -/
def rust : Ranges where
  u53 value := 0 ≤ value ∧ value < 2 ^ 64
  i53 value := -2 ^ 63 ≤ value ∧ value < 2 ^ 63
  f64 _ := True
  u53_zero := by decide
  i53_zero := by decide
  f64_zero := trivial

/-- The numbers that the TypeScript decoder takes. -/
def typeScript : Ranges where
  u53 value := Web.isSafeInteger value = true
  i53 value := Web.isSafeInteger value = true
  f64 _ := True
  u53_zero := by decide
  i53_zero := by decide
  f64_zero := trivial

/-- One range is within another. -/
structure Narrower (left right : Ranges) : Prop where
  u53 : ∀ value, left.u53 value → right.u53 value
  i53 : ∀ value, left.i53 value → right.i53 value
  f64 : ∀ bits, left.f64 bits → right.f64 bits

theorem documented_narrower_rust : Narrower .documented .rust where
  u53 value inside := by
    have bound : (maxU53 : Int) < 2 ^ 64 := by decide
    exact ⟨inside.1, lt_of_le_of_lt inside.2 bound⟩
  i53 value inside := by
    have lower : -2 ^ 63 ≤ -(maxU53 : Int) := by decide
    have upper : (maxU53 : Int) < 2 ^ 63 := by decide
    exact ⟨le_trans lower inside.1, lt_of_le_of_lt inside.2 upper⟩
  f64 _ _ := trivial

theorem documented_narrower_typeScript :
    Narrower .documented .typeScript where
  u53 value inside := by
    refine decide_eq_true ⟨?_, inside.2⟩
    exact le_trans (by decide) inside.1
  i53 value inside := decide_eq_true inside
  f64 _ _ := trivial

end Ranges

/-- The integer that a value spells. -/
def integerOf : Value → Option Int
  | .u64 value => some value.toNat
  | .i64 value => some value.toInt
  | _ => none

/-- A value has the shape of a type, with its numbers in the given ranges. -/
inductive Fits (ranges : Ranges) (schema : Schema π) :
    TypeRef π → Value → Prop
  | u53 {value : Value} {number : Int}
      (isInteger : integerOf value = some number)
      (inRange : ranges.u53 number) :
      Fits ranges schema (.primitive .u53) value
  | i53 {value : Value} {number : Int}
      (isInteger : integerOf value = some number)
      (inRange : ranges.i53 number) :
      Fits ranges schema (.primitive .i53) value
  | f64 {bits : UInt64} (inRange : ranges.f64 bits) :
      Fits ranges schema (.primitive .f64) (.f64 bits)
  | string (content : String) :
      Fits ranges schema (.primitive .string) (.text content)
  | bool (value : Bool) : Fits ranges schema (.primitive .bool) (.bool value)
  | bytes (payload : List UInt8) :
      Fits ranges schema (.primitive .bytes) (.bytes payload)
  | void (value : Value) : Fits ranges schema .void value
  | array {item : TypeRef π} {items : List Value}
      (inside : ∀ value ∈ items, Fits ranges schema item value) :
      Fits ranges schema (.array item) (.array items)
  | struct {path : π} {name : String} {fields : List (FieldDeclaration π)}
      (declared : schema.declaration path = .struct name fields)
      {entries : List (UInt64 × Value)}
      (inside : ∀ field ∈ fields, ∀ value,
        entries.lookup field.id = some value →
          Fits ranges schema field.type value) :
      Fits ranges schema (.named path) (.map entries)
  | enum {path : π} {name : String} {variants : List EnumVariantDeclaration}
      (declared : schema.declaration path = .enum name variants)
      {variant : EnumVariantDeclaration} (member : variant ∈ variants)
      {value : Value} (isId : integerOf value = some (variant.id.toNat : Int)) :
      Fits ranges schema (.named path) value
  | union {path : π} {name : String}
      {variants : List (UnionVariantDeclaration π)}
      (declared : schema.declaration path = .union name variants)
      {variant : UnionVariantDeclaration π} (member : variant ∈ variants)
      {kind : Value} (isId : integerOf kind = some (variant.id.toNat : Int))
      {entries : List (UInt64 × Value)}
      (inside : ∀ field ∈ variant.fields, ∀ value,
        entries.lookup field.id = some value →
          Fits ranges schema field.type value) :
      Fits ranges schema (.named path) (.array [kind, .map entries])

/-- A value that fits narrow ranges fits wide ones. -/
theorem Fits.mono
    {left right : Ranges} (narrower : left.Narrower right)
    {type : TypeRef π} {value : Value}
    (fits : Fits left schema type value) : Fits right schema type value := by
  induction fits with
  | u53 isInteger inRange => exact .u53 isInteger (narrower.u53 _ inRange)
  | i53 isInteger inRange => exact .i53 isInteger (narrower.i53 _ inRange)
  | f64 inRange => exact .f64 (narrower.f64 _ inRange)
  | string content => exact .string content
  | bool value => exact .bool value
  | bytes payload => exact .bytes payload
  | void value => exact .void value
  | array inside inductionHypothesis => exact .array inductionHypothesis
  | struct declared inside inductionHypothesis =>
      exact .struct declared inductionHypothesis
  | enum declared member isId => exact .enum declared member isId
  | union declared member isId inside inductionHypothesis =>
      exact .union declared member isId inductionHypothesis

/-- The fields of a record fit. -/
def FieldsFit (ranges : Ranges) (schema : Schema π)
    (fields : List (FieldDeclaration π))
    (entries : List (UInt64 × Value)) : Prop :=
  ∀ field ∈ fields, ∀ value, entries.lookup field.id = some value →
    Fits ranges schema field.type value

variable {ranges : Ranges}

/-- A struct fits a map whose fields fit. -/
theorem fits_struct
    {path : π} {name : String} {fields : List (FieldDeclaration π)}
    (declared : schema.declaration path = .struct name fields)
    {value : Value} :
    Fits ranges schema (.named path) value ↔
      ∃ entries, value = .map entries ∧
        FieldsFit ranges schema fields entries := by
  constructor
  · intro fits
    cases fits with
    | struct otherDeclared inside =>
        cases declared.symm.trans otherDeclared
        exact ⟨_, rfl, inside⟩
    | enum otherDeclared => cases declared.symm.trans otherDeclared
    | union otherDeclared => cases declared.symm.trans otherDeclared
  · rintro ⟨entries, rfl, inside⟩
    exact .struct declared inside

/-- A union fits the number of a variant and a map whose fields fit. -/
theorem fits_union
    {path : π} {name : String}
    {variants : List (UnionVariantDeclaration π)}
    (declared : schema.declaration path = .union name variants)
    {value : Value} :
    Fits ranges schema (.named path) value ↔
      ∃ variant ∈ variants, ∃ kind entries,
        value = .array [kind, .map entries] ∧
        integerOf kind = some (variant.id.toNat : Int) ∧
        FieldsFit ranges schema variant.fields entries := by
  constructor
  · intro fits
    cases fits with
    | struct otherDeclared => cases declared.symm.trans otherDeclared
    | enum otherDeclared => cases declared.symm.trans otherDeclared
    | union otherDeclared member isId inside =>
        cases declared.symm.trans otherDeclared
        exact ⟨_, member, _, _, rfl, isId, inside⟩
  · rintro ⟨variant, member, kind, entries, rfl, isId, inside⟩
    exact .union declared member isId inside

/-- At most one variant has a given id. -/
theorem variant_eq_of_id
    {α : Type} {ids : α → UInt64} {variants : List α}
    (unique : (variants.map ids).Nodup)
    {left right : α} (leftMember : left ∈ variants)
    (rightMember : right ∈ variants)
    {value : Value}
    (leftId : integerOf value = some ((ids left).toNat : Int))
    (rightId : integerOf value = some ((ids right).toNat : Int)) :
    left = right := by
  have numbers := Option.some.inj (leftId.symm.trans rightId)
  have same : ids left = ids right := by
    apply UInt64.toNat_inj.mp
    exact_mod_cast numbers
  exact List.inj_on_of_nodup_map unique leftMember rightMember same

/-! ## The Rust decoder -/

/-- An unsigned number is read from the integer it is. -/
theorem expectU64_eq_ok {value : Value} {result : UInt64} :
    expectU64 value = .ok result ↔
      integerOf value = some (result.toNat : Int) := by
  cases value with
  | u64 number =>
      simp only [expectU64, integerOf, Except.ok.injEq, Option.some.injEq,
        Nat.cast_inj, UInt64.toNat_inj]
  | i64 number =>
      simp only [expectU64, integerOf, Option.some.injEq]
      have upper := number.toInt_lt
      split
      · rename_i nonnegative
        have fits : number.toInt.toNat < UInt64.size := by
          change _ < 2 ^ 64
          omega
        rw [Except.ok.injEq, ← UInt64.toNat_inj,
          UInt64.toNat_ofNat_of_lt' fits]
        omega
      · simp only [reduceCtorEq, false_iff]
        omega
  | null | bool | f64 | bytes | text | array | map =>
      simp [expectU64, integerOf]

/-- A signed number is read from the integer it is. -/
theorem expectI64_eq_ok {value : Value} {result : Int64} :
    expectI64 value = .ok result ↔
      integerOf value = some result.toInt := by
  cases value with
  | u64 number =>
      simp only [expectI64, integerOf, Option.some.injEq]
      have upper := result.toInt_lt
      have lower := result.le_toInt
      split
      · rename_i fits
        have small : (number.toNat : Int) < 2 ^ 63 := by
          unfold i64Max at fits
          omega
        rw [Except.ok.injEq, ← Int64.toInt_inj,
          Int64.toInt_ofInt_of_le (by omega) small]
      · rename_i large
        simp only [reduceCtorEq, false_iff]
        unfold i64Max at large
        omega
  | i64 number =>
      simp only [expectI64, integerOf, Except.ok.injEq, Option.some.injEq,
        Int64.toInt_inj]
  | null | bool | f64 | bytes | text | array | map =>
      simp [expectI64, integerOf]

mutual

/-- The Rust types hold no other numbers. -/
theorem RustValue.within_rust {type : TypeRef π} :
    (value : RustValue schema type) → value.Within .rust
  | .u53 value => by
      have bound := value.toNat_lt
      exact ⟨Int.natCast_nonneg _, by exact_mod_cast bound⟩
  | .i53 value => ⟨value.le_toInt, value.toInt_lt⟩
  | .f64 _ | .string _ | .bool _ | .bytes _ | .void | .enum _ _ _ => trivial
  | .array items => items.within_rust
  | .struct _ values => values.within_rust
  | .union _ _ _ values => values.within_rust

theorem RustItems.within_rust {item : TypeRef π} :
    (items : RustItems schema item) → items.Within .rust
  | .nil => trivial
  | .cons head tail => ⟨head.within_rust, tail.within_rust⟩

theorem RustFields.within_rust {fields : List (FieldDeclaration π)} :
    (values : RustFields schema fields) → values.Within .rust
  | .nil => trivial
  | .cons head tail => ⟨head.within_rust, tail.within_rust⟩

theorem RustField.within_rust {field : FieldDeclaration π} :
    (part : RustField schema field) → part.Within .rust
  | .required _ value => value.within_rust
  | .absent _ => trivial
  | .present _ value => value.within_rust

end

/-- Defaults of fields are in range when all smaller defaults are. -/
theorem within_defaultFields
    {bound : Nat}
    {default : ∀ type : TypeRef π,
      type.rank schema.rank ≤ bound → RustValue schema type}
    (within : ∀ (type : TypeRef π) (small : type.rank schema.rank ≤ bound),
      (default type small).Within ranges)
    (fields : List (FieldDeclaration π))
    (small : ∀ field ∈ fields, field.type.rank schema.rank ≤ bound) :
    (defaultFields default fields small).Within ranges := by
  induction fields with
  | nil => trivial
  | cons field fields inductionHypothesis =>
      refine ⟨?_, inductionHypothesis _⟩
      split
      · trivial
      · exact within _ _

/-- Every default is in the range of its type. -/
theorem within_defaultWithin
    {bound : Nat} (type : TypeRef π)
    (small : type.rank schema.rank ≤ bound) :
    (defaultWithin schema bound type small).Within ranges := by
  induction bound generalizing type with
  | zero =>
      cases type with
      | primitive name =>
          cases name with
          | u53 => exact ranges.u53_zero
          | i53 => exact ranges.i53_zero
          | f64 => exact ranges.f64_zero
          | string | bool | bytes => trivial
      | named path => exact absurd small (Nat.not_succ_le_zero _)
      | array item => trivial
      | void => trivial
  | succ bound inductionHypothesis =>
      cases type with
      | primitive name =>
          cases name with
          | u53 => exact ranges.u53_zero
          | i53 => exact ranges.i53_zero
          | f64 => exact ranges.f64_zero
          | string | bool | bytes => trivial
      | named path =>
          cases declared : schema.declaration path with
          | struct name fields =>
              rw [defaultWithin_struct declared]
              exact within_defaultFields inductionHypothesis _ _
          | enum name variants =>
              rw [defaultWithin_enum declared
                (variants_ne_nil_of_enum declared)]
              trivial
          | union name variants =>
              rw [defaultWithin_union declared
                (variants_ne_nil_of_union declared)]
              exact within_defaultFields inductionHypothesis _ _
      | array item => trivial
      | void => trivial

theorem within_defaultExpr (type : TypeRef π) :
    (defaultExpr schema type).Within ranges :=
  within_defaultWithin type _

mutual

/-- The numbers of a decoded value are those of the value it was decoded
from. -/
theorem RustValue.within_iff {type : TypeRef π} :
    (value : RustValue schema type) → (tree : Value) →
      decodeExpr schema tree type = .ok value →
        (value.Within ranges ↔ Fits ranges schema type tree)
  | .u53 value, tree, decoded => by
      rw [decodeExpr] at decoded
      obtain ⟨number, isU64, same⟩ := Outcome.map_eq_ok.mp decoded
      cases same
      have isInteger := expectU64_eq_ok.mp isU64
      constructor
      · exact fun within => .u53 isInteger within
      · intro fits
        cases fits with
        | u53 otherInteger inRange =>
            cases isInteger.symm.trans otherInteger
            exact inRange
  | .i53 value, tree, decoded => by
      rw [decodeExpr] at decoded
      obtain ⟨number, isI64, same⟩ := Outcome.map_eq_ok.mp decoded
      cases same
      have isInteger := expectI64_eq_ok.mp isI64
      constructor
      · exact fun within => .i53 isInteger within
      · intro fits
        cases fits with
        | i53 otherInteger inRange =>
            cases isInteger.symm.trans otherInteger
            exact inRange
  | .f64 bits, tree, decoded => by
      rw [decodeExpr] at decoded
      obtain ⟨found, isF64, same⟩ := Outcome.map_eq_ok.mp decoded
      cases same
      cases tree with
      | f64 found =>
          cases isF64
          constructor
          · exact fun within => .f64 within
          · rintro ⟨⟩
            assumption
      | _ => cases isF64
  | .string content, tree, decoded => by
      rw [decodeExpr] at decoded
      obtain ⟨found, isText, same⟩ := Outcome.map_eq_ok.mp decoded
      cases tree with
      | text found => exact ⟨fun _ => .string found, fun _ => trivial⟩
      | _ => cases isText
  | .bool value, tree, decoded => by
      rw [decodeExpr] at decoded
      obtain ⟨found, isBool, same⟩ := Outcome.map_eq_ok.mp decoded
      cases tree with
      | bool found => exact ⟨fun _ => .bool found, fun _ => trivial⟩
      | _ => cases isBool
  | .bytes payload, tree, decoded => by
      rw [decodeExpr] at decoded
      obtain ⟨found, isBytes, same⟩ := Outcome.map_eq_ok.mp decoded
      cases tree with
      | bytes found => exact ⟨fun _ => .bytes found, fun _ => trivial⟩
      | _ => cases isBytes
  | .void, tree, _ => ⟨fun _ => .void tree, fun _ => trivial⟩
  | .array items, tree, decoded => by
      cases tree with
      | array trees =>
          obtain ⟨found, inside, same⟩ := Outcome.map_eq_ok.mp decoded
          cases same
          refine (items.within_iff trees inside).trans ?_
          constructor
          · exact fun fits => .array fits
          · rintro ⟨⟩
            assumption
      | _ => cases decoded
  | .struct declared values, tree, decoded => by
      obtain ⟨entries, found, rfl, same, reads⟩ :=
        (decodeExpr_struct_eq_ok declared).mp decoded
      cases same
      refine (values.within_iff entries reads).trans ?_
      rw [fits_struct declared]
      constructor
      · exact fun fits => ⟨entries, rfl, fits⟩
      · rintro ⟨_, ⟨⟩, fits⟩
        exact fits
  | .enum declared variant member, tree, decoded => by
      obtain ⟨found, foundMember, number, same⟩ :=
        (decodeExpr_enum_eq_ok declared).mp decoded
      exact ⟨fun _ => .enum declared foundMember (expectU64_eq_ok.mp number),
        fun _ => trivial⟩
  | .union declared variant member values, tree, decoded => by
      obtain ⟨found, foundMember, kind, entries, foundValues, rfl, number,
        same, reads⟩ := (decodeExpr_union_eq_ok declared).mp decoded
      cases same
      have isId := expectU64_eq_ok.mp number
      refine (values.within_iff entries reads).trans ?_
      rw [fits_union declared]
      constructor
      · exact fun fits => ⟨variant, member, kind, entries, rfl, isId, fits⟩
      · rintro ⟨other, otherMember, _, _, ⟨⟩, otherId, fits⟩
        cases variant_eq_of_id (union_ids_nodup declared).1 member
          otherMember isId otherId
        exact fits

/-- Decoded items are in range exactly when what they were read from fits. -/
theorem RustItems.within_iff {item : TypeRef π} :
    (items : RustItems schema item) → (trees : List Value) →
      decodeArray schema trees item = .ok items →
        (items.Within ranges ↔
          ∀ tree ∈ trees, Fits ranges schema item tree)
  | .nil, trees, decoded => by
      cases trees with
      | nil => exact ⟨fun _ _ member => (by cases member), fun _ => trivial⟩
      | cons tree trees =>
          obtain ⟨head, _, decoded⟩ := Outcome.bind_eq_ok.mp decoded
          obtain ⟨tail, _, same⟩ := Outcome.bind_eq_ok.mp decoded
          cases same
  | .cons head tail, trees, decoded => by
      cases trees with
      | nil => cases decoded
      | cons tree trees =>
          obtain ⟨first, headDecoded, decoded⟩ :=
            Outcome.bind_eq_ok.mp decoded
          obtain ⟨rest, tailDecoded, same⟩ := Outcome.bind_eq_ok.mp decoded
          cases same
          rw [List.forall_mem_cons]
          exact and_congr (head.within_iff tree headDecoded)
            (tail.within_iff trees tailDecoded)

theorem RustFields.within_iff {fields : List (FieldDeclaration π)} :
    (values : RustFields schema fields) →
      (entries : List (UInt64 × Value)) →
        (∀ index, ReadsField schema entries (values.get index)) →
          (values.Within ranges ↔ FieldsFit ranges schema fields entries)
  | .nil, _, _ => ⟨fun _ _ member => (by cases member), fun _ => trivial⟩
  | @RustFields.cons _ _ field fields head tail, entries, reads => by
      unfold FieldsFit
      rw [List.forall_mem_cons]
      exact and_congr (head.within_iff entries (reads ⟨0, Nat.succ_pos _⟩))
        (tail.within_iff entries fun index => reads index.succ)

/-- A decoded field is in range exactly when what it was read from fits. -/
theorem RustField.within_iff {field : FieldDeclaration π} :
    (part : RustField schema field) → (entries : List (UInt64 × Value)) →
      ReadsField schema entries part →
        (part.Within ranges ↔ ∀ value,
          entries.lookup field.id = some value →
            Fits ranges schema field.type value)
  | .required isRequired value, entries, reads => by
      cases reads with
      | default missing =>
          constructor
          · intro _ tree found
            cases missing.symm.trans found
          · exact fun _ => within_defaultExpr field.type
      | required found decoded =>
          refine (value.within_iff _ decoded).trans ?_
          constructor
          · intro fits tree otherFound
            cases found.symm.trans otherFound
            exact fits
          · exact fun fits => fits _ found
  | .absent isOptional, entries, reads => by
      cases reads with
      | absent missing =>
          constructor
          · intro _ tree found
            cases missing.symm.trans found
          · exact fun _ => trivial
  | .present isOptional value, entries, reads => by
      cases reads with
      | present found decoded =>
          refine (value.within_iff _ decoded).trans ?_
          constructor
          · intro fits tree otherFound
            cases found.symm.trans otherFound
            exact fits
          · exact fun fits => fits _ found

end

/-- Fields are decoded where each of them is. -/
theorem decodeFields_total
    {fields : List (FieldDeclaration π)}
    {entries : List (UInt64 × Value)}
    (decodes : ∀ field ∈ fields, ∀ value,
      entries.lookup field.id = some value →
        ∃ result, decodeExpr schema value field.type = .ok result) :
    ∃ values,
      decodeFields fields (decodeEntries schema entries) = .ok values := by
  induction fields with
  | nil => exact ⟨.nil, rfl⟩
  | cons field fields inductionHypothesis =>
      obtain ⟨tail, tailDecoded⟩ := inductionHypothesis fun other member =>
        decodes other (List.mem_cons_of_mem _ member)
      have read : ∃ head, readField schema entries field = .ok head := by
        unfold readField
        cases found : entries.lookup field.id with
        | none => exact ⟨_, rfl⟩
        | some value =>
            obtain ⟨result, decoded⟩ :=
              decodes field List.mem_cons_self value found
            exact ⟨_, Outcome.map_eq_ok.mpr ⟨result, decoded, rfl⟩⟩
      obtain ⟨head, headRead⟩ := read
      refine ⟨.cons head tail, ?_⟩
      rw [decodeFields, ← readField_eq, headRead, tailDecoded]
      rfl

/-- An array can be decoded when each of its items can. -/
theorem decodeArray_total
    {item : TypeRef π} {trees : List Value}
    (decodes : ∀ tree ∈ trees,
      ∃ result, decodeExpr schema tree item = .ok result) :
    ∃ items, decodeArray schema trees item = .ok items := by
  induction trees with
  | nil => exact ⟨.nil, rfl⟩
  | cons tree trees inductionHypothesis =>
      obtain ⟨head, headDecoded⟩ := decodes tree List.mem_cons_self
      obtain ⟨tail, tailDecoded⟩ := inductionHypothesis fun other member =>
        decodes other (List.mem_cons_of_mem _ member)
      refine ⟨.cons head tail, ?_⟩
      rw [decodeArray, headDecoded, tailDecoded]
      rfl

/-- The Rust decoder takes every value that fits the Rust types. -/
theorem Fits.rust_decodes
    {type : TypeRef π} {value : Value}
    (fits : Fits .rust schema type value) :
    ∃ result, decodeExpr schema value type = .ok result := by
  induction fits with
  | @u53 value number isInteger inRange =>
      have same : ((UInt64.ofNat number.toNat).toNat : Int) = number := by
        have fits : number.toNat < UInt64.size := by
          have upper := inRange.2
          change _ < 2 ^ 64
          omega
        rw [UInt64.toNat_ofNat_of_lt' fits]
        exact Int.toNat_of_nonneg inRange.1
      refine ⟨.u53 (UInt64.ofNat number.toNat), ?_⟩
      rw [decodeExpr]
      exact Outcome.map_eq_ok.mpr
        ⟨_, expectU64_eq_ok.mpr (by rw [same]; exact isInteger), rfl⟩
  | @i53 value number isInteger inRange =>
      have same : (Int64.ofInt number).toInt = number :=
        Int64.toInt_ofInt_of_le inRange.1 inRange.2
      refine ⟨.i53 (Int64.ofInt number), ?_⟩
      rw [decodeExpr]
      exact Outcome.map_eq_ok.mpr
        ⟨_, expectI64_eq_ok.mpr (by rw [same]; exact isInteger), rfl⟩
  | f64 inRange => exact ⟨.f64 _, rfl⟩
  | string content => exact ⟨.string content, rfl⟩
  | bool value => exact ⟨.bool value, rfl⟩
  | bytes payload => exact ⟨.bytes payload, rfl⟩
  | void value =>
      refine ⟨.void, ?_⟩
      rw [decodeExpr]
  | array inside inductionHypothesis =>
      obtain ⟨items, decoded⟩ := decodeArray_total inductionHypothesis
      refine ⟨.array items, ?_⟩
      rw [decodeExpr]
      exact Outcome.map_eq_ok.mpr ⟨items, decoded, rfl⟩
  | struct declared inside inductionHypothesis =>
      obtain ⟨values, decoded⟩ := decodeFields_total inductionHypothesis
      exact ⟨_, (decodeExpr_struct_eq_ok declared).mpr
        ⟨_, values, rfl, rfl, decodeFields_eq_ok.mp decoded⟩⟩
  | enum declared member isId =>
      exact ⟨_, (decodeExpr_enum_eq_ok declared).mpr
        ⟨_, member, expectU64_eq_ok.mpr isId, rfl⟩⟩
  | union declared member isId inside inductionHypothesis =>
      obtain ⟨values, decoded⟩ := decodeFields_total inductionHypothesis
      exact ⟨_, (decodeExpr_union_eq_ok declared).mpr
        ⟨_, member, _, _, values, rfl, expectU64_eq_ok.mpr isId, rfl,
          decodeFields_eq_ok.mp decoded⟩⟩

end Codegen
end WhatsGoingOn
