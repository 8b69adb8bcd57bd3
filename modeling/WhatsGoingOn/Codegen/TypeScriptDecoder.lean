import WhatsGoingOn.Codegen.RustDecoder
import WhatsGoingOn.Codegen.Shape
import WhatsGoingOn.Codegen.TypeScript
import WhatsGoingOn.Web.CborAgreement

/-!
# What the generated TypeScript decoder accepts

On the image of a value, the generated TypeScript decoder takes exactly the
values that fit the ranges of its own, and its defaults denote those of the
Rust types.
-/

namespace WhatsGoingOn
namespace Codegen
namespace TypeScript

open Daemon (Value)
open Web (CborValue image toNumber isSafeInteger)

variable {π : Type} {schema : Schema π}

/-! ## Integers and keys of an image -/

/-- The client reads the integers that are safe. -/
theorem integer_image {value : Value} {result : Int} :
    integer (image value) = .ok result ↔
      integerOf value = some result ∧ isSafeInteger result = true := by
  have scalar : ∀ number : Int,
      integer (.number (.integer (toNumber number))) = .ok result ↔
        number = result ∧ isSafeInteger result = true := by
    intro number
    rw [integer, Web.isSafeInteger_toNumber]
    split
    · rename_i safe
      rw [Except.ok.injEq, Web.toNumber_of_safe safe]
      constructor
      · rintro rfl
        exact ⟨rfl, safe⟩
      · exact fun same => same.1
    · rename_i large
      constructor
      · intro impossible
        cases impossible
      · rintro ⟨rfl, safe⟩
        exact absurd safe large
  cases value with
  | u64 number =>
      refine (scalar number.toNat).trans ?_
      rw [integerOf, Option.some.injEq]
  | i64 number =>
      refine (scalar number.toInt).trans ?_
      rw [integerOf, Option.some.injEq]
  | array items =>
      rw [Web.image_array]
      simp [integer, integerOf]
  | map entries =>
      rw [Web.image_map]
      simp [integer, integerOf]
  | null | bool | f64 | bytes | text => 
      simp [integer, integerOf, image, Value.fold, Web.scalarImage]

theorem f64Value_image {value : Value} {bits : UInt64} :
    f64Value (image value) = .ok bits ↔ value = .f64 bits := by
  cases value <;> simp [f64Value, image, Value.fold, Web.scalarImage]

theorem textValue_image {value : Value} {content : String} :
    textValue (image value) = .ok content ↔ value = .text content := by
  cases value <;> simp [textValue, image, Value.fold, Web.scalarImage]

theorem boolValue_image {value : Value} {flag : Bool} :
    boolValue (image value) = .ok flag ↔ value = .bool flag := by
  cases value <;> simp [boolValue, image, Value.fold, Web.scalarImage]

theorem bytesValue_image {value : Value} {payload : List UInt8} :
    bytesValue (image value) = .ok payload ↔ value = .bytes payload := by
  cases value <;> simp [bytesValue, image, Value.fold, Web.scalarImage]

/-- Only the pairs have images that are pairs. -/
theorem eq_pair_of_image {value : Value} {kind body : CborValue}
    (isPair : image value = .array [kind, body]) :
    ∃ first second, value = .array [first, second] ∧
      image first = kind ∧ image second = body := by
  cases value with
  | array items =>
      rw [Web.image_array, CborValue.array.injEq] at isPair
      match items, isPair with
      | [first, second], isPair =>
          simp only [List.map_cons, List.map_nil, List.cons.injEq,
            and_true] at isPair
          exact ⟨first, second, rfl, isPair⟩
  | map entries =>
      rw [Web.image_map] at isPair
      cases isPair
  | null | bool | u64 | i64 | f64 | bytes | text => cases isPair

/-- Only the maps have images that are maps. -/
theorem eq_map_of_image {value : Value} {entries : List (Int × CborValue)}
    (isMap : image value = .map entries) :
    ∃ others, value = .map others ∧
      entries = others.map fun entry =>
        (toNumber entry.1.toNat, image entry.2) := by
  cases value with
  | array items =>
      rw [Web.image_array] at isMap
      cases isMap
  | map others =>
      rw [Web.image_map, CborValue.map.injEq] at isMap
      exact ⟨others, rfl, isMap.symm⟩
  | null | bool | u64 | i64 | f64 | bytes | text => cases isMap

theorem toNumber_eq_iff {key : Int} {id : Int}
    (safe : isSafeInteger id = true) : id = toNumber key ↔ id = key := by
  constructor
  · intro same
    have keySafe : isSafeInteger key = true := by
      rw [← Web.isSafeInteger_toNumber, ← same]
      exact safe
    rw [same, Web.toNumber_of_safe keySafe]
  · rintro rfl
    exact (Web.toNumber_of_safe safe).symm

/-- A safe key finds the image of what it finds in the value. -/
theorem lookup_image
    {entries : List (UInt64 × Value)} {id : UInt64}
    (safe : isSafeInteger id.toNat = true) :
    (entries.map fun entry =>
        (toNumber entry.1.toNat, image entry.2)).lookup (id.toNat : Int) =
      (entries.lookup id).map image := by
  induction entries with
  | nil => rfl
  | cons entry entries inductionHypothesis =>
      rw [List.map_cons, SortedMap.lookup_cons_eq, SortedMap.lookup_cons_eq,
        inductionHypothesis]
      have keys : (id.toNat : Int) = toNumber entry.1.toNat ↔
          id = entry.1 := by
        rw [toNumber_eq_iff safe, Nat.cast_inj, UInt64.toNat_inj]
      by_cases same : id = entry.1
      · rw [if_pos (keys.mpr same), if_pos same]
        rfl
      · rw [if_neg (mt keys.mp same), if_neg same]

/-- Decoders are found where the entries have values. -/
theorem lookup_decodeEntries
    (entries : List (Int × CborValue)) (key : Int) :
    (decodeEntries schema entries).lookup key =
      (entries.lookup key).map fun value type =>
        decodeExpr schema value type := by
  induction entries with
  | nil => rfl
  | cons entry entries inductionHypothesis =>
      rw [decodeEntries, SortedMap.lookup_cons_eq, SortedMap.lookup_cons_eq]
      split
      · rfl
      · exact inductionHypothesis

/-! ## The decoder of a declared type -/

/-- What the property of a present field holds. -/
def presentProperty (field : FieldDeclaration π) (value : Data) : Data :=
  if field.optional then optionalProperty value else value

/-- What the property of a missing field holds. -/
def missingProperty (schema : Schema π) (field : FieldDeclaration π) : Data :=
  if field.optional then .absent else defaultExpr schema field.type

/-- What a decoded record holds for a field of the image of a map. -/
def ReadsProperty (schema : Schema π) (entries : List (UInt64 × Value))
    (field : FieldDeclaration π) (result : Data) : Prop :=
  match entries.lookup field.id with
  | none => result = missingProperty schema field
  | some value => ∃ inside,
      decodeExpr schema (image value) field.type = .ok inside ∧
        result = presentProperty field inside

/-- The fields of the image of a map. -/
abbrev imageEntries (schema : Schema π) (entries : List (UInt64 × Value)) :
    List (Int × FieldDecoder π) :=
  decodeEntries schema
    (entries.map fun entry => (toNumber entry.1.toNat, image entry.2))

/-- Reading a property from the client's image of some entries. -/
theorem decodeField_image
    {entries : List (UInt64 × Value)} {field : FieldDeclaration π}
    (safe : isSafeInteger field.id.toNat = true) {result : Data} :
    decodeField schema field
        ((imageEntries schema entries).lookup (field.id.toNat : Int)) =
        .ok result ↔
      ReadsProperty schema entries field result := by
  rw [lookup_decodeEntries, lookup_image safe]
  unfold ReadsProperty missingProperty presentProperty
  cases entries.lookup field.id with
  | none =>
      simp only [Option.map_none, decodeField]
      split <;> simp [eq_comm]
  | some value =>
      simp only [Option.map_some, decodeField]
      split
      · rw [Outcome.map_eq_ok]
        exact exists_congr fun _ => and_congr_right fun _ => eq_comm
      · simp [eq_comm]

/-- The fields are decoded exactly when each of them is read. -/
theorem decodeFields_image
    {fields : List (FieldDeclaration π)}
    (safe : ∀ field ∈ fields, isSafeInteger field.id.toNat = true)
    {entries : List (UInt64 × Value)} {results : List Data} :
    decodeFields schema fields (imageEntries schema entries) = .ok results ↔
      List.Forall₂ (ReadsProperty schema entries) fields results := by
  induction fields generalizing results with
  | nil =>
      rw [decodeFields, Except.ok.injEq, List.forall₂_nil_left_iff]
      exact eq_comm
  | cons field fields inductionHypothesis =>
      have later := @inductionHypothesis fun other member =>
        safe other (List.mem_cons_of_mem _ member)
      rw [decodeFields, Outcome.bind_eq_ok, List.forall₂_cons_left_iff]
      simp only [Outcome.bind_eq_ok, Outcome.pure_eq_ok, later,
        decodeField_image (safe field List.mem_cons_self)]
      constructor
      · rintro ⟨head, first, tail, rest, rfl⟩
        exact ⟨head, tail, first, rest, rfl⟩
      · rintro ⟨head, tail, first, rest, rfl⟩
        exact ⟨head, first, tail, rest, rfl⟩

theorem safe_of_struct
    {path : π} {name : String} {fields : List (FieldDeclaration π)}
    (declared : schema.declaration path = .struct name fields)
    (field : FieldDeclaration π) (member : field ∈ fields) :
    isSafeInteger field.id.toNat = true := by
  have safe := schema.safeIds path
  rw [declared] at safe
  exact Web.isSafeInteger_natCast.mpr
    (safe field.id (List.mem_map_of_mem member))

theorem safe_of_enum
    {path : π} {name : String} {variants : List EnumVariantDeclaration}
    (declared : schema.declaration path = .enum name variants)
    {variant : EnumVariantDeclaration} (member : variant ∈ variants) :
    isSafeInteger variant.id.toNat = true := by
  have safe := schema.safeIds path
  rw [declared] at safe
  exact Web.isSafeInteger_natCast.mpr
    (safe variant.id (List.mem_map_of_mem member))

/-- The numbers of variants and of their fields are safe. -/
theorem safe_of_union
    {path : π} {name : String}
    {variants : List (UnionVariantDeclaration π)}
    (declared : schema.declaration path = .union name variants)
    {variant : UnionVariantDeclaration π} (member : variant ∈ variants) :
    isSafeInteger variant.id.toNat = true ∧
      ∀ field ∈ variant.fields, isSafeInteger field.id.toNat = true := by
  have safe := schema.safeIds path
  rw [declared] at safe
  constructor
  · exact Web.isSafeInteger_natCast.mpr (safe variant.id
      (List.mem_flatMap.mpr ⟨variant, member, List.mem_cons_self⟩))
  · intro field inFields
    exact Web.isSafeInteger_natCast.mpr (safe field.id
      (List.mem_flatMap.mpr ⟨variant, member, List.mem_cons_of_mem _
        (List.mem_map_of_mem inFields)⟩))

/-- The decoder of a struct reads every field of a map. -/
theorem decodeExpr_struct_eq_ok
    {path : π} {name : String} {fields : List (FieldDeclaration π)}
    (declared : schema.declaration path = .struct name fields)
    {value : Value} {result : Data} :
    decodeExpr schema (image value) (.named path) = .ok result ↔
      ∃ entries results, value = .map entries ∧
        List.Forall₂ (ReadsProperty schema entries) fields results ∧
        result = .record results := by
  have safe := safe_of_struct declared
  rw [decodeExpr]
  simp only [declared]
  cases value with
  | map entries =>
      rw [Web.image_map]
      simp only [Outcome.map_eq_ok, decodeFields_image safe]
      constructor
      · rintro ⟨results, reads, rfl⟩
        exact ⟨entries, results, rfl, reads, rfl⟩
      · rintro ⟨_, results, ⟨⟩, reads, rfl⟩
        exact ⟨results, reads, rfl⟩
  | array items =>
      rw [Web.image_array]
      simp
  | null | bool | u64 | i64 | f64 | bytes | text =>
      simp [image, Value.fold, Web.scalarImage]

theorem nodup_toNat
    {α : Type} {ids : α → UInt64} {variants : List α}
    (unique : (variants.map ids).Nodup) :
    (variants.map fun variant => ((ids variant).toNat : Int)).Nodup := by
  have injective : Function.Injective fun id : UInt64 => (id.toNat : Int) := by
    intro left right same
    have numbers : (left.toNat : Int) = right.toNat := same
    exact UInt64.toNat_inj.mp (by exact_mod_cast numbers)
  have images := unique.map injective
  rwa [List.map_map] at images

/-- The decoder of an enum takes the ids of its variants. -/
theorem decodeExpr_enum_eq_ok
    {path : π} {name : String} {variants : List EnumVariantDeclaration}
    (declared : schema.declaration path = .enum name variants)
    {value : Value} {result : Data} :
    decodeExpr schema (image value) (.named path) = .ok result ↔
      ∃ variant ∈ variants, integerOf value = some (variant.id.toNat : Int) ∧
        result = .enum variant.id := by
  have unique := nodup_toNat (enum_ids_nodup declared)
  rw [decodeExpr]
  simp only [declared, Outcome.bind_eq_ok, integer_image]
  constructor
  · rintro ⟨id, ⟨isId, _⟩, decoded⟩
    split at decoded
    · rename_i variant found
      obtain ⟨member, rfl⟩ := (find?_id_eq_some unique).mp found
      exact ⟨variant, member, isId, (Outcome.pure_eq_ok.mp decoded).symm⟩
    · cases decoded
  · rintro ⟨variant, member, isId, rfl⟩
    have found := (find?_id_eq_some unique).mpr ⟨member, rfl⟩
    refine ⟨_, ⟨isId, safe_of_enum declared member⟩, ?_⟩
    rw [found]
    rfl

/-- The decoder of a union takes the tuples of a variant id and a map, and
reads every field of the variant. -/
theorem decodeExpr_union_eq_ok
    {path : π} {name : String}
    {variants : List (UnionVariantDeclaration π)}
    (declared : schema.declaration path = .union name variants)
    {value : Value} {result : Data} :
    decodeExpr schema (image value) (.named path) = .ok result ↔
      ∃ variant ∈ variants, ∃ kind entries results,
        value = .array [kind, .map entries] ∧
        integerOf kind = some (variant.id.toNat : Int) ∧
        List.Forall₂ (ReadsProperty schema entries) variant.fields results ∧
        result = .union variant.id results := by
  have unique := nodup_toNat (union_ids_nodup declared).1
  rw [decodeExpr]
  simp only [declared]
  constructor
  · intro decoded
    split at decoded
    · rename_i kind body isPair
      obtain ⟨first, second, rfl, rfl, rfl⟩ := eq_pair_of_image isPair
      obtain ⟨id, number, decoded⟩ := Outcome.bind_eq_ok.mp decoded
      split at decoded
      · rename_i entries isMap
        obtain ⟨others, rfl, rfl⟩ := eq_map_of_image isMap
        unfold decodeUnion at decoded
        split at decoded
        · rename_i variant found
          obtain ⟨member, rfl⟩ := (find?_id_eq_some unique).mp found
          obtain ⟨results, read, same⟩ := Outcome.bind_eq_ok.mp decoded
          have safe := safe_of_union declared member
          exact ⟨variant, member, first, others, results, rfl,
            (integer_image.mp number).1, (decodeFields_image safe.2).mp read,
            (Outcome.pure_eq_ok.mp same).symm⟩
        · cases decoded
      · cases decoded
    · cases decoded
  · rintro ⟨variant, member, kind, entries, results, rfl, isId, reads, rfl⟩
    have safe := safe_of_union declared member
    have found := (find?_id_eq_some unique).mpr ⟨member, rfl⟩
    have number := integer_image.mpr ⟨isId, safe.1⟩
    rw [Web.image_array]
    simp only [List.map_cons, List.map_nil, Web.image_map]
    refine Outcome.bind_eq_ok.mpr ⟨_, number, ?_⟩
    unfold decodeUnion
    rw [found]
    exact Outcome.bind_eq_ok.mpr
      ⟨results, (decodeFields_image safe.2).mpr reads, rfl⟩

/-! ## Defaults -/

/-- The default of a struct has the defaults of its fields. -/
theorem defaultWithin_struct
    {path : π} {name : String} {fields : List (FieldDeclaration π)}
    (declared : schema.declaration path = .struct name fields)
    {bound : Nat}
    (small : (TypeRef.named path).rank schema.rank ≤ bound + 1) :
    defaultWithin schema (bound + 1) (.named path) small =
      .record (defaultFields (defaultWithin schema bound) fields
        (rank_le_of_struct declared small)) := by
  rw [defaultWithin]
  split
  · rename_i otherDeclared
    cases declared.symm.trans otherDeclared
    rfl
  · rename_i otherDeclared
    cases declared.symm.trans otherDeclared
  · rename_i otherDeclared
    cases declared.symm.trans otherDeclared

/-- The default of an enum is its first variant. -/
theorem defaultWithin_enum
    {path : π} {name : String} {variants : List EnumVariantDeclaration}
    (declared : schema.declaration path = .enum name variants)
    (nonempty : variants ≠ [])
    {bound : Nat}
    (small : (TypeRef.named path).rank schema.rank ≤ bound + 1) :
    defaultWithin schema (bound + 1) (.named path) small =
      .enum (variants.head nonempty).id := by
  rw [defaultWithin]
  split
  · rename_i otherDeclared
    cases declared.symm.trans otherDeclared
  · rename_i otherDeclared
    cases declared.symm.trans otherDeclared
    rfl
  · rename_i otherDeclared
    cases declared.symm.trans otherDeclared

/-- The default of a union is its first variant with defaults. -/
theorem defaultWithin_union
    {path : π} {name : String}
    {variants : List (UnionVariantDeclaration π)}
    (declared : schema.declaration path = .union name variants)
    (nonempty : variants ≠ [])
    {bound : Nat}
    (small : (TypeRef.named path).rank schema.rank ≤ bound + 1) :
    defaultWithin schema (bound + 1) (.named path) small =
      .union (variants.head nonempty).id
        (defaultFields (defaultWithin schema bound)
          (variants.head nonempty).fields
          (rank_le_of_union declared small (List.head_mem nonempty))) := by
  rw [defaultWithin]
  split
  · rename_i otherDeclared
    cases declared.symm.trans otherDeclared
  · rename_i otherDeclared
    cases declared.symm.trans otherDeclared
  · rename_i otherDeclared
    cases declared.symm.trans otherDeclared
    rfl

/-- The defaults of the client are those of Rust. -/
theorem defaultFields_eq_denote
    {bound : Nat}
    {left : ∀ type : TypeRef π, type.rank schema.rank ≤ bound → Data}
    {right : ∀ type : TypeRef π,
      type.rank schema.rank ≤ bound → RustValue schema type}
    (same : ∀ (type : TypeRef π) (small : type.rank schema.rank ≤ bound),
      left type small = (right type small).denote)
    (fields : List (FieldDeclaration π))
    (small : ∀ field ∈ fields, field.type.rank schema.rank ≤ bound) :
    defaultFields left fields small =
      (Codegen.defaultFields right fields small).denote := by
  induction fields with
  | nil => rfl
  | cons field fields inductionHypothesis =>
      rw [defaultFields, Codegen.defaultFields, RustFields.denote,
        inductionHypothesis]
      congr 1
      split
      · rfl
      · exact same _ _

/-- Every default denotes the default of the Rust type. -/
theorem defaultWithin_eq_denote
    {bound : Nat} (type : TypeRef π)
    (small : type.rank schema.rank ≤ bound) :
    defaultWithin schema bound type small =
      (Codegen.defaultWithin schema bound type small).denote := by
  induction bound generalizing type with
  | zero =>
      cases type with
      | primitive name => cases name <;> rfl
      | named path => exact absurd small (Nat.not_succ_le_zero _)
      | array item => rfl
      | void => rfl
  | succ bound inductionHypothesis =>
      cases type with
      | primitive name => cases name <;> rfl
      | named path =>
          cases declared : schema.declaration path with
          | struct name fields =>
              rw [defaultWithin_struct declared,
                Codegen.defaultWithin_struct declared,
                defaultFields_eq_denote inductionHypothesis]
              rfl
          | enum name variants =>
              have nonempty := variants_ne_nil_of_enum declared
              rw [defaultWithin_enum declared nonempty,
                Codegen.defaultWithin_enum declared nonempty]
              rfl
          | union name variants =>
              have nonempty := variants_ne_nil_of_union declared
              rw [defaultWithin_union declared nonempty,
                Codegen.defaultWithin_union declared nonempty,
                defaultFields_eq_denote inductionHypothesis]
              rfl
      | array item => rfl
      | void => rfl

theorem defaultExpr_eq_denote (type : TypeRef π) :
    defaultExpr schema type = (Codegen.defaultExpr schema type).denote :=
  defaultWithin_eq_denote type _

/-! ## Shapes -/

theorem exists_of_forall₂
    {α β : Type} {related : α → β → Prop} {left : List α} {right : List β}
    (pairs : List.Forall₂ related left right)
    {first : α} (member : first ∈ left) : ∃ second, related first second := by
  induction pairs with
  | nil => cases member
  | cons holds _ inductionHypothesis =>
      cases member with
      | head => exact ⟨_, holds⟩
      | tail _ member => exact inductionHypothesis member

theorem forall₂_of_exists
    {α β : Type} {related : α → β → Prop} {left : List α}
    (each : ∀ first ∈ left, ∃ second, related first second) :
    ∃ right, List.Forall₂ related left right := by
  induction left with
  | nil => exact ⟨[], .nil⟩
  | cons first left inductionHypothesis =>
      obtain ⟨second, holds⟩ := each first List.mem_cons_self
      obtain ⟨right, pairs⟩ := inductionHypothesis fun other member =>
        each other (List.mem_cons_of_mem _ member)
      exact ⟨second :: right, .cons holds pairs⟩

/-- Every present field of a decoded record was decoded. -/
theorem decodes_of_reads
    {fields : List (FieldDeclaration π)} {entries : List (UInt64 × Value)}
    {results : List Data}
    (reads : List.Forall₂ (ReadsProperty schema entries) fields results)
    {field : FieldDeclaration π} (member : field ∈ fields)
    {value : Value} (found : entries.lookup field.id = some value) :
    ∃ inside, decodeExpr schema (image value) field.type = .ok inside := by
  obtain ⟨result, read⟩ := exists_of_forall₂ reads member
  simp only [ReadsProperty, found] at read
  obtain ⟨inside, decoded, _⟩ := read
  exact ⟨inside, decoded⟩

/-- Every property can be read when every value can be decoded. -/
theorem reads_of_decodes
    {fields : List (FieldDeclaration π)} {entries : List (UInt64 × Value)}
    (decodes : ∀ field ∈ fields, ∀ value,
      entries.lookup field.id = some value →
        ∃ inside, decodeExpr schema (image value) field.type = .ok inside) :
    ∃ results,
      List.Forall₂ (ReadsProperty schema entries) fields results := by
  refine forall₂_of_exists fun field member => ?_
  unfold ReadsProperty
  cases found : entries.lookup field.id with
  | none => exact ⟨_, rfl⟩
  | some value =>
      obtain ⟨inside, decoded⟩ := decodes field member value found
      exact ⟨_, inside, decoded, rfl⟩

/-- The items of an array are decoded exactly when each of them is. -/
theorem decodeArray_eq_ok
    {item : TypeRef π} {values : List CborValue} {results : List Data} :
    decodeArray schema values item = .ok results ↔
      List.Forall₂ (fun value result =>
        decodeExpr schema value item = .ok result) values results := by
  induction values generalizing results with
  | nil =>
      rw [decodeArray, Except.ok.injEq, List.forall₂_nil_left_iff]
      exact eq_comm
  | cons value values inductionHypothesis =>
      rw [decodeArray, Outcome.bind_eq_ok, List.forall₂_cons_left_iff]
      simp only [Outcome.bind_eq_ok, Outcome.pure_eq_ok, inductionHypothesis]
      constructor
      · rintro ⟨head, first, tail, rest, rfl⟩
        exact ⟨head, tail, first, rest, rfl⟩
      · rintro ⟨head, tail, first, rest, rfl⟩
        exact ⟨head, first, tail, rest, rfl⟩

/-- Decoding an array is decoding each of its items. -/
theorem decodeExpr_array_eq_ok
    {item : TypeRef π} {value : Value} {result : Data} :
    decodeExpr schema (image value) (.array item) = .ok result ↔
      ∃ items results, value = .array items ∧
        List.Forall₂ (fun value result =>
          decodeExpr schema (image value) item = .ok result) items results ∧
        result = .array results := by
  cases value with
  | array items =>
      rw [Web.image_array, decodeExpr]
      simp only [Outcome.map_eq_ok, decodeArray_eq_ok,
        List.forall₂_map_left_iff]
      constructor
      · rintro ⟨results, decoded, rfl⟩
        exact ⟨items, results, rfl, decoded, rfl⟩
      · rintro ⟨_, results, ⟨⟩, decoded, rfl⟩
        exact ⟨results, decoded, rfl⟩
  | map entries =>
      rw [Web.image_map]
      simp [decodeExpr]
  | null | bool | u64 | i64 | f64 | bytes | text =>
      simp [image, Value.fold, Web.scalarImage, decodeExpr]

/-- The TypeScript decoder takes every value that fits its ranges. -/
theorem decodes_of_fits
    {type : TypeRef π} {value : Value}
    (fits : Fits .typeScript schema type value) :
    ∃ result, decodeExpr schema (image value) type = .ok result := by
  induction fits with
  | u53 isInteger inRange =>
      rw [decodeExpr]
      exact ⟨_, Outcome.map_eq_ok.mpr
        ⟨_, integer_image.mpr ⟨isInteger, inRange⟩, rfl⟩⟩
  | i53 isInteger inRange =>
      rw [decodeExpr]
      exact ⟨_, Outcome.map_eq_ok.mpr
        ⟨_, integer_image.mpr ⟨isInteger, inRange⟩, rfl⟩⟩
  | @f64 bits inRange => exact ⟨.float bits, rfl⟩
  | string content => exact ⟨.text content, rfl⟩
  | bool value => exact ⟨.bool value, rfl⟩
  | bytes payload => exact ⟨.bytes payload, rfl⟩
  | void value =>
      refine ⟨.unit, ?_⟩
      rw [decodeExpr]
  | array inside inductionHypothesis =>
      obtain ⟨results, decoded⟩ := forall₂_of_exists inductionHypothesis
      exact ⟨_, decodeExpr_array_eq_ok.mpr ⟨_, results, rfl, decoded, rfl⟩⟩
  | struct declared inside inductionHypothesis =>
      obtain ⟨results, reads⟩ := reads_of_decodes inductionHypothesis
      exact ⟨_, (decodeExpr_struct_eq_ok declared).mpr
        ⟨_, results, rfl, reads, rfl⟩⟩
  | enum declared member isId =>
      exact ⟨_, (decodeExpr_enum_eq_ok declared).mpr ⟨_, member, isId, rfl⟩⟩
  | union declared member isId inside inductionHypothesis =>
      obtain ⟨results, reads⟩ := reads_of_decodes inductionHypothesis
      exact ⟨_, (decodeExpr_union_eq_ok declared).mpr
        ⟨_, member, _, _, results, rfl, isId, reads, rfl⟩⟩

/-- The fields of a map that were decoded fit. -/
theorem fieldsFit_of_reads
    {fields : List (FieldDeclaration π)} {entries : List (UInt64 × Value)}
    {results : List Data}
    (inside : ∀ entry ∈ entries, ∀ (type : TypeRef π) result,
      decodeExpr schema (image entry.2) type = .ok result →
        Fits .typeScript schema type entry.2)
    (reads : List.Forall₂ (ReadsProperty schema entries) fields results) :
    FieldsFit .typeScript schema fields entries := by
  intro field member value found
  obtain ⟨result, decoded⟩ := decodes_of_reads reads member found
  exact inside _ (SortedMap.mem_of_lookup found) field.type result decoded

/-- The TypeScript decoder takes no other values. -/
theorem fits_of_decodes
    {type : TypeRef π} {value : Value} {result : Data}
    (decoded : decodeExpr schema (image value) type = .ok result) :
    Fits .typeScript schema type value := by
  suffices every : value.Every fun part => ∀ (type : TypeRef π) result,
      decodeExpr schema (image part) type = .ok result →
        Fits .typeScript schema type part from every.self type result decoded
  clear decoded
  refine Value.Every.of_step (fun value below type result decoded => ?_) value
  cases type with
  | primitive name =>
      cases name with
      | u53 =>
          rw [decodeExpr] at decoded
          obtain ⟨number, isInteger, _⟩ := Outcome.map_eq_ok.mp decoded
          obtain ⟨spelled, safe⟩ := integer_image.mp isInteger
          exact .u53 spelled safe
      | i53 =>
          rw [decodeExpr] at decoded
          obtain ⟨number, isInteger, _⟩ := Outcome.map_eq_ok.mp decoded
          obtain ⟨spelled, safe⟩ := integer_image.mp isInteger
          exact .i53 spelled safe
      | f64 =>
          rw [decodeExpr] at decoded
          obtain ⟨bits, isF64, _⟩ := Outcome.map_eq_ok.mp decoded
          exact (f64Value_image.mp isF64).symm ▸ .f64 trivial
      | string =>
          rw [decodeExpr] at decoded
          obtain ⟨content, isText, _⟩ := Outcome.map_eq_ok.mp decoded
          exact (textValue_image.mp isText).symm ▸ .string content
      | bool =>
          rw [decodeExpr] at decoded
          obtain ⟨flag, isBool, _⟩ := Outcome.map_eq_ok.mp decoded
          exact (boolValue_image.mp isBool).symm ▸ .bool flag
      | bytes =>
          rw [decodeExpr] at decoded
          obtain ⟨payload, isBytes, _⟩ := Outcome.map_eq_ok.mp decoded
          exact (bytesValue_image.mp isBytes).symm ▸ .bytes payload
  | void => exact .void value
  | array item =>
      obtain ⟨items, results, rfl, decoded, _⟩ :=
        decodeExpr_array_eq_ok.mp decoded
      refine .array fun part member => ?_
      obtain ⟨inside, partDecoded⟩ := exists_of_forall₂ decoded member
      exact (below part member).self item inside partDecoded
  | named path =>
      cases declared : schema.declaration path with
      | struct name fields =>
          obtain ⟨entries, results, rfl, reads, _⟩ :=
            (decodeExpr_struct_eq_ok declared).mp decoded
          refine .struct declared (fieldsFit_of_reads ?_ reads)
          exact fun entry member =>
            (below entry.2 (List.mem_map_of_mem member)).self
      | enum name variants =>
          obtain ⟨variant, member, isId, _⟩ :=
            (decodeExpr_enum_eq_ok declared).mp decoded
          exact .enum declared member isId
      | union name variants =>
          obtain ⟨variant, member, kind, entries, results, rfl, isId, reads,
            _⟩ := (decodeExpr_union_eq_ok declared).mp decoded
          refine .union declared member isId (fieldsFit_of_reads ?_ reads)
          have body := below (.map entries) (.tail _ (.head _))
          exact fun entry inEntries => (body.entry inEntries).self

end TypeScript
end Codegen
end WhatsGoingOn
