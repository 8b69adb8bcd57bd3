import WhatsGoingOn.Codegen.Rust
import WhatsGoingOn.Library.Outcome

/-!
# What the generated Rust decoder accepts

For every kind of declaration, the values its decoder accepts and what it
returns, with the treatment of missing fields and the default of every type.
-/

namespace WhatsGoingOn
namespace Codegen

open Daemon

variable {π : Type} {schema : Schema π}

/-! ## The decoder of a declared type -/

/-- What the decoder of a struct does. -/
theorem decodeExpr_struct
    {path : π} {name : String} {fields : List (FieldDeclaration π)}
    (declared : schema.declaration path = .struct name fields)
    (value : Value) :
    decodeExpr schema value (.named path) = (do
      let entries ← expectMap value
      let values ← decodeFields fields (decodeEntries schema entries)
      pure (.struct declared values)) := by
  rw [decodeExpr]
  split
  · rename_i otherName otherFields otherDeclared
    cases declared.symm.trans otherDeclared
    cases value <;> rfl
  · rename_i otherDeclared
    cases declared.symm.trans otherDeclared
  · rename_i otherDeclared
    cases declared.symm.trans otherDeclared

/-- What the decoder of an enum does. -/
theorem decodeExpr_enum
    {path : π} {name : String} {variants : List EnumVariantDeclaration}
    (declared : schema.declaration path = .enum name variants)
    (value : Value) :
    decodeExpr schema value (.named path) = (do
      let variantId ← expectU64 value
      decodeVariant declared variantId) := by
  rw [decodeExpr]
  split
  · rename_i otherDeclared
    cases declared.symm.trans otherDeclared
  · rename_i otherName otherVariants otherDeclared
    cases declared.symm.trans otherDeclared
    rfl
  · rename_i otherDeclared
    cases declared.symm.trans otherDeclared

/-- What the decoder of a union does. -/
theorem decodeExpr_union
    {path : π} {name : String}
    {variants : List (UnionVariantDeclaration π)}
    (declared : schema.declaration path = .union name variants)
    (value : Value) :
    decodeExpr schema value (.named path) = (do
      let (variantId, entries) ← expectUnion value
      decodeUnion declared variantId (decodeEntries schema entries)) := by
  rw [decodeExpr]
  split
  · rename_i otherDeclared
    cases declared.symm.trans otherDeclared
  · rename_i otherDeclared
    cases declared.symm.trans otherDeclared
  · rename_i otherName otherVariants otherDeclared
    cases declared.symm.trans otherDeclared
    split
    · rename_i kind body
      change _ = (do
        let (variantId, entries) ← (do
          let variantId ← expectU64 kind
          let entries ← expectMap body
          pure (variantId, entries))
        decodeUnion declared variantId (decodeEntries schema entries))
      cases expectU64 kind with
      | error failure => rfl
      | ok variantId => cases body <;> rfl
    · rename_i notPair
      unfold expectUnion
      split
      · exact absurd rfl (notPair _ _)
      · rfl

/-- Decoders are found where the entries have values. -/
theorem lookup_decodeEntries
    (entries : List (UInt64 × Value)) (key : UInt64) :
    (decodeEntries schema entries).lookup key =
      (entries.lookup key).map fun value type =>
        decodeExpr schema value type := by
  induction entries with
  | nil => rfl
  | cons entry entries inductionHypothesis =>
      rw [decodeEntries, SortedMap.lookup_cons_eq, SortedMap.lookup_cons_eq]
      split
      · rfl
      · exact inductionHypothesis

/-! ## Missing fields and defaults -/

/-- What a field decodes to where it is missing. -/
def missingField (schema : Schema π) (field : FieldDeclaration π) :
    RustField schema field :=
  if isOptional : field.optional = true then .absent isOptional
  else .required (FieldDeclaration.required_of_not isOptional) (defaultExpr schema field.type)

/-- The field that holds a value. -/
def presentField
    (field : FieldDeclaration π)
    (value : RustValue schema field.type) : RustField schema field :=
  if isOptional : field.optional = true then .present isOptional value
  else .required (FieldDeclaration.required_of_not isOptional) value

/-- All fields, where all of them are missing. -/
def missingFields (schema : Schema π) :
    (fields : List (FieldDeclaration π)) → RustFields schema fields
  | [] => .nil
  | field :: fields =>
      .cons (missingField schema field) (missingFields schema fields)

theorem decodeField_none (field : FieldDeclaration π) :
    (decodeField field none : Except CodecError (RustField schema field)) =
      .ok (missingField schema field) := by
  unfold decodeField missingField
  split <;> rfl

/-- A field that has a value is decoded as its type says. -/
theorem decodeField_some
    (field : FieldDeclaration π) (decode : FieldDecoder schema) :
    decodeField field (some decode) =
      presentField field <$> decode field.type := by
  unfold decodeField
  cases decoded : decode field.type with
  | error failure =>
      split <;> simp [optionalField, fieldOrDefault, decoded, bind,
        Except.bind]
  | ok value =>
      split <;> rename_i isOptional <;>
        simp [optionalField, fieldOrDefault, presentField, decoded,
          isOptional, bind, Except.bind, pure, Except.pure]

/-- Defaults do not depend on the bound of the recursion. -/
theorem defaultFields_congr
    {bound other : Nat}
    {left : ∀ type : TypeRef π,
      type.rank schema.rank ≤ bound → RustValue schema type}
    {right : ∀ type : TypeRef π,
      type.rank schema.rank ≤ other → RustValue schema type}
    (same : ∀ (type : TypeRef π) (small : type.rank schema.rank ≤ bound)
      (otherSmall : type.rank schema.rank ≤ other),
      left type small = right type otherSmall)
    (fields : List (FieldDeclaration π))
    (small : ∀ field ∈ fields, field.type.rank schema.rank ≤ bound)
    (otherSmall : ∀ field ∈ fields, field.type.rank schema.rank ≤ other) :
    defaultFields left fields small = defaultFields right fields otherSmall := by
  induction fields with
  | nil => rfl
  | cons field fields inductionHypothesis =>
      rw [defaultFields, defaultFields, inductionHypothesis,
        same field.type _ (otherSmall field List.mem_cons_self)]

/-- The types of fields have smaller ranks than the type they belong to. -/
theorem rank_le_of_struct
    {path : π} {name : String} {fields : List (FieldDeclaration π)}
    (declared : schema.declaration path = .struct name fields)
    {bound : Nat}
    (small : (TypeRef.named path).rank schema.rank ≤ bound + 1)
    (field : FieldDeclaration π) (member : field ∈ fields) :
    field.type.rank schema.rank ≤ bound := by
  have inTypes : field.type ∈ (schema.declaration path).fieldTypes := by
    rw [declared]
    exact List.mem_map_of_mem member
  exact Nat.le_trans (schema.sized path _ inTypes)
    (Nat.le_of_succ_le_succ small)

/-- The fields of a union's variant have a smaller rank than the union. -/
theorem rank_le_of_union
    {path : π} {name : String}
    {variants : List (UnionVariantDeclaration π)}
    (declared : schema.declaration path = .union name variants)
    {bound : Nat}
    (small : (TypeRef.named path).rank schema.rank ≤ bound + 1)
    {variant : UnionVariantDeclaration π} (inVariants : variant ∈ variants)
    (field : FieldDeclaration π) (member : field ∈ variant.fields) :
    field.type.rank schema.rank ≤ bound := by
  have inTypes : field.type ∈ (schema.declaration path).fieldTypes := by
    rw [declared]
    exact List.mem_flatMap.mpr
      ⟨variant, inVariants, List.mem_map_of_mem member⟩
  exact Nat.le_trans (schema.sized path _ inTypes)
    (Nat.le_of_succ_le_succ small)

/-- The default of a struct has the defaults of its fields. -/
theorem defaultWithin_struct
    {path : π} {name : String} {fields : List (FieldDeclaration π)}
    (declared : schema.declaration path = .struct name fields)
    {bound : Nat}
    (small : (TypeRef.named path).rank schema.rank ≤ bound + 1) :
    defaultWithin schema (bound + 1) (.named path) small =
      .struct declared
        (defaultFields (defaultWithin schema bound) fields
          (rank_le_of_struct declared small)) := by
  rw [defaultWithin]
  split
  · rename_i otherName otherFields otherDeclared
    cases declared.symm.trans otherDeclared
    rfl
  · rename_i otherDeclared
    cases declared.symm.trans otherDeclared
  · rename_i otherDeclared
    cases declared.symm.trans otherDeclared

/-- The default of an enum is its first variant. -/
theorem defaultWithin_enum
    {path : π} {name : String} {variants : List EnumVariantDeclaration}
    (declared : schema.declaration path = .enum name variants)
    (nonempty : variants ≠ [])
    {bound : Nat}
    (small : (TypeRef.named path).rank schema.rank ≤ bound + 1) :
    defaultWithin schema (bound + 1) (.named path) small =
      .enum declared (variants.head nonempty) (List.head_mem nonempty) := by
  rw [defaultWithin]
  split
  · rename_i otherDeclared
    cases declared.symm.trans otherDeclared
  · rename_i otherName otherVariants otherDeclared
    cases declared.symm.trans otherDeclared
    rfl
  · rename_i otherDeclared
    cases declared.symm.trans otherDeclared

/-- The default of a union is its first variant with defaults. -/
theorem defaultWithin_union
    {path : π} {name : String}
    {variants : List (UnionVariantDeclaration π)}
    (declared : schema.declaration path = .union name variants)
    (nonempty : variants ≠ [])
    {bound : Nat}
    (small : (TypeRef.named path).rank schema.rank ≤ bound + 1) :
    defaultWithin schema (bound + 1) (.named path) small =
      .union declared (variants.head nonempty) (List.head_mem nonempty)
        (defaultFields (defaultWithin schema bound) _
          (rank_le_of_union declared small (List.head_mem nonempty))) := by
  rw [defaultWithin]
  split
  · rename_i otherDeclared
    cases declared.symm.trans otherDeclared
  · rename_i otherDeclared
    cases declared.symm.trans otherDeclared
  · rename_i otherName otherVariants otherDeclared
    cases declared.symm.trans otherDeclared
    rfl

theorem variants_ne_nil_of_enum
    {path : π} {name : String} {variants : List EnumVariantDeclaration}
    (declared : schema.declaration path = .enum name variants) :
    variants ≠ [] := by
  have hasVariant := schema.hasVariant path
  rw [declared] at hasVariant
  exact hasVariant

theorem variants_ne_nil_of_union
    {path : π} {name : String}
    {variants : List (UnionVariantDeclaration π)}
    (declared : schema.declaration path = .union name variants) :
    variants ≠ [] := by
  have hasVariant := schema.hasVariant path
  rw [declared] at hasVariant
  exact hasVariant

/-- The bound does not affect the default. -/
theorem defaultWithin_congr
    {bound other : Nat} (type : TypeRef π)
    (small : type.rank schema.rank ≤ bound)
    (otherSmall : type.rank schema.rank ≤ other) :
    defaultWithin schema bound type small =
      defaultWithin schema other type otherSmall := by
  induction bound generalizing other type with
  | zero =>
      cases type with
      | primitive name =>
          cases name <;> (rw [defaultWithin, defaultWithin])
      | named path => exact absurd small (Nat.not_succ_le_zero _)
      | array item => rw [defaultWithin, defaultWithin]
      | void => rw [defaultWithin, defaultWithin]
  | succ bound inductionHypothesis =>
      cases type with
      | primitive name =>
          cases name <;> (rw [defaultWithin, defaultWithin])
      | named path =>
          cases other with
          | zero => exact absurd otherSmall (Nat.not_succ_le_zero _)
          | succ other =>
              cases declared : schema.declaration path with
              | struct name fields =>
                  rw [defaultWithin_struct declared,
                    defaultWithin_struct declared,
                    defaultFields_congr inductionHypothesis]
              | enum name variants =>
                  have nonempty := variants_ne_nil_of_enum declared
                  rw [defaultWithin_enum declared nonempty,
                    defaultWithin_enum declared nonempty]
              | union name variants =>
                  have nonempty := variants_ne_nil_of_union declared
                  rw [defaultWithin_union declared nonempty,
                    defaultWithin_union declared nonempty,
                    defaultFields_congr inductionHypothesis]
      | array item => rw [defaultWithin, defaultWithin]
      | void => rw [defaultWithin, defaultWithin]

/-- Fields with the defaults of their types are all missing. -/
theorem defaultFields_defaultWithin
    {bound : Nat}
    (fields : List (FieldDeclaration π))
    (small : ∀ field ∈ fields, field.type.rank schema.rank ≤ bound) :
    defaultFields (defaultWithin schema bound) fields small =
      missingFields schema fields := by
  induction fields with
  | nil => rfl
  | cons field fields inductionHypothesis =>
      rw [defaultFields, missingFields, missingField, inductionHypothesis,
        defaultExpr, defaultWithin_congr field.type _ (Nat.le_refl _)]

theorem defaultExpr_struct
    {path : π} {name : String} {fields : List (FieldDeclaration π)}
    (declared : schema.declaration path = .struct name fields) :
    defaultExpr schema (.named path) =
      .struct declared (missingFields schema fields) := by
  unfold defaultExpr
  rw [← defaultFields_defaultWithin fields
    (rank_le_of_struct declared (Nat.le_refl _))]
  exact defaultWithin_struct declared (Nat.le_refl _)

theorem defaultExpr_enum
    {path : π} {name : String} {variants : List EnumVariantDeclaration}
    (declared : schema.declaration path = .enum name variants)
    (nonempty : variants ≠ []) :
    defaultExpr schema (.named path) =
      .enum declared (variants.head nonempty) (List.head_mem nonempty) :=
  defaultWithin_enum declared nonempty (Nat.le_refl _)

/-- The default of a union does not depend on the bound. -/
theorem defaultExpr_union
    {path : π} {name : String}
    {variants : List (UnionVariantDeclaration π)}
    (declared : schema.declaration path = .union name variants)
    (nonempty : variants ≠ []) :
    defaultExpr schema (.named path) =
      .union declared (variants.head nonempty) (List.head_mem nonempty)
        (missingFields schema (variants.head nonempty).fields) := by
  unfold defaultExpr
  rw [← defaultFields_defaultWithin _
    (rank_le_of_union declared (Nat.le_refl _) (List.head_mem nonempty))]
  exact defaultWithin_union declared nonempty (Nat.le_refl _)

/-! ## Fields of a decoded record -/

/-- The field at an index of the declaration. -/
def RustFields.get {fields : List (FieldDeclaration π)} :
    RustFields schema fields → (index : Fin fields.length) →
      RustField schema (fields.get index)
  | .cons head _, ⟨0, _⟩ => head
  | .cons _ tail, ⟨index + 1, bound⟩ =>
      tail.get ⟨index, Nat.lt_of_succ_lt_succ bound⟩

/-- Read one field from the entries of a map. -/
def readField
    (schema : Schema π)
    (entries : List (UInt64 × Value))
    (field : FieldDeclaration π) :
    Except CodecError (RustField schema field) :=
  match entries.lookup field.id with
  | none => .ok (missingField schema field)
  | some value =>
      presentField field <$> decodeExpr schema value field.type

theorem readField_eq
    (entries : List (UInt64 × Value)) (field : FieldDeclaration π) :
    readField schema entries field =
      decodeField field
        ((decodeEntries schema entries).lookup field.id) := by
  rw [lookup_decodeEntries]
  unfold readField
  cases entries.lookup field.id with
  | none => exact (decodeField_none field).symm
  | some value => exact (decodeField_some field _).symm

/-- What a decoded record holds for a field. -/
inductive ReadsField (schema : Schema π) (entries : List (UInt64 × Value))
    {field : FieldDeclaration π} : RustField schema field → Prop
  | absent (missing : entries.lookup field.id = none)
      (isOptional : field.optional = true) :
      ReadsField schema entries (.absent isOptional)
  | default (missing : entries.lookup field.id = none)
      (isRequired : field.optional = false) :
      ReadsField schema entries
        (.required isRequired (defaultExpr schema field.type))
  | present {tree : Value} {value : RustValue schema field.type}
      (found : entries.lookup field.id = some tree)
      (decoded : decodeExpr schema tree field.type = .ok value)
      (isOptional : field.optional = true) :
      ReadsField schema entries (.present isOptional value)
  | required {tree : Value} {value : RustValue schema field.type}
      (found : entries.lookup field.id = some tree)
      (decoded : decodeExpr schema tree field.type = .ok value)
      (isRequired : field.optional = false) :
      ReadsField schema entries (.required isRequired value)

/-- Reading a field, as a relation between the entries and the field. -/
theorem readField_eq_ok
    {entries : List (UInt64 × Value)} {field : FieldDeclaration π}
    {part : RustField schema field} :
    readField schema entries field = .ok part ↔
      ReadsField schema entries part := by
  unfold readField
  constructor
  · intro read
    cases found : entries.lookup field.id with
    | none =>
        simp only [found, Except.ok.injEq, missingField] at read
        split at read
        · rename_i isOptional
          rw [← read]
          exact .absent found isOptional
        · rename_i isRequired
          rw [← read]
          exact .default found _
    | some tree =>
        simp only [found] at read
        obtain ⟨value, decoded, same⟩ := Outcome.map_eq_ok.mp read
        unfold presentField at same
        split at same
        · rename_i isOptional
          rw [← same]
          exact .present found decoded isOptional
        · rename_i isRequired
          rw [← same]
          exact .required found decoded _
  · intro reads
    cases reads with
    | absent missing isOptional =>
        simp only [missing, missingField, dif_pos isOptional]
    | default missing isRequired =>
        simp only [missing, missingField, isRequired, Bool.false_eq_true,
          dif_neg, not_false_eq_true]
    | present found decoded isOptional =>
        simp only [found]
        refine Outcome.map_eq_ok.mpr ⟨_, decoded, ?_⟩
        rw [presentField, dif_pos isOptional]
    | required found decoded isRequired =>
        simp only [found]
        refine Outcome.map_eq_ok.mpr ⟨_, decoded, ?_⟩
        rw [presentField, dif_neg (by simp [isRequired])]

/-- The fields are decoded exactly when each of them is read. -/
theorem decodeFields_eq_ok
    {fields : List (FieldDeclaration π)}
    {entries : List (UInt64 × Value)}
    {values : RustFields schema fields} :
    decodeFields fields (decodeEntries schema entries) = .ok values ↔
      ∀ index, ReadsField schema entries (values.get index) := by
  induction fields with
  | nil =>
      cases values
      exact ⟨fun _ index => index.elim0, fun _ => rfl⟩
  | cons field fields inductionHypothesis =>
      cases values with
      | cons head tail =>
          rw [decodeFields, ← readField_eq]
          constructor
          · intro decoded index
            obtain ⟨found, first, decoded⟩ :=
              Outcome.bind_eq_ok.mp decoded
            obtain ⟨others, second, same⟩ :=
              Outcome.bind_eq_ok.mp decoded
            cases Outcome.pure_eq_ok.mp same
            cases index using Fin.cases with
            | zero => exact readField_eq_ok.mp first
            | succ index => exact inductionHypothesis.mp second index
          · intro read
            refine Outcome.bind_eq_ok.mpr 
              ⟨head, readField_eq_ok.mpr (read ⟨0, Nat.succ_pos _⟩), ?_⟩
            refine Outcome.bind_eq_ok.mpr ⟨tail, ?_, rfl⟩
            exact inductionHypothesis.mpr fun index => read index.succ

/-- The decoder of a struct reads every field of its map. -/
theorem decodeExpr_struct_eq_ok
    {path : π} {name : String} {fields : List (FieldDeclaration π)}
    (declared : schema.declaration path = .struct name fields)
    {value : Value} {result : RustValue schema (.named path)} :
    decodeExpr schema value (.named path) = .ok result ↔
      ∃ (entries : List (UInt64 × Value)) (values : RustFields schema fields),
        value = .map entries ∧ result = .struct declared values ∧
        ∀ index, ReadsField schema entries (values.get index) := by
  simp only [decodeExpr_struct declared, Outcome.bind_eq_ok,
    Outcome.pure_eq_ok, expectMap_eq_ok, decodeFields_eq_ok]
  constructor
  · rintro ⟨entries, rfl, values, read, rfl⟩
    exact ⟨entries, values, rfl, rfl, read⟩
  · rintro ⟨entries, values, rfl, rfl, read⟩
    exact ⟨entries, rfl, values, read, rfl⟩

/-! ## Variants -/

/-- Where ids are unique, a search by id finds the one element with that
id. -/
theorem find?_id_eq_some
    {α κ : Type} [BEq κ] [LawfulBEq κ] {ids : α → κ} {variants : List α}
    (unique : (variants.map ids).Nodup)
    {id : κ} {variant : α} :
    variants.find? (ids · == id) = some variant ↔
      variant ∈ variants ∧ ids variant = id := by
  constructor
  · intro found
    exact ⟨List.mem_of_find?_eq_some found, by
      simpa using List.find?_some found⟩
  · rintro ⟨member, rfl⟩
    induction variants with
    | nil => cases member
    | cons first variants inductionHypothesis =>
        obtain ⟨fresh, unique⟩ := List.nodup_cons.mp unique
        rw [List.find?_cons]
        cases List.mem_cons.mp member with
        | inl same => simp [same]
        | inr later =>
            have different : ids first ≠ ids variant := fun same =>
              fresh (same ▸ List.mem_map_of_mem later)
            rw [beq_eq_false_iff_ne.mpr different]
            exact inductionHypothesis unique later

theorem struct_ids_nodup
    {path : π} {name : String} {fields : List (FieldDeclaration π)}
    (declared : schema.declaration path = .struct name fields) :
    (fields.map (·.id)).Nodup := by
  have unique := schema.uniqueIds path
  rw [declared] at unique
  exact unique

theorem enum_ids_nodup
    {path : π} {name : String} {variants : List EnumVariantDeclaration}
    (declared : schema.declaration path = .enum name variants) :
    (variants.map (·.id)).Nodup := by
  have unique := schema.uniqueIds path
  rw [declared] at unique
  exact unique

theorem union_ids_nodup
    {path : π} {name : String}
    {variants : List (UnionVariantDeclaration π)}
    (declared : schema.declaration path = .union name variants) :
    (variants.map (·.id)).Nodup ∧
      ∀ variant ∈ variants, (variant.fields.map (·.id)).Nodup := by
  have unique := schema.uniqueIds path
  rw [declared] at unique
  exact unique

/-- The decoder of an enum takes the ids of its variants. -/
theorem decodeExpr_enum_eq_ok
    {path : π} {name : String} {variants : List EnumVariantDeclaration}
    (declared : schema.declaration path = .enum name variants)
    {value : Value} {result : RustValue schema (.named path)} :
    decodeExpr schema value (.named path) = .ok result ↔
      ∃ (variant : EnumVariantDeclaration) (member : variant ∈ variants),
        expectU64 value = .ok variant.id ∧
        result = .enum declared variant member := by
  rw [decodeExpr_enum declared, Outcome.bind_eq_ok]
  constructor
  · rintro ⟨variantId, number, decoded⟩
    unfold decodeVariant at decoded
    split at decoded
    · rename_i variant found
      obtain ⟨member, rfl⟩ :=
        (find?_id_eq_some (enum_ids_nodup declared)).mp found
      cases decoded
      exact ⟨variant, member, number, rfl⟩
    · cases decoded
  · rintro ⟨variant, member, number, rfl⟩
    refine ⟨variant.id, number, ?_⟩
    have found := (find?_id_eq_some (enum_ids_nodup declared)).mpr
      ⟨member, rfl⟩
    unfold decodeVariant
    split
    · rename_i other otherFound
      cases found.symm.trans otherFound
      rfl
    · rename_i notFound
      cases found.symm.trans notFound

/-- The decoder of a union takes the tuples of a variant id and a map, and
reads every field of the variant. -/
theorem decodeExpr_union_eq_ok
    {path : π} {name : String}
    {variants : List (UnionVariantDeclaration π)}
    (declared : schema.declaration path = .union name variants)
    {value : Value} {result : RustValue schema (.named path)} :
    decodeExpr schema value (.named path) = .ok result ↔
      ∃ (variant : UnionVariantDeclaration π) (member : variant ∈ variants)
        (kind : Value) (entries : List (UInt64 × Value))
        (values : RustFields schema variant.fields),
        value = .array [kind, .map entries] ∧
        expectU64 kind = .ok variant.id ∧
        result = .union declared variant member values ∧
        ∀ index, ReadsField schema entries (values.get index) := by
  have unique := (union_ids_nodup declared).1
  rw [decodeExpr_union declared, Outcome.bind_eq_ok]
  constructor
  · rintro ⟨⟨variantId, entries⟩, tuple, decoded⟩
    obtain ⟨kind, rfl, number⟩ := expectUnion_eq_ok.mp tuple
    simp only [decodeUnion] at decoded
    split at decoded
    · rename_i variant found
      obtain ⟨member, rfl⟩ := (find?_id_eq_some unique).mp found
      obtain ⟨values, read, same⟩ := Outcome.bind_eq_ok.mp decoded
      cases Outcome.pure_eq_ok.mp same
      exact ⟨variant, member, kind, entries, values, rfl, number, rfl,
        decodeFields_eq_ok.mp read⟩
    · cases decoded
  · rintro ⟨variant, member, kind, entries, values, rfl, number, rfl, read⟩
    refine ⟨(variant.id, entries),
      expectUnion_eq_ok.mpr ⟨kind, rfl, number⟩, ?_⟩
    have found := (find?_id_eq_some unique).mpr ⟨member, rfl⟩
    simp only [decodeUnion]
    split
    · rename_i other otherFound
      cases found.symm.trans otherFound
      exact Outcome.bind_eq_ok.mpr
        ⟨values, decodeFields_eq_ok.mpr read, rfl⟩
    · rename_i notFound
      cases found.symm.trans notFound

end Codegen
end WhatsGoingOn
