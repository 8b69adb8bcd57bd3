import WhatsGoingOn.Codegen.Agreement
import WhatsGoingOn.Codegen.RustStructs
import WhatsGoingOn.Codegen.TypeScriptEncoder

/-!
# The generated codecs interoperate

The generated TypeScript encoder takes exactly the values for which there is a
Rust value in the documented ranges, and writes the bytes that the generated
Rust encoder writes.  So either decoder reads what either encoder wrote.
-/

namespace WhatsGoingOn
namespace Codegen

open Daemon (Value)
open Web (CborError CborValue CommonProfile Unmarked encodeEntries image
  isSafeInteger maxArrayLength maxSafeInteger sortEntries)

variable {π : Type} {schema : Schema π}

/-- The generators keep the fields of a declaration in an array. -/
structure Schema.Listed (schema : Schema π) : Prop where
  struct : ∀ {path : π} {name : String} {fields : List (FieldDeclaration π)},
    schema.declaration path = .struct name fields →
      fields.length ≤ maxArrayLength
  union : ∀ {path : π} {name : String}
    {variants : List (UnionVariantDeclaration π)},
    schema.declaration path = .union name variants →
      ∀ variant ∈ variants, variant.fields.length ≤ maxArrayLength

/-! ## The order in which entries were set -/

/-- Entries with distinct keys are sorted to the same list in whatever order
they were set. -/
theorem sortEntries_perm {α : Type} {left right : List (Int × α)}
    (perm : left.Perm right) (distinct : (left.map Prod.fst).Nodup) :
    sortEntries left = sortEntries right := by
  have sorted : ∀ entries : List (Int × α),
      (sortEntries entries).Pairwise fun first second =>
        decide (first.1 ≤ second.1) = true := fun entries =>
    List.pairwise_mergeSort
      (fun first second third below above => by
        rw [decide_eq_true_iff] at below above ⊢
        exact Int.le_trans below above)
      (fun first second => by
        simpa using Int.le_total first.1 second.1)
      entries
  have leftPerm : (sortEntries left).Perm left := List.mergeSort_perm _ _
  have rightPerm : (sortEntries right).Perm right := List.mergeSort_perm _ _
  refine List.Perm.eq_of_pairwise ?_ (sorted left) (sorted right)
    (leftPerm.trans (perm.trans rightPerm.symm))
  intro first second firstMember secondMember below above
  rw [decide_eq_true_iff] at below above
  have inLeft : first ∈ left := leftPerm.mem_iff.mp firstMember
  have alsoInLeft : second ∈ left :=
    perm.mem_iff.mpr (rightPerm.mem_iff.mp secondMember)
  exact List.inj_on_of_nodup_map distinct inLeft alsoInLeft
    (Int.le_antisymm below above)

/-- An entry of the daemon, with the bytes of its value. -/
def writtenEntry (entry : UInt64 × Value) :
    Int × Except CborError (List UInt8) :=
  ((entry.1.toNat : Int), .ok (Daemon.encodeValue entry.2))

theorem encodeEntries_eq_map (fields : List (Int × CborValue)) :
    encodeEntries fields =
      fields.map fun entry => (entry.1, Web.encode entry.2) := by
  induction fields with
  | nil => rfl
  | cons entry fields inductionHypothesis =>
      rw [encodeEntries, inductionHypothesis, List.map_cons]

/-- A JavaScript value and a value of the daemon are the same bytes. -/
structure WritesAs (value : CborValue) (tree : Value) : Prop where
  common : CommonProfile tree
  written : Web.encode value = .ok (Daemon.encodeValue tree)

/-- Entries of the daemon whose keys and values the client can have. -/
structure CommonEntries (entries : List (UInt64 × Value)) : Prop where
  ascending : SortedMap.Ascending entries
  safe : ∀ entry ∈ entries, isSafeInteger entry.1.toNat = true
  common : ∀ entry ∈ entries, CommonProfile entry.2

namespace CommonEntries

variable {entries : List (UInt64 × Value)}

theorem nil : CommonEntries [] :=
  ⟨List.Pairwise.nil, by simp, by simp⟩

theorem map (common : CommonEntries entries)
    (short : entries.length ≤ maxSafeInteger) : CommonProfile (.map entries) :=
  .map ⟨short, common.ascending, common.safe⟩ common.common

/-- A map stays in the common profile when a field is added. -/
theorem insertField {id : UInt64} {tree : Option Value}
    (common : CommonEntries entries) (safe : isSafeInteger id.toNat = true)
    (treeCommon : ∀ value ∈ tree, CommonProfile value) :
    CommonEntries (insertField id tree entries) := by
  cases tree with
  | none => exact common
  | some tree =>
      refine ⟨SortedMap.ascending_insert id tree common.ascending, ?_, ?_⟩
      · intro entry member
        rcases SortedMap.mem_insert member with rfl | old
        · exact safe
        · exact common.safe entry old
      · intro entry member
        rcases SortedMap.mem_insert member with rfl | old
        · exact treeCommon tree rfl
        · exact common.common entry old

theorem keys_nodup (common : CommonEntries entries) :
    ((entries.map writtenEntry).map Prod.fst).Nodup := by
  have keys := common.ascending.nodup
  have numbers : ((SortedMap.keys entries).map fun key =>
      (key.toNat : Int)).Nodup :=
    keys.map fun _ _ same => UInt64.toNat.inj (Int.ofNat.inj same)
  rw [SortedMap.keys, List.map_map] at numbers
  rw [List.map_map]
  exact numbers

/-- A JavaScript map with the entries of a map of the daemon, in any order, is
the same bytes. -/
theorem writesAs {fields : List (Int × CborValue)}
    (common : CommonEntries entries)
    (short : entries.length ≤ maxSafeInteger)
    (same : (encodeEntries fields).Perm (entries.map writtenEntry)) :
    WritesAs (.map fields) (.map entries) := by
  have safe := common.safe
  have keys : (entries.map fun entry =>
      (Web.toNumber entry.1.toNat,
        (Except.ok (Daemon.encodeValue entry.2) :
          Except CborError (List UInt8)))) =
      entries.map writtenEntry := by
    refine List.map_congr_left fun entry member => ?_
    rw [writtenEntry, Web.toNumber_of_safe (safe entry member)]
  have length : fields.length = entries.length := by
    have lengths := same.length_eq
    rwa [encodeEntries_eq_map, List.length_map, List.length_map] at lengths
  have distinct : ((encodeEntries fields).map Prod.fst).Nodup :=
    (same.map Prod.fst).nodup_iff.mpr common.keys_nodup
  have sorted := Web.sortEntries_image common.ascending safe fun value =>
    (Except.ok (Daemon.encodeValue value) : Except CborError (List UInt8))
  refine ⟨common.map short, ?_⟩
  rw [Web.encode, length, Web.encodeTypeValue_natCast 5 short,
    sortEntries_perm same distinct, ← keys, sorted,
    Web.writeEntries_image safe]
  rfl

end CommonEntries

/-! ## Numbers -/

/-- The u53 that the client writes are those of Rust in the documented range. -/
theorem u53_eq_ok {number : IntegerNumber} {value : CborValue} :
    TypeScript.u53 number = .ok value ↔
      ∃ content : UInt64, content.toNat ≤ Daemon.maxU53 ∧
        number = .integral content.toNat ∧
          value = .number (.integer content.toNat) := by
  cases number with
  | other bits => simp [TypeScript.u53]
  | integral integer =>
      rw [TypeScript.u53]
      constructor
      · intro encoded
        split at encoded
        · cases encoded
        · rename_i inRange
          cases encoded
          rw [not_or, Bool.not_eq_false, not_lt] at inRange
          obtain ⟨safe, nonnegative⟩ := inRange
          obtain ⟨content, rfl⟩ := Int.eq_ofNat_of_zero_le nonnegative
          have small : content ≤ Daemon.maxU53 :=
            Web.isSafeInteger_natCast.mp safe
          have word : content < UInt64.size :=
            Nat.lt_of_le_of_lt small (by decide)
          have same : (UInt64.ofNat content).toNat = content :=
            UInt64.toNat_ofNat_of_lt' word
          exact ⟨UInt64.ofNat content, by rwa [same], by rw [same],
            by rw [same]⟩
      · rintro ⟨content, small, same, rfl⟩
        cases same
        have safe : isSafeInteger content.toNat = true :=
          Web.isSafeInteger_natCast.mpr small
        rw [if_neg]
        simp [safe]

/-- The i53 that the client writes are those of Rust that are safe. -/
theorem i53_eq_ok {number : IntegerNumber} {value : CborValue} :
    TypeScript.i53 number = .ok value ↔
      ∃ content : Int64, isSafeInteger content.toInt = true ∧
        number = .integral content.toInt ∧
          value = .number (.integer content.toInt) := by
  cases number with
  | other bits => simp [TypeScript.i53]
  | integral integer =>
      rw [TypeScript.i53]
      constructor
      · intro encoded
        split at encoded
        · rename_i safe
          cases encoded
          have bounds := Web.isSafeInteger_eq_true.mp safe
          have same : (Int64.ofInt integer).toInt = integer := by
            unfold maxSafeInteger at bounds
            exact Int64.toInt_ofInt_of_le (by omega) (by omega)
          exact ⟨Int64.ofInt integer, by rwa [same], by rw [same],
            by rw [same]⟩
        · cases encoded
      · rintro ⟨content, safe, same, rfl⟩
        cases same
        rw [if_pos safe]

/-- The client writes the floats that are finite. -/
theorem f64_eq_ok {bits : UInt64} {value : CborValue} :
    TypeScript.f64 bits = .ok value ↔
      Web.isFinite bits = true ∧ value = .f64 bits := by
  unfold TypeScript.f64
  split
  · rename_i finite
    rw [Except.ok.injEq, eq_comm]
    exact (and_iff_right finite).symm
  · rename_i infinite
    constructor
    · intro encoded
      cases encoded
    · exact fun finite => absurd finite.1 infinite

theorem enumInteger_of_safe {variantId : UInt64}
    (safe : isSafeInteger variantId.toNat = true) :
    TypeScript.enumInteger variantId =
      .ok (.number (.integer variantId.toNat)) :=
  if_pos safe

/-! ## What the client can encode -/

mutual

/-- Whatever the client encodes is in the documented ranges. -/
theorem TypeScriptValue.exists_rust {type : TypeRef π} :
    (value : TypeScriptValue schema type) → {cbor : CborValue} →
      value.encodeExpr = .ok cbor →
        ∃ rust : RustValue schema type,
          rust.denote = value.denote ∧ rust.Within .documented
  | .u53 number, cbor, encoded => by
      obtain ⟨content, small, rfl, _⟩ := u53_eq_ok.mp encoded
      exact ⟨.u53 content, rfl, Int.natCast_nonneg _,
        Int.ofNat_le.mpr small⟩
  | .i53 number, cbor, encoded => by
      obtain ⟨content, safe, rfl, _⟩ := i53_eq_ok.mp encoded
      have bounds : -(maxSafeInteger : Int) ≤ content.toInt ∧
          content.toInt ≤ maxSafeInteger := of_decide_eq_true safe
      exact ⟨.i53 content, rfl, bounds⟩
  | .f64 bits, cbor, encoded => by
      obtain ⟨finite, _⟩ := f64_eq_ok.mp encoded
      exact ⟨.f64 bits, rfl, finite⟩
  | .string content _, _, _ => ⟨.string content, rfl, trivial⟩
  | .bool value, _, _ => ⟨.bool value, rfl, trivial⟩
  | .bytes payload _, _, _ => ⟨.bytes payload, rfl, trivial⟩
  | .void, _, _ => ⟨.void, rfl, trivial⟩
  | .array _ items, cbor, encoded => by
      obtain ⟨cbors, itemsEncoded, _⟩ := Outcome.bind_eq_ok.mp encoded
      obtain ⟨rust, same, within⟩ := items.exists_rust itemsEncoded
      exact ⟨.array rust, congrArg Data.array same, within⟩
  | .struct declared values, cbor, encoded => by
      obtain ⟨fields, fieldsEncoded, _⟩ := Outcome.bind_eq_ok.mp encoded
      obtain ⟨rust, same, within⟩ := values.exists_rust fieldsEncoded
      exact ⟨.struct declared rust, congrArg Data.record same, within⟩
  | .enum declared variant member, _, _ =>
      ⟨.enum declared variant member, rfl, trivial⟩
  | .union declared variant member values, cbor, encoded => by
      obtain ⟨fields, fieldsEncoded, _⟩ := Outcome.bind_eq_ok.mp encoded
      obtain ⟨rust, same, within⟩ := values.exists_rust fieldsEncoded
      exact ⟨.union declared variant member rust,
        congrArg (Data.union variant.id) same, within⟩

/-- Items that the client can write are items of Rust. -/
theorem TypeScriptItems.exists_rust {item : TypeRef π} {length : Nat} :
    (items : TypeScriptItems schema item length) →
      {cbors : List CborValue} → items.encodeArray = .ok cbors →
        ∃ rust : RustItems schema item,
          rust.denote = items.denote ∧ rust.Within .documented
  | .nil, _, _ => ⟨.nil, rfl, trivial⟩
  | .cons head tail, cbors, encoded => by
      obtain ⟨first, headEncoded, others⟩ := Outcome.bind_eq_ok.mp encoded
      obtain ⟨rest, tailEncoded, _⟩ := Outcome.bind_eq_ok.mp others
      obtain ⟨rustHead, headSame, headWithin⟩ := head.exists_rust headEncoded
      obtain ⟨rustTail, tailSame, tailWithin⟩ := tail.exists_rust tailEncoded
      exact ⟨.cons rustHead rustTail, congrArg₂ List.cons headSame tailSame,
        headWithin, tailWithin⟩

/-- Fields that the client can write are fields of Rust. -/
theorem TypeScriptFields.exists_rust {fields : List (FieldDeclaration π)} :
    (values : TypeScriptFields schema fields) → {label : String} →
      {entries : List (Int × CborValue)} →
        values.encodeFields label = .ok entries →
          ∃ rust : RustFields schema fields,
            rust.denote = values.denote ∧ rust.Within .documented
  | .nil, _, _, _ => ⟨.nil, rfl, trivial⟩
  | .cons head tail, label, entries, encoded => by
      obtain ⟨first, headEncoded, others⟩ := Outcome.bind_eq_ok.mp encoded
      obtain ⟨rest, tailEncoded, _⟩ := Outcome.bind_eq_ok.mp others
      obtain ⟨rustHead, headSame, headWithin⟩ := head.exists_rust headEncoded
      obtain ⟨rustTail, tailSame, tailWithin⟩ := tail.exists_rust tailEncoded
      exact ⟨.cons rustHead rustTail, congrArg₂ List.cons headSame tailSame,
        headWithin, tailWithin⟩

/-- A field that the client can write is a field of Rust. -/
theorem TypeScriptField.exists_rust {field : FieldDeclaration π} :
    (part : TypeScriptField schema field) → {label : String} →
      {value : Option CborValue} → part.encodeField label = .ok value →
        ∃ rust : RustField schema field,
          rust.denote = part.denote ∧ rust.Within .documented
  | .required isRequired content, label, value, encoded => by
      obtain ⟨cbor, contentEncoded, _⟩ := Outcome.bind_eq_ok.mp encoded
      obtain ⟨rust, same, within⟩ := content.exists_rust contentEncoded
      exact ⟨.required isRequired rust, same, within⟩
  | .missing isRequired notVoid, label, value, encoded => by
      cases encoded
  | .absent isOptional, _, _, _ => ⟨.absent isOptional, rfl, trivial⟩
  | .present isOptional notVoid content, label, value, encoded => by
      obtain ⟨cbor, contentEncoded, _⟩ := Outcome.bind_eq_ok.mp encoded
      obtain ⟨rust, same, within⟩ := content.exists_rust contentEncoded
      exact ⟨.present isOptional rust, congrArg Data.present same, within⟩

end

/-! ## Both encoders write the same bytes -/

mutual

/-- No text begins with a byte order mark. -/
def Data.Unmarked : Data → Prop
  | .text content => content.toList.head? ≠ some '\uFEFF'
  | .array items => Data.AllUnmarked items
  | .record fields => Data.AllUnmarked fields
  | .union _ fields => Data.AllUnmarked fields
  | .present value => value.Unmarked
  | .integer _ | .float _ | .bool _ | .bytes _ | .unit | .enum _ | .absent =>
      True

/-- No value of the list carries a mark. -/
def Data.AllUnmarked : List Data → Prop
  | [] => True
  | value :: values => value.Unmarked ∧ Data.AllUnmarked values

end

/-- What both encoders make of a value of the client and of a Rust value. -/
def EncodesAs {type : TypeRef π} (value : TypeScriptValue schema type)
    (rust : RustValue schema type) : Prop :=
  ∃ cbor tree, value.encodeExpr = .ok cbor ∧ rust.encodeExpr = .ok tree ∧
    WritesAs cbor tree ∧ (value.denote.Unmarked → tree.Every Unmarked)

/-- Insert the entries of fields into a map, in either language. -/
structure InsertsAs {fields : List (FieldDeclaration π)}
    (values : TypeScriptFields schema fields)
    (rust : RustFields schema fields) (label : String)
    (map : List (UInt64 × Value)) (set : List (Int × CborValue))
    (entries : List (UInt64 × Value)) : Prop where
  client : values.encodeFields label = .ok set
  daemon : rust.encodeFields map = .ok entries
  common : CommonEntries entries
  length : entries.length ≤ map.length + fields.length
  same : (encodeEntries set ++ map.map writtenEntry).Perm
    (entries.map writtenEntry)
  unmarked : Data.AllUnmarked values.denote →
    (∀ entry ∈ map, entry.2.Every Unmarked) →
      ∀ entry ∈ entries, entry.2.Every Unmarked

theorem WritesAs.scalar (tree : Value) (inProfile : Web.InProfile tree)
    (childless : tree.children = []) : WritesAs (image tree) tree :=
  have common : CommonProfile tree := .leaf inProfile childless
  ⟨common, Web.encodeCbor_image common⟩

theorem WritesAs.u64 {content : UInt64}
    (safe : isSafeInteger content.toNat = true) :
    WritesAs (.number (.integer content.toNat)) (.u64 content) := by
  have same : image (.u64 content) =
      .number (.integer (Web.toNumber content.toNat)) := rfl
  rw [Web.toNumber_of_safe safe] at same
  exact same ▸ .scalar _ safe rfl

theorem WritesAs.i64 {content : Int64}
    (safe : isSafeInteger content.toInt = true) :
    WritesAs (.number (.integer content.toInt)) (.i64 content) := by
  have same : image (.i64 content) =
      .number (.integer (Web.toNumber content.toInt)) := rfl
  rw [Web.toNumber_of_safe safe] at same
  exact same ▸ .scalar _ safe rfl

theorem WritesAs.array {values : List CborValue} {trees : List Value}
    (short : trees.length ≤ maxArrayLength)
    (length : values.length = trees.length)
    (common : ∀ tree ∈ trees, CommonProfile tree)
    (written : Web.encodeItems values = .ok (Daemon.encodeItems trees)) :
    WritesAs (.array values) (.array trees) := by
  have small : trees.length ≤ maxSafeInteger :=
    Nat.le_trans short (by decide)
  refine ⟨.array short common, ?_⟩
  rw [Web.encode, length, Web.encodeTypeValue_natCast 4 small, written]
  rfl

/-- A value without parts. -/
theorem EncodesAs.leaf {type : TypeRef π} {value : TypeScriptValue schema type}
    {rust : RustValue schema type} {tree : Value} {cbor : CborValue}
    (client : value.encodeExpr = .ok cbor)
    (daemon : rust.encodeExpr = .ok tree) (writes : WritesAs cbor tree)
    (childless : tree.children = [])
    (unmarked : value.denote.Unmarked → Unmarked tree) :
    EncodesAs value rust :=
  ⟨cbor, tree, client, daemon, writes, fun isUnmarked =>
    .leaf (unmarked isUnmarked) childless⟩

theorem IntegerNumber.eq_integral {number : IntegerNumber} {value : Int}
    (same : Data.integer value = number.denote) :
    number = .integral value := by
  cases number with
  | integral other =>
      injection same with same
      rw [same]
  | other bits => cases same

/-- Only a missing property denotes an absent one. -/
theorem RustValue.denote_ne_absent {type : TypeRef π}
    (value : RustValue schema type) : value.denote ≠ .absent := by
  cases value <;> simp [RustValue.denote]

/-- Insert one more field. -/
theorem InsertsAs.cons {field : FieldDeclaration π}
    {fields : List (FieldDeclaration π)}
    {head : TypeScriptField schema field}
    {tail : TypeScriptFields schema fields} {rustHead : RustField schema field}
    {rustTail : RustFields schema fields} {label : String}
    {map : List (UInt64 × Value)} {set : List (Int × CborValue)}
    {entries : List (UInt64 × Value)} {value : Option CborValue}
    {tree : Option Value}
    (client : head.encodeField label = .ok value)
    (daemon : rustHead.encodeField = .ok tree)
    (writes : Option.Rel WritesAs value tree)
    (unmarked : head.denote.Unmarked → ∀ part ∈ tree, part.Every Unmarked)
    (fresh : field.id ∉ SortedMap.keys map)
    (rest : InsertsAs tail rustTail label (insertField field.id tree map) set
      entries) :
    InsertsAs (.cons head tail) (.cons rustHead rustTail) label map
      (TypeScript.setField field.id value set) entries where
  client := by
    rw [TypeScriptFields.encodeFields, client, rest.client]
    rfl
  daemon := by
    rw [encodeFields_cons, daemon]
    exact rest.daemon
  common := rest.common
  length := by
    have few : (insertField field.id tree map).length ≤ map.length + 1 := by
      cases tree with
      | none => exact Nat.le_succ _
      | some tree => exact SortedMap.length_insert_le field.id tree map
    have all := rest.length
    rw [List.length_cons]
    omega
  same := by
    refine List.Perm.trans ?_ rest.same
    cases writes with
    | none => exact List.Perm.refl _
    | @some cbor tree writes =>
        have inserted := (SortedMap.perm_insert tree fresh).map writtenEntry
        have first : (((field.id.toNat : Int), Web.encode cbor) :
            Int × Except CborError (List UInt8)) =
              writtenEntry (field.id, tree) := by
          rw [writes.written]
          rfl
        rw [TypeScript.setField, encodeEntries, first]
        exact (List.perm_middle.symm).trans (inserted.symm.append_left _)
  unmarked := by
    intro allUnmarked mapUnmarked
    refine rest.unmarked allUnmarked.2 fun entry member => ?_
    cases tree with
    | none => exact mapUnmarked entry member
    | some tree =>
        rcases SortedMap.mem_insert member with rfl | old
        · exact unmarked allUnmarked.1 tree rfl
        · exact mapUnmarked entry old

mutual

/-- Where a value of the client and a Rust value denote the same, both are
encoded as the same bytes. -/
theorem TypeScriptValue.encodesAs (listed : schema.Listed)
    {type : TypeRef π} :
    (value : TypeScriptValue schema type) → (rust : RustValue schema type) →
      rust.denote = value.denote → rust.Within .documented →
        EncodesAs value rust
  | .u53 number, .u53 content, same, within => by
      have small : content.toNat ≤ Daemon.maxU53 := Int.ofNat_le.mp within.2
      have safe : isSafeInteger content.toNat = true :=
        Web.isSafeInteger_natCast.mpr small
      exact .leaf
        (u53_eq_ok.mpr ⟨content, small, IntegerNumber.eq_integral same, rfl⟩)
        (if_neg (not_lt.mpr small)) (.u64 safe) rfl fun _ => trivial
  | .i53 number, .i53 content, same, within => by
      have safe : isSafeInteger content.toInt = true :=
        decide_eq_true within
      exact .leaf
        (i53_eq_ok.mpr ⟨content, safe, IntegerNumber.eq_integral same, rfl⟩)
        (if_pos within) (.i64 safe) rfl fun _ => trivial
  | .f64 bits, .f64 content, same, within => by
      cases same
      have finite : Web.isFinite bits = true := within
      exact .leaf (f64_eq_ok.mpr ⟨finite, rfl⟩) (if_pos within)
        (.scalar (.f64 bits) finite rfl) rfl fun _ => trivial
  | .string content short, .string _, same, _ => by
      cases same
      exact .leaf rfl rfl (.scalar (.text content) short rfl) rfl id
  | .bool value, .bool _, same, _ => by
      cases same
      exact .leaf rfl rfl (.scalar (.bool value) trivial rfl) rfl
        fun _ => trivial
  | .bytes payload short, .bytes _, same, _ => by
      cases same
      exact .leaf rfl rfl (.scalar (.bytes payload) short rfl) rfl
        fun _ => trivial
  | .void, .void, _, _ =>
      .leaf rfl rfl (.scalar .null trivial rfl) rfl fun _ => trivial
  | .array short items, .array rust, same, within => by
      injection same with same
      obtain ⟨cbors, trees, client, daemon, length, treesLength, common,
        written, unmarked⟩ := items.encodesAs listed rust same within
      refine ⟨.array cbors, .array trees, ?_, ?_, ?_, ?_⟩
      · exact Outcome.bind_eq_ok.mpr ⟨cbors, client, rfl⟩
      · exact Outcome.bind_eq_ok.mpr ⟨trees, daemon, rfl⟩
      · exact .array (treesLength ▸ short) (length.trans treesLength.symm)
          common written
      · exact fun isUnmarked => .array trivial (unmarked isUnmarked)
  | @TypeScriptValue.struct _ _ _ name _ declared values,
      .struct otherDeclared rust, same, within => by
      cases declared.symm.trans otherDeclared
      injection same with same
      obtain ⟨set, entries, inserts⟩ := values.encodesAs listed rust same
        within (struct_ids_nodup declared)
        (TypeScript.safe_of_struct declared) name [] .nil (by simp)
      have short : entries.length ≤ maxSafeInteger := by
        refine inserts.length.trans ?_
        rw [List.length_nil, Nat.zero_add]
        exact (listed.struct declared).trans (by decide)
      have perm := inserts.same
      rw [List.map_nil, List.append_nil] at perm
      have writes := inserts.common.writesAs short perm
      refine ⟨.map set, .map entries, ?_, ?_, writes, ?_⟩
      · exact Outcome.bind_eq_ok.mpr ⟨set, inserts.client, rfl⟩
      · exact Outcome.bind_eq_ok.mpr ⟨entries, inserts.daemon, rfl⟩
      · exact fun isUnmarked =>
          .map trivial (inserts.unmarked isUnmarked (by simp))
  | .enum declared variant member, .enum otherDeclared other otherMember,
      same, _ => by
      injection same with same
      have safe := TypeScript.safe_of_enum declared member
      refine .leaf (enumInteger_of_safe safe) ?_ (.u64 safe) rfl
        fun _ => trivial
      rw [RustValue.encodeExpr, same]
  | @TypeScriptValue.union _ _ _ name _ declared variant member values,
      .union otherDeclared other otherMember rust, same, within => by
      cases declared.symm.trans otherDeclared
      injection same with sameId same
      cases List.inj_on_of_nodup_map (union_ids_nodup declared).1 otherMember
        member sameId
      have safe := TypeScript.safe_of_union declared member
      obtain ⟨set, entries, inserts⟩ := values.encodesAs listed rust same
        within ((union_ids_nodup declared).2 variant member) safe.2
        (name ++ "." ++ variant.name) [] .nil (by simp)
      have short : entries.length ≤ maxSafeInteger := by
        refine inserts.length.trans ?_
        rw [List.length_nil, Nat.zero_add]
        exact (listed.union declared variant member).trans (by decide)
      have perm := inserts.same
      rw [List.map_nil, List.append_nil] at perm
      have body := inserts.common.writesAs short perm
      have kind : WritesAs _ _ := .u64 safe.1
      refine ⟨.array [.number (.integer variant.id.toNat), .map set],
        .array [.u64 variant.id, .map entries], ?_, ?_, ?_, ?_⟩
      · exact Outcome.bind_eq_ok.mpr ⟨set, inserts.client, rfl⟩
      · exact Outcome.bind_eq_ok.mpr ⟨entries, inserts.daemon, rfl⟩
      · refine .array (show 2 ≤ maxArrayLength by decide) rfl ?_ ?_
        · simpa using ⟨kind.common, body.common⟩
        · rw [Web.encodeItems, Web.encodeItems, kind.written, body.written]
          rfl
      · intro isUnmarked
        have bodyUnmarked : (Value.map entries).Every Unmarked :=
          .map trivial (inserts.unmarked isUnmarked (by simp))
        have kindUnmarked : (Value.u64 variant.id).Every Unmarked :=
          .leaf trivial rfl
        exact .array trivial (by simpa using ⟨kindUnmarked, bodyUnmarked⟩)

/-- The items of an array are written to the same bytes by both. -/
theorem TypeScriptItems.encodesAs (listed : schema.Listed)
    {item : TypeRef π} {length : Nat} :
    (items : TypeScriptItems schema item length) →
      (rust : RustItems schema item) → rust.denote = items.denote →
        rust.Within .documented →
          ∃ cbors trees, items.encodeArray = .ok cbors ∧
            rust.encodeArray = .ok trees ∧ cbors.length = length ∧
              trees.length = length ∧ (∀ tree ∈ trees, CommonProfile tree) ∧
                Web.encodeItems cbors = .ok (Daemon.encodeItems trees) ∧
                  (Data.AllUnmarked items.denote →
                    ∀ tree ∈ trees, tree.Every Unmarked)
  | .nil, .nil, _, _ =>
      ⟨[], [], rfl, rfl, rfl, rfl, by simp, rfl, by simp⟩
  | .cons head tail, .cons rustHead rustTail, same, within => by
      injection same with headSame tailSame
      obtain ⟨cbor, tree, headClient, headDaemon, writes, headUnmarked⟩ :=
        head.encodesAs listed rustHead headSame within.1
      obtain ⟨cbors, trees, tailClient, tailDaemon, cborsLength, treesLength,
        common, written, tailUnmarked⟩ :=
        tail.encodesAs listed rustTail tailSame within.2
      refine ⟨cbor :: cbors, tree :: trees, ?_, ?_,
        congrArg Nat.succ cborsLength, congrArg Nat.succ treesLength, ?_, ?_,
        ?_⟩
      · rw [TypeScriptItems.encodeArray, headClient, tailClient]
        rfl
      · rw [RustItems.encodeArray, headDaemon, tailDaemon]
        rfl
      · exact List.forall_mem_cons.mpr ⟨writes.common, common⟩
      · rw [Web.encodeItems, writes.written, written]
        rfl
      · exact fun isUnmarked => List.forall_mem_cons.mpr
          ⟨headUnmarked isUnmarked.1, tailUnmarked isUnmarked.2⟩

/-- The fields of a struct are set to the same entries by both, in an order of
their own. -/
theorem TypeScriptFields.encodesAs (listed : schema.Listed)
    {fields : List (FieldDeclaration π)} :
    (values : TypeScriptFields schema fields) →
      (rust : RustFields schema fields) → rust.denote = values.denote →
        rust.Within .documented → (fields.map (·.id)).Nodup →
          (∀ field ∈ fields, isSafeInteger field.id.toNat = true) →
            (label : String) → (map : List (UInt64 × Value)) →
              CommonEntries map →
                (∀ field ∈ fields, field.id ∉ SortedMap.keys map) →
                  ∃ set entries,
                    InsertsAs values rust label map set entries
  | .nil, .nil, _, _, _, _, label, map, common, _ =>
      ⟨[], map, rfl, rfl, common, Nat.le_refl _, List.Perm.refl _,
        fun _ mapUnmarked => mapUnmarked⟩
  | @TypeScriptFields.cons _ _ field fields head tail,
      .cons rustHead rustTail, same, within, unique, safe, label, map, common,
      fresh => by
      injection same with headSame tailSame
      obtain ⟨notLater, unique⟩ := List.nodup_cons.mp unique
      rw [List.forall_mem_cons] at safe fresh
      obtain ⟨value, tree, client, daemon, writes, treeCommon, unmarked⟩ :=
        head.encodesAs listed rustHead headSame within.1 label
      have laterFresh : ∀ later ∈ fields,
          later.id ∉ SortedMap.keys (insertField field.id tree map) := by
        intro later member
        have different : later.id ≠ field.id := fun sameId =>
          notLater (List.mem_map.mpr ⟨later, member, sameId⟩)
        cases tree with
        | none => exact fresh.2 later member
        | some tree =>
            rw [insertField, SortedMap.mem_keys_insert, not_or]
            exact ⟨different, fresh.2 later member⟩
      obtain ⟨set, entries, rest⟩ := tail.encodesAs listed rustTail tailSame
        within.2 unique safe.2 label _ (common.insertField safe.1 treeCommon)
        laterFresh
      exact ⟨_, entries, .cons client daemon writes unmarked fresh.1 rest⟩

/-- A field is written to the same bytes by both, or left out by both. -/
theorem TypeScriptField.encodesAs (listed : schema.Listed)
    {field : FieldDeclaration π} :
    (part : TypeScriptField schema field) → (rust : RustField schema field) →
      rust.denote = part.denote → rust.Within .documented →
        (label : String) →
          ∃ value tree, part.encodeField label = .ok value ∧
            rust.encodeField = .ok tree ∧ Option.Rel WritesAs value tree ∧
              (∀ content ∈ tree, CommonProfile content) ∧
                (part.denote.Unmarked →
                  ∀ content ∈ tree, content.Every Unmarked)
  | .required isRequired content, .required _ rust, same, within, label => by
      obtain ⟨cbor, tree, client, daemon, writes, unmarked⟩ :=
        content.encodesAs listed rust same within
      refine ⟨some cbor, some tree, ?_, ?_, .some writes, ?_, ?_⟩
      · exact Outcome.bind_eq_ok.mpr ⟨cbor, client, rfl⟩
      · exact Outcome.bind_eq_ok.mpr ⟨tree, daemon, rfl⟩
      · simpa using writes.common
      · rintro isUnmarked _ ⟨⟩
        exact unmarked isUnmarked
  | .required isRequired _, .absent isOptional, _, _, _
  | .required isRequired _, .present isOptional _, _, _, _
  | .missing isRequired _, .absent isOptional, _, _, _
  | .missing isRequired _, .present isOptional _, _, _, _
  | .absent isOptional, .required isRequired _, _, _, _
  | .present isOptional _ _, .required isRequired _, _, _, _ => by
      rw [isRequired] at isOptional
      cases isOptional
  | .missing _ _, .required _ rust, same, _, _ =>
      absurd same rust.denote_ne_absent
  | .absent _, .absent _, _, _, _ =>
      ⟨none, none, rfl, rfl, .none, by simp, by simp⟩
  | .present _ notVoid content, .present _ rust, same, within, label => by
      injection same with same
      obtain ⟨cbor, tree, client, daemon, writes, unmarked⟩ :=
        content.encodesAs listed rust same within
      refine ⟨some cbor, some tree, ?_, ?_, .some writes, ?_, ?_⟩
      · exact Outcome.bind_eq_ok.mpr ⟨cbor, client, rfl⟩
      · exact Outcome.bind_eq_ok.mpr ⟨tree, daemon, rfl⟩
      · simpa using writes.common
      · rintro isUnmarked _ ⟨⟩
        exact unmarked isUnmarked

end

/-! ## Interoperation -/

/-- The codecs of the client and of the daemon interoperate on a value of the
client. -/
structure Interoperates {path : π}
    (value : TypeScriptValue schema (.named path)) : Prop where
  /-- The client encodes it exactly where there is a Rust value that denotes
  the same and is in range, and as the same bytes. -/
  encoded : ∀ bytes, value.tryEncode = .ok bytes ↔
    ∃ rust : RustValue schema (.named path), rust.denote = value.denote ∧
      rust.Within .documented ∧ rust.tryEncode = .ok bytes
  /-- The daemon reads that Rust value from the bytes of the client. -/
  daemonReads : ∀ rust : RustValue schema (.named path),
    rust.denote = value.denote → rust.Within .documented →
      ∃ bytes, value.tryEncode = .ok bytes ∧
        decode schema path bytes = .ok rust
  /-- The client reads what it denotes from the bytes of the daemon, unless a
  text begins with a byte order mark. -/
  clientReads : schema.VoidFree → value.denote.Unmarked →
    ∀ rust : RustValue schema (.named path),
      rust.denote = value.denote → rust.Within .documented →
        ∃ bytes cbor, rust.tryEncode = .ok bytes ∧
          Web.decodeCbor bytes = .ok cbor ∧
            TypeScript.decodeExpr schema cbor (.named path) =
              .ok value.denote

theorem tryEncode_of_encodesAs {path : π}
    {value : TypeScriptValue schema (.named path)}
    {rust : RustValue schema (.named path)} {cbor : CborValue} {tree : Value}
    (client : value.encodeExpr = .ok cbor)
    (daemon : rust.encodeExpr = .ok tree) (writes : WritesAs cbor tree) :
    value.tryEncode = .ok tree.encode ∧ rust.tryEncode = .ok tree.encode := by
  constructor
  · refine Outcome.bind_eq_ok.mpr ⟨cbor, client, ?_⟩
    have written : Web.encodeCbor cbor = .ok tree.encode := writes.written
    rw [written]
  · exact Outcome.bind_eq_ok.mpr ⟨tree, daemon, rfl⟩

/-- The generated codecs interoperate on every value of the client. -/
theorem generated_codecs_interoperate (listed : schema.Listed) {path : π}
    (value : TypeScriptValue schema (.named path)) : Interoperates value where
  encoded := by
    intro bytes
    constructor
    · intro encoded
      obtain ⟨cbor, client, _⟩ := Outcome.bind_eq_ok.mp encoded
      obtain ⟨rust, same, within⟩ := value.exists_rust client
      obtain ⟨_, tree, client, daemon, writes, _⟩ :=
        value.encodesAs listed rust same within
      obtain ⟨clientBytes, daemonBytes⟩ :=
        tryEncode_of_encodesAs client daemon writes
      cases encoded.symm.trans clientBytes
      exact ⟨rust, same, within, daemonBytes⟩
    · rintro ⟨rust, same, within, encoded⟩
      obtain ⟨_, tree, client, daemon, writes, _⟩ :=
        value.encodesAs listed rust same within
      obtain ⟨clientBytes, daemonBytes⟩ :=
        tryEncode_of_encodesAs client daemon writes
      cases daemonBytes.symm.trans encoded
      exact clientBytes
  daemonReads := by
    intro rust same within
    obtain ⟨_, tree, client, daemon, writes, _⟩ :=
      value.encodesAs listed rust same within
    obtain ⟨_, isTree, _, decoded⟩ := rust.readBack within
    cases daemon.symm.trans isTree
    refine ⟨tree.encode,
      (tryEncode_of_encodesAs client daemon writes).1, ?_⟩
    exact decode_of_decode writes.common.valid.decode_encode
      ((decode_normalize tree _).trans decoded)
  clientReads := by
    intro voidFree isUnmarked rust same within
    obtain ⟨_, tree, client, daemon, writes, unmarked⟩ :=
      value.encodesAs listed rust same within
    obtain ⟨_, isTree, _, decoded⟩ := rust.readBack within
    cases daemon.symm.trans isTree
    have fits : Fits .typeScript schema (.named path) tree :=
      ((rust.within_iff tree decoded).mp within).mono
        Ranges.documented_narrower_typeScript
    refine ⟨tree.encode, image tree,
      (tryEncode_of_encodesAs client daemon writes).2, ?_, ?_⟩
    · rw [Web.decodeCbor_encode writes.common,
        Web.image_stripMarks.mpr (unmarked isUnmarked)]
    · rw [← same]
      exact rust.typeScript_decodes voidFree tree decoded fits

theorem listed_folderSchema : folderSchema.Listed where
  struct := by
    intro path name fields declared
    injection declared with _ same
    rw [← same]
    decide
  union := by
    intro path name variants declared
    cases declared

theorem declaration_folderSchema :
    folderSchema.declaration () = .struct "Folder" folderFields := rfl

theorem folder_name_required :
    (⟨1, "name", false, .primitive .string⟩ :
      FieldDeclaration Unit).optional = false := rfl

theorem folder_size_optional :
    (⟨2, "size", true, .primitive .u53⟩ :
      FieldDeclaration Unit).optional = true := rfl

theorem folder_children_required :
    (⟨3, "children", false, .array (.named ())⟩ :
      FieldDeclaration Unit).optional = false := rfl

/-- An empty folder of the client, without a size. -/
def clientFolder (name : String)
    (short : (Bytes.utf8 name).length ≤ maxSafeInteger) :
    TypeScriptValue folderSchema (.named ()) :=
  .struct declaration_folderSchema
    (.cons (.required folder_name_required (.string name short))
      (.cons (.absent folder_size_optional)
        (.cons (.required folder_children_required
          (.array (Nat.zero_le _) .nil)) .nil)))

/-- The daemon reads a folder from the bytes of the client. -/
theorem generated_codecs_interoperate_folder :
    ∃ bytes,
      (clientFolder "src" (by decide)).tryEncode = .ok bytes ∧
        decode folderSchema () bytes = .ok (folder "src" .nil) := by
  refine (generated_codecs_interoperate listed_folderSchema
    (clientFolder "src" (by decide))).daemonReads (folder "src" .nil) rfl ?_
  exact ⟨trivial, trivial, trivial, trivial⟩

end Codegen
end WhatsGoingOn
