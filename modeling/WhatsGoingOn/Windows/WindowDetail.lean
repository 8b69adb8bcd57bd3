import WhatsGoingOn.Codegen.RustStructs
import WhatsGoingOn.Daemon.Tables

/-!
# Details of windows

The types of a window in the schema, the structs that are generated for them,
and their generated codec.
-/

namespace WhatsGoingOn

open Codegen
open Daemon (maxU53 isizeMax Panic Fault CodecError WindowInfo)

namespace Windows

/-! ## The schema -/

/-- The paths of the types of a window. -/
inductive WindowPath where
  | windowInfo
  | windowState
  | windowBounds
  | windowDetail
  deriving DecidableEq, Repr

/-- The fields of `WindowInfo` in the schema. -/
def windowInfoFields : List (FieldDeclaration WindowPath) :=
  [⟨1, "windowId", false, .primitive .string⟩,
    ⟨2, "title", true, .primitive .string⟩,
    ⟨3, "processId", true, .primitive .u53⟩,
    ⟨4, "focused", true, .primitive .bool⟩]

/-- The fields of `WindowState` in the schema. -/
def windowStateFields : List (FieldDeclaration WindowPath) :=
  [⟨1, "visible", true, .primitive .bool⟩,
    ⟨2, "minimized", true, .primitive .bool⟩,
    ⟨3, "maximized", true, .primitive .bool⟩]

/-- The fields of `WindowBounds` in the schema. -/
def windowBoundsFields : List (FieldDeclaration WindowPath) :=
  [⟨1, "x", false, .primitive .i53⟩, ⟨2, "y", false, .primitive .i53⟩,
    ⟨3, "width", false, .primitive .u53⟩,
    ⟨4, "height", false, .primitive .u53⟩]

/-- The fields of `WindowDetail` in the schema. -/
def windowDetailFields : List (FieldDeclaration WindowPath) :=
  [⟨1, "info", false, .named .windowInfo⟩,
    ⟨2, "state", false, .named .windowState⟩,
    ⟨3, "bounds", true, .named .windowBounds⟩]

/-- The four structs of the schema. -/
def windowDeclaration : WindowPath → Declaration WindowPath
  | .windowInfo => .struct "WindowInfo" windowInfoFields
  | .windowState => .struct "WindowState" windowStateFields
  | .windowBounds => .struct "WindowBounds" windowBoundsFields
  | .windowDetail => .struct "WindowDetail" windowDetailFields

/-- The part of the schema that a snapshot of the windows uses. -/
def windowSchema : Schema WindowPath where
  declaration := windowDeclaration
  rank path := if path = .windowDetail then 1 else 0
  uniqueIds path := by
    cases path
    all_goals
      change List.Nodup _
      decide
  safeIds path := by
    cases path
    all_goals
      refine List.forall_iff_forall_mem.mp ?_
      decide
  hasVariant path := by cases path <;> trivial
  sized path := by
    cases path
    all_goals
      intro type member
      revert type
      decide

/-! ## The structs -/

/-- How a window is shown. -/
structure WindowState where
  visible : Option Bool
  minimized : Option Bool
  maximized : Option Bool
  deriving DecidableEq, Repr

/-- Where a window is and how large. -/
structure WindowBounds where
  x : Int64
  y : Int64
  width : UInt64
  height : UInt64
  deriving DecidableEq, Repr

/-- What a snapshot tells of one window. -/
structure WindowDetail where
  info : WindowInfo
  state : WindowState
  bounds : Option WindowBounds
  deriving DecidableEq, Repr

end Windows

/-! ## The structs as values of the schema -/

namespace Daemon.WindowInfo

open Windows (windowInfoFields windowSchema)

/-- The struct as generated code holds it. -/
def toRust (info : WindowInfo) :
    RustValue windowSchema (.named .windowInfo) :=
  .struct rfl
    (.cons (.required rfl (.string info.windowId))
      (.cons (.ofOption rfl (info.title.map .string))
        (.cons (.ofOption rfl (info.processId.map .u53))
          (.cons (.ofOption rfl (info.focused.map .bool)) .nil))))

/-- The window that a generated struct holds. -/
def ofFields : RustFields windowSchema windowInfoFields → WindowInfo
  | .cons windowId (.cons title (.cons processId (.cons focused .nil))) =>
      ⟨(windowId.value rfl).toText, title.value?.map RustValue.toText,
        processId.value?.map RustValue.toU53,
        focused.value?.map RustValue.toBool⟩

theorem ofFields_toRust (info : WindowInfo) :
    ofFields (info.toRust.structFields rfl) = info := by
  obtain ⟨windowId, title, processId, focused⟩ := info
  cases title <;> cases processId <;> cases focused <;> rfl

/-- Numbers are in the ranges of the schema. -/
def Within (info : WindowInfo) : Prop :=
  ∀ processId ∈ info.processId, processId.toNat ≤ maxU53

/-- Texts fit into memory. -/
def Held (info : WindowInfo) : Prop :=
  (Bytes.utf8 info.windowId).length ≤ isizeMax ∧
    ∀ title ∈ info.title, (Bytes.utf8 title).length ≤ isizeMax

theorem Within.toRust {info : WindowInfo} (within : info.Within) :
    info.toRust.Within .documented := by
  refine ⟨trivial, ?_, ?_, ?_, trivial⟩
  all_goals
    apply RustField.within_ofOption
    intro value member
    obtain ⟨content, found, rfl⟩ := Option.mem_map.mp member
  · trivial
  · exact ⟨Int.natCast_nonneg _, Int.ofNat_le.mpr (within content found)⟩
  · trivial

theorem Held.toRust {info : WindowInfo} (held : info.Held) :
    info.toRust.Held := by
  refine ⟨held.1, ?_, ?_, ?_, trivial⟩
  all_goals
    apply RustField.held_ofOption
    intro value member
    obtain ⟨content, found, rfl⟩ := Option.mem_map.mp member
  · exact held.2 content found
  · trivial
  · trivial

end Daemon.WindowInfo

namespace Windows

namespace WindowState

/-- The struct as generated code holds it. -/
def toRust (state : WindowState) :
    RustValue windowSchema (.named .windowState) :=
  .struct rfl
    (.cons (.ofOption rfl (state.visible.map .bool))
      (.cons (.ofOption rfl (state.minimized.map .bool))
        (.cons (.ofOption rfl (state.maximized.map .bool)) .nil)))

/-- The state that a generated struct holds. -/
def ofFields : RustFields windowSchema windowStateFields → WindowState
  | .cons visible (.cons minimized (.cons maximized .nil)) =>
      ⟨visible.value?.map RustValue.toBool,
        minimized.value?.map RustValue.toBool,
        maximized.value?.map RustValue.toBool⟩

theorem ofFields_toRust (state : WindowState) :
    ofFields (state.toRust.structFields rfl) = state := by
  obtain ⟨visible, minimized, maximized⟩ := state
  cases visible <;> cases minimized <;> cases maximized <;> rfl

theorem within_toRust (state : WindowState) :
    state.toRust.Within .documented := by
  refine ⟨?_, ?_, ?_, trivial⟩
  all_goals
    apply RustField.within_ofOption
    intro value member
    obtain ⟨content, -, rfl⟩ := Option.mem_map.mp member
    trivial

theorem held_toRust (state : WindowState) : state.toRust.Held := by
  refine ⟨?_, ?_, ?_, trivial⟩
  all_goals
    apply RustField.held_ofOption
    intro value member
    obtain ⟨content, -, rfl⟩ := Option.mem_map.mp member
    trivial

end WindowState

namespace WindowBounds

/-- The struct as generated code holds it. -/
def toRust (bounds : WindowBounds) :
    RustValue windowSchema (.named .windowBounds) :=
  .struct rfl
    (.cons (.required rfl (.i53 bounds.x))
      (.cons (.required rfl (.i53 bounds.y))
        (.cons (.required rfl (.u53 bounds.width))
          (.cons (.required rfl (.u53 bounds.height)) .nil))))

/-- The bounds that a generated struct holds. -/
def ofFields : RustFields windowSchema windowBoundsFields → WindowBounds
  | .cons x (.cons y (.cons width (.cons height .nil))) =>
      ⟨(x.value rfl).toI53, (y.value rfl).toI53, (width.value rfl).toU53,
        (height.value rfl).toU53⟩

theorem ofFields_toRust (bounds : WindowBounds) :
    ofFields (bounds.toRust.structFields rfl) = bounds := rfl

/-- Numbers are in the ranges of the schema. -/
def Within (bounds : WindowBounds) : Prop :=
  (-(maxU53 : Int) ≤ bounds.x.toInt ∧ bounds.x.toInt ≤ maxU53) ∧
    (-(maxU53 : Int) ≤ bounds.y.toInt ∧ bounds.y.toInt ≤ maxU53) ∧
      bounds.width.toNat ≤ maxU53 ∧ bounds.height.toNat ≤ maxU53

theorem Within.toRust {bounds : WindowBounds} (within : bounds.Within) :
    bounds.toRust.Within .documented := by
  obtain ⟨x, y, width, height⟩ := within
  exact ⟨x, y, ⟨Int.natCast_nonneg _, Int.ofNat_le.mpr width⟩,
    ⟨Int.natCast_nonneg _, Int.ofNat_le.mpr height⟩, trivial⟩

end WindowBounds

namespace WindowDetail

/-- The struct as generated code holds it. -/
def toRust (detail : WindowDetail) :
    RustValue windowSchema (.named .windowDetail) :=
  .struct rfl
    (.cons (.required rfl detail.info.toRust)
      (.cons (.required rfl detail.state.toRust)
        (.cons (.ofOption rfl (detail.bounds.map WindowBounds.toRust)) .nil)))

/-- The detail that a generated struct holds. -/
def ofFields : RustFields windowSchema windowDetailFields → WindowDetail
  | .cons info (.cons state (.cons bounds .nil)) =>
      ⟨.ofFields ((info.value rfl).structFields rfl),
        .ofFields ((state.value rfl).structFields rfl),
        bounds.value?.map fun bounds =>
          .ofFields (bounds.structFields rfl)⟩

/-- A detail is read back from the struct. -/
theorem ofFields_toRust (detail : WindowDetail) :
    ofFields (detail.toRust.structFields rfl) = detail := by
  have same : (detail.bounds.map WindowBounds.toRust).map
      (fun bounds => WindowBounds.ofFields (bounds.structFields rfl)) =
        detail.bounds := by
    simp only [Option.map_map, Function.comp_def,
      WindowBounds.ofFields_toRust, Option.map_id']
  have info := detail.info.ofFields_toRust
  have state := detail.state.ofFields_toRust
  change WindowDetail.mk (.ofFields (detail.info.toRust.structFields rfl))
    (.ofFields (detail.state.toRust.structFields rfl))
      ((RustField.ofOption rfl _).value?.map _) = detail
  rw [RustField.value?_ofOption, same, info, state]

/-- Numbers are in the ranges of the schema. -/
def Within (detail : WindowDetail) : Prop :=
  detail.info.Within ∧ ∀ bounds ∈ detail.bounds, bounds.Within

/-- Texts fit into memory. -/
def Held (detail : WindowDetail) : Prop :=
  detail.info.Held

theorem Within.toRust {detail : WindowDetail} (within : detail.Within) :
    detail.toRust.Within .documented := by
  refine ⟨within.1.toRust, detail.state.within_toRust, ?_, trivial⟩
  apply RustField.within_ofOption
  intro value member
  obtain ⟨bounds, found, rfl⟩ := Option.mem_map.mp member
  exact (within.2 bounds found).toRust

theorem Held.toRust {detail : WindowDetail} (held : detail.Held) :
    detail.toRust.Held := by
  refine ⟨WindowInfo.Held.toRust held, detail.state.held_toRust, ?_, trivial⟩
  apply RustField.held_ofOption
  intro value member
  obtain ⟨bounds, -, rfl⟩ := Option.mem_map.mp member
  exact ⟨trivial, trivial, trivial, trivial, trivial⟩

/-! ### The generated codec -/

/-- The generated `encode`. -/
def encode (detail : WindowDetail) : Except Panic (List UInt8) :=
  match detail.toRust.tryEncode with
  | .ok bytes => .ok bytes
  | .error _ =>
      .error (.expect "generated WindowDetail model failed to encode")

/-- The generated `decode`. -/
def decode (bytes : List UInt8) : Except (Fault CodecError) WindowDetail :=
  (Codegen.decode windowSchema .windowDetail bytes).map fun value =>
    ofFields (value.structFields rfl)

/-- The bytes of a detail are read back. -/
theorem decode_encode {detail : WindowDetail} (within : detail.Within)
    (held : detail.Held) :
    ∃ bytes, detail.encode = .ok bytes ∧ decode bytes = .ok detail := by
  obtain ⟨bytes, encoded, decoded⟩ :=
    RustValue.decode_tryEncode within.toRust held.toRust
  refine ⟨bytes, ?_, ?_⟩
  · rw [encode, encoded]
  · rw [decode, decoded, Except.map, ofFields_toRust]

end WindowDetail

end Windows
end WhatsGoingOn
