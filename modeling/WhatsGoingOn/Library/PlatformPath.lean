import Mathlib.Data.List.DropRight
import Mathlib.Data.List.Infix

/-!
# Paths of a platform

A path is a root and the names of the components below it, none of which has a
separator of the platform.  POSIX has one root and one separator; on Windows a
root is a drive or a share, and a slash separates as well as a backslash.
-/

namespace WhatsGoingOn
namespace PlatformPath

/-- The separator of POSIX paths. -/
def isSlash (character : Char) : Bool :=
  character == '/'

/-- Either of the separators. -/
def isAnySlash (character : Char) : Bool :=
  character == '\\' || character == '/'

/-- There is something of a name, and no character of it is a separator. -/
structure IsName (separates : Char → Bool) (name : List Char) : Prop where
  notEmpty : name ≠ []
  whole : ∀ character ∈ name, separates character = false

/-- The last character of a name separates nothing. -/
theorem IsName.getLast {separates : Char → Bool} {name : List Char}
    (isName : IsName separates name) :
    separates (name.getLast isName.notEmpty) = false :=
  isName.whole _ (List.getLast_mem isName.notEmpty)

/-- A root.  The separator after the letter of a drive is the one that its paths
are written with. -/
inductive Root where
  | posix
  | drive (letter : Char) (isLetter : letter.isAlpha = true) (slash : Bool)
  | share (server name : List Char) (serverName : IsName isAnySlash server)
      (shareName : IsName isAnySlash name)

namespace Root

/-- The separator that a path below the root is written with. -/
def separator : Root → Char
  | .posix => '/'
  | .drive _ _ slash => if slash then '/' else '\\'
  | .share _ _ _ _ => '\\'

/-- The characters that part the names of a path under the root. -/
def separates : Root → Char → Bool
  | .posix => isSlash
  | .drive _ _ _ => isAnySlash
  | .share _ _ _ _ => isAnySlash

/-- The root without the separator at its end. -/
def start : Root → List Char
  | .posix => []
  | .drive letter _ _ => [letter, ':']
  | .share server name _ _ => '\\' :: '\\' :: (server ++ '\\' :: name)

/-- The root as it is written, with its separator. -/
def text (root : Root) : List Char :=
  root.start ++ [root.separator]

/-- A name that may stand in a path under the root. -/
structure Component (root : Root) where
  name : List Char
  isName : IsName root.separates name

theorem separates_separator (root : Root) :
    root.separates root.separator = true := by
  cases root with
  | posix => rfl
  | drive letter isLetter slash => cases slash <;> rfl
  | share => rfl

theorem isAnySlash_separator (root : Root) :
    isAnySlash root.separator = true := by
  cases root with
  | posix => rfl
  | drive letter isLetter slash => cases slash <;> rfl
  | share => rfl

theorem separates_slash (root : Root) : root.separates '/' = true := by
  cases root <;> rfl

end Root

/-- A path below a root. -/
structure RootedPath where
  root : Root
  components : List root.Component

namespace RootedPath

/-- The names from the root down. -/
def names (path : RootedPath) : List (List Char) :=
  path.components.map Root.Component.name

/-- The path as it is written. -/
def text (path : RootedPath) : List Char :=
  path.root.text ++ [path.root.separator].intercalate path.names

/-- The path one name further down. -/
def child (path : RootedPath) (name : path.root.Component) : RootedPath :=
  ⟨path.root, path.components ++ [name]⟩

/-- The path without its last component. -/
def parent (path : RootedPath) : Option RootedPath :=
  if path.components.isEmpty then none
  else some ⟨path.root, path.components.dropLast⟩

/-- The paths from the root to the path itself. -/
def ancestors (path : RootedPath) : List RootedPath :=
  path.components.inits.map (RootedPath.mk path.root)

/-- What the path adds to its parent. -/
def label (path : RootedPath) : List Char :=
  path.names.getLast?.getD path.root.text

/-- A path without the separators at its end. -/
def trimmed (root : Root) (text : List Char) : List Char :=
  text.rdropWhile root.separates

@[simp] theorem names_mk (root : Root) (components : List root.Component) :
    (RootedPath.mk root components).names =
      components.map Root.Component.name :=
  rfl

@[simp] theorem names_child (path : RootedPath) (name : path.root.Component) :
    (path.child name).names = path.names ++ [name.name] := by
  simp [child, names]

theorem parent_child (path : RootedPath) (name : path.root.Component) :
    (path.child name).parent = some path := by
  simp [parent, child]

theorem ancestors_child (path : RootedPath) (name : path.root.Component) :
    (path.child name).ancestors = path.ancestors ++ [path.child name] := by
  simp [ancestors, child, List.inits_append]

theorem text_root (root : Root) : (RootedPath.mk root []).text = root.text := by
  simp [text]

/-- What is between a path and the name of a child. -/
def joint (path : RootedPath) : List Char :=
  if path.components.isEmpty then [] else [path.root.separator]

/-- The last name is written behind the others. -/
theorem intercalate_concat (names : List (List Char)) (last : List Char)
    (separator : Char) :
    [separator].intercalate (names ++ [last]) =
      [separator].intercalate names ++
        (if names.isEmpty then [] else [separator]) ++ last := by
  induction names with
  | nil => simp
  | cons first names inductionHypothesis =>
      rw [List.cons_append, List.intercalate_cons_of_ne_nil (by simp),
        inductionHypothesis]
      by_cases none : names = []
      · simp [none]
      · rw [List.intercalate_cons_of_ne_nil none]
        simp [none]

theorem text_child (path : RootedPath) (name : path.root.Component) :
    (path.child name).text = path.text ++ path.joint ++ name.name := by
  have empty : path.names.isEmpty = path.components.isEmpty := by
    simp [names]
  rw [text, names_child, intercalate_concat, empty]
  simp [text, joint, child]

/-- A path, or a path and its joint, ends in a separator exactly where a name
may follow. -/
theorem text_joint (path : RootedPath) :
    ∃ start : List Char, path.text ++ path.joint =
      start ++ [path.root.separator] ∧
        (path.components = [] → start = path.root.start) ∧
          (path.components ≠ [] → start = path.text) := by
  by_cases isRoot : path.components = []
  · refine ⟨path.root.start, ?_, fun _ => rfl, fun other => absurd isRoot other⟩
    simp [text, names, joint, isRoot, Root.text]
  · exact ⟨path.text, by simp [joint, isRoot], fun other => absurd other isRoot,
      fun _ => rfl⟩

/-- What is before the name of a child, and the separator between them. -/
theorem text_child_eq (path : RootedPath) (name : path.root.Component) :
    ∃ start : List Char,
      (path.child name).text = start ++ path.root.separator :: name.name ∧
        (path.components = [] → start = path.root.start) ∧
          (path.components ≠ [] → start = path.text) := by
  obtain ⟨start, joined, ofRoot, ofOther⟩ := path.text_joint
  refine ⟨start, ?_, ofRoot, ofOther⟩
  rw [text_child, joined]
  simp

theorem root_length_le (path : RootedPath) :
    path.root.text.length ≤ path.text.length := by
  rw [text, List.length_append]
  omega

theorem text_length_lt (path : RootedPath) (name : path.root.Component) :
    path.text.length < (path.child name).text.length := by
  have notEmpty := List.length_pos_iff.mpr name.isName.notEmpty
  rw [text_child, List.length_append, List.length_append]
  omega

/-- Every path is a root or a child. -/
theorem root_or_child (path : RootedPath) :
    (∃ root, path = ⟨root, []⟩) ∨
      ∃ (parent : RootedPath) (name : parent.root.Component),
        path = parent.child name := by
  obtain ⟨root, components⟩ := path
  rcases List.eq_nil_or_concat components with rfl | ⟨others, last, rfl⟩
  · exact Or.inl ⟨root, rfl⟩
  · exact Or.inr ⟨⟨root, others⟩, last, by simp [child]⟩

/-- Paths from the root down. -/
theorem rec_child {property : RootedPath → Prop}
    (ofRoot : ∀ root, property ⟨root, []⟩)
    (ofChild : ∀ (path : RootedPath) (name : path.root.Component),
      property path → property (path.child name))
    (path : RootedPath) : property path := by
  obtain ⟨root, components⟩ := path
  induction components using List.reverseRecOn with
  | nil => exact ofRoot root
  | append_singleton components last inductionHypothesis =>
      exact ofChild ⟨root, components⟩ last inductionHypothesis

end RootedPath

end PlatformPath
end WhatsGoingOn
