import WhatsGoingOn.Daemon.Tables
import WhatsGoingOn.Library.PlatformPath

/-!
# Paths in the explorer

The explorer shows the directories above a path, goes up from one, and makes
the paths of new entries.  It is given paths of any platform as texts, and tells
the root of a path and its separator from the text.
-/

namespace WhatsGoingOn
namespace Web

open Daemon PlatformPath

/-! ## Parts of a path -/

/-- `path.replace(/[\\/]+$/g, "")`. -/
def trimSlashes (path : List Char) : List Char :=
  path.rdropWhile isAnySlash

/-- The match of `/^[A-Za-z]:[\\/]/`. -/
def driveRoot : List Char → Option (List Char)
  | letter :: colon :: slash :: _ =>
      if letter.isAlpha && colon == ':' && isAnySlash slash then
        some [letter, colon, slash]
      else none
  | _ => none

/-- Any character but a backslash. -/
def notBackslash (character : Char) : Bool :=
  character != '\\'

/-- The match of `/^\\\\[^\\]+\\[^\\]+\\?/`, with a backslash at its end. -/
def uncRoot : List Char → Option (List Char)
  | '\\' :: '\\' :: rest =>
      let server := rest.takeWhile notBackslash
      match rest.dropWhile notBackslash with
      | [] => none
      | _ :: afterServer =>
          let share := afterServer.takeWhile notBackslash
          if server.isEmpty || share.isEmpty then none
          else some ('\\' :: '\\' :: (server ++ '\\' :: (share ++ ['\\'])))
  | _ => none

/-- The root of a path, with the separator that its crumbs are joined with. -/
structure PathRoot where
  root : List Char
  separator : Char
  deriving DecidableEq, Repr

/-- A drive, a share or the root of POSIX paths. -/
def pathRoot (path : List Char) : PathRoot :=
  match driveRoot path with
  | some root =>
      { root, separator := if root.getLast? = some '/' then '/' else '\\' }
  | none =>
      match uncRoot path with
      | some root => { root, separator := '\\' }
      | none =>
          if path.head? = some '/' then { root := ['/'], separator := '/' }
          else
            { root := path
              separator := if '/' ∈ path then '/' else '\\' }

/-- A part of the path as the explorer shows it, and where it leads. -/
structure Crumb where
  label : List Char
  path : Option (List Char)
  deriving DecidableEq, Repr

/-- The loop of `pathCrumbs`. -/
def crumbsFrom (separator : Char) (cursor : List Char) :
    List (List Char) → List Crumb
  | [] => []
  | part :: parts =>
      let cursor :=
        if cursor.getLast? = some separator then cursor ++ part
        else cursor ++ separator :: part
      ⟨part, some cursor⟩ :: crumbsFrom separator cursor parts

/-- `rest.split(/[\\/]+/).filter(Boolean)`. -/
def pathParts (rest : List Char) : List (List Char) :=
  (rest.splitOnP isAnySlash).filter (!·.isEmpty)

/-- One crumb for the roots, one for the root of the path and one for each
name. -/
def pathCrumbs (path : Option (List Char)) : List Crumb :=
  match path with
  | none | some [] => [⟨"Root".toList, none⟩]
  | some path =>
      let { root, separator } := pathRoot path
      let crumbs : List Crumb := [⟨"Root".toList, none⟩, ⟨root, some root⟩]
      let rest := trimSlashes (path.drop root.length)
      if rest.isEmpty then crumbs
      else crumbs ++ crumbsFrom separator root (pathParts rest)

/-- `String.prototype.lastIndexOf` of a character, -1 if there is none. -/
def lastIndexOf (character : Char) (text : List Char) : Int :=
  (text.length : Int) - 1 - text.reverse.findIdx (· == character)

/-- The path up to its last separator, if it is not a root. -/
def parentPath (path : List Char) : Option (List Char) :=
  let root := (pathRoot path).root
  let trimmed := trimSlashes path
  if trimmed = trimSlashes root then none
  else
    let index := max (lastIndexOf '\\' trimmed) (lastIndexOf '/' trimmed)
    if index < 0 then none
    else if index < root.length then some root
    else
      let parent := trimmed.take index.toNat
      if parent.isEmpty then none else some parent

/-- The text ends in the character. -/
def endsWith (character : Char) (text : List Char) : Bool :=
  text.getLast? == some character

/-- The separator is a backslash where the directory has one. -/
def childPath (directory name : List Char) : List Char :=
  let separator := if '\\' ∈ directory then '\\' else '/'
  if endsWith '/' directory || endsWith '\\' directory then directory ++ name
  else directory ++ separator :: name

example : parentPath "C:\\a\\b".toList = some "C:\\a".toList := by
  decide

example : pathCrumbs (some "\\\\host\\share\\a".toList) =
    [⟨"Root".toList, none⟩,
      ⟨"\\\\host\\share\\".toList, some "\\\\host\\share\\".toList⟩,
      ⟨"a".toList, some "\\\\host\\share\\a".toList⟩] := by
  decide

/-! ## Going up -/

/-- Where the explorer is. -/
inductive ExplorerLocation where
  | root
  | directory (path : List Char)
  | file (directoryPath : Option (List Char)) (entry : FsEntry)
  | trash
  deriving DecidableEq, Repr

/-- The state of the navigation, and the path that is selected. -/
structure ExplorerNavigation where
  history : List ExplorerLocation
  location : ExplorerLocation
  selectedPath : Option (List Char)
  deriving DecidableEq, Repr

/-- The path that stands for the trash in an address. -/
def trashLocationPath : List Char :=
  "wgo://trash".toList

/-- No path stands for the list of roots. -/
def locationFromPath : Option (List Char) → ExplorerLocation
  | none | some [] => .root
  | some path => .directory path

/-- The location is left behind in the history. -/
def navigateTo (navigation : ExplorerNavigation)
    (location : ExplorerLocation) : ExplorerNavigation where
  history := navigation.history ++ [navigation.location]
  location := location
  selectedPath := none

/-- The path of the trash leads to the trash. -/
def navigate (navigation : ExplorerNavigation) (path : Option (List Char)) :
    ExplorerNavigation :=
  if path = some trashLocationPath then navigateTo navigation .trash
  else navigateTo navigation (locationFromPath path)

/-- Up from a directory is its parent, and up from a file its directory. -/
def goUp (navigation : ExplorerNavigation) : ExplorerNavigation :=
  match navigation.location with
  | .trash | .root => navigation
  | .file directoryPath _ => navigate navigation directoryPath
  | .directory path => navigate navigation (parentPath path)

end Web
end WhatsGoingOn
