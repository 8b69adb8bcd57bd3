import WhatsGoingOn.Web.ExplorerPaths

/-!
# Which paths the explorer understands

The explorer cuts a path at slashes and backslashes, whichever of them its root
tells to be the separator.  A name that has a backslash is cut, too.
-/

namespace WhatsGoingOn
namespace Web

open Daemon PlatformPath

/-! ## Slashes at the end -/

theorem trimSlashes_append (before name : List Char)
    (notEmpty : name ≠ [])
    (ends : isAnySlash (name.getLast notEmpty) = false) :
    trimSlashes (before ++ name) = before ++ name := by
  rw [trimSlashes, List.rdropWhile_eq_self_iff]
  intro _
  rw [List.getLast_append_of_ne_nil _ notEmpty, ends]
  exact Bool.false_ne_true

theorem trimSlashes_slash (before : List Char) (slash : Char)
    (isSlash : isAnySlash slash = true) :
    trimSlashes (before ++ [slash]) = trimSlashes before :=
  List.rdropWhile_concat_pos _ _ _ isSlash

/-- The text of a root has its slashes at its end only. -/
theorem trimSlashes_start (root : Root) :
    trimSlashes root.start = root.start := by
  cases root with
  | posix => rfl
  | drive letter isLetter slash =>
      exact trimSlashes_append [letter] [':'] (by simp) rfl
  | share server name serverName shareName =>
      have start : (Root.share server name serverName shareName).start =
          ('\\' :: '\\' :: (server ++ ['\\'])) ++ name := by
        simp [Root.start]
      rw [start]
      exact trimSlashes_append _ name shareName.notEmpty
        shareName.getLast

theorem trimSlashes_root (root : Root) :
    trimSlashes root.text = root.start := by
  rw [Root.text, trimSlashes_slash _ _ root.isAnySlash_separator,
    trimSlashes_start]

/-! ## The root of a path -/

theorem driveRoot_posix (rest : List Char) :
    driveRoot ('/' :: rest) = none := by
  rcases rest with _ | ⟨second, _ | ⟨third, rest⟩⟩ <;> rfl

/-- The root of a share is its server and its name. -/
theorem uncRoot_share (server name rest : List Char)
    (serverName : IsName isAnySlash server)
    (shareName : IsName isAnySlash name) :
    uncRoot ('\\' :: '\\' :: (server ++ '\\' :: (name ++ '\\' :: rest))) =
      some ('\\' :: '\\' :: (server ++ '\\' :: (name ++ ['\\']))) := by
  have plain {name : List Char} (isName : IsName isAnySlash name) :
      ∀ character ∈ name, notBackslash character = true := by
    intro character member
    have whole := isName.whole character member
    rw [isAnySlash, Bool.or_eq_false_iff] at whole
    simp [notBackslash, bne, whole.1]
  have stops (rest : List Char) : ('\\' :: rest).takeWhile notBackslash = [] :=
    rfl
  have stays (rest : List Char) :
      ('\\' :: rest).dropWhile notBackslash = '\\' :: rest := rfl
  simp only [uncRoot, List.takeWhile_append_of_pos (plain serverName),
    List.dropWhile_append_of_pos (plain serverName),
    List.takeWhile_append_of_pos (plain shareName), stops, stays,
    List.append_nil]
  simp [serverName.notEmpty, shareName.notEmpty]

/-- The root of a path is told from its text, whatever is below it. -/
theorem pathRoot_append (root : Root) (rest : List Char) :
    pathRoot (root.text ++ rest) = ⟨root.text, root.separator⟩ := by
  cases root with
  | posix =>
      change pathRoot ('/' :: rest) = _
      rw [pathRoot, driveRoot_posix]
      rfl
  | drive letter isLetter slash =>
      have isSlash : isAnySlash (if slash then '/' else '\\') = true := by
        cases slash <;> rfl
      have found : driveRoot (letter :: ':' ::
          (if slash then '/' else '\\') :: rest) =
          some [letter, ':', if slash then '/' else '\\'] := by
        simp [driveRoot, isLetter, isSlash]
      change pathRoot (letter :: ':' :: (if slash then '/' else '\\') :: rest) =
        _
      rw [pathRoot, found]
      cases slash <;> rfl
  | share server name serverName shareName =>
      have noDrive (rest : List Char) :
          driveRoot ('\\' :: '\\' :: rest) = none := by
        cases rest <;> rfl
      have text : (Root.share server name serverName shareName).text ++ rest =
          '\\' :: '\\' :: (server ++ '\\' :: (name ++ '\\' :: rest)) := by
        simp [Root.text, Root.start, Root.separator]
      rw [text, pathRoot, noDrive, uncRoot_share server name rest serverName
        shareName]
      simp [Root.text, Root.start, Root.separator]

theorem pathRoot_text (path : RootedPath) :
    pathRoot path.text = ⟨path.root.text, path.root.separator⟩ :=
  pathRoot_append path.root _

/-! ## Where a path is cut -/

/-- The last place of a character is in what comes last. -/
theorem lastIndexOf_append (character last : Char) (before after : List Char)
    (notAfter : character ∉ after) :
    lastIndexOf character (before ++ last :: after) =
      if last = character then (before.length : Int)
      else lastIndexOf character before := by
  have notFound : after.reverse.findIdx (· == character) = after.length := by
    rw [List.findIdx_eq_length_of_false, List.length_reverse]
    intro other member
    rw [beq_eq_false_iff_ne]
    rintro rfl
    exact notAfter (List.mem_reverse.mp member)
  have reverse : (before ++ last :: after).reverse =
      after.reverse ++ last :: before.reverse := by
    simp
  rw [lastIndexOf, reverse, List.findIdx_append, notFound, List.length_reverse,
    if_neg (Nat.lt_irrefl _), List.findIdx_cons, lastIndexOf]
  by_cases same : last = character
  · rw [if_pos same, beq_iff_eq.mpr same, cond_true, List.length_append,
      List.length_cons]
    omega
  · rw [if_neg same, beq_false_of_ne same, cond_false, List.length_append,
      List.length_cons]
    omega

theorem lastIndexOf_lt (character : Char) (text : List Char) :
    lastIndexOf character text < text.length := by
  rw [lastIndexOf]
  omega

/-- The last slash of either kind. -/
theorem max_lastIndexOf (before after : List Char) (slash : Char)
    (isSlash : isAnySlash slash = true)
    (noSlash : ∀ character ∈ after, isAnySlash character = false) :
    max (lastIndexOf '\\' (before ++ slash :: after))
        (lastIndexOf '/' (before ++ slash :: after)) = before.length := by
  have notAfter (character : Char) (isSlash : isAnySlash character = true) :
      character ∉ after := by
    intro member
    rw [noSlash character member] at isSlash
    cases isSlash
  rw [lastIndexOf_append _ _ _ _ (notAfter '\\' rfl),
    lastIndexOf_append _ _ _ _ (notAfter '/' rfl)]
  have backslashBefore := lastIndexOf_lt '\\' before
  have slashBefore := lastIndexOf_lt '/' before
  rw [isAnySlash, Bool.or_eq_true, beq_iff_eq, beq_iff_eq] at isSlash
  rcases isSlash with rfl | rfl
  · rw [if_pos rfl, if_neg (by decide)]
    omega
  · rw [if_neg (by decide), if_pos rfl]
    omega

/-- A path of a root is cut before its last slash, if that is not a part of the
root. -/
theorem parentPath_cut (root : Root) (rest before after : List Char)
    (slash : Char) (isSlash : isAnySlash slash = true)
    (noSlash : ∀ character ∈ after, isAnySlash character = false)
    (trimmed : trimSlashes (root.text ++ rest) = before ++ slash :: after)
    (notRoot : before ++ slash :: after ≠ root.start) :
    parentPath (root.text ++ rest) =
      if before.length < root.text.length then some root.text
      else some before := by
  have cut := max_lastIndexOf before after slash isSlash noSlash
  simp only [parentPath, pathRoot_append, trimmed, trimSlashes_root, notRoot,
    if_false, cut]
  rw [if_neg (by omega)]
  by_cases inRoot : before.length < root.text.length
  · rw [if_pos inRoot, if_pos (by omega)]
  · have notEmpty : before ≠ [] := by
      rintro rfl
      simp [Root.text] at inRoot
    rw [if_neg inRoot, if_neg (by omega)]
    simp [notEmpty]

/-- What is above a path only depends on what is left of it without the slashes
at its end. -/
theorem parentPath_congr (root : Root) (first second : List Char)
    (same : trimSlashes (root.text ++ first) =
      trimSlashes (root.text ++ second)) :
    parentPath (root.text ++ first) = parentPath (root.text ++ second) := by
  simp only [parentPath, pathRoot_append, same]

theorem parentPath_root (root : Root) : parentPath root.text = none := by
  have rootItself := pathRoot_append root []
  rw [List.append_nil] at rootItself
  simp [parentPath, rootItself]

/-! ## Names without a backslash -/

/-- No name of the path has a backslash in it. -/
def noBackslash (path : RootedPath) : Bool :=
  path.names.all fun name => name.all (· != '\\')

theorem noBackslash_iff (path : RootedPath) :
    noBackslash path = true ↔ ∀ name ∈ path.names, '\\' ∉ name := by
  have plain (name : List Char) :
      (name.all (· != '\\')) = true ↔ '\\' ∉ name := by
    rw [List.all_eq_true]
    constructor
    · exact fun all member => absurd rfl (bne_iff_ne.mp (all _ member))
    · exact fun notMember character member =>
        bne_iff_ne.mpr fun same => notMember (same ▸ member)
  simp only [noBackslash, List.all_eq_true, plain]

/-- A name of any platform has no slash. -/
theorem isAnySlash_of_mem_name {root : Root} (component : root.Component)
    (character : Char) (member : character ∈ component.name) :
    isAnySlash character = (character == '\\') := by
  have notSlash : character ≠ '/' := by
    rintro rfl
    have whole := component.isName.whole _ member
    rw [root.separates_slash] at whole
    cases whole
  simp [isAnySlash, notSlash]

theorem isName_of_noBackslash {root : Root} (component : root.Component)
    (plain : '\\' ∉ component.name) : IsName isAnySlash component.name where
  notEmpty := component.isName.notEmpty
  whole := by
    intro character member
    rw [isAnySlash_of_mem_name component character member, beq_eq_false_iff_ne]
    exact fun same => plain (same ▸ member)

theorem noBackslash_child (path : RootedPath) (name : path.root.Component) :
    noBackslash (path.child name) = true ↔
      noBackslash path = true ∧ '\\' ∉ name.name := by
  rw [noBackslash_iff, noBackslash_iff, RootedPath.names_child]
  simp only [List.mem_append, List.mem_singleton]
  constructor
  · exact fun all =>
      ⟨fun other member => all other (Or.inl member), all _ (Or.inr rfl)⟩
  · rintro ⟨others, last⟩ other (member | rfl)
    · exact others other member
    · exact last

/-- Where the slash before a name is cut, the path above it is left. -/
theorem cut_start (path : RootedPath) (start : List Char)
    (ofRoot : path.components = [] → start = path.root.start)
    (ofOther : path.components ≠ [] → start = path.text) :
    (if start.length < path.root.text.length then some path.root.text
      else some start) = some path.text := by
  by_cases isRoot : path.components = []
  · have text : path.text = path.root.text := by
      rw [RootedPath.text, RootedPath.names, isRoot]
      simp
    rw [ofRoot isRoot, if_pos (by simp [Root.text]), text]
  · have long := path.root_length_le
    rw [ofOther isRoot, if_neg (by omega)]

theorem start_length_le (path : RootedPath) (start : List Char)
    (ofRoot : path.components = [] → start = path.root.start)
    (ofOther : path.components ≠ [] → start = path.text) :
    path.root.start.length ≤ start.length := by
  by_cases isRoot : path.components = []
  · rw [ofRoot isRoot]
  · have long := path.root_length_le
    rw [ofOther isRoot]
    rw [Root.text, List.length_append] at long
    omega

/-- A name without a backslash is taken off. -/
theorem parentPath_child (path : RootedPath) (name : path.root.Component)
    (plain : '\\' ∉ name.name) :
    parentPath (path.child name).text = some path.text := by
  have isName := isName_of_noBackslash name plain
  obtain ⟨start, text, ofRoot, ofOther⟩ := path.text_child_eq name
  have trimmed : trimSlashes (path.child name).text =
      start ++ path.root.separator :: name.name := by
    rw [text]
    have whole := trimSlashes_append (start ++ [path.root.separator]) name.name
      isName.notEmpty isName.getLast
    simpa using whole
  have long := start_length_le path start ofRoot ofOther
  have notRoot : start ++ path.root.separator :: name.name ≠
      path.root.start := by
    intro same
    have lengths := congrArg List.length same
    rw [List.length_append, List.length_cons] at lengths
    omega
  have cut := parentPath_cut path.root _ start name.name path.root.separator
    path.root.isAnySlash_separator isName.whole trimmed notRoot
  rw [cut_start path start ofRoot ofOther] at cut
  exact cut

/-! ## Crumbs -/

/-- The crumb of a path: what it adds to the path above it. -/
def crumbOf (path : RootedPath) : Crumb :=
  ⟨path.label, some path.text⟩

theorem getLast?_child (path : RootedPath) (name : path.root.Component) :
    (path.child name).text.getLast? =
      some (name.name.getLast name.isName.notEmpty) := by
  rw [RootedPath.text_child, List.getLast?_append,
    List.getLast?_eq_some_getLast name.isName.notEmpty]
  rfl

/-- A path ends in a separator exactly when it is a root. -/
theorem getLast?_text (path : RootedPath) :
    path.text.getLast? = some path.root.separator ↔ path.components = [] := by
  rcases path.root_or_child with ⟨root, rfl⟩ | ⟨parent, name, rfl⟩
  · simp [RootedPath.text_root, Root.text]
  · have whole := name.isName.whole _ (List.getLast_mem name.isName.notEmpty)
    rw [getLast?_child]
    constructor
    · intro same
      rw [Option.some_inj] at same
      rw [same] at whole
      rw [show (parent.child name).root = parent.root from rfl,
        parent.root.separates_separator] at whole
      cases whole
    · intro none
      simp [RootedPath.child] at none

/-- The cursor of the loop goes from a path to its child. -/
theorem next_cursor (path : RootedPath) (name : path.root.Component) :
    (if path.text.getLast? = some path.root.separator then
        path.text ++ name.name
      else path.text ++ path.root.separator :: name.name) =
      (path.child name).text := by
  rw [RootedPath.text_child, RootedPath.joint]
  by_cases isRoot : path.components = []
  · rw [if_pos ((getLast?_text path).mpr isRoot), isRoot]
    simp
  · rw [if_neg (mt (getLast?_text path).mp isRoot)]
    simp [isRoot]

/-- The crumbs below a path. -/
theorem crumbsFrom_text (root : Root)
    (components below : List root.Component) :
    crumbsFrom root.separator (RootedPath.mk root components).text
        (below.map Root.Component.name) =
      (below.inits.tail.map fun names =>
        crumbOf ⟨root, components ++ names⟩) := by
  induction below generalizing components with
  | nil => rfl
  | cons name below inductionHypothesis =>
      have next := next_cursor ⟨root, components⟩ name
      have label :
          (RootedPath.mk root (components ++ [name])).label = name.name := by
        simp [RootedPath.label]
      have inits : (name :: below).inits.tail =
          [name] :: below.inits.tail.map (name :: ·) := by
        rw [List.inits_cons, List.tail_cons]
        cases below <;> simp
      rw [List.map_cons, crumbsFrom, next, inits, List.map_cons, List.map_map]
      congr 1
      · rw [crumbOf, label]
        rfl
      · have later := inductionHypothesis (components ++ [name])
        rw [show (RootedPath.mk root components).child name =
          ⟨root, components ++ [name]⟩ from rfl, later]
        simp [Function.comp_def]

/-- Names that were joined are split again. -/
theorem splitOnP_intercalate (separator : Char)
    (isSlash : isAnySlash separator = true) (names : List (List Char))
    (areNames : ∀ name ∈ names, IsName isAnySlash name) (some : names ≠ []) :
    ([separator].intercalate names).splitOnP isAnySlash = names := by
  induction names with
  | nil => exact absurd rfl some
  | cons name names inductionHypothesis =>
      obtain ⟨isName, othersAreNames⟩ := List.forall_mem_cons.mp areNames
      by_cases last : names = []
      · rw [last, List.intercalate_singleton]
        exact List.splitOnP_eq_singleton isName.whole
      · rw [List.intercalate_cons_of_ne_nil last, List.append_assoc,
          List.singleton_append,
          List.splitOnP_append_cons_of_forall_mem isName.whole separator
            isSlash, inductionHypothesis othersAreNames last]

/-- Names without a slash are the parts of what they are joined to. -/
theorem pathParts_intercalate (separator : Char)
    (isSlash : isAnySlash separator = true) (names : List (List Char))
    (areNames : ∀ name ∈ names, IsName isAnySlash name) :
    pathParts (trimSlashes ([separator].intercalate names)) = names := by
  rcases List.eq_nil_or_concat names with rfl | ⟨others, last, rfl⟩
  · rfl
  · have isName := areNames last (by simp)
    have whole : trimSlashes ([separator].intercalate (others ++ [last])) =
        [separator].intercalate (others ++ [last]) := by
      rw [RootedPath.intercalate_concat]
      exact trimSlashes_append _ last isName.notEmpty isName.getLast
    rw [List.concat_eq_append] at areNames ⊢
    rw [whole, pathParts, splitOnP_intercalate separator isSlash _ areNames
      (by simp), List.filter_eq_self]
    intro name member
    simp [(areNames name member).notEmpty]

/-- The crumbs of a path, with the parts that it is cut into. -/
theorem pathCrumbs_text (path : RootedPath) :
    pathCrumbs (some path.text) =
      [⟨"Root".toList, none⟩, ⟨path.root.text, some path.root.text⟩] ++
        crumbsFrom path.root.separator path.root.text
          (pathParts (trimSlashes
            ([path.root.separator].intercalate path.names))) := by
  have notEmpty : path.text ≠ [] := by
    simp [RootedPath.text, Root.text]
  have rest : path.text.drop path.root.text.length =
      [path.root.separator].intercalate path.names := by
    rw [RootedPath.text, List.drop_left]
  obtain ⟨first, others, isText⟩ := List.exists_cons_of_ne_nil notEmpty
  have unfolds : pathCrumbs (some path.text) =
      if (trimSlashes (path.text.drop (pathRoot path.text).root.length)).isEmpty
      then [⟨"Root".toList, none⟩,
        ⟨(pathRoot path.text).root, some (pathRoot path.text).root⟩]
      else [⟨"Root".toList, none⟩,
        ⟨(pathRoot path.text).root, some (pathRoot path.text).root⟩] ++
          crumbsFrom (pathRoot path.text).separator (pathRoot path.text).root
            (pathParts (trimSlashes
              (path.text.drop (pathRoot path.text).root.length))) := by
    rw [isText]
    rfl
  rw [unfolds, pathRoot_text]
  dsimp only
  rw [rest]
  by_cases empty : trimSlashes
      ([path.root.separator].intercalate path.names) = []
  · rw [empty]
    rfl
  · simp [empty]

theorem ancestors_eq (path : RootedPath) :
    path.ancestors.map crumbOf =
      crumbOf ⟨path.root, []⟩ :: path.components.inits.tail.map fun names =>
        crumbOf ⟨path.root, names⟩ := by
  have inits : path.components.inits =
      [] :: path.components.inits.tail := by
    cases path.components <;> simp
  rw [RootedPath.ancestors, inits, List.map_cons, List.map_cons, List.tail_cons,
    List.map_map]
  rfl

theorem crumbOf_root (root : Root) :
    crumbOf ⟨root, []⟩ = ⟨root.text, some root.text⟩ := by
  simp [crumbOf, RootedPath.label, RootedPath.text_root]

/-- The crumbs of a path are its ancestors. -/
theorem pathCrumbs_of_noBackslash (path : RootedPath)
    (plain : noBackslash path = true) :
    pathCrumbs (some path.text) =
      ⟨"Root".toList, none⟩ :: path.ancestors.map crumbOf := by
  have areNames : ∀ name ∈ path.names, IsName isAnySlash name := by
    intro name member
    have notIn := (noBackslash_iff path).mp plain name member
    obtain ⟨component, _, rfl⟩ := List.mem_map.mp member
    exact isName_of_noBackslash component notIn
  have below := crumbsFrom_text path.root [] path.components
  rw [RootedPath.text_root] at below
  rw [pathCrumbs_text, pathParts_intercalate _ path.root.isAnySlash_separator _
    areNames, ancestors_eq, crumbOf_root]
  simpa [RootedPath.names] using below

theorem crumbsFrom_labels (separator : Char) (cursor : List Char)
    (parts : List (List Char)) :
    (crumbsFrom separator cursor parts).map Crumb.label = parts := by
  induction parts generalizing cursor with
  | nil => rfl
  | cons part parts inductionHypothesis =>
      rw [crumbsFrom, List.map_cons, inductionHypothesis]

/-- The parts of a text have no slash in them. -/
theorem splitOnP_whole (text : List Char) :
    ∀ part ∈ text.splitOnP isAnySlash, ∀ character ∈ part,
      isAnySlash character = false := by
  induction text with
  | nil => simp
  | cons first text inductionHypothesis =>
      intro part member
      rw [List.splitOnP_cons_eq_if_modifyHead] at member
      by_cases isSlash : isAnySlash first = true
      · rw [if_pos isSlash] at member
        rcases List.mem_cons.mp member with rfl | later
        · simp
        · exact inductionHypothesis part later
      · rw [if_neg isSlash] at member
        obtain ⟨head, others, split⟩ :=
          List.exists_cons_of_ne_nil (List.splitOnP_ne_nil isAnySlash text)
        rw [split] at member inductionHypothesis
        rw [List.modifyHead_cons] at member
        rcases List.mem_cons.mp member with rfl | later
        · exact List.forall_mem_cons.mpr ⟨Bool.not_eq_true _ ▸ isSlash,
            inductionHypothesis head List.mem_cons_self⟩
        · exact inductionHypothesis part (List.mem_cons_of_mem _ later)

/-- Where the crumbs are the ancestors, no name has been cut. -/
theorem noBackslash_of_pathCrumbs (path : RootedPath)
    (crumbs : pathCrumbs (some path.text) =
      ⟨"Root".toList, none⟩ :: path.ancestors.map crumbOf) :
    noBackslash path = true := by
  rw [pathCrumbs_text, ancestors_eq, crumbOf_root] at crumbs
  have below := crumbsFrom_text path.root [] path.components
  rw [RootedPath.text_root] at below
  have same : crumbsFrom path.root.separator path.root.text
      (pathParts (trimSlashes
        ([path.root.separator].intercalate path.names))) =
      crumbsFrom path.root.separator path.root.text path.names := by
    rw [RootedPath.names, below]
    simpa [RootedPath.names] using crumbs
  have labels := congrArg (List.map Crumb.label) same
  rw [crumbsFrom_labels, crumbsFrom_labels] at labels
  rw [noBackslash_iff]
  intro name member isIn
  rw [← labels, pathParts, List.mem_filter] at member
  have whole := splitOnP_whole _ name member.1 _ isIn
  cases whole

/-! ## Going up -/

/-- No path is the one that stands for the trash. -/
theorem text_ne_trash (path : RootedPath) : path.text ≠ trashLocationPath := by
  obtain ⟨root, components⟩ := path
  intro same
  rw [RootedPath.text] at same
  cases root with
  | posix =>
      have first := congrArg List.head? same
      cases first
  | drive letter isLetter slash =>
      have second := congrArg (fun text : List Char => text.tail.head?) same
      cases second
  | share server name serverName shareName =>
      have first := congrArg List.head? same
      cases first

theorem locationFromPath_text (path : RootedPath) :
    locationFromPath (some path.text) = .directory path.text := by
  have notEmpty : path.text ≠ [] := by
    simp [RootedPath.text, Root.text]
  obtain ⟨first, others, isText⟩ := List.exists_cons_of_ne_nil notEmpty
  rw [isText]
  rfl

theorem goUp_root (root : Root) (history : List ExplorerLocation)
    (selectedPath : Option (List Char)) :
    goUp ⟨history, .directory (RootedPath.mk root []).text, selectedPath⟩ =
      ⟨history ++ [.directory (RootedPath.mk root []).text], .root, none⟩ := by
  simp only [goUp, RootedPath.text_root, parentPath_root]
  rfl

theorem goUp_child (path : RootedPath) (name : path.root.Component)
    (plain : '\\' ∉ name.name) (history : List ExplorerLocation)
    (selectedPath : Option (List Char)) :
    goUp ⟨history, .directory (path.child name).text, selectedPath⟩ =
      ⟨history ++ [.directory (path.child name).text], .directory path.text,
        none⟩ := by
  have notTrash : some path.text ≠ some trashLocationPath := fun same =>
    text_ne_trash path (Option.some_inj.mp same)
  simp only [goUp, parentPath_child path name plain, navigate, notTrash,
    if_false, navigateTo, locationFromPath_text]

/-- Going up from a path leads through all paths above it, and out of them. -/
theorem goUp_iterate (path : RootedPath) (plain : noBackslash path = true)
    (history : List ExplorerLocation) (selectedPath : Option (List Char)) :
    goUp^[path.components.length + 1]
        ⟨history, .directory path.text, selectedPath⟩ =
      ⟨history ++ path.ancestors.reverse.map (.directory ·.text), .root,
        none⟩ := by
  induction path using RootedPath.rec_child
    generalizing history selectedPath with
  | ofRoot root => exact goUp_root root history selectedPath
  | ofChild path name inductionHypothesis =>
      obtain ⟨abovePlain, namePlain⟩ := (noBackslash_child path name).mp plain
      have deeper : (path.child name).components.length =
          path.components.length + 1 := by
        simp [RootedPath.child]
      rw [deeper, Function.iterate_succ_apply,
        goUp_child path name namePlain, inductionHypothesis abovePlain,
        RootedPath.ancestors_child]
      simp

/-! ## The laws of a path -/

/-- The path above a path, its crumbs, and the way up from it. -/
structure PathLaws (path : RootedPath) : Prop where
  parent : parentPath path.text = path.parent.map RootedPath.text
  shorter : ∀ parent, parentPath path.text = some parent →
    parent.length < path.text.length
  crumbs : pathCrumbs (some path.text) =
    ⟨"Root".toList, none⟩ :: path.ancestors.map crumbOf
  up : ∀ history selectedPath,
    goUp^[path.components.length + 1]
        ⟨history, .directory path.text, selectedPath⟩ =
      ⟨history ++ path.ancestors.reverse.map (.directory ·.text), .root, none⟩

theorem parentPath_of_noBackslash (path : RootedPath)
    (plain : noBackslash path = true) :
    parentPath path.text = path.parent.map RootedPath.text := by
  rcases path.root_or_child with ⟨root, rfl⟩ | ⟨parent, name, rfl⟩
  · rw [RootedPath.text_root, parentPath_root]
    rfl
  · rw [parentPath_child parent name ((noBackslash_child _ _).mp plain).2,
      RootedPath.parent_child]
    rfl

theorem parent_length_lt (path parent : RootedPath)
    (isParent : path.parent = some parent) :
    parent.text.length < path.text.length := by
  rcases path.root_or_child with ⟨root, rfl⟩ | ⟨above, name, rfl⟩
  · cases isParent
  · rw [RootedPath.parent_child, Option.some_inj] at isParent
    rw [← isParent]
    exact above.text_length_lt name

/-- The laws hold of a path exactly when its names have no backslash. -/
theorem pathLaws_iff (path : RootedPath) :
    PathLaws path ↔ noBackslash path = true := by
  constructor
  · exact fun laws => noBackslash_of_pathCrumbs path laws.crumbs
  · intro plain
    have parent := parentPath_of_noBackslash path plain
    refine ⟨parent, ?_, pathCrumbs_of_noBackslash path plain,
      goUp_iterate path plain⟩
    intro above isAbove
    rw [parent] at isAbove
    obtain ⟨abovePath, isParent, rfl⟩ := Option.map_eq_some_iff.mp isAbove
    exact parent_length_lt path abovePath isParent

/-! ## The laws of a child -/

/-- The path of a child, and the path above that. -/
structure ChildLaws (directory : RootedPath) (name : directory.root.Component) :
    Prop where
  child : childPath directory.text name.name = (directory.child name).text
  parent : ∃ parent,
    parentPath (childPath directory.text name.name) = some parent ∧
      RootedPath.trimmed directory.root parent =
        RootedPath.trimmed directory.root directory.text

/-- A name without the backslashes at its end. -/
def keptName (name : List Char) : List Char :=
  name.rdropWhile (· == '\\')

/-- A name that is whole when it is cut: without the backslashes at its end
there is something of it, and no backslash but one at its start. -/
def cutsWhole (name : List Char) : Bool :=
  !(keptName name).isEmpty && (keptName name).tail.all (· != '\\')

theorem mem_intercalate (character separator : Char)
    (differs : character ≠ separator) (names : List (List Char)) :
    character ∈ [separator].intercalate names ↔
      ∃ name ∈ names, character ∈ name := by
  induction names with
  | nil => simp
  | cons name names inductionHypothesis =>
      by_cases last : names = []
      · simp [last]
      · rw [List.intercalate_cons_of_ne_nil last]
        simp [inductionHypothesis, differs]

/-- A path without a backslash in a name has one only as its separator. -/
theorem separator_of_noBackslash (path : RootedPath)
    (plain : noBackslash path = true) :
    (if '\\' ∈ path.text then '\\' else '/') = path.root.separator := by
  have notInNames := (noBackslash_iff path).mp plain
  obtain ⟨root, components⟩ := path
  have below (differs : '\\' ≠ root.separator) :
      '\\' ∉ [root.separator].intercalate
        (RootedPath.mk root components).names := by
    rw [mem_intercalate _ _ differs]
    rintro ⟨name, member, isIn⟩
    exact notInNames name member isIn
  cases root with
  | posix =>
      have notIn : '\\' ∉ (RootedPath.mk .posix components).text := by
        rw [RootedPath.text, List.mem_append, not_or]
        refine ⟨?_, below (by simp [Root.separator])⟩
        simp [Root.text, Root.start, Root.separator]
      rw [if_neg notIn]
      rfl
  | drive letter isLetter slash =>
      cases slash with
      | true =>
          have notLetter : letter ≠ '\\' := by
            rintro rfl
            cases isLetter
          have notIn : '\\' ∉ (RootedPath.mk (.drive letter isLetter true)
              components).text := by
            rw [RootedPath.text, List.mem_append, not_or]
            refine ⟨?_, below (by simp [Root.separator])⟩
            simp [Root.text, Root.start, Root.separator, Ne.symm notLetter]
          rw [if_neg notIn]
          rfl
      | false =>
          have isIn : '\\' ∈ (RootedPath.mk (.drive letter isLetter false)
              components).text := by
            simp [RootedPath.text, Root.text, Root.separator]
          rw [if_pos isIn]
          rfl
  | share server name serverName shareName =>
      have isIn : '\\' ∈ (RootedPath.mk
          (.share server name serverName shareName) components).text := by
        simp [RootedPath.text, Root.text, Root.separator]
      rw [if_pos isIn]
      rfl

/-- The text of a path ends in a slash exactly when the path is a root. -/
theorem endsWith_slash (path : RootedPath) (plain : noBackslash path = true) :
    (endsWith '/' path.text || endsWith '\\' path.text) =
      path.components.isEmpty := by
  rcases path.root_or_child with ⟨root, rfl⟩ | ⟨parent, name, rfl⟩
  · have ends : isAnySlash root.separator = true := root.isAnySlash_separator
    rw [isAnySlash, Bool.or_comm] at ends
    simpa [endsWith, RootedPath.text_root, Root.text] using ends
  · have isName :=
      isName_of_noBackslash name ((noBackslash_child _ _).mp plain).2
    have ends := isName.getLast
    rw [isAnySlash, Bool.or_comm] at ends
    have notRoot : (parent.child name).components.isEmpty = false := by
      simp [RootedPath.child]
    rw [endsWith, endsWith, getLast?_child, notRoot]
    simpa using ends

theorem childPath_of_noBackslash (directory : RootedPath)
    (plain : noBackslash directory = true)
    (name : directory.root.Component) :
    childPath directory.text name.name = (directory.child name).text := by
  rw [childPath, separator_of_noBackslash directory plain,
    endsWith_slash directory plain, RootedPath.text_child, RootedPath.joint]
  by_cases isRoot : directory.components.isEmpty = true <;> simp [isRoot]

/-- Only on POSIX has a name a backslash. -/
theorem separator_of_backslash {root : Root} (component : root.Component)
    (isIn : '\\' ∈ component.name) : root.separator = '/' := by
  have whole := component.isName.whole _ isIn
  cases root with
  | posix => rfl
  | drive letter isLetter slash => cases whole
  | share server name serverName shareName => cases whole

/-- Where a name of the directory has a backslash, a child is joined by one. -/
theorem noBackslash_of_childPath (directory : RootedPath)
    (name : directory.root.Component)
    (child : childPath directory.text name.name =
      (directory.child name).text) :
    noBackslash directory = true := by
  rw [noBackslash_iff]
  intro broken member isIn
  obtain ⟨component, isComponent, rfl⟩ := List.mem_map.mp member
  have separator := separator_of_backslash component isIn
  have inText : '\\' ∈ directory.text := by
    rw [RootedPath.text, List.mem_append, separator,
      mem_intercalate _ _ (by decide)]
    exact Or.inr ⟨_, member, isIn⟩
  have notRoot : directory.components.isEmpty = false := by
    rw [List.isEmpty_eq_false_iff]
    exact List.ne_nil_of_mem isComponent
  rw [childPath, if_pos inText, RootedPath.text_child, RootedPath.joint,
    notRoot, separator, if_neg Bool.false_ne_true, List.append_assoc] at child
  by_cases ends :
      (endsWith '/' directory.text || endsWith '\\' directory.text) = true
  · rw [if_pos ends] at child
    have lengths := congrArg List.length (List.append_cancel_left child)
    simp at lengths
  · rw [if_neg ends] at child
    have characters := List.append_cancel_left child
    cases characters

/-! ### The path above a child -/

theorem trimSlashes_slashes (before slashes : List Char)
    (areSlashes : ∀ character ∈ slashes, isAnySlash character = true) :
    trimSlashes (before ++ slashes) = trimSlashes before := by
  induction slashes using List.reverseRecOn with
  | nil => rw [List.append_nil]
  | append_singleton slashes last inductionHypothesis =>
      rw [← List.append_assoc,
        trimSlashes_slash _ last (areSlashes _ (by simp))]
      exact inductionHypothesis fun character member =>
        areSlashes character (List.mem_append_left _ member)

theorem keptName_subset (name : List Char) : keptName name ⊆ name :=
  (List.rdropWhile_prefix _ _).subset

/-- Slashes at the end of a name are lost. -/
theorem trimSlashes_keptName (before name : List Char) :
    trimSlashes (before ++ name) = trimSlashes (before ++ keptName name) := by
  have split : keptName name ++ name.rtakeWhile (· == '\\') = name :=
    List.rdropWhile_append_rtakeWhile
  have slashes : ∀ character ∈ name.rtakeWhile (· == '\\'),
      isAnySlash character = true := by
    intro character member
    have same := List.mem_rtakeWhile_imp member
    rw [beq_iff_eq] at same
    rw [same]
    rfl
  have trims := trimSlashes_slashes (before ++ keptName name) _ slashes
  rw [List.append_assoc, split] at trims
  exact trims

theorem trimSlashes_kept {root : Root} (component : root.Component)
    (before : List Char) (nonempty : keptName component.name ≠ []) :
    trimSlashes (before ++ component.name) =
      before ++ keptName component.name := by
  rw [trimSlashes_keptName]
  refine trimSlashes_append before _ nonempty ?_
  have last := List.getLast_mem nonempty
  rw [isAnySlash_of_mem_name component _ (keptName_subset _ last)]
  exact Bool.not_eq_true _ ▸ List.rdropWhile_last_not _ _ nonempty

theorem trimmed_child (path : RootedPath) (name : path.root.Component) :
    RootedPath.trimmed path.root (path.child name).text =
      (path.child name).text := by
  rw [RootedPath.trimmed, List.rdropWhile_eq_self_iff]
  intro notEmpty ends
  have whole := name.isName.getLast
  have last := getLast?_child path name
  rw [List.getLast?_eq_some_getLast notEmpty, Option.some_inj] at last
  rw [last, whole] at ends
  cases ends

theorem trimmed_length_le (root : Root) (text : List Char) :
    (RootedPath.trimmed root text).length ≤ text.length :=
  (List.rdropWhile_prefix _ _).length_le

section Child

variable (directory : RootedPath) (name : directory.root.Component)

/-- A name of backslashes only is taken for a separator, and so is left out. -/
theorem not_childLaws_of_keptName (plain : noBackslash directory = true)
    (nothing : keptName name.name = []) : ¬ ChildLaws directory name := by
  intro laws
  obtain ⟨start, text, ofRoot, ofOther⟩ := directory.text_child_eq name
  have trimmedChild : trimSlashes (directory.child name).text =
      trimSlashes directory.text := by
    have trims := trimSlashes_keptName (start ++ [directory.root.separator])
      name.name
    rw [nothing, List.append_nil,
      trimSlashes_slash _ _ directory.root.isAnySlash_separator] at trims
    rw [text, ← List.singleton_append, ← List.append_assoc, trims]
    by_cases isRoot : directory.components = []
    · have isText : directory.text = directory.root.text := by
        rw [RootedPath.text, RootedPath.names, isRoot]
        simp
      rw [ofRoot isRoot, isText, trimSlashes_root, trimSlashes_start]
    · rw [ofOther isRoot]
  have above : parentPath (directory.child name).text =
      directory.parent.map RootedPath.text := by
    rw [← parentPath_of_noBackslash directory plain]
    exact parentPath_congr directory.root _ _ trimmedChild
  obtain ⟨parent, isParent, same⟩ := laws.parent
  rw [laws.child, above] at isParent
  obtain ⟨parentPath, isAbove, rfl⟩ := Option.map_eq_some_iff.mp isParent
  rcases directory.root_or_child with ⟨root, rfl⟩ | ⟨other, last, rfl⟩
  · cases isAbove
  · rw [RootedPath.parent_child, Option.some_inj] at isAbove
    subst isAbove
    have shorter := other.text_length_lt last
    have lengths := congrArg List.length same
    have atMost := trimmed_length_le other.root other.text
    rw [show (other.child last).root = other.root from rfl,
      trimmed_child] at lengths
    omega

/-- The last character of a name that is cut: a backslash, or the separator
before the name. -/
theorem parentPath_of_split (before after start : List Char) (slash : Char)
    (isSlash : isAnySlash slash = true)
    (noSlash : ∀ character ∈ after, isAnySlash character = false)
    (text : (directory.child name).text =
      start ++ directory.root.separator :: name.name)
    (long : directory.root.start.length ≤ start.length)
    (nonempty : keptName name.name ≠ [])
    (split : start ++ directory.root.separator :: keptName name.name =
      before ++ slash :: after) :
    parentPath (directory.child name).text =
      if before.length < directory.root.text.length then
        some directory.root.text
      else some before := by
  have trimmed : trimSlashes (directory.child name).text =
      before ++ slash :: after := by
    have trims := trimSlashes_kept name (start ++ [directory.root.separator])
      nonempty
    rw [text, ← split]
    simpa using trims
  have notRoot : before ++ slash :: after ≠ directory.root.start := by
    rw [← split]
    intro same
    have lengths := congrArg List.length same
    rw [List.length_append, List.length_cons] at lengths
    omega
  exact parentPath_cut directory.root _ before after slash isSlash noSlash
    trimmed notRoot

/-- A name is cut at the last of its backslashes that is not at its end, which
leaves the directory only if there is nothing before it. -/
theorem childLaws_of_backslash (plain : noBackslash directory = true)
    (before after : List Char) (noneAfter : '\\' ∉ after)
    (kept : keptName name.name = before ++ '\\' :: after) :
    ChildLaws directory name ↔ before = [] := by
  have nonempty : keptName name.name ≠ [] := by
    simp [kept]
  have members : ∀ character ∈ before ++ '\\' :: after,
      character ∈ name.name := by
    rw [← kept]
    exact fun character member => keptName_subset _ member
  have noSlash : ∀ character ∈ after, isAnySlash character = false := by
    intro character member
    rw [isAnySlash_of_mem_name name character (members _ (by simp [member])),
      beq_eq_false_iff_ne]
    exact fun same => noneAfter (same ▸ member)
  obtain ⟨start, text, ofRoot, ofOther⟩ := directory.text_child_eq name
  have long := start_length_le directory start ofRoot ofOther
  have above := parentPath_of_split directory name
    (start ++ directory.root.separator :: before) after start '\\' rfl noSlash
    text long nonempty (by simp [kept])
  have notRoot : ¬ (start ++ directory.root.separator :: before).length <
      directory.root.text.length := by
    rw [Root.text, List.length_append, List.length_append, List.length_cons,
      List.length_singleton]
    omega
  rw [if_neg notRoot] at above
  have textLength : directory.text.length ≤ start.length + 1 := by
    by_cases isRoot : directory.components = []
    · rw [ofRoot isRoot, RootedPath.text, RootedPath.names, isRoot]
      simp [Root.text]
    · rw [ofOther isRoot]
      omega
  constructor
  · intro laws
    obtain ⟨parent, isParent, same⟩ := laws.parent
    rw [laws.child, above, Option.some_inj] at isParent
    subst isParent
    by_contra notEmpty
    have trimmed : RootedPath.trimmed directory.root
        (start ++ directory.root.separator :: before) =
          start ++ directory.root.separator :: before := by
      rw [RootedPath.trimmed, List.rdropWhile_eq_self_iff]
      intro _ ends
      rw [List.getLast_append_of_ne_nil _ (List.cons_ne_nil _ _),
        List.getLast_cons notEmpty] at ends
      have whole := name.isName.whole _
        (members _ (List.mem_append_left _ (List.getLast_mem notEmpty)))
      rw [whole] at ends
      cases ends
    have lengths := congrArg List.length same
    have atMost := trimmed_length_le directory.root directory.text
    have positive := List.length_pos_iff.mpr notEmpty
    rw [trimmed, List.length_append, List.length_cons] at lengths
    omega
  · rintro rfl
    refine ⟨childPath_of_noBackslash directory plain name,
      start ++ [directory.root.separator], ?_, ?_⟩
    · rw [childPath_of_noBackslash directory plain name]
      exact above
    · rw [RootedPath.trimmed, List.rdropWhile_concat_pos _ _ _
        directory.root.separates_separator]
      by_cases isRoot : directory.components = []
      · have isText : directory.text =
            start ++ [directory.root.separator] := by
          rw [ofRoot isRoot, RootedPath.text, RootedPath.names, isRoot]
          simp [Root.text]
        rw [RootedPath.trimmed, isText, List.rdropWhile_concat_pos _ _ _
          directory.root.separates_separator]
      · rw [ofOther isRoot, RootedPath.trimmed]

/-- A name with no backslash in what is kept of it obeys the laws. -/
theorem childLaws_of_whole (plain : noBackslash directory = true)
    (nonempty : keptName name.name ≠ [])
    (whole : '\\' ∉ keptName name.name) : ChildLaws directory name := by
  have noSlash : ∀ character ∈ keptName name.name,
      isAnySlash character = false := by
    intro character member
    rw [isAnySlash_of_mem_name name character (keptName_subset _ member),
      beq_eq_false_iff_ne]
    exact fun same => whole (same ▸ member)
  obtain ⟨start, text, ofRoot, ofOther⟩ := directory.text_child_eq name
  have long := start_length_le directory start ofRoot ofOther
  have above := parentPath_of_split directory name start (keptName name.name)
    start directory.root.separator directory.root.isAnySlash_separator noSlash
    text long nonempty rfl
  rw [cut_start directory start ofRoot ofOther] at above
  refine ⟨childPath_of_noBackslash directory plain name, directory.text, ?_,
    rfl⟩
  rw [childPath_of_noBackslash directory plain name]
  exact above

/-- The laws hold of a name exactly when it is not cut. -/
theorem childLaws_iff :
    ChildLaws directory name ↔
      noBackslash directory = true ∧ cutsWhole name.name = true := by
  have decided : cutsWhole name.name = true ↔
      keptName name.name ≠ [] ∧ '\\' ∉ (keptName name.name).tail := by
    rw [cutsWhole, Bool.and_eq_true, Bool.not_eq_true',
      List.isEmpty_eq_false_iff, List.all_eq_true]
    refine and_congr_right fun _ => ⟨?_, ?_⟩
    · exact fun all member => absurd rfl (bne_iff_ne.mp (all _ member))
    · exact fun notMember character member =>
        bne_iff_ne.mpr fun same => notMember (same ▸ member)
  rw [decided]
  by_cases plain : noBackslash directory = true
  · rw [and_iff_right plain]
    by_cases nothing : keptName name.name = []
    · exact iff_of_false
        (not_childLaws_of_keptName directory name plain nothing)
        fun conditions => conditions.1 nothing
    · rw [and_iff_right nothing]
      by_cases whole : '\\' ∈ keptName name.name
      · obtain ⟨reversed, others, split, noneAfter⟩ :=
          List.eq_append_cons_of_mem (List.mem_reverse.mpr whole)
        have kept : keptName name.name =
            others.reverse ++ '\\' :: reversed.reverse := by
          have same := congrArg List.reverse split
          simpa using same
        have noneReversed : '\\' ∉ reversed.reverse :=
          mt List.mem_reverse.mp noneAfter
        rw [childLaws_of_backslash directory name plain others.reverse
          reversed.reverse noneReversed kept, kept]
        cases others.reverse with
        | nil => simpa using noneAfter
        | cons first others => simp
      · exact iff_of_true
          (childLaws_of_whole directory name plain nothing whole)
          fun member => whole (List.mem_of_mem_tail member)
  · exact iff_of_false
      (fun laws => plain (noBackslash_of_childPath directory name laws.child))
      fun conditions => plain conditions.1

end Child

/-- The explorer understands a path exactly if no name of it has a backslash; a
child of it, exactly if besides the name of the child is not cut. -/
theorem explorer_paths_iff (path : RootedPath) :
    (PathLaws path ↔ noBackslash path = true) ∧
      ∀ name : path.root.Component,
        ChildLaws path name ↔
          noBackslash path = true ∧ cutsWhole name.name = true :=
  ⟨pathLaws_iff path, childLaws_iff path⟩

theorem backslashName : IsName isSlash "a\\b".toList := by
  have whole : ("a\\b".toList.all fun character => !isSlash character) = true :=
    rfl
  refine ⟨by simp, fun character member => ?_⟩
  simpa using List.all_eq_true.mp whole character member

/-- A file of a POSIX system whose name has a backslash. -/
def backslashFile : RootedPath :=
  ⟨.posix, [⟨"a\\b".toList, backslashName⟩]⟩

/-- The path above the file is not the root. -/
theorem backslash_is_cut : ¬ ∀ path : RootedPath, PathLaws path := by
  intro laws
  have parent := (laws backslashFile).parent
  revert parent
  decide

end Web
end WhatsGoingOn
