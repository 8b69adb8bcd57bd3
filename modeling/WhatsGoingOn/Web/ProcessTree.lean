import WhatsGoingOn.Library.Forest
import WhatsGoingOn.Web.Tables

/-!
# The tree of a process

The view of a process lists the processes below it, found along the parents
that the rows name.  These are sampled one by one from a running system, so the
rows may name parents that are missing or that form cycles.
-/

namespace WhatsGoingOn
namespace Web

open Daemon

/-- A process and how far below the root it is. -/
structure ProcessTreeNode where
  depth : Nat
  process : ProcessInfo
  deriving DecidableEq, Repr

/-- What `appendChildren` adds to. -/
structure TreeWalk where
  tree : List ProcessTreeNode
  visited : List UInt64
  deriving DecidableEq, Repr

/-! ## The walk -/

/-- The `Map` of the children of each parent, in the order of the rows. -/
def childrenByParent (rows : List ProcessInfo) : UInt64 → List ProcessInfo :=
  rows.foldl
    (fun children row =>
      match row.ppid with
      | none => children
      | some ppid => fun pid =>
          if pid = ppid then children pid ++ [row] else children pid)
    fun _ => []

/-- The children of a parent as they have been sorted. -/
def sortedChildren (locale : Locale) (rows : List ProcessInfo)
    (parentPid : UInt64) : List ProcessInfo :=
  sortRows
    (fun a b =>
      orElse (locale.localeCompare a.name b.name) (a.pid.toNat - b.pid.toNat))
    (childrenByParent rows parentPid)

/-- The loop of `appendChildren` for one child, whose own children are appended
by `enter`. -/
def appendChild (enter : UInt64 → TreeWalk → Option TreeWalk) (depth : Nat)
    (walk : TreeWalk) (process : ProcessInfo) : Option TreeWalk :=
  if process.pid ∈ walk.visited then some walk
  else
    enter process.pid
      { tree := walk.tree ++ [⟨depth, process⟩]
        visited := walk.visited ++ [process.pid] }

/-- `appendChildren`, as deep as `fuel` allows. -/
def appendChildren (children : UInt64 → List ProcessInfo) :
    Nat → UInt64 → Nat → TreeWalk → Option TreeWalk
  | 0, _, _, _ => none
  | fuel + 1, parentPid, depth, walk =>
      (children parentPid).foldlM
        (appendChild
          (fun pid walk => appendChildren children fuel pid (depth + 1) walk)
          depth)
        walk

/-- The processes below a root in the order they are shown; fuel bounds the
recursion. -/
def buildProcessTreeNodes (locale : Locale) (fuel : Nat)
    (rows : List ProcessInfo) (rootPid : UInt64) :
    Option (List ProcessTreeNode) :=
  (appendChildren (sortedChildren locale rows) fuel rootPid 0 ⟨[], []⟩).map
    TreeWalk.tree

/-! ## Children -/

/-- The children of a process are the rows that name it. -/
theorem foldl_childrenByParent (rows : List ProcessInfo)
    (children : UInt64 → List ProcessInfo) (parentPid : UInt64) :
    rows.foldl
        (fun children row =>
          match row.ppid with
          | none => children
          | some ppid => fun pid =>
              if pid = ppid then children pid ++ [row] else children pid)
        children parentPid =
      children parentPid ++ rows.filter (·.ppid == some parentPid) := by
  induction rows generalizing children with
  | nil => simp
  | cons row rows inductionHypothesis =>
      rw [List.foldl_cons, inductionHypothesis]
      cases parent : row.ppid with
      | none => simp [parent]
      | some ppid =>
          by_cases same : parentPid = ppid
          · simp [parent, same]
          · simp [parent, same, Ne.symm same]

theorem mem_sortedChildren (locale : Locale) (rows : List ProcessInfo)
    (parentPid : UInt64) (process : ProcessInfo) :
    process ∈ sortedChildren locale rows parentPid ↔
      process ∈ rows ∧ process.ppid = some parentPid := by
  rw [sortedChildren, sortRows, List.mem_mergeSort, childrenByParent,
    foldl_childrenByParent]
  simp

/-! ## What a walk adds -/

/-- The rows that have not been visited. -/
def unvisited (rows : List ProcessInfo) (walk : TreeWalk) : Nat :=
  rows.countP fun row => row.pid ∉ walk.visited

/-- Nodes of processes below a parent that some rows name. -/
abbrev ProcessesBelow (children : UInt64 → List ProcessInfo) :
    UInt64 → Nat → List ProcessTreeNode → Prop :=
  Forest.Below (·.process.pid) (·.depth)
    fun parentPid node => node.process ∈ children parentPid

/-- What is added while some children of a parent are walked through: they are
visited, and so are the children of every process that is added. -/
structure Walked (children : UInt64 → List ProcessInfo)
    (listed : List ProcessInfo) (parentPid : UInt64) (depth : Nat)
    (walk next : TreeWalk) (added : List ProcessTreeNode) : Prop where
  tree : next.tree = walk.tree ++ added
  visited : next.visited = walk.visited ++ added.map (·.process.pid)
  once : walk.visited.Nodup → next.visited.Nodup
  below : ProcessesBelow children parentPid depth added
  covered : ∀ process ∈ listed, process.pid ∈ next.visited
  closed : ∀ node ∈ added, ∀ process ∈ children node.process.pid,
    process.pid ∈ next.visited

section Walk

variable {children : UInt64 → List ProcessInfo} {parentPid : UInt64}
variable {depth : Nat}

theorem Walked.grows {listed : List ProcessInfo} {walk next : TreeWalk}
    {added : List ProcessTreeNode}
    (walked : Walked children listed parentPid depth walk next added) :
    walk.visited ⊆ next.visited := by
  rw [walked.visited]
  exact List.subset_append_left _ _

theorem Walked.nothing (walk : TreeWalk) :
    Walked children [] parentPid depth walk walk [] where
  tree := by simp
  visited := by simp
  once := id
  below := .nil _ _
  covered := by simp
  closed := by simp

/-- A process that has been visited is passed by. -/
theorem Walked.pass {process : ProcessInfo} {listed : List ProcessInfo}
    {walk next : TreeWalk} {added : List ProcessTreeNode}
    (visited : process.pid ∈ walk.visited)
    (walked : Walked children listed parentPid depth walk next added) :
    Walked children (process :: listed) parentPid depth walk next added :=
  { walked with
    covered := List.forall_mem_cons.mpr
      ⟨walked.grows visited, walked.covered⟩ }

/-- A process that has not been visited is added, and what is below it. -/
theorem Walked.visit {process : ProcessInfo} {listed : List ProcessInfo}
    {walk between next : TreeWalk} {inside after : List ProcessTreeNode}
    (isChild : process ∈ children parentPid)
    (notVisited : process.pid ∉ walk.visited)
    (inner : Walked children (children process.pid) process.pid (depth + 1)
      ⟨walk.tree ++ [⟨depth, process⟩], walk.visited ++ [process.pid]⟩ between
      inside)
    (outer : Walked children listed parentPid depth between next after) :
    Walked children (process :: listed) parentPid depth walk next
      (⟨depth, process⟩ :: inside ++ after) where
  tree := by
    rw [outer.tree, inner.tree]
    simp
  visited := by
    rw [outer.visited, inner.visited]
    simp
  once := by
    intro nodup
    apply outer.once
    apply inner.once
    rw [List.nodup_append]
    refine ⟨nodup, List.nodup_singleton _, ?_⟩
    intro pid member last isLast same
    rw [List.mem_singleton.mp isLast] at same
    exact notVisited (same ▸ member)
  below := .cons isChild rfl inner.below outer.below
  covered := by
    refine List.forall_mem_cons.mpr ⟨outer.grows (inner.grows ?_),
      outer.covered⟩
    simp
  closed := by
    intro node member
    rcases List.mem_append.mp member with front | back
    · rcases List.mem_cons.mp front with rfl | within
      · exact fun child isIn => outer.grows (inner.covered child isIn)
      · exact fun child isIn => outer.grows (inner.closed node within child isIn)
    · exact outer.closed node back

/-- A loop over some children of a parent, if what is entered adds what is below
it. -/
theorem walked_of_foldlM (enter : UInt64 → TreeWalk → Option TreeWalk)
    (enters : ∀ pid walk next, enter pid walk = some next →
      ∃ added, Walked children (children pid) pid (depth + 1) walk next added)
    (listed : List ProcessInfo)
    (areChildren : ∀ process ∈ listed, process ∈ children parentPid)
    (walk next : TreeWalk)
    (walks : listed.foldlM (appendChild enter depth) walk = some next) :
    ∃ added, Walked children listed parentPid depth walk next added := by
  induction listed generalizing walk with
  | nil =>
      cases walks
      exact ⟨[], .nothing _⟩
  | cons process listed inductionHypothesis =>
      obtain ⟨isChild, othersAreChildren⟩ := List.forall_mem_cons.mp areChildren
      rw [List.foldlM_cons, appendChild] at walks
      by_cases visited : process.pid ∈ walk.visited
      · rw [if_pos visited] at walks
        obtain ⟨added, walked⟩ := inductionHypothesis othersAreChildren walk walks
        exact ⟨added, walked.pass visited⟩
      · rw [if_neg visited] at walks
        obtain ⟨between, entered, walks⟩ := Option.bind_eq_some_iff.mp walks
        obtain ⟨inside, inner⟩ := enters _ _ _ entered
        obtain ⟨after, outer⟩ :=
          inductionHypothesis othersAreChildren between walks
        exact ⟨_, inner.visit isChild visited outer⟩

/-- What a walk adds to the tree. -/
theorem walked_of_appendChildren (fuel : Nat) (walk next : TreeWalk)
    (walks : appendChildren children fuel parentPid depth walk = some next) :
    ∃ added, Walked children (children parentPid) parentPid depth walk next
      added := by
  induction fuel generalizing parentPid depth walk next with
  | zero => cases walks
  | succ fuel inductionHypothesis =>
      refine walked_of_foldlM
        (fun pid walk => appendChildren children fuel pid (depth + 1) walk) ?_
        (children parentPid) (fun _ => id) walk next walks
      intro pid walk next entered
      exact inductionHypothesis walk next entered

/-! ## The walk ends -/

variable {rows : List ProcessInfo}

theorem unvisited_le (walk next : TreeWalk)
    (grows : walk.visited ⊆ next.visited) :
    unvisited rows next ≤ unvisited rows walk := by
  apply List.countP_mono_left
  intro row _ notVisited
  rw [decide_eq_true_iff] at notVisited ⊢
  exact fun visited => notVisited (grows visited)

/-- With every process that is entered there are fewer rows to visit. -/
theorem unvisited_enter (walk : TreeWalk) (process : ProcessInfo)
    (member : process ∈ rows) (notVisited : process.pid ∉ walk.visited)
    (tree : List ProcessTreeNode) :
    unvisited rows ⟨tree, walk.visited ++ [process.pid]⟩ <
      unvisited rows walk := by
  have fewer (some : List ProcessInfo) :
      unvisited some ⟨tree, walk.visited ++ [process.pid]⟩ ≤
        unvisited some walk :=
    unvisited_le walk _ (List.subset_append_left _ _)
  obtain ⟨before, after, rfl⟩ := List.append_of_mem member
  have fewerBefore := fewer before
  have fewerAfter := fewer after
  have counted : decide (process.pid ∉ walk.visited) = true := by
    simpa using notVisited
  have notCounted :
      decide (process.pid ∉ walk.visited ++ [process.pid]) = false := by
    simp
  simp only [unvisited, List.countP_append, List.countP_cons] at *
  rw [counted, notCounted, if_pos rfl, if_neg Bool.false_ne_true]
  omega

/-- A walk ends when there is fuel for the rows that are not visited. -/
theorem foldlM_isSome (fuel : Nat)
    (enter : UInt64 → TreeWalk → Option TreeWalk)
    (enters : ∀ pid walk, unvisited rows walk < fuel →
      ∃ next, enter pid walk = some next ∧ walk.visited ⊆ next.visited)
    (listed : List ProcessInfo) (areRows : ∀ process ∈ listed, process ∈ rows)
    (walk : TreeWalk) (enough : unvisited rows walk < fuel + 1) :
    ∃ next, listed.foldlM (appendChild enter depth) walk = some next := by
  induction listed generalizing walk with
  | nil => exact ⟨walk, rfl⟩
  | cons process listed inductionHypothesis =>
      obtain ⟨isRow, othersAreRows⟩ := List.forall_mem_cons.mp areRows
      rw [List.foldlM_cons, appendChild]
      by_cases visited : process.pid ∈ walk.visited
      · rw [if_pos visited]
        exact inductionHypothesis othersAreRows walk enough
      · rw [if_neg visited]
        have fewer := unvisited_enter walk process isRow visited
          (walk.tree ++ [⟨depth, process⟩])
        obtain ⟨between, entered, grows⟩ := enters process.pid
          ⟨walk.tree ++ [⟨depth, process⟩], walk.visited ++ [process.pid]⟩
          (by omega)
        have stillFewer : unvisited rows between ≤ unvisited rows _ :=
          unvisited_le _ between grows
        obtain ⟨next, walks⟩ :=
          inductionHypothesis othersAreRows between (by omega)
        exact ⟨next, by rw [entered]; exact walks⟩

/-- The walk is never deeper than there are rows. -/
theorem appendChildren_isSome
    (areRows : ∀ pid, ∀ process ∈ children pid, process ∈ rows)
    (fuel : Nat) (parentPid : UInt64) (depth : Nat) (walk : TreeWalk)
    (enough : unvisited rows walk < fuel) :
    ∃ next, appendChildren children fuel parentPid depth walk = some next := by
  induction fuel generalizing parentPid depth walk with
  | zero => omega
  | succ fuel inductionHypothesis =>
      refine foldlM_isSome fuel
        (fun pid walk => appendChildren children fuel pid (depth + 1) walk) ?_
        (children parentPid) (areRows parentPid) walk enough
      intro pid walk enough
      obtain ⟨next, entered⟩ := inductionHypothesis pid (depth + 1) walk enough
      obtain ⟨added, walked⟩ := walked_of_appendChildren fuel walk next entered
      exact ⟨next, entered, walked.grows⟩

end Walk

/-! ## The nodes of a tree -/

/-- A row names the parent of a process. -/
def IsParent (rows : List ProcessInfo) (parentPid pid : UInt64) : Prop :=
  ∃ row ∈ rows, row.ppid = some parentPid ∧ row.pid = pid

/-- There is a chain of rows from a process down to another. -/
def Descendant (rows : List ProcessInfo) : UInt64 → UInt64 → Prop :=
  Relation.TransGen (IsParent rows)

/-- Nodes that are the proper descendants of the root, each once, after its
parent, and one deeper than that; the root itself is not among them. -/
structure ListsDescendants (rows : List ProcessInfo) (rootPid : UInt64)
    (nodes : List ProcessTreeNode) : Prop where
  once : (nodes.map (·.process.pid)).Nodup
  listed : ∀ process, process ∈ nodes.map (·.process) ↔
    process ∈ rows ∧ Descendant rows rootPid process.pid ∧
      process.pid ≠ rootPid
  parents : ∀ before node after, nodes = before ++ node :: after →
    (node.process.ppid = some rootPid ∧ node.depth = 0) ∨
      ∃ parent ∈ before, node.process.ppid = some parent.process.pid ∧
        node.depth = parent.depth + 1

/-- The edges of the tree are those between parents and children. -/
theorem edge_sortedChildren (locale : Locale) (rows : List ProcessInfo) :
    Forest.Edge (fun node : ProcessTreeNode => node.process.pid)
        (fun parentPid node =>
          node.process ∈ sortedChildren locale rows parentPid) =
      IsParent rows := by
  funext parentPid pid
  apply propext
  constructor
  · rintro ⟨node, isChild, samePid⟩
    obtain ⟨isRow, parent⟩ := (mem_sortedChildren _ _ _ _).mp isChild
    exact ⟨node.process, isRow, parent, samePid⟩
  · rintro ⟨row, isRow, parent, samePid⟩
    exact ⟨⟨0, row⟩, (mem_sortedChildren _ _ _ _).mpr ⟨isRow, parent⟩, samePid⟩

section Nodes

variable {locale : Locale} {rows : List ProcessInfo} {rootPid : UInt64}
variable {next : TreeWalk} {nodes : List ProcessTreeNode}

/-- Everything below the root is visited. -/
theorem Walked.mem_of_descendant
    (walked : Walked (sortedChildren locale rows)
      (sortedChildren locale rows rootPid) rootPid 0 ⟨[], []⟩ next nodes)
    {pid : UInt64} (descends : Descendant rows rootPid pid) :
    pid ∈ nodes.map (·.process.pid) := by
  have visited : next.visited = nodes.map (·.process.pid) := walked.visited
  rw [← visited]
  rw [Descendant, ← edge_sortedChildren locale] at descends
  refine Forest.mem_of_closed ?_ ?_ descends
  · exact fun node isChild => walked.covered node.process isChild
  · intro above member node isChild
    rw [visited, List.mem_map] at member
    obtain ⟨parent, isNode, rfl⟩ := member
    exact walked.closed parent isNode node.process isChild

theorem Walked.descendant_of_mem
    (walked : Walked (sortedChildren locale rows)
      (sortedChildren locale rows rootPid) rootPid 0 ⟨[], []⟩ next nodes)
    (node : ProcessTreeNode) (member : node ∈ nodes) :
    node.process ∈ rows ∧ Descendant rows rootPid node.process.pid := by
  constructor
  · obtain ⟨above, isChild⟩ := walked.below.child_mem node member
    exact ((mem_sortedChildren _ _ _ _).mp isChild).1
  · rw [Descendant, ← edge_sortedChildren locale]
    exact walked.below.descends node member

/-- A walk from the root lists its descendants. -/
theorem Walked.lists
    (walked : Walked (sortedChildren locale rows)
      (sortedChildren locale rows rootPid) rootPid 0 ⟨[], []⟩ next nodes)
    (unique : (rows.map ProcessInfo.pid).Nodup)
    (acyclic : ¬ Descendant rows rootPid rootPid) :
    ListsDescendants rows rootPid nodes where
  once := by
    have visited : next.visited = nodes.map (·.process.pid) := walked.visited
    exact visited ▸ walked.once List.nodup_nil
  listed := by
    intro process
    constructor
    · intro member
      obtain ⟨node, isNode, rfl⟩ := List.mem_map.mp member
      obtain ⟨isRow, descends⟩ := walked.descendant_of_mem node isNode
      exact ⟨isRow, descends, fun isRoot => acyclic (isRoot ▸ descends)⟩
    · rintro ⟨isRow, descends, -⟩
      obtain ⟨node, isNode, samePid⟩ :=
        List.mem_map.mp (walked.mem_of_descendant descends)
      have nodeIsRow := (walked.descendant_of_mem node isNode).1
      have same : node.process = process :=
        List.inj_on_of_nodup_map unique nodeIsRow isRow samePid
      exact List.mem_map.mpr ⟨node, isNode, same⟩
  parents := by
    intro before node after split
    rcases walked.below.afterParent before node after split with
      ⟨isChild, top⟩ | ⟨parent, member, isChild, deeper⟩
    · exact Or.inl ⟨((mem_sortedChildren _ _ _ _).mp isChild).2, top⟩
    · exact Or.inr
        ⟨parent, member, ((mem_sortedChildren _ _ _ _).mp isChild).2, deeper⟩

end Nodes

/-- The walk ends for all rows, and lists the proper descendants of the root
exactly if the root is none of its own: a root that is comes to be listed. -/
theorem buildProcessTreeNodes_lists_iff (locale : Locale)
    (rows : List ProcessInfo) (unique : (rows.map ProcessInfo.pid).Nodup)
    (rootPid : UInt64) (fuel : Nat) (enough : rows.length < fuel) :
    ∃ nodes : List ProcessTreeNode,
      buildProcessTreeNodes locale fuel rows rootPid = some nodes ∧
        (ListsDescendants rows rootPid nodes ↔
          ¬ Descendant rows rootPid rootPid) := by
  have areRows : ∀ pid, ∀ process ∈ sortedChildren locale rows pid,
      process ∈ rows := fun pid process member =>
    ((mem_sortedChildren _ _ _ _).mp member).1
  obtain ⟨next, walks⟩ := appendChildren_isSome areRows fuel rootPid 0 ⟨[], []⟩
    (Nat.lt_of_le_of_lt List.countP_le_length enough)
  obtain ⟨nodes, walked⟩ := walked_of_appendChildren fuel ⟨[], []⟩ next walks
  have tree : next.tree = nodes := walked.tree
  refine ⟨nodes, by rw [buildProcessTreeNodes, walks, ← tree]; rfl, ?_, ?_⟩
  · intro lists cyclic
    obtain ⟨node, isNode, isRoot⟩ :=
      List.mem_map.mp (walked.mem_of_descendant cyclic)
    have listed := (lists.listed node.process).mp
      (List.mem_map_of_mem isNode)
    exact listed.2.2 isRoot
  · exact walked.lists unique

theorem buildProcessTreeNodes_lists_iff_example :
    ∃ nodes : List ProcessTreeNode,
      buildProcessTreeNodes ⟨fun _ _ => 0, fun _ _ => 0⟩ 3
          [⟨1, none, "init", .run⟩, ⟨2, some 1, "sh", .run⟩] 1 = some nodes ∧
        (ListsDescendants [⟨1, none, "init", .run⟩, ⟨2, some 1, "sh", .run⟩] 1
            nodes ↔
          ¬ Descendant [⟨1, none, "init", .run⟩, ⟨2, some 1, "sh", .run⟩] 1
            1) :=
  buildProcessTreeNodes_lists_iff ⟨fun _ _ => 0, fun _ _ => 0⟩
    [⟨1, none, "init", .run⟩, ⟨2, some 1, "sh", .run⟩] (by decide) 1 3
    (by decide)

/-- Two processes that name each other as parents: the root is below the
other one. -/
theorem root_is_listed :
    ¬ ∀ (locale : Locale) (rows : List ProcessInfo),
      (rows.map ProcessInfo.pid).Nodup → ∀ (rootPid : UInt64) (fuel : Nat),
        rows.length < fuel → ∃ nodes : List ProcessTreeNode,
          buildProcessTreeNodes locale fuel rows rootPid = some nodes ∧
            ListsDescendants rows rootPid nodes := by
  intro lists
  have result : buildProcessTreeNodes ⟨fun _ _ => 0, fun _ _ => 0⟩ 3
      [⟨1, some 2, "a", .run⟩, ⟨2, some 1, "b", .run⟩] 1 =
      some [⟨0, ⟨2, some 1, "b", .run⟩⟩, ⟨1, ⟨1, some 2, "a", .run⟩⟩] := by
    simp [buildProcessTreeNodes, appendChildren, appendChild, sortedChildren,
      sortRows, childrenByParent]
  obtain ⟨nodes, built, listed⟩ := lists ⟨fun _ _ => 0, fun _ _ => 0⟩
    [⟨1, some 2, "a", .run⟩, ⟨2, some 1, "b", .run⟩] (by decide) 1 3 (by decide)
  rw [result] at built
  cases built
  exact ((listed.listed ⟨1, some 2, "a", .run⟩).mp (by simp)).2.2 rfl

end Web
end WhatsGoingOn
