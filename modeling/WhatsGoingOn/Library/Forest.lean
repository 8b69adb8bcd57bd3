import Mathlib.Logic.Relation
import Mathlib.Data.List.Basic

/-!
# Depth-first lists

A list of nodes in which every node is followed by those below it.  Nodes are
told apart by keys, and a relation tells which nodes are children of which key;
nothing is asked of it, so it may have cycles.
-/

namespace WhatsGoingOn
namespace Forest

variable {κ ν : Type}
variable (key : ν → κ) (depth : ν → Nat) (child : κ → ν → Prop)

/-- A key has a node with the other key as a child. -/
def Edge (parent child' : κ) : Prop :=
  ∃ node : ν, child parent node ∧ key node = child'

/-- Nodes below a parent: children of it at some depth, each followed by the
nodes below it, one deeper. -/
inductive Below : κ → Nat → List ν → Prop
  | nil (parent : κ) (level : Nat) : Below parent level []
  | cons {parent : κ} {level : Nat} {node : ν} {inside after : List ν}
      (isChild : child parent node) (atLevel : depth node = level)
      (isInside : Below (key node) (level + 1) inside)
      (isAfter : Below parent level after) :
      Below parent level (node :: inside ++ after)

variable {key depth child}

/-- Every node below a parent is the child of some node. -/
theorem Below.child_mem {parent : κ} {level : Nat} {nodes : List ν}
    (below : Below key depth child parent level nodes) :
    ∀ node ∈ nodes, ∃ above : κ, child above node := by
  induction below with
  | nil => simp
  | cons isChild atLevel isInside isAfter insideHypothesis afterHypothesis =>
      intro other member
      rcases List.mem_append.mp member with front | back
      · rcases List.mem_cons.mp front with rfl | within
        · exact ⟨_, isChild⟩
        · exact insideHypothesis other within
      · exact afterHypothesis other back

/-- Every node is a descendant of the parent. -/
theorem Below.descends {parent : κ} {level : Nat} {nodes : List ν}
    (below : Below key depth child parent level nodes) :
    ∀ node ∈ nodes,
      Relation.TransGen (Edge key child) parent (key node) := by
  induction below with
  | nil => simp
  | cons isChild atLevel isInside isAfter insideHypothesis afterHypothesis =>
      intro other member
      rcases List.mem_append.mp member with front | back
      · rcases List.mem_cons.mp front with rfl | within
        · exact Relation.TransGen.single ⟨_, isChild, rfl⟩
        · exact Relation.TransGen.head ⟨_, isChild, rfl⟩
            (insideHypothesis other within)
      · exact afterHypothesis other back

/-- What a node comes after: nothing but its parent, which is one less deep. -/
def AfterParent (key : ν → κ) (depth : ν → Nat) (child : κ → ν → Prop)
    (parent : κ) (level : Nat) (before : List ν) (node : ν) : Prop :=
  (child parent node ∧ depth node = level) ∨
    ∃ above ∈ before, child (key above) node ∧ depth node = depth above + 1

theorem AfterParent.mono {parent : κ} {level : Nat} {before more : List ν}
    {node : ν} (after : AfterParent key depth child parent level before node)
    (within : before ⊆ more) :
    AfterParent key depth child parent level more node := by
  rcases after with top | ⟨above, member, isChild, deeper⟩
  · exact Or.inl top
  · exact Or.inr ⟨above, within member, isChild, deeper⟩

/-- A node comes after its parent. -/
theorem Below.afterParent {parent : κ} {level : Nat} {nodes : List ν}
    (below : Below key depth child parent level nodes) :
    ∀ before node after, nodes = before ++ node :: after →
      AfterParent key depth child parent level before node := by
  induction below with
  | nil => simp
  | @cons parent level first inside rest isChild atLevel isInside isAfter
      insideHypothesis afterHypothesis =>
      intro before node after split
      cases before with
      | nil =>
          cases split
          exact Or.inl ⟨isChild, atLevel⟩
      | cons head before =>
          rw [List.cons_append, List.cons_append, List.cons_eq_cons] at split
          obtain ⟨rfl, split⟩ := split
          rcases List.append_eq_append_iff.mp split with
            ⟨middle, rfl, rest'⟩ | ⟨middle, inside', rest'⟩
          · -- the node is after those inside of the first
            exact (afterHypothesis middle node after rest').mono fun _ member =>
              List.mem_cons_of_mem _ (List.mem_append_right _ member)
          · cases middle with
            | nil =>
                rw [List.append_nil] at inside'
                subst inside'
                exact (afterHypothesis [] node after rest'.symm).mono
                  (List.nil_subset _)
            | cons middleHead middle =>
                rw [List.cons_append, List.cons_eq_cons] at rest'
                obtain ⟨rfl, rest'⟩ := rest'
                rcases insideHypothesis before node middle inside' with
                  ⟨isFirstChild, deeper⟩ | ⟨above, member, isAboveChild, deeper⟩
                · exact Or.inr ⟨first, List.mem_cons_self, isFirstChild,
                    by rw [deeper, atLevel]⟩
                · exact Or.inr ⟨above, List.mem_cons_of_mem _ member,
                    isAboveChild, deeper⟩

/-- A list that has all children of the root and of its nodes has all
descendants of the root. -/
theorem mem_of_closed {root : κ} {keys : List κ}
    (rootChildren : ∀ node, child root node → key node ∈ keys)
    (closed : ∀ above ∈ keys, ∀ node, child above node → key node ∈ keys)
    {descendant : κ}
    (descends : Relation.TransGen (Edge key child) root descendant) :
    descendant ∈ keys := by
  induction descends with
  | single edge =>
      obtain ⟨node, isChild, rfl⟩ := edge
      exact rootChildren node isChild
  | tail path edge inductionHypothesis =>
      obtain ⟨node, isChild, rfl⟩ := edge
      exact closed _ inductionHypothesis node isChild

end Forest
end WhatsGoingOn
