import SoliditySyntax.Tree.Entries
import Mathlib.Data.List.Nodup

/-!
# Document order

A node stands at an index in document order, and its subtree takes the indices
from there on, one for each of its nodes.  This module supplies the nodes of a
subtree and the nodes below a node, the relations between a node and those
before it or above it, and an induction that goes from the children of a node to the node.

The indices of a subtree are consecutive, so of two nodes of one tree either
one is above the other or their subtrees take separate indices.  A node can
therefore be told by its index alone, and what stands above it can be looked
up in the list of all nodes.
-/

namespace SoliditySyntax

namespace Tree

/-! ## Indices -/

theorem size_eq (tree : Tree) :
    tree.size = sizeOfAll tree.children + 1 := by
  cases tree
  rfl

theorem size_pos (tree : Tree) : 0 < tree.size := by
  rw [size_eq]
  exact Nat.succ_pos _

theorem bounds_of_mem_topNodes
    {index : Nat}
    {trees : List Tree}
    {node : Node}
    (member : node ∈ topNodes index trees) :
    index ≤ node.index ∧
      node.index + node.tree.size ≤ index + sizeOfAll trees := by
  induction trees generalizing index with
  | nil =>
      simp [topNodes] at member
  | cons tree later ih =>
      simp only [topNodes, List.mem_cons] at member
      simp only [sizeOfAll]
      rcases member with rfl | inLater
      · simp only
        omega
      · have bounds := ih inLater
        omega

/-- The trees of a list take separate indices, the earlier ones first. -/
theorem topNodes_apart
    (index : Nat)
    (trees : List Tree) :
    (topNodes index trees).Pairwise fun earlier later =>
      earlier.index + earlier.tree.size ≤ later.index := by
  induction trees generalizing index with
  | nil =>
      exact List.Pairwise.nil
  | cons tree later ih =>
      apply List.Pairwise.cons
      · intro node member
        exact (bounds_of_mem_topNodes member).1
      · exact ih (index + tree.size)

mutual

theorem map_index_nodesFrom
    (index : Nat)
    (tree : Tree) :
    (tree.nodesFrom index).map (·.index) = List.range' index tree.size := by
  match tree with
  | .node label children =>
      simp only [nodesFrom, size, List.map_cons, List.range'_succ,
        map_index_nodesOfAll (index + 1) children]

theorem map_index_nodesOfAll
    (index : Nat)
    (trees : List Tree) :
    (nodesOfAll index trees).map (·.index) =
      List.range' index (sizeOfAll trees) := by
  match trees with
  | [] =>
      rfl
  | tree :: later =>
      simp only [nodesOfAll, sizeOfAll, List.map_append,
        map_index_nodesFrom index tree,
        map_index_nodesOfAll (index + tree.size) later,
        List.range'_append_1]

end

/-! ## Flat forms -/

mutual

theorem map_label_nodesFrom
    (parent? : Option Nat)
    (index : Nat)
    (tree : Tree) :
    (tree.nodesFrom index).map Node.label =
      (tree.entriesFrom parent? index).map (·.label) := by
  match tree with
  | .node label children =>
      simp only [nodesFrom, entriesFrom, List.map_cons,
        map_label_nodesOfAll index (index + 1) children]
      rfl

theorem map_label_nodesOfAll
    (parent index : Nat)
    (trees : List Tree) :
    (nodesOfAll index trees).map Node.label =
      (entriesOfAll parent index trees).map (·.label) := by
  match trees with
  | [] =>
      rfl
  | tree :: later =>
      simp only [nodesOfAll, entriesOfAll, List.map_append,
        map_label_nodesFrom (some parent) index tree,
        map_label_nodesOfAll parent (index + tree.size) later]

end

end Tree

namespace Node

/-! ## Subtrees -/

/-- A node and all nodes below it, in document order. -/
def subtree (node : Node) : List Node :=
  node.tree.nodesFrom node.index

/-- All nodes below a node, in document order. -/
def descendants (node : Node) : List Node :=
  Tree.nodesOfAll (node.index + 1) node.tree.children

theorem subtree_eq_cons (node : Node) :
    node.subtree = node :: node.descendants := by
  rcases node with ⟨index, label, children⟩
  rfl

theorem mem_subtree_iff {top node : Node} :
    node ∈ top.subtree ↔ node = top ∨ node ∈ top.descendants := by
  rw [subtree_eq_cons, List.mem_cons]

theorem self_mem_subtree (node : Node) : node ∈ node.subtree :=
  mem_subtree_iff.mpr (Or.inl rfl)

theorem mem_subtree_of_mem_descendants
    {top node : Node}
    (below : node ∈ top.descendants) :
    node ∈ top.subtree :=
  mem_subtree_iff.mpr (Or.inr below)

theorem nodesOfAll_eq_flatMap
    (index : Nat)
    (trees : List Tree) :
    Tree.nodesOfAll index trees =
      (Tree.topNodes index trees).flatMap subtree := by
  induction trees generalizing index with
  | nil =>
      rfl
  | cons tree later ih =>
      simp only [Tree.nodesOfAll, Tree.topNodes, List.flatMap_cons, ih]
      rfl

/-- The nodes below a node are the subtrees of its children, one after the other. -/
theorem descendants_eq_flatMap (node : Node) :
    node.descendants = node.children.flatMap subtree :=
  nodesOfAll_eq_flatMap (node.index + 1) node.tree.children

theorem mem_descendants_iff {top node : Node} :
    node ∈ top.descendants ↔ ∃ child ∈ top.children, node ∈ child.subtree := by
  rw [descendants_eq_flatMap, List.mem_flatMap]

theorem subtree_subset_descendants
    {top child : Node}
    (member : child ∈ top.children) :
    child.subtree ⊆ top.descendants := by
  intro lower lowerMember
  exact mem_descendants_iff.mpr ⟨child, member, lowerMember⟩

theorem child_mem_descendants
    {top child : Node}
    (member : child ∈ top.children) :
    child ∈ top.descendants :=
  subtree_subset_descendants member child.self_mem_subtree

theorem child_subtree_subset
    {top child : Node}
    (member : child ∈ top.children) :
    child.subtree ⊆ top.subtree := by
  intro lower lowerMember
  exact mem_subtree_of_mem_descendants
    (subtree_subset_descendants member lowerMember)

theorem child_mem_subtree
    {top child : Node}
    (member : child ∈ top.children) :
    child ∈ top.subtree :=
  child_subtree_subset member child.self_mem_subtree

/-- A child takes indices behind its parent's and within those of its parent's subtree. -/
theorem bounds_of_mem_children
    {node child : Node}
    (member : child ∈ node.children) :
    node.index < child.index ∧
      child.index + child.tree.size ≤ node.index + node.tree.size := by
  have bounds := Tree.bounds_of_mem_topNodes member
  rw [Tree.size_eq node.tree]
  omega

/-- Induction over nodes: from all children of a node to the node itself. -/
@[elab_as_elim]
theorem childInduction
    {motive : Node → Prop}
    (step : ∀ node : Node, (∀ child ∈ node.children, motive child) → motive node)
    (node : Node) :
    motive node :=
  step node fun child _ => childInduction step child
termination_by node.tree.size
decreasing_by
  rename_i member
  have bounds := bounds_of_mem_children member
  omega

theorem bounds_of_mem_subtree
    {top node : Node}
    (member : node ∈ top.subtree) :
    top.index ≤ node.index ∧
      node.index + node.tree.size ≤ top.index + top.tree.size := by
  induction top using childInduction with
  | step top ih =>
      rcases mem_subtree_iff.mp member with rfl | below
      · exact ⟨Nat.le_refl _, Nat.le_refl _⟩
      · rcases mem_descendants_iff.mp below with
          ⟨child, childMember, inChild⟩
        have outer := bounds_of_mem_children childMember
        have inner := ih child childMember inChild
        omega

theorem index_lt_of_mem_descendants
    {top node : Node}
    (below : node ∈ top.descendants) :
    top.index < node.index := by
  rcases mem_descendants_iff.mp below with
    ⟨child, childMember, inChild⟩
  have outer := bounds_of_mem_children childMember
  have inner := bounds_of_mem_subtree inChild
  omega

theorem subtree_subset
    {top node : Node}
    (member : node ∈ top.subtree) :
    node.subtree ⊆ top.subtree := by
  induction top using childInduction with
  | step top ih =>
      rcases mem_subtree_iff.mp member with rfl | below
      · exact List.Subset.refl _
      · rcases mem_descendants_iff.mp below with
          ⟨child, childMember, inChild⟩
        exact
          List.Subset.trans (ih child childMember inChild)
            (child_subtree_subset childMember)

/-! ## Nodes before nodes -/

/-- A node comes before another one in document order. -/
def ComesBefore (earlier later : Node) : Prop :=
  earlier.index < later.index

instance : Std.Irrefl ComesBefore where
  irrefl node := Nat.lt_irrefl node.index

instance : Std.Asymm ComesBefore where
  asymm _ _ := Nat.lt_asymm

theorem subtree_inOrder (top : Node) : top.subtree.Pairwise ComesBefore := by
  have indices : (top.subtree.map (·.index)).Pairwise (· < ·) := by
    rw [subtree, Tree.map_index_nodesFrom]
    exact List.pairwise_lt_range'
  rwa [List.pairwise_map] at indices

theorem children_inOrder (node : Node) : node.children.Pairwise ComesBefore := by
  apply (Tree.topNodes_apart (node.index + 1) node.tree.children).imp
  intro earlier later apart
  have positive := Tree.size_pos earlier.tree
  exact Nat.lt_of_lt_of_le (Nat.lt_add_of_pos_right positive) apart

/-! ## Nodes above nodes -/

/-- A node is above another one when the index of that one is taken by a node below it. -/
def IsAbove (upper lower : Node) : Prop :=
  lower.index ∈ upper.descendants.map (·.index)

instance (upper lower : Node) : Decidable (upper.IsAbove lower) :=
  inferInstanceAs (Decidable (lower.index ∈ upper.descendants.map (·.index)))

theorem isAbove_of_mem_descendants
    {upper lower : Node}
    (below : lower ∈ upper.descendants) :
    upper.IsAbove lower :=
  List.mem_map_of_mem below

/-- A node is above exactly the indices that its subtree takes behind its own. -/
theorem isAbove_iff {upper lower : Node} :
    upper.IsAbove lower ↔
      upper.index < lower.index ∧
        lower.index < upper.index + upper.tree.size := by
  rw [IsAbove, descendants, Tree.map_index_nodesOfAll, List.mem_range'_1,
    Tree.size_eq upper.tree]
  omega

/-- Two nodes of one subtree with the same index are the same node. -/
theorem eq_of_index_eq
    {top first second : Node}
    (firstMember : first ∈ top.subtree)
    (secondMember : second ∈ top.subtree)
    (same : first.index = second.index) :
    first = second := by
  have distinct : (top.subtree.map (·.index)).Nodup := by
    rw [subtree, Tree.map_index_nodesFrom]
    exact List.nodup_range'
  exact List.inj_on_of_nodup_map distinct firstMember secondMember same

/-- In one tree indices are distinct, so what is above a node is told by its descendants. -/
theorem isAbove_iff_mem_descendants
    {top upper lower : Node}
    (upperMember : upper ∈ top.subtree)
    (lowerMember : lower ∈ top.subtree) :
    upper.IsAbove lower ↔ lower ∈ upper.descendants := by
  constructor
  · intro above
    rcases List.mem_map.mp above with ⟨found, foundMember, same⟩
    have inTop : found ∈ top.subtree :=
      subtree_subset upperMember (mem_subtree_of_mem_descendants foundMember)
    rwa [← eq_of_index_eq inTop lowerMember same]
  · exact isAbove_of_mem_descendants

theorem mem_subtree_of_isAbove_or_index_eq
    {top upper lower : Node}
    (upperMember : upper ∈ top.subtree)
    (lowerMember : lower ∈ top.subtree)
    (reaches : upper.IsAbove lower ∨ upper.index = lower.index) :
    lower ∈ upper.subtree := by
  rcases reaches with above | same
  · exact
      mem_subtree_of_mem_descendants
        ((isAbove_iff_mem_descendants upperMember lowerMember).mp above)
  · rw [eq_of_index_eq upperMember lowerMember same]
    exact lower.self_mem_subtree

theorem eq_of_mem_children_of_meets
    {node first second : Node}
    {index : Nat}
    (firstMember : first ∈ node.children)
    (secondMember : second ∈ node.children)
    (firstMeets : first.index ≤ index ∧ index < first.index + first.tree.size)
    (secondMeets : second.index ≤ index ∧ index < second.index + second.tree.size) :
    first = second := by
  have apart := Tree.topNodes_apart (node.index + 1) node.tree.children
  have unique :=
    List.Pairwise.forall_of_forall_of_flip
      (R := fun earlier later : Node =>
        earlier.index ≤ index ∧ index < earlier.index + earlier.tree.size →
          later.index ≤ index ∧ index < later.index + later.tree.size →
            earlier = later)
      (fun _ _ _ _ => rfl)
      (apart.imp fun separate _ _ => by omega)
      (apart.imp fun separate _ _ => by omega)
  exact unique firstMember secondMember firstMeets secondMeets

/--
A node below `top` that is above a node of a child's subtree, or has its
index, belongs to the same child's subtree, since no index is taken by the
subtrees of two children.
-/
theorem mem_child_subtree_of_isAbove_or_index_eq
    {top child upper lower : Node}
    (childMember : child ∈ top.children)
    (lowerMember : lower ∈ child.subtree)
    (upperMember : upper ∈ top.descendants)
    (reaches : upper.IsAbove lower ∨ upper.index = lower.index) :
    upper ∈ child.subtree := by
  rcases mem_descendants_iff.mp upperMember with
    ⟨other, otherMember, inOther⟩
  have lowerBounds := bounds_of_mem_subtree lowerMember
  have upperBounds := bounds_of_mem_subtree inOther
  have lowerPositive := Tree.size_pos lower.tree
  have upperPositive := Tree.size_pos upper.tree
  have meets :
      other.index ≤ lower.index ∧
        lower.index < other.index + other.tree.size := by
    rcases reaches with above | same
    · have range := isAbove_iff.mp above
      omega
    · omega
  have same : other = child :=
    eq_of_mem_children_of_meets otherMember childMember meets (by omega)
  rwa [← same]

end Node

theorem Tree.child_mem_nodes
    {tree : Tree}
    {node child : Node}
    (member : node ∈ tree.nodes)
    (childMember : child ∈ node.children) :
    child ∈ tree.nodes := by
  have inTree : node ∈ tree.root.subtree := member
  exact Node.subtree_subset inTree (Node.child_mem_subtree childMember)

end SoliditySyntax
