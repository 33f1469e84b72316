import SoliditySyntax.Proofs.DocumentOrder
import Mathlib.Data.List.Sort

/-!
# Children by the flat form of a tree

The flat form of a tree has an entry for every node, and an entry names the
position of the node's parent.  Between a node and its next sibling stand the
entries of everything below the node, so the children of a node do not lie
next to one another.

This module lists the nodes of a tree side by side with their entries and
shows that the children of a node are the nodes whose entries name it as their
parent, in document order.  What is said of the children of a node can then be
said of the flat form, without following the tree.
-/

namespace SoliditySyntax

namespace Node

/-! ## Nodes beside their entries -/

/-- The flat form of a node that stands below a given parent. -/
def entries (parent? : Option Nat) (node : Node) : List Entry :=
  node.tree.entriesFrom parent? node.index

theorem entriesOfAll_eq_flatMap
    (parent index : Nat)
    (trees : List Tree) :
    Tree.entriesOfAll parent index trees =
      (Tree.topNodes index trees).flatMap (entries (some parent)) := by
  induction trees generalizing index with
  | nil =>
      rfl
  | cons tree later ih =>
      simp only [Tree.entriesOfAll, Tree.topNodes, List.flatMap_cons, ih]
      rfl

theorem entries_eq_cons (parent? : Option Nat) (node : Node) :
    node.entries parent? =
      ⟨parent?, node.label⟩ :: node.children.flatMap (entries (some node.index)) := by
  rcases node with ⟨index, label, children⟩
  rw [Node.children, ← entriesOfAll_eq_flatMap]
  rfl

theorem length_entries (parent? : Option Nat) (node : Node) :
    (node.entries parent?).length = node.subtree.length := by
  have labels := congrArg List.length (Tree.map_label_nodesFrom parent? node.index node.tree)
  rw [List.length_map, List.length_map] at labels
  exact labels.symm

/-- A node and the nodes below it side by side with their entries. -/
def listing (parent? : Option Nat) (node : Node) : List (Node × Entry) :=
  node.subtree.zip (node.entries parent?)

theorem zip_subtrees_entries (parent? : Option Nat) (nodes : List Node) :
    (nodes.flatMap subtree).zip (nodes.flatMap (entries parent?)) =
      nodes.flatMap (listing parent?) := by
  induction nodes with
  | nil =>
      rfl
  | cons node later ih =>
      rw [List.flatMap_cons, List.flatMap_cons, List.flatMap_cons,
        List.zip_append (node.length_entries parent?).symm, ih, listing]

theorem mem_listing_iff
    {parent? : Option Nat}
    {top node : Node}
    {entry : Entry} :
    (node, entry) ∈ top.listing parent? ↔
      node = top ∧ entry = ⟨parent?, top.label⟩ ∨
        ∃ child ∈ top.children, (node, entry) ∈ child.listing (some top.index) := by
  rw [listing, subtree_eq_cons, descendants_eq_flatMap, entries_eq_cons, List.zip_cons_cons,
    zip_subtrees_entries, List.mem_cons, Prod.mk.injEq, List.mem_flatMap]

/-- An entry names the node that holds its own node as a child; only the topmost is held by none. -/
theorem eq_or_mem_children_of_mem_listing
    {parent? : Option Nat}
    {top lower : Node}
    {entry : Entry}
    (listed : (lower, entry) ∈ top.listing parent?) :
    lower = top ∧ entry.parent? = parent? ∨
      ∃ upper ∈ top.subtree, lower ∈ upper.children ∧ entry.parent? = some upper.index := by
  induction top using childInduction generalizing parent? with
  | step top ih =>
      rcases mem_listing_iff.mp listed with ⟨rfl, rfl⟩ | ⟨child, member, inChild⟩
      · exact Or.inl ⟨rfl, rfl⟩
      · rcases ih child member inChild with ⟨rfl, named⟩ | ⟨upper, below, held, named⟩
        · exact Or.inr ⟨top, top.self_mem_subtree, member, named⟩
        · exact Or.inr ⟨upper, child_subtree_subset member below, held, named⟩

/-- The entry of a child names the node that holds it. -/
theorem child_mem_listing
    {parent? : Option Nat}
    {top upper child : Node}
    (upperMember : upper ∈ top.subtree)
    (member : child ∈ upper.children) :
    (child, ⟨some upper.index, child.label⟩) ∈ top.listing parent? := by
  induction top using childInduction generalizing parent? with
  | step top ih =>
      apply mem_listing_iff.mpr
      rcases mem_subtree_iff.mp upperMember with rfl | below
      · exact Or.inr ⟨child, member, mem_listing_iff.mpr (Or.inl ⟨rfl, rfl⟩)⟩
      · rcases mem_descendants_iff.mp below with ⟨other, otherMember, inOther⟩
        exact Or.inr ⟨other, otherMember, ih other otherMember inOther⟩

end Node

namespace Tree

/-- The position of a node's parent, as the flat form of the tree names it. -/
def parentOf? (tree : Tree) (node : Node) : Option Nat :=
  tree.entries[node.index]?.bind (·.parent?)

/-- The nodes of a tree stand at their indices. -/
theorem getElem?_nodes_eq_some_iff
    {tree : Tree}
    {node : Node}
    {position : Nat} :
    tree.nodes[position]? = some node ↔ node ∈ tree.nodes ∧ node.index = position := by
  have indices : tree.nodes.map (·.index) = List.range' 0 tree.size :=
    map_index_nodesFrom 0 tree
  have atPosition
      {place : Nat}
      {found : Node}
      (stands : tree.nodes[place]? = some found) :
      found.index = place := by
    have same : (tree.nodes.map (·.index))[place]? = some found.index := by
      rw [List.getElem?_map, stands, Option.map_some]
    rw [indices, List.getElem?_eq_some_iff] at same
    simpa using same.2.symm
  constructor
  · intro stands
    exact ⟨List.mem_of_getElem? stands, atPosition stands⟩
  · rintro ⟨member, rfl⟩
    rcases List.mem_iff_getElem?.mp member with ⟨place, stands⟩
    rwa [atPosition stands]

theorem mem_listing_root_iff
    {tree : Tree}
    {node : Node}
    {entry : Entry} :
    (node, entry) ∈ tree.root.listing none ↔
      node ∈ tree.nodes ∧ tree.entries[node.index]? = some entry := by
  show (node, entry) ∈ tree.nodes.zip tree.entries ↔ _
  simp only [List.mem_iff_getElem?, List.getElem?_zip_eq_some]
  constructor
  · rintro ⟨position, stands, listed⟩
    rcases getElem?_nodes_eq_some_iff.mp stands with ⟨-, rfl⟩
    exact ⟨⟨_, stands⟩, listed⟩
  · rintro ⟨⟨position, stands⟩, listed⟩
    rcases getElem?_nodes_eq_some_iff.mp stands with ⟨-, rfl⟩
    exact ⟨_, stands, listed⟩

/-- The children of a node are the nodes whose entries name it as their parent. -/
theorem mem_children_iff
    {tree : Tree}
    {node lower : Node}
    (member : node ∈ tree.nodes) :
    lower ∈ node.children ↔ lower ∈ tree.nodes ∧ tree.parentOf? lower = some node.index := by
  constructor
  · intro held
    rcases mem_listing_root_iff.mp (Node.child_mem_listing member held) with ⟨inTree, listed⟩
    exact ⟨inTree, by rw [parentOf?, listed, Option.bind_some]⟩
  · rintro ⟨inTree, named⟩
    rcases Option.bind_eq_some_iff.mp named with ⟨entry, listed, parentEq⟩
    rcases Node.eq_or_mem_children_of_mem_listing (mem_listing_root_iff.mpr ⟨inTree, listed⟩) with
      ⟨-, topmost⟩ | ⟨upper, upperMember, held, named⟩
    · rw [topmost] at parentEq
      cases parentEq
    · have same : upper.index = node.index :=
        Option.some.inj (named.symm.trans parentEq)
      rwa [← Node.eq_of_index_eq upperMember member same]

/-- In the list of all nodes, the children of a node are found by their parent, and in order. -/
theorem children_eq_filter_parentOf?
    {tree : Tree}
    {node : Node}
    (member : node ∈ tree.nodes) :
    node.children =
      tree.nodes.filter fun lower => tree.parentOf? lower = some node.index := by
  apply node.children_inOrder.eq_of_mem_iff (tree.root.subtree_inOrder.filter _)
  intro lower
  rw [mem_children_iff member, List.mem_filter, decide_eq_true_eq]
  exact Iff.rfl

end Tree

end SoliditySyntax
