import SoliditySyntax.Proofs.DocumentOrder
import Mathlib.Data.List.Chain

/-!
# Ranges of nodes

A tree is laminar when the ranges of its nodes are arranged like the nodes:
no range is reversed, a child's range lies inside its parent's, and a child
ends where the next one starts or before.  All three are said of a node and
its children only.

The main theorem carries this to any two nodes of a tree: in document order,
the earlier one ends before the later one starts, or its range covers that of
the later one.  Going from neighbours to any two nodes of a list is a matter of
a transitive relation, which precedence is among ranges that are not reversed.
-/

namespace SoliditySyntax

namespace Text.ByteRange

/-- A range ends where another one starts, or before. -/
def Precedes (earlier later : ByteRange) : Prop :=
  earlier.stop ≤ later.start

instance (earlier later : ByteRange) : Decidable (earlier.Precedes later) :=
  inferInstanceAs (Decidable (earlier.stop ≤ later.start))

/-- A range lies inside another one. -/
def Covers (outer inner : ByteRange) : Prop :=
  outer.start ≤ inner.start ∧ inner.stop ≤ outer.stop

instance (outer inner : ByteRange) : Decidable (outer.Covers inner) :=
  inferInstanceAs (Decidable (outer.start ≤ inner.start ∧ inner.stop ≤ outer.stop))

theorem Covers.refl (range : ByteRange) : range.Covers range :=
  ⟨Nat.le_refl _, Nat.le_refl _⟩

theorem Covers.trans
    {outer middle inner : ByteRange}
    (outside : outer.Covers middle)
    (inside : middle.Covers inner) :
    outer.Covers inner :=
  ⟨Nat.le_trans outside.1 inside.1, Nat.le_trans inside.2 outside.2⟩

/-- What lies inside the earlier of two ranges precedes what lies inside the later one. -/
theorem Precedes.inside
    {earlier later first second : ByteRange}
    (precedes : earlier.Precedes later)
    (inEarlier : earlier.Covers first)
    (inLater : later.Covers second) :
    first.Precedes second :=
  calc
    first.stop ≤ earlier.stop := inEarlier.2
    _ ≤ later.start := precedes
    _ ≤ second.start := inLater.1

end Text.ByteRange

open SoliditySyntax.Text

namespace Node

/-- The range that a node covers. -/
def range (node : Node) : ByteRange :=
  node.label.range

/-- The ranges at and below a node are arranged like the nodes. -/
@[mk_iff]
structure Laminar (top : Node) : Prop where
  ordered :
    ∀ node ∈ top.subtree, node.range.start ≤ node.range.stop
  inside :
    ∀ node ∈ top.subtree, ∀ child ∈ node.children,
      node.range.Covers child.range
  inTurn :
    ∀ node ∈ top.subtree,
      node.children.IsChain fun earlier later =>
        earlier.range.Precedes later.range

instance (top : Node) : Decidable top.Laminar :=
  decidable_of_iff _ top.laminar_iff.symm

namespace Laminar

/-- A laminar node is laminar at and below each node of its subtree. -/
theorem of_mem_subtree
    {top node : Node}
    (laminar : top.Laminar)
    (member : node ∈ top.subtree) :
    node.Laminar := by
  have inTop : node.subtree ⊆ top.subtree :=
    subtree_subset member
  constructor
  · intro lower lowerMember
    exact laminar.ordered lower (inTop lowerMember)
  · intro lower lowerMember
    exact laminar.inside lower (inTop lowerMember)
  · intro lower lowerMember
    exact laminar.inTurn lower (inTop lowerMember)

theorem child
    {top child : Node}
    (laminar : top.Laminar)
    (member : child ∈ top.children) :
    child.Laminar :=
  laminar.of_mem_subtree (child_mem_subtree member)

theorem child_ordered
    {top child : Node}
    (laminar : top.Laminar)
    (member : child ∈ top.children) :
    child.range.start ≤ child.range.stop :=
  laminar.ordered child (child_mem_subtree member)

theorem covers
    {top node : Node}
    (laminar : top.Laminar)
    (member : node ∈ top.subtree) :
    top.range.Covers node.range := by
  induction top using childInduction with
  | step top ih =>
      rcases mem_subtree_iff.mp member with rfl | below
      · exact ByteRange.Covers.refl _
      · rcases mem_descendants_iff.mp below with
          ⟨child, childMember, inChild⟩
        have outside : top.range.Covers child.range :=
          laminar.inside top top.self_mem_subtree child childMember
        have inside : child.range.Covers node.range :=
          ih child childMember (laminar.child childMember) inChild
        exact outside.trans inside

end Laminar

/-! ## Neighbours and all later nodes -/

/--
A node lies before another one when its range stops no later than the other
range starts, and no later than it stops.  Of ranges that are not reversed the
first says it all.
-/
def LiesBefore (earlier later : Node) : Prop :=
  earlier.range.stop ≤ later.range.start ∧ earlier.range.stop ≤ later.range.stop

instance (earlier later : Node) : Decidable (earlier.LiesBefore later) :=
  inferInstanceAs
    (Decidable
      (earlier.range.stop ≤ later.range.start ∧ earlier.range.stop ≤ later.range.stop))

/-- What lies before a node lies before all that this one lies before. -/
instance : Trans LiesBefore LiesBefore LiesBefore where
  trans first second :=
    ⟨Nat.le_trans first.2 second.1, Nat.le_trans first.2 second.2⟩

theorem LiesBefore.precedes
    {earlier later : Node}
    (liesBefore : earlier.LiesBefore later) :
    earlier.range.Precedes later.range :=
  liesBefore.1

theorem liesBefore_of_precedes
    {earlier later : Node}
    (ordered : later.range.start ≤ later.range.stop)
    (precedes : earlier.range.Precedes later.range) :
    earlier.LiesBefore later :=
  ⟨precedes, Nat.le_trans precedes ordered⟩

/--
Where neighbours in a list precede one another and no range is reversed, every
node precedes all later ones.  Precedence alone is not passed on across a
reversed range; what is passed on is lying before.
-/
theorem pairwise_precedes_of_isChain
    {nodes : List Node}
    (ordered : ∀ node ∈ nodes, node.range.start ≤ node.range.stop)
    (inTurn :
      nodes.IsChain fun earlier later =>
        earlier.range.Precedes later.range) :
    nodes.Pairwise fun earlier later =>
      earlier.range.Precedes later.range := by
  have apart : nodes.IsChain LiesBefore :=
    inTurn.imp_of_mem_imp fun _ later _ member precedes =>
      liesBefore_of_precedes (ordered later member) precedes
  exact apart.pairwise.imp LiesBefore.precedes

namespace Laminar

theorem children_inTurn
    {top : Node}
    (laminar : top.Laminar) :
    top.children.Pairwise fun earlier later =>
      earlier.range.Precedes later.range := by
  apply pairwise_precedes_of_isChain
  · intro child member
    exact laminar.child_ordered member
  · exact laminar.inTurn top top.self_mem_subtree

/--
In document order, of two nodes the earlier one ends before the later one
starts, or its range covers that of the later one.
-/
theorem pairwise_subtree
    {top : Node}
    (laminar : top.Laminar) :
    top.subtree.Pairwise fun earlier later =>
      earlier.range.Precedes later.range ∨
        earlier.range.Covers later.range := by
  induction top using childInduction with
  | step top ih =>
      rw [subtree_eq_cons]
      apply List.Pairwise.cons
      · intro node below
        exact Or.inr (laminar.covers (mem_subtree_of_mem_descendants below))
      · -- Below the node, two nodes share a child's subtree or come from two children in turn.
        rw [descendants_eq_flatMap, List.pairwise_flatMap]
        constructor
        · intro child member
          exact ih child member (laminar.child member)
        · apply laminar.children_inTurn.imp_of_mem
          rintro earlier later earlierMember laterMember precedes
            first firstMember second secondMember
          have inEarlier := (laminar.child earlierMember).covers firstMember
          have inLater := (laminar.child laterMember).covers secondMember
          exact Or.inl (precedes.inside inEarlier inLater)

end Laminar

end Node

end SoliditySyntax
