import SoliditySyntax.Document
import SoliditySyntax.Proofs.Parents
import SoliditySyntax.Proofs.Ranges
import SoliditySyntax.Proofs.Slices

/-!
# Names of nodes

A node holds some of its children under fields, and its name is the text of
the first child that it holds under the field for names.  This module says
which child that is in the flat form of a tree, where the entries of children
are mixed with those of everything below them, and what asking for the name
then answers.

The main theorem decides between the three answers.  The document that is
asked need not be the one whose tree the node comes from, so the range of the
child may cover no slice of its source; and nothing but this range is used.
-/

namespace SoliditySyntax

open SoliditySyntax.Text

namespace Tree

/-! ## Children under a field -/

/-- A node of a tree holds another one under a field, by the flat form of the tree. -/
structure Holds (tree : Tree) (node : Node) (field : String) (child : Node) : Prop where
  member : child ∈ tree.nodes
  parent : tree.parentOf? child = some node.index
  underField : child.label.field? = some field

/-- No other node that is held under the field comes before this one. -/
structure HoldsFirst (tree : Tree) (node : Node) (field : String) (child : Node) : Prop
    extends tree.Holds node field child where
  first : ∀ other, tree.Holds node field other → ¬ other.ComesBefore child

variable {tree : Tree} {node : Node} {field : String}

theorem HoldsFirst.unique
    {first second : Node}
    (firstHeld : tree.HoldsFirst node field first)
    (secondHeld : tree.HoldsFirst node field second) :
    first = second := by
  have notBefore := firstHeld.first second secondHeld.toHolds
  have notBehind := secondHeld.first first firstHeld.toHolds
  have same : first.index = second.index :=
    Nat.le_antisymm (Nat.le_of_not_lt notBefore) (Nat.le_of_not_lt notBehind)
  have inTree : first ∈ tree.root.subtree := firstHeld.member
  exact Node.eq_of_index_eq inTree secondHeld.member same

theorem holds_iff
    (member : node ∈ tree.nodes)
    {child : Node} :
    tree.Holds node field child ↔
      child ∈ node.children ∧ child.label.field? = some field := by
  rw [mem_children_iff member]
  constructor
  · rintro ⟨inTree, parent, underField⟩
    exact ⟨⟨inTree, parent⟩, underField⟩
  · rintro ⟨⟨inTree, parent⟩, underField⟩
    exact ⟨inTree, parent, underField⟩

theorem childByField?_eq_none_iff (member : node ∈ tree.nodes) :
    node.childByField? field = none ↔ ∀ child, ¬ tree.Holds node field child := by
  simp [Node.childByField?, holds_iff member]

theorem holdsFirst_of_childByField?
    (member : node ∈ tree.nodes)
    {child : Node}
    (found : node.childByField? field = some child) :
    tree.HoldsFirst node field child := by
  rcases List.find?_eq_some_iff_append.mp found with ⟨underField, before, after, split, skipped⟩
  have inOrder := node.children_inOrder
  rw [split, List.pairwise_append, List.pairwise_cons] at inOrder
  rcases inOrder with ⟨-, ⟨inFront, -⟩, -⟩
  have held : child ∈ node.children := List.mem_of_find?_eq_some found
  refine ⟨(holds_iff member).mpr ⟨held, beq_iff_eq.mp underField⟩, ?_⟩
  intro other otherHeld comesBefore
  rcases (holds_iff member).mp otherHeld with ⟨otherMember, otherField⟩
  rw [split, List.mem_append, List.mem_cons] at otherMember
  rcases otherMember with passed | rfl | behind
  · simpa [otherField] using skipped other passed
  · exact Nat.lt_irrefl _ comesBefore
  · exact Nat.lt_asymm comesBefore (inFront other behind)

theorem childByField?_eq_some_iff
    (member : node ∈ tree.nodes)
    {child : Node} :
    node.childByField? field = some child ↔ tree.HoldsFirst node field child := by
  constructor
  · exact holdsFirst_of_childByField? member
  · intro heldFirst
    cases found : node.childByField? field with
    | none =>
        exact absurd heldFirst.toHolds ((childByField?_eq_none_iff member).mp found child)
    | some other =>
        exact congrArg some ((holdsFirst_of_childByField? member found).unique heldFirst)

end Tree

namespace Document

/-! ## Answers to the question for a name -/

theorem nameOf_of_unnamed
    {document : Document}
    {node : Node}
    (unnamed : node.childByField? FieldName.name.text = none) :
    document.nameOf node = .ok none := by
  simp only [nameOf, unnamed]

theorem nameOf_of_named
    {document : Document}
    {node child : Node}
    (named : node.childByField? FieldName.name.text = some child) :
    document.nameOf node = (document.textOf child).map some := by
  simp only [nameOf, named]

theorem nameOf_eq_none_iff {document : Document} {node : Node} :
    document.nameOf node = .ok none ↔ node.childByField? FieldName.name.text = none := by
  cases found : node.childByField? FieldName.name.text with
  | none =>
      simp [nameOf_of_unnamed found]
  | some child =>
      rw [nameOf_of_named found]
      cases document.textOf child <;> simp [Except.map]

theorem nameOf_eq_error_iff
    {document : Document}
    {node : Node}
    {bad : BadRange} :
    document.nameOf node = .error bad ↔
      ∃ child, node.childByField? FieldName.name.text = some child ∧
        ¬ child.range.Fits document.source ∧ bad = ⟨child.range⟩ := by
  cases found : node.childByField? FieldName.name.text with
  | none =>
      simp [nameOf_of_unnamed found]
  | some child =>
      have failsWithChild :
          (document.textOf child).map some = .error bad ↔ document.textOf child = .error bad := by
        cases document.textOf child <;> simp [Except.map]
      rw [nameOf_of_named found, failsWithChild, textOf, slice_eq_error_iff]
      simp [Node.range]

/-- Of the child that is found, only the range is used. -/
theorem nameOf_congr
    {document : Document}
    {node node' : Node}
    (same :
      (node.childByField? FieldName.name.text).map Node.range =
        (node'.childByField? FieldName.name.text).map Node.range) :
    document.nameOf node = document.nameOf node' := by
  have byRange (asked : Node) :
      document.nameOf asked =
        match (asked.childByField? FieldName.name.text).map Node.range with
        | none => .ok none
        | some range => (slice document.source range).map some := by
    cases found : asked.childByField? FieldName.name.text with
    | none =>
        exact nameOf_of_unnamed found
    | some child =>
        exact nameOf_of_named found
  rw [byRange node, byRange node', same]

/--
Asking for the name of a node answers that there is none exactly when the node
holds no child under the field for names.  Otherwise it answers the text of the
first such child, and it fails exactly when that child's range covers no slice
of the source.  Two nodes whose first such children have the same range, or
which both have none, are answered alike.
-/
theorem nameOf_decided
    (document : Document)
    (tree : Tree)
    (node : Node)
    (member : node ∈ tree.nodes) :
    (document.nameOf node = .ok none ↔ ∀ child, ¬ tree.Holds node "name" child) ∧
      ((∃ child, tree.Holds node "name" child) →
        ∃ child, tree.HoldsFirst node "name" child) ∧
      (∀ child, tree.HoldsFirst node "name" child →
        document.nameOf node = (document.textOf child).map some) ∧
      (∀ bad, document.nameOf node = .error bad ↔
        ∃ child, tree.HoldsFirst node "name" child ∧
          ¬ child.range.Fits document.source ∧ bad = ⟨child.range⟩) ∧
      ∀ (tree' : Tree) (node' : Node), node' ∈ tree'.nodes →
        (∀ range : ByteRange,
          (∃ child, tree.HoldsFirst node "name" child ∧ child.range = range) ↔
            ∃ child, tree'.HoldsFirst node' "name" child ∧ child.range = range) →
        document.nameOf node = document.nameOf node' := by
  refine ⟨?_, ?_, ?_, ?_, ?_⟩
  · exact nameOf_eq_none_iff.trans (Tree.childByField?_eq_none_iff member)
  · rintro ⟨child, held⟩
    cases found : node.childByField? "name" with
    | none =>
        exact absurd held ((Tree.childByField?_eq_none_iff member).mp found child)
    | some first =>
        exact ⟨first, Tree.holdsFirst_of_childByField? member found⟩
  · intro child heldFirst
    exact nameOf_of_named ((Tree.childByField?_eq_some_iff member).mpr heldFirst)
  · intro bad
    simp only [← Tree.childByField?_eq_some_iff member]
    exact nameOf_eq_error_iff
  · intro tree' node' member' sameRanges
    apply nameOf_congr
    ext range
    simp only [Option.map_eq_some_iff]
    simp only [← Tree.childByField?_eq_some_iff member,
      ← Tree.childByField?_eq_some_iff member'] at sameRanges
    exact sameRanges range

/-- An identifier in the place of a name, whatever range it has. -/
def nameAt (range : ByteRange) (isMissing : Bool) : Tree :=
  .node
    ⟨"identifier", true, false, false, isMissing, some "name", range, ⟨0, range.start⟩,
      ⟨0, range.stop⟩⟩
    []

/-- A contract with a name below its first child, and then two names of its own. -/
def doublyNamed : Tree :=
  .node ⟨"contract_declaration", true, true, false, false, none, ⟨0, 40⟩, ⟨0, 0⟩, ⟨0, 40⟩⟩
    [.node ⟨"modifier", true, false, false, false, none, ⟨0, 9⟩, ⟨0, 0⟩, ⟨0, 9⟩⟩
        [nameAt ⟨0, 1⟩ false],
      nameAt ⟨1, 3⟩ true, nameAt ⟨2, 3⟩ false]

/-- An enumeration with one name. -/
def namedEnum (range : ByteRange) : Tree :=
  .node ⟨"enum_declaration", true, false, false, false, none, ⟨5, 2⟩, ⟨0, 5⟩, ⟨0, 2⟩⟩
    [nameAt range false]

/-- A source that none of these trees was made for. -/
def shortSample : Document where
  source := "né"
  tree := .node ⟨"source_file", true, false, false, false, none, ⟨0, 3⟩, ⟨0, 0⟩, ⟨0, 3⟩⟩ []

/-- The first name of its own decides; a name that starts inside a letter is no slice. -/
theorem nameOf_shortSample :
    doublyNamed.root ∈ doublyNamed.nodes ∧
      shortSample.nameOf doublyNamed.root = .ok (some "é") ∧
        shortSample.nameOf (namedEnum ⟨1, 3⟩).root = .ok (some "é") ∧
          shortSample.nameOf (namedEnum ⟨2, 3⟩).root = .error ⟨⟨2, 3⟩⟩ ∧
            shortSample.nameOf (nameAt ⟨1, 3⟩ true).root = .ok none := by
  have member (tree : Tree) : tree.root ∈ tree.nodes := tree.root.self_mem_subtree
  rcases nameOf_decided shortSample doublyNamed doublyNamed.root (member _) with
    ⟨-, -, answers, -, alike⟩
  rcases nameOf_decided shortSample (namedEnum ⟨2, 3⟩) (namedEnum ⟨2, 3⟩).root (member _) with
    ⟨-, -, -, fails, -⟩
  rcases nameOf_decided shortSample (nameAt ⟨1, 3⟩ true) (nameAt ⟨1, 3⟩ true).root (member _) with
    ⟨unnamed, -⟩
  have heldFirst : doublyNamed.HoldsFirst doublyNamed.root "name" ⟨3, nameAt ⟨1, 3⟩ true⟩ :=
    (Tree.childByField?_eq_some_iff (member _)).mp rfl
  have held :
      (namedEnum ⟨2, 3⟩).HoldsFirst (namedEnum ⟨2, 3⟩).root "name" ⟨1, nameAt ⟨2, 3⟩ false⟩ :=
    (Tree.childByField?_eq_some_iff (member _)).mp rfl
  have answered : shortSample.nameOf doublyNamed.root = .ok (some "é") := by
    rw [answers _ heldFirst]
    decide
  refine ⟨member _, answered, ?_, (fails _).mpr ⟨_, held, by decide, rfl⟩, ?_⟩
  · rw [← answered]
    refine (alike (namedEnum ⟨1, 3⟩) _ (member _) ?_).symm
    simp only [← Tree.childByField?_eq_some_iff (member _)]
    intro range
    constructor
    · rintro ⟨_, ⟨rfl⟩, rfl⟩
      exact ⟨_, rfl, rfl⟩
    · rintro ⟨_, ⟨rfl⟩, rfl⟩
      exact ⟨_, rfl, rfl⟩
  · exact unnamed.mpr ((Tree.childByField?_eq_none_iff (member _)).mp rfl)

end Document

end SoliditySyntax
