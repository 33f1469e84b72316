import SoliditySyntax.Text.Bytes
import SoliditySyntax.Text.Inspection

/-!
# Syntax trees

A syntax tree is a labelled tree in which every node has an ordered list of
children.  A label holds what is known of its node alone: its kind, its flags,
the field under which its parent holds it, and the part of the source that it
covers, in bytes and in rows and columns.

A node is a place in a whole tree: the subtree that stands there together with
its index in document order, in which a node comes before its descendants and
these come before its later siblings.  The index of a node is computed from
the sizes of the subtrees before it, so no tree can disagree with its indices.

Trees are made and walked by the engine.  Three look-ups of it are used here,
the number of named children, the named child at a position and the child under
a field.  They are taken as documented, and their definitions below stand for
these laws: the first two count only the children that stand for named rules,
and the third answers with the first child that is held under the field.
-/

namespace SoliditySyntax

open SoliditySyntax.Text

/-- A place in a source: a row, and a column counted in bytes, both from zero. -/
structure Point where
  row : Nat
  column : Nat
deriving DecidableEq

/-- A place as a record of its row and column. -/
def Point.inspect (point : Point) : String :=
  record "Point" [("row", toString point.row), ("column", toString point.column)]

/-- A place as a pair of its row and column. -/
def Point.inspectPair (point : Point) : String :=
  "(" ++ toString point.row ++ ", " ++ toString point.column ++ ")"

/-- What is known of a node apart from its children. -/
structure Label where
  /-- The text by which the grammar names the node's kind. -/
  kind : String
  /-- Whether the node stands for a named rule, and not for a bare token. -/
  isNamed : Bool
  /-- Whether the node is said to hold something erroneous. -/
  hasError : Bool
  /-- Whether the node stands around input that no rule accepts. -/
  isError : Bool
  /-- Whether the node stands for a token that the source lacks. -/
  isMissing : Bool
  /-- The field under which the node's parent holds it. -/
  field? : Option String
  /-- The part of the source that the node covers. -/
  range : ByteRange
  /-- The place where the node starts. -/
  start : Point
  /-- The place just after the node. -/
  stop : Point
deriving DecidableEq

/-- A node with its label and the subtrees below it, in order. -/
inductive Tree where
  | node (label : Label) (children : List Tree)

/-- A subtree of a whole tree, with its index in document order. -/
structure Node where
  index : Nat
  tree : Tree

namespace Tree

/-- The label of the topmost node. -/
def label : Tree → Label
  | .node label _ => label

/-- The subtrees just below the topmost node. -/
def children : Tree → List Tree
  | .node _ children => children

@[simp]
theorem label_node (label : Label) (children : List Tree) :
    (Tree.node label children).label = label :=
  rfl

@[simp]
theorem children_node (label : Label) (children : List Tree) :
    (Tree.node label children).children = children :=
  rfl

mutual

/-- The number of nodes of a tree. -/
def size : Tree → Nat
  | .node _ children => sizeOfAll children + 1

/-- The number of nodes of several trees together. -/
def sizeOfAll : List Tree → Nat
  | [] => 0
  | tree :: later => tree.size + sizeOfAll later

end

mutual

/-- Every node of a tree in document order, when the first of them has the given index. -/
def nodesFrom (index : Nat) : Tree → List Node
  | .node label children =>
      ⟨index, .node label children⟩ :: nodesOfAll (index + 1) children

/-- Every node of several trees in document order, when the first of them has the given index. -/
def nodesOfAll (index : Nat) : List Tree → List Node
  | [] => []
  | tree :: later => tree.nodesFrom index ++ nodesOfAll (index + tree.size) later

end

/-- Every node of a whole tree in document order. -/
def nodes (tree : Tree) : List Node :=
  tree.nodesFrom 0

/-- The topmost node of a whole tree. -/
def root (tree : Tree) : Node :=
  ⟨0, tree⟩

/-- The topmost nodes of several trees, when the first of them has the given index. -/
def topNodes (index : Nat) : List Tree → List Node
  | [] => []
  | tree :: later => ⟨index, tree⟩ :: topNodes (index + tree.size) later

/-- The topmost node of a tree by its kind and the places where it starts and stops. -/
def inspect (tree : Tree) : String :=
  "\x7bTree \x7bNode " ++ tree.label.kind ++ " " ++ tree.label.start.inspectPair ++ " - " ++
    tree.label.stop.inspectPair ++ "\x7d\x7d"

end Tree

namespace Node

/-- The label of a node. -/
def label (node : Node) : Label :=
  node.tree.label

/-- The nodes just below a node, in order. -/
def children (node : Node) : List Node :=
  Tree.topNodes (node.index + 1) node.tree.children

/-- The number of children that stand for named rules. -/
def namedChildCount (node : Node) : Nat :=
  node.children.countP (·.label.isNamed)

/-- The named node at a position of a list, when only its named nodes are counted. -/
def namedAt? : List Node → Nat → Option Node
  | [], _ => none
  | node :: later, position =>
      if node.label.isNamed then
        match position with
        | 0 => some node
        | position + 1 => namedAt? later position
      else
        namedAt? later position

/-- The child at a position among those that stand for named rules. -/
def namedChild? (node : Node) (position : Nat) : Option Node :=
  namedAt? node.children position

/-- The children that stand for named rules, looked up one after the other. -/
def namedChildren (node : Node) : List Node :=
  (List.range node.namedChildCount).filterMap node.namedChild?

/-- The first child that the node holds under a field. -/
def childByField? (node : Node) (field : String) : Option Node :=
  node.children.find? (·.label.field? == some field)

end Node

end SoliditySyntax
