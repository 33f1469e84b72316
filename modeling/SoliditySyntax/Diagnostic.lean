import SoliditySyntax.Text.Inspection
import SoliditySyntax.Tree.Basic

/-!
# Diagnostics

A diagnostic reports a node at which the source departs from the grammar:
input that no rule accepts, or a token that is missing.  The nodes to report
are found by a descent from the top of a tree.  Below a missing token nothing
is looked for, and below any other node only the children are entered that
are said to hold something erroneous or are missing themselves.

The descent reports nodes and not just positions, so that a diagnostic can be
traced to the place in the tree that it stems from.
-/

namespace SoliditySyntax

open SoliditySyntax.Text

/-- What is wrong at a place of a source. -/
inductive Problem where
  /-- There is input that no rule accepts. -/
  | unexpected
  /-- A token of the given kind is missing. -/
  | missing (token : String)
deriving DecidableEq

/-- A problem with the part of the source that it concerns. -/
structure Diagnostic where
  problem : Problem
  range : ByteRange
  start : Point
  stop : Point
deriving DecidableEq

/-- Whether a child with this label is entered in the search for problems. -/
def Label.isSuspect (label : Label) : Bool :=
  label.hasError || label.isMissing

mutual

/-- The nodes to report of a tree whose topmost node is entered. -/
def Tree.reportedFrom (index : Nat) : Tree → List Node
  | .node label children =>
      if label.isMissing then
        [⟨index, .node label children⟩]
      else if label.isError then
        ⟨index, .node label children⟩ :: Tree.reportedOfAll (index + 1) children
      else
        Tree.reportedOfAll (index + 1) children

/-- The nodes to report of several sibling trees, of which the suspect ones are entered. -/
def Tree.reportedOfAll (index : Nat) : List Tree → List Node
  | [] => []
  | tree :: later =>
      (if tree.label.isSuspect then tree.reportedFrom index else []) ++
        Tree.reportedOfAll (index + tree.size) later

end

/-- The nodes to report of a whole tree: none unless its topmost node holds something erroneous. -/
def Tree.reported (tree : Tree) : List Node :=
  if tree.label.hasError then tree.reportedFrom 0 else []

/--
The diagnostic of a reported node.  A missing token is told by its kind, even
where the node stands around unplaced input as well, and the node's own range
and places are passed on.
-/
def Node.report (node : Node) : Diagnostic where
  problem := if node.label.isMissing then .missing node.label.kind else .unexpected
  range := node.label.range
  start := node.label.start
  stop := node.label.stop

/-- A problem by its sort, with the quoted kind of a missing token. -/
def Problem.inspect : Problem → String
  | .unexpected => "Unexpected"
  | .missing token => "Missing(" ++ quote token ++ ")"

/-- A diagnostic as a record of all its parts. -/
def Diagnostic.inspect (diagnostic : Diagnostic) : String :=
  record "SyntaxError"
    [("kind", diagnostic.problem.inspect), ("byte_range", diagnostic.range.inspect),
      ("start", diagnostic.start.inspect), ("end", diagnostic.stop.inspect)]

/-- Several diagnostics as a list. -/
def Diagnostic.inspectAll (diagnostics : List Diagnostic) : String :=
  bracketed (diagnostics.map Diagnostic.inspect)

end SoliditySyntax
