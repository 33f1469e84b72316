import SoliditySyntax.Diagnostic
import SoliditySyntax.Parser
import SoliditySyntax.Vocabulary

/-!
# Parsed documents

A document is a source together with the syntax tree that was made of it.  It
answers for its diagnostics and its top-level declarations, and it cuts the
text of a node out of its source.

A node may come from the tree of another document.  Its range is then cut out
of a source that it was not made for, which can fail; the failure names the
range.

The outline of a document lists its declarations with their kinds, names and
texts.  It exists when every name and text in it can be cut out of the source.
-/

namespace SoliditySyntax

open SoliditySyntax.Text

/-- A source and its syntax tree. -/
structure Document where
  source : String
  tree : Tree

/-- One declaration in an outline. -/
structure OutlineItem where
  kind : String
  isDeclaration : Bool
  name? : Option String
  text : String
deriving DecidableEq

namespace Document

/-- Parse a source into a document. -/
def parse (engine : Engine) (source : String) : Outcome Document := do
  let tree ← engine.parse source
  return ⟨source, tree⟩

/-- The topmost node of a document's tree. -/
def root (document : Document) : Node :=
  document.tree.root

/-- Whether the topmost node is said to hold something erroneous. -/
def hasErrors (document : Document) : Bool :=
  document.root.label.hasError

/-- The diagnostics of a document, in document order. -/
def diagnostics (document : Document) : List Diagnostic :=
  document.tree.reported.map Node.report

/-- The named nodes at the top level of a document, comments left out. -/
def declarations (document : Document) : List Node :=
  document.root.namedChildren.filter (·.label.kind != NodeKind.comment.text)

/-- The declarations of one kind. -/
def declarationsOf (document : Document) (kind : String) : List Node :=
  document.declarations.filter (·.label.kind == kind)

/-- The text that a node covers in the source of a document. -/
def textOf (document : Document) (node : Node) : Except BadRange String :=
  slice document.source node.label.range

/-- The text of the first child that a node holds as its name, if there is one. -/
def nameOf (document : Document) (node : Node) : Except BadRange (Option String) :=
  match node.childByField? FieldName.name.text with
  | none => .ok none
  | some child => (document.textOf child).map some

/-- A document as a record of its source and its tree. -/
def inspect (document : Document) : String :=
  record "SourceFile"
    [("source", quote document.source), ("tree", document.tree.inspect)]

/-! ## Outlines -/

/-- The outline's item for a node. -/
def outlineItem (document : Document) (node : Node) : Except BadRange OutlineItem := do
  let name? ← document.nameOf node
  let text ← document.textOf node
  return ⟨node.label.kind, NodeKind.namesDeclaration node.label.kind, name?, text⟩

/-- The declarations of a document as outline items, in order. -/
def outline (document : Document) : Except BadRange (List OutlineItem) :=
  document.declarations.mapM document.outlineItem

end Document

end SoliditySyntax
