import SoliditySyntax.Document
import SoliditySyntax.Proofs.Parents
import SoliditySyntax.Proofs.Ranges

/-!
# Declarations as a selection from all nodes

The declarations of a document come from a loop that looks up the named
children of the root by their positions.  The positions count named children
only, while in document order these are mixed with bare tokens and with
whatever stands below all of them.  This module shows that the lookups find
every named child once and in order, so that a declaration is a child of the
root, and the declarations keep the order of the children.

The main theorem says what the loop comes to: no lookup in it is in vain, and
the declarations are the named nodes of the whole tree that have the root as
their parent and are no comments, each once and in document order.  Nothing
else is asked of them, so nodes around unplaced input and missing tokens are
among them.  When the children of the root follow one another without overlap,
so do the declarations.
-/

namespace SoliditySyntax

open SoliditySyntax.Text

/-! ## Named children -/

namespace Node

/-- A named node in front of a list is found first, and each later node one position further on. -/
theorem namedAt?_cons_of_named
    {node : Node}
    (named : node.label.isNamed = true)
    (later : List Node) :
    namedAt? (node :: later) 0 = some node ∧
      ∀ position, namedAt? (node :: later) (position + 1) = namedAt? later position := by
  simp [namedAt?, named]

/-- A node in front of a list that is not named changes no position. -/
theorem namedAt?_cons_of_not_named
    {node : Node}
    (unnamed : ¬ node.label.isNamed = true)
    (later : List Node) :
    namedAt? (node :: later) = namedAt? later := by
  funext position
  simp [namedAt?, unnamed]

/-- Looking up as many named nodes of a list as there are finds each of them once and in order. -/
theorem filterMap_namedAt? (nodes : List Node) :
    (List.range (nodes.countP fun node => node.label.isNamed)).filterMap (namedAt? nodes) =
      nodes.filter fun node => node.label.isNamed := by
  induction nodes with
  | nil =>
      rfl
  | cons node later ih =>
      by_cases named : node.label.isNamed = true
      · rcases namedAt?_cons_of_named named later with ⟨first, behind⟩
        simp only [List.countP_cons, List.filter_cons, named, ↓reduceIte]
        rw [← ih, List.range_succ_eq_map, List.filterMap_cons_some first, List.filterMap_map]
        exact congrArg (List.cons node) (List.filterMap_congr fun position _ => behind position)
      · simp only [List.countP_cons, List.filter_cons, named, Bool.false_eq_true, ↓reduceIte,
          Nat.add_zero]
        rw [namedAt?_cons_of_not_named named, ih]

/-- A lookup by position finds the node that stands there among the named ones. -/
theorem namedAt?_eq_getElem?
    (nodes : List Node)
    (position : Nat) :
    namedAt? nodes position = (nodes.filter fun node => node.label.isNamed)[position]? := by
  induction nodes generalizing position with
  | nil =>
      rfl
  | cons node later ih =>
      by_cases named : node.label.isNamed = true
      · rcases namedAt?_cons_of_named named later with ⟨first, behind⟩
        rw [List.filter_cons, if_pos named]
        cases position with
        | zero =>
            exact first
        | succ position =>
            rw [behind, ih, List.getElem?_cons_succ]
      · rw [namedAt?_cons_of_not_named named, ih, List.filter_cons, if_neg named]

/-- No lookup within the count of named children is in vain. -/
theorem exists_namedChild?
    {node : Node}
    {position : Nat}
    (counted : position < node.namedChildCount) :
    ∃ child, node.namedChild? position = some child := by
  rw [namedChildCount, List.countP_eq_length_filter] at counted
  exact
    ⟨_, (namedAt?_eq_getElem? node.children position).trans (List.getElem?_eq_getElem counted)⟩

/-- The named children are those children that stand for named rules. -/
theorem namedChildren_eq_filter (node : Node) :
    node.namedChildren = node.children.filter (·.label.isNamed) :=
  filterMap_namedAt? node.children

end Node

/-! ## Declarations -/

namespace Document

theorem declarations_sublist_children (document : Document) :
    document.declarations.Sublist document.root.children := by
  rw [declarations, Node.namedChildren_eq_filter]
  exact List.filter_sublist.trans List.filter_sublist

theorem declarations_inOrder (document : Document) :
    document.declarations.Pairwise Node.ComesBefore :=
  document.root.children_inOrder.sublist document.declarations_sublist_children

theorem mem_declarations_iff
    {document : Document}
    {node : Node} :
    node ∈ document.declarations ↔
      node ∈ document.root.children ∧ node.label.isNamed = true ∧
        node.label.kind ≠ NodeKind.comment.text := by
  rw [declarations, Node.namedChildren_eq_filter, List.mem_filter, List.mem_filter, bne_iff_ne,
    and_assoc]

theorem mem_children_of_mem_declarations
    {document : Document}
    {declaration : Node}
    (member : declaration ∈ document.declarations) :
    declaration ∈ document.root.children :=
  (mem_declarations_iff.mp member).1

theorem mem_nodes_of_mem_declarations
    {document : Document}
    {declaration : Node}
    (member : declaration ∈ document.declarations) :
    declaration ∈ document.tree.nodes :=
  Node.child_mem_subtree (mem_children_of_mem_declarations member)

theorem declarations_eq_filter (document : Document) :
    document.declarations =
      document.tree.nodes.filter fun node =>
        document.tree.parentOf? node = some 0 ∧ node.label.isNamed = true ∧
          node.label.kind ≠ "comment" := by
  have children :
      document.root.children =
        document.tree.nodes.filter fun node => document.tree.parentOf? node = some 0 :=
    Tree.children_eq_filter_parentOf? document.root.self_mem_subtree
  rw [declarations, Node.namedChildren_eq_filter, children, List.filter_filter,
    List.filter_filter]
  apply List.filter_congr
  intro node _
  rw [Bool.eq_iff_iff]
  simp [NodeKind.text, and_comm, and_assoc]

/--
The declarations of a document are the named nodes whose parent is the root and
that are no comments, each once and in document order, and every lookup of the
loop that gathers them finds a node.  If each child of the root lies before the
next one, then of any two declarations the earlier one ends before the later
one starts.

Of ranges that are not reversed the condition on the children asks only that
each precedes the next one, as in a laminar tree.  A child with a reversed range
must besides not stop before the child in front of it stops; otherwise the two
children around it could overlap.
-/
theorem declarations_eq_scan (document : Document) :
    (∀ position < document.root.namedChildCount,
        ∃ child, document.root.namedChild? position = some child) ∧
      document.declarations =
        (document.tree.nodes.filter fun node =>
          document.tree.parentOf? node = some 0 ∧ node.label.isNamed = true ∧
            node.label.kind ≠ "comment") ∧
      document.declarations.Pairwise (fun earlier later => earlier.index < later.index) ∧
      (document.root.children.IsChain Node.LiesBefore →
        document.declarations.Pairwise fun earlier later =>
          earlier.range.Precedes later.range) := by
  refine ⟨?_, document.declarations_eq_filter, document.declarations_inOrder, ?_⟩
  · intro position counted
    exact Node.exists_namedChild? counted
  · intro inTurn
    have apart : document.declarations.Pairwise Node.LiesBefore :=
      inTurn.pairwise.sublist document.declarations_sublist_children
    exact apart.imp Node.LiesBefore.precedes

/-- A source whose top level mixes comments, tokens, unplaced input and a missing token. -/
def mixedSample : Document where
  source := "/**/;? a b;enum"
  tree :=
    .node ⟨"source_file", true, true, false, false, none, ⟨0, 15⟩, ⟨0, 0⟩, ⟨0, 15⟩⟩
      [.node ⟨"comment", true, false, false, false, none, ⟨0, 4⟩, ⟨0, 0⟩, ⟨0, 4⟩⟩ [],
        .node ⟨";", false, false, false, false, none, ⟨4, 5⟩, ⟨0, 4⟩, ⟨0, 5⟩⟩ [],
        .node ⟨"ERROR", true, true, true, false, none, ⟨5, 8⟩, ⟨0, 5⟩, ⟨0, 8⟩⟩
          [.node ⟨"identifier", true, false, false, false, none, ⟨7, 8⟩, ⟨0, 7⟩, ⟨0, 8⟩⟩ []],
        .node ⟨"using_directive", true, false, false, false, none, ⟨9, 11⟩, ⟨0, 9⟩, ⟨0, 11⟩⟩
          [.node ⟨"identifier", true, false, false, false, none, ⟨9, 10⟩, ⟨0, 9⟩, ⟨0, 10⟩⟩ [],
            .node ⟨";", false, false, false, false, none, ⟨10, 11⟩, ⟨0, 10⟩, ⟨0, 11⟩⟩ []],
        .node ⟨"enum", false, false, false, false, none, ⟨11, 15⟩, ⟨0, 11⟩, ⟨0, 15⟩⟩ [],
        .node ⟨"identifier", true, true, false, true, none, ⟨15, 15⟩, ⟨0, 15⟩, ⟨0, 15⟩⟩ []]

theorem declarations_mixedSample :
    mixedSample.root.namedChildCount = 4 ∧
      (∃ child, mixedSample.root.namedChild? 3 = some child) ∧
        mixedSample.declarations.map (·.index) = [3, 5, 9] ∧
          mixedSample.root.children.IsChain Node.LiesBefore ∧
            mixedSample.declarations.Pairwise fun earlier later =>
              earlier.range.Precedes later.range := by
  have inTurn : mixedSample.root.children.IsChain Node.LiesBefore := by decide
  rcases declarations_eq_scan mixedSample with ⟨found, scanned, -, apart⟩
  refine ⟨by decide, found 3 (by decide), ?_, inTurn, apart inTurn⟩
  rw [scanned]
  decide

end Document

end SoliditySyntax
