import SoliditySyntax.Proofs.Positions
import SoliditySyntax.Proofs.ProblemScan
import SoliditySyntax.Proofs.Ranges

/-!
# Where diagnostics lie in a source

The nodes of a document are placed when their ranges are laminar and fit into
the source, and when each node starts and stops at the places of its offsets.
This module shows what the places of the diagnostics are like then, whatever
the flags of the nodes say.

Diagnostics are reports of nodes in document order, so the facts about any two
nodes of a laminar tree pass on to any two diagnostics.
-/

namespace SoliditySyntax

open SoliditySyntax.Text

namespace Document

/-- The nodes of a document lie in its source as their offsets say. -/
@[mk_iff]
structure Placed (document : Document) : Prop where
  laminar : document.root.Laminar
  fits : document.root.range.stop ≤ document.source.utf8ByteSize
  starts :
    ∀ node ∈ document.tree.nodes,
      node.label.start = Point.atOffset document.source node.range.start
  stops :
    ∀ node ∈ document.tree.nodes,
      node.label.stop = Point.atOffset document.source node.range.stop

instance (document : Document) : Decidable document.Placed :=
  decidable_of_iff _ document.placed_iff.symm

/-- The reported nodes are nodes of the tree, each once and in document order. -/
theorem reported_sublist_nodes (document : Document) :
    document.tree.reported.Sublist document.tree.nodes := by
  rw [Tree.reported_eq_scan]
  split
  · exact List.filter_sublist
  · exact List.nil_sublist _

/-- What holds of the report of every node holds of every diagnostic. -/
theorem forall_mem_diagnostics
    {document : Document}
    {holds : Diagnostic → Prop}
    (nodesHold : ∀ node ∈ document.tree.nodes, holds node.report) :
    ∀ diagnostic ∈ document.diagnostics, holds diagnostic := by
  intro diagnostic member
  rcases List.mem_map.mp member with ⟨node, reported, rfl⟩
  exact nodesHold node (document.reported_sublist_nodes.subset reported)

/-- What holds of the reports of any two nodes in document order holds of any two diagnostics. -/
theorem pairwise_diagnostics
    {document : Document}
    {related : Diagnostic → Diagnostic → Prop}
    (nodesRelated :
      document.tree.nodes.Pairwise fun earlier later =>
        related earlier.report later.report) :
    document.diagnostics.Pairwise related :=
  List.pairwise_map.mpr (nodesRelated.sublist document.reported_sublist_nodes)

namespace Placed

variable {document : Document}

theorem bounds
    (placed : document.Placed)
    {node : Node}
    (member : node ∈ document.tree.nodes) :
    node.range.start ≤ node.range.stop ∧
      node.range.stop ≤ document.source.utf8ByteSize ∧
        node.label.start ≤ node.label.stop := by
  have ordered := placed.laminar.ordered node member
  have covered := placed.laminar.covers member
  refine ⟨ordered, Nat.le_trans covered.2 placed.fits, ?_⟩
  rw [placed.starts node member, placed.stops node member]
  exact Point.atOffset_mono document.source ordered

theorem pairwise_starts (placed : document.Placed) :
    document.tree.nodes.Pairwise fun earlier later =>
      earlier.range.start ≤ later.range.start ∧ earlier.label.start ≤ later.label.start := by
  apply placed.laminar.pairwise_subtree.imp_of_mem
  intro earlier later earlierMember laterMember arranged
  have startsInTurn : earlier.range.start ≤ later.range.start := by
    rcases arranged with precedes | covers
    · exact Nat.le_trans (placed.laminar.ordered earlier earlierMember) precedes
    · exact covers.1
  refine ⟨startsInTurn, ?_⟩
  rw [placed.starts earlier earlierMember, placed.starts later laterMember]
  exact Point.atOffset_mono document.source startsInTurn

end Placed

/--
In a placed document every diagnostic lies in the source and does not stop
before it starts; the diagnostics come in the order of their starts; and of any
two, the earlier one ends before the later one starts or covers it.
-/
theorem diagnostics_placed
    (document : Document)
    (placed : document.Placed) :
    (∀ diagnostic ∈ document.diagnostics,
        diagnostic.range.start ≤ diagnostic.range.stop ∧
          diagnostic.range.stop ≤ document.source.utf8ByteSize ∧
            diagnostic.start ≤ diagnostic.stop) ∧
      document.diagnostics.Pairwise (fun earlier later =>
        earlier.range.start ≤ later.range.start ∧ earlier.start ≤ later.start) ∧
      document.diagnostics.Pairwise (fun earlier later =>
        earlier.range.Precedes later.range ∨ earlier.range.Covers later.range) := by
  refine ⟨?_, ?_, ?_⟩
  · exact forall_mem_diagnostics fun node member => placed.bounds member
  · exact pairwise_diagnostics placed.pairwise_starts
  · exact pairwise_diagnostics placed.laminar.pairwise_subtree

/-- The unplaced letter of `brokenSample`. -/
def strayLetter : Diagnostic :=
  ⟨.unexpected, ⟨0, 2⟩, ⟨0, 0⟩, ⟨0, 2⟩⟩

/-- The unplaced parenthesis of `brokenSample`, with all that stands around it. -/
def strayParenthesis : Diagnostic :=
  ⟨.unexpected, ⟨3, 5⟩, ⟨1, 0⟩, ⟨1, 2⟩⟩

/-- The missing partner of the parenthesis, which takes no bytes. -/
def missingPartner : Diagnostic :=
  ⟨.missing ")", ⟨4, 4⟩, ⟨1, 1⟩, ⟨1, 1⟩⟩

/-- The unplaced semicolon of `brokenSample`. -/
def straySemicolon : Diagnostic :=
  ⟨.unexpected, ⟨4, 5⟩, ⟨1, 1⟩, ⟨1, 2⟩⟩

theorem diagnostics_placed_brokenSample :
    brokenSample.Placed ∧
      brokenSample.diagnostics =
        [strayLetter, strayParenthesis, missingPartner, straySemicolon] ∧
      straySemicolon.range.stop ≤ brokenSample.source.utf8ByteSize ∧
      strayLetter.start ≤ strayParenthesis.start ∧
      strayLetter.range.Precedes strayParenthesis.range ∧
      strayParenthesis.range.Covers missingPartner.range ∧
      strayParenthesis.range.Covers straySemicolon.range ∧
      missingPartner.range.Precedes straySemicolon.range := by
  have placed : brokenSample.Placed := by decide
  have entries :
      brokenSample.diagnostics =
        [strayLetter, strayParenthesis, missingPartner, straySemicolon] := by
    decide
  rcases diagnostics_placed brokenSample placed with ⟨inside, inOrder, apart⟩
  rw [entries] at inside inOrder apart
  rcases List.pairwise_cons.mp inOrder with ⟨afterLetter, -⟩
  rcases List.pairwise_cons.mp apart with ⟨besideLetter, laterApart⟩
  rcases List.pairwise_cons.mp laterApart with ⟨besideParenthesis, lastApart⟩
  rcases List.pairwise_cons.mp lastApart with ⟨besidePartner, -⟩
  refine
    ⟨placed, entries, (inside straySemicolon (by simp)).2.1,
      (afterLetter strayParenthesis (by simp)).2, ?_, ?_, ?_, ?_⟩
  · exact (besideLetter strayParenthesis (by simp)).resolve_right (by decide)
  · exact (besideParenthesis missingPartner (by simp)).resolve_left (by decide)
  · exact (besideParenthesis straySemicolon (by simp)).resolve_left (by decide)
  · exact (besidePartner straySemicolon (by simp)).resolve_right (by decide)

end Document

end SoliditySyntax
