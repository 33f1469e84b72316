import SoliditySyntax.Proofs.ProblemScan

/-!
# Which problems are reported

A problem that stands below no missing token ought to be reported.  This
module says which of these open problems are, in trees where errors are
announced: every node above a problem is said to hold something erroneous, and
so is every missing token.

Nothing is assumed of what a node around unplaced input is said to hold when
there is no problem below it.  The main theorem shows that this is decisive.
An open problem is reported exactly when it is itself said to hold something
erroneous, so the diagnostics are complete exactly when all open problems are.
The last section has a source whose innermost problem is passed over.
-/

namespace SoliditySyntax

namespace Tree

/-- What is said of the nodes above problems, and of missing tokens. -/
@[mk_iff]
structure ErrorsAnnounced (tree : Tree) : Prop where
  aboveProblems :
    ∀ node ∈ tree.nodes,
      (∃ lower ∈ node.descendants, lower.label.isProblem = true) →
        node.label.hasError = true
  ofMissing :
    ∀ node ∈ tree.nodes,
      node.label.isMissing = true → node.label.hasError = true

instance (tree : Tree) : Decidable tree.ErrorsAnnounced :=
  decidable_of_iff _ tree.errorsAnnounced_iff.symm

/-- A problem is open when no missing token is above it. -/
def IsOpenProblem (tree : Tree) (node : Node) : Prop :=
  node.label.isProblem = true ∧
    ∀ upper ∈ tree.nodes, upper.IsAbove node → upper.label.isMissing = false

instance (tree : Tree) (node : Node) : Decidable (tree.IsOpenProblem node) :=
  inferInstanceAs
    (Decidable
      (node.label.isProblem = true ∧
        ∀ upper ∈ tree.nodes, upper.IsAbove node → upper.label.isMissing = false))

/-- The open problems of a tree, in document order. -/
def openProblems (tree : Tree) : List Node :=
  tree.nodes.filter fun node => tree.IsOpenProblem node

theorem mem_openProblems_iff {tree : Tree} {node : Node} :
    node ∈ tree.openProblems ↔ node ∈ tree.nodes ∧ tree.IsOpenProblem node := by
  simp [openProblems]

namespace ErrorsAnnounced

theorem hasError_of_mem_subtree
    {tree : Tree}
    (announced : tree.ErrorsAnnounced)
    {upper node : Node}
    (upperMember : upper ∈ tree.nodes)
    (member : node ∈ upper.subtree)
    (problem : node.label.isProblem = true)
    (holds : node.label.hasError = true) :
    upper.label.hasError = true := by
  rcases Node.mem_subtree_iff.mp member with rfl | below
  · exact holds
  · apply announced.aboveProblems upper upperMember
    exact ⟨node, below, problem⟩

/--
Where errors are announced and the topmost node holds some, the exposed nodes
are the open problems that are said to hold something erroneous.  The scan does
not ask the topmost node itself, so its own flag is a condition here.
-/
theorem exposes_root_iff
    {tree : Tree}
    (announced : tree.ErrorsAnnounced)
    (rootHolds : tree.root.label.hasError = true)
    {node : Node}
    (member : node ∈ tree.root.subtree) :
    tree.root.Exposes node ↔
      tree.IsOpenProblem node ∧ node.label.hasError = true := by
  constructor
  · intro exposed
    refine ⟨⟨exposed.problem, exposed.noneMissing⟩, ?_⟩
    rcases Node.mem_subtree_iff.mp member with rfl | below
    · exact rootHolds
    · rcases exposed.allSuspect node below (Or.inr rfl) with holds | missing
      · exact holds
      · exact announced.ofMissing node member missing
  · rintro ⟨⟨problem, noneMissing⟩, holds⟩
    refine ⟨problem, noneMissing, ?_⟩
    intro upper upperMember reaches
    have inTree := Node.mem_subtree_of_mem_descendants upperMember
    have below : node ∈ upper.subtree :=
      Node.mem_subtree_of_isAbove_or_index_eq inTree member reaches
    exact Or.inl (announced.hasError_of_mem_subtree inTree below problem holds)

theorem reported_eq
    {tree : Tree}
    (announced : tree.ErrorsAnnounced) :
    tree.reported =
      tree.openProblems.filter fun node => node.label.hasError := by
  rw [reported_eq_scan]
  split
  next rootHolds =>
    rw [openProblems, List.filter_filter]
    apply List.filter_congr
    intro node member
    simp [announced.exposes_root_iff rootHolds member, Bool.and_comm]
  next rootClean =>
    symm
    apply List.filter_eq_nil_iff.mpr
    intro node member holds
    rcases mem_openProblems_iff.mp member with ⟨inTree, problem, -⟩
    apply rootClean
    exact
      announced.hasError_of_mem_subtree tree.self_mem_nodes inTree problem holds

end ErrorsAnnounced

end Tree

namespace Document

/--
Where errors are announced, the diagnostics are the reports of those open
problems that are said to hold something erroneous.  An open problem is thus
reported exactly when it is said to, and the diagnostics are complete exactly
when this is said of every open problem.
-/
theorem diagnostics_eq_openProblems
    (document : Document)
    (announced : document.tree.ErrorsAnnounced) :
    document.diagnostics =
        (document.tree.openProblems.filter fun node => node.label.hasError).map
          Node.report ∧
      (∀ node ∈ document.tree.openProblems,
        node ∈ document.tree.reported ↔ node.label.hasError = true) ∧
      (document.diagnostics = document.tree.openProblems.map Node.report ↔
        ∀ node ∈ document.tree.openProblems, node.label.hasError = true) := by
  have reported := announced.reported_eq
  have diagnostics : document.diagnostics =
      (document.tree.openProblems.filter fun node => node.label.hasError).map
        Node.report :=
    congrArg (List.map Node.report) reported
  refine ⟨diagnostics, ?_, ?_⟩
  · intro node member
    simp [reported, member]
  · constructor
    · intro complete
      have lengths := congrArg List.length (diagnostics.symm.trans complete)
      rw [List.length_map, List.length_map] at lengths
      exact List.length_filter_eq_length_iff.mp lengths
    · intro holds
      rw [diagnostics, List.filter_eq_self.mpr holds]

/-! ## A problem that is passed over -/

/-- A contract that is named by a letter which the grammar has no place for. -/
def strayLetterSample : Document where
  source := "contract é \x7b\x7d"
  tree :=
    .node ⟨"source_file", true, true, false, false, none, ⟨0, 14⟩, ⟨0, 0⟩, ⟨0, 14⟩⟩
      [.node ⟨"ERROR", true, true, true, false, none, ⟨0, 14⟩, ⟨0, 0⟩, ⟨0, 14⟩⟩
        [.node ⟨"contract", false, false, false, false, none, ⟨0, 8⟩, ⟨0, 0⟩, ⟨0, 8⟩⟩ [],
          .node ⟨"ERROR", true, false, true, false, none, ⟨9, 11⟩, ⟨0, 9⟩, ⟨0, 11⟩⟩ [],
          .node ⟨"\x7b", false, false, false, false, none, ⟨12, 13⟩, ⟨0, 12⟩, ⟨0, 13⟩⟩ [],
          .node ⟨"\x7d", false, false, false, false, none, ⟨13, 14⟩, ⟨0, 13⟩, ⟨0, 14⟩⟩ []]]

/-- Of the two problems only the outer one is reported. -/
theorem diagnostics_strayLetterSample :
    strayLetterSample.tree.ErrorsAnnounced ∧
      strayLetterSample.tree.openProblems.length = 2 ∧
        strayLetterSample.diagnostics = [⟨.unexpected, ⟨0, 14⟩, ⟨0, 0⟩, ⟨0, 14⟩⟩] := by
  have announced : strayLetterSample.tree.ErrorsAnnounced := by decide
  refine ⟨announced, by decide, ?_⟩
  rw [(diagnostics_eq_openProblems strayLetterSample announced).1]
  decide

/-- The letter itself is a problem with no missing token above it, and it is not reported. -/
theorem not_all_openProblems_reported :
    ¬ ∀ document : Document, document.tree.ErrorsAnnounced →
        ∀ node ∈ document.tree.openProblems, node.report ∈ document.diagnostics := by
  intro complete
  have announced : strayLetterSample.tree.ErrorsAnnounced := by decide
  have passedOver :
      ¬ ∀ node ∈ strayLetterSample.tree.openProblems,
          node.report ∈ strayLetterSample.diagnostics := by
    decide
  exact passedOver (complete strayLetterSample announced)

end Document

end SoliditySyntax
