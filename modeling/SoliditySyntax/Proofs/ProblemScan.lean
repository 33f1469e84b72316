import SoliditySyntax.Document
import SoliditySyntax.Proofs.DocumentOrder

/-!
# Diagnostics as a scan in document order

The diagnostics of a document come from a descent that skips whole subtrees.
This module compares that descent with a plain scan: all nodes of the tree are
gone through in document order, and a node is kept when it is exposed, which
is said of the node and of the nodes above it alone.

The main theorem holds whatever the flags of the nodes say.  Its second half
concerns trees whose flags agree with what stands below the nodes: there,
every problem is exposed, and the scan keeps all problems.
-/

namespace SoliditySyntax

open SoliditySyntax.Text

/-- Whether a node with this label is a problem itself. -/
def Label.isProblem (label : Label) : Bool :=
  label.isError || label.isMissing

theorem Label.isSuspect_iff {label : Label} :
    label.isSuspect = true ↔ label.hasError = true ∨ label.isMissing = true :=
  Bool.or_eq_true_iff

theorem Label.isProblem_iff {label : Label} :
    label.isProblem = true ↔ label.isError = true ∨ label.isMissing = true :=
  Bool.or_eq_true_iff

namespace Node

/-- The nodes to report once this node is entered. -/
def reported (node : Node) : List Node :=
  node.tree.reportedFrom node.index

theorem reportedOfAll_eq_flatMap
    (index : Nat)
    (trees : List Tree) :
    Tree.reportedOfAll index trees =
      (Tree.topNodes index trees).flatMap fun node =>
        if node.label.isSuspect then node.reported else [] := by
  induction trees generalizing index with
  | nil =>
      rfl
  | cons tree later ih =>
      simp only [Tree.reportedOfAll, Tree.topNodes, List.flatMap_cons, ih]
      rfl

/-- The descent at one node: a missing token ends it, and only suspect children are entered. -/
theorem reported_eq (node : Node) :
    node.reported =
      if node.label.isMissing then
        [node]
      else
        (if node.label.isError then [node] else []) ++
          node.children.flatMap fun child =>
            if child.label.isSuspect then child.reported else [] := by
  rcases node with ⟨index, label, children⟩
  show
    Tree.reportedFrom index (.node label children) =
      if label.isMissing then
        [⟨index, .node label children⟩]
      else
        (if label.isError then [⟨index, .node label children⟩] else []) ++
          (Tree.topNodes (index + 1) children).flatMap fun child =>
            if child.label.isSuspect then child.reported else []
  rw [← reportedOfAll_eq_flatMap, Tree.reportedFrom]
  split
  · rfl
  · split <;> rfl

/--
A node is exposed below `top` when it is a problem, no node above it is a
missing token, and every node on the way to it from the children of `top` on,
itself included, is said to hold something erroneous or is a missing token.
-/
@[mk_iff]
structure Exposes (top node : Node) : Prop where
  problem : node.label.isProblem = true
  noneMissing :
    ∀ upper ∈ top.subtree,
      upper.IsAbove node → upper.label.isMissing = false
  allSuspect :
    ∀ upper ∈ top.descendants,
      upper.IsAbove node ∨ upper.index = node.index →
        upper.label.hasError = true ∨ upper.label.isMissing = true

instance (top node : Node) : Decidable (top.Exposes node) :=
  decidable_of_iff _ (exposes_iff top node).symm

/-- Nothing in the subtree of a node is above it, so only the node itself counts. -/
theorem exposes_self_iff (top : Node) :
    top.Exposes top ↔ top.label.isProblem = true := by
  constructor
  · exact Exposes.problem
  · intro problem
    refine ⟨problem, ?_, ?_⟩
    · intro upper member above
      have range := isAbove_iff.mp above
      have bounds := bounds_of_mem_subtree member
      omega
    · intro upper member reaches
      have behind := index_lt_of_mem_descendants member
      rcases reaches with above | same
      · have range := isAbove_iff.mp above
        omega
      · omega

theorem not_exposes_of_isMissing
    {top node : Node}
    (missing : top.label.isMissing = true)
    (member : node ∈ top.descendants) :
    ¬ top.Exposes node := by
  intro exposed
  have present : top.label.isMissing = false :=
    exposed.noneMissing top top.self_mem_subtree
      (isAbove_of_mem_descendants member)
  rw [missing] at present
  contradiction

/--
Below a node that is present, the nodes exposed are those that are exposed
below a suspect child.
-/
theorem exposes_iff_of_mem_child
    {top child node : Node}
    (present : top.label.isMissing = false)
    (childMember : child ∈ top.children)
    (member : node ∈ child.subtree) :
    top.Exposes node ↔ child.label.isSuspect = true ∧ child.Exposes node := by
  have childBelow : child ∈ top.descendants :=
    child_mem_descendants childMember
  have childReaches : child.IsAbove node ∨ child.index = node.index := by
    rcases mem_subtree_iff.mp member with rfl | below
    · exact Or.inr rfl
    · exact Or.inl (isAbove_of_mem_descendants below)
  constructor
  · intro exposed
    have suspect :=
      Label.isSuspect_iff.mpr
        (exposed.allSuspect child childBelow childReaches)
    refine ⟨suspect, exposed.problem, ?_, ?_⟩
    · intro upper upperMember above
      have inTop := child_subtree_subset childMember upperMember
      exact exposed.noneMissing upper inTop above
    · intro upper upperMember reaches
      have inTop :=
        subtree_subset_descendants childMember
          (mem_subtree_of_mem_descendants upperMember)
      exact exposed.allSuspect upper inTop reaches
  · rintro ⟨suspect, exposed⟩
    refine ⟨exposed.problem, ?_, ?_⟩
    · intro upper upperMember above
      rcases mem_subtree_iff.mp upperMember with rfl | below
      · exact present
      · -- No other child reaches `node`, so `upper` belongs to this one.
        have inChild :=
          mem_child_subtree_of_isAbove_or_index_eq
            childMember member below (Or.inl above)
        exact exposed.noneMissing upper inChild above
    · intro upper upperMember reaches
      have inChild :=
        mem_child_subtree_of_isAbove_or_index_eq
          childMember member upperMember reaches
      rcases mem_subtree_iff.mp inChild with rfl | below
      · exact Label.isSuspect_iff.mp suspect
      · exact exposed.allSuspect upper below reaches

theorem filter_exposes_descendants_of_isMissing
    {top : Node}
    (missing : top.label.isMissing = true) :
    (top.descendants.filter fun node => top.Exposes node) = [] := by
  apply List.filter_eq_nil_iff.mpr
  intro node member
  simpa using not_exposes_of_isMissing missing member

theorem filter_exposes_child_subtree
    {top child : Node}
    (present : top.label.isMissing = false)
    (childMember : child ∈ top.children) :
    (child.subtree.filter fun node => top.Exposes node) =
      if child.label.isSuspect then
        child.subtree.filter fun node => child.Exposes node
      else
        [] := by
  split
  next suspect =>
    apply List.filter_congr
    intro node member
    simp [exposes_iff_of_mem_child present childMember member, suspect]
  next clean =>
    apply List.filter_eq_nil_iff.mpr
    intro node member
    simp [exposes_iff_of_mem_child present childMember member, clean]

/-- The descent from a node reports exactly the exposed nodes of its subtree, in document order. -/
theorem reported_eq_filter_exposes (top : Node) :
    top.reported = top.subtree.filter fun node => top.Exposes node := by
  induction top using childInduction with
  | step top ih =>
      rw [reported_eq, subtree_eq_cons, List.filter_cons]
      simp only [exposes_self_iff]
      cases missing : top.label.isMissing with
      | true =>
          simp [missing, Label.isProblem,
            filter_exposes_descendants_of_isMissing missing]
      | false =>
          have below :
              (top.descendants.filter fun node => top.Exposes node) =
                top.children.flatMap fun child =>
                  if child.label.isSuspect then child.reported else [] := by
            rw [descendants_eq_flatMap, List.filter_flatMap]
            apply List.flatMap_congr
            intro child childMember
            rw [filter_exposes_child_subtree missing childMember,
              ih child childMember]
          rw [below]
          cases error : top.label.isError with
          | true =>
              simp [missing, error, Label.isProblem]
          | false =>
              simp [missing, error, Label.isProblem]

theorem report_parts (node : Node) :
    (node.label.isMissing = true → node.report.problem = .missing node.label.kind) ∧
      (node.label.isMissing = false → node.report.problem = .unexpected) ∧
        node.report.range = node.label.range ∧ node.report.start = node.label.start ∧
          node.report.stop = node.label.stop := by
  refine ⟨?_, ?_, rfl, rfl, rfl⟩
  · intro missing
    simp [report, missing]
  · intro present
    simp [report, present]

end Node

namespace Tree

/-- A node is said to hold something erroneous exactly when it or a node below it is a problem. -/
def FlagsAgree (tree : Tree) : Prop :=
  ∀ node ∈ tree.nodes,
    node.label.hasError = true ↔ ∃ lower ∈ node.subtree, lower.label.isProblem = true

instance (tree : Tree) : Decidable tree.FlagsAgree :=
  inferInstanceAs
    (Decidable
      (∀ node ∈ tree.nodes,
        node.label.hasError = true ↔
          ∃ lower ∈ node.subtree, lower.label.isProblem = true))

/-- There are no problems below a missing token. -/
def MissingIsolated (tree : Tree) : Prop :=
  ∀ node ∈ tree.nodes, node.label.isMissing = true →
    ∀ lower ∈ node.descendants, lower.label.isProblem = false

instance (tree : Tree) : Decidable tree.MissingIsolated :=
  inferInstanceAs
    (Decidable
      (∀ node ∈ tree.nodes, node.label.isMissing = true →
        ∀ lower ∈ node.descendants, lower.label.isProblem = false))

theorem self_mem_nodes (tree : Tree) : tree.root ∈ tree.nodes :=
  tree.root.self_mem_subtree

theorem reported_of_hasError
    {tree : Tree}
    (holds : tree.root.label.hasError = true) :
    tree.reported = tree.root.reported :=
  if_pos holds

theorem reported_of_not_hasError
    {tree : Tree}
    (clean : ¬ tree.root.label.hasError = true) :
    tree.reported = [] :=
  if_neg clean

theorem reported_eq_scan (tree : Tree) :
    tree.reported =
      if tree.root.label.hasError then
        tree.nodes.filter fun node => tree.root.Exposes node
      else
        [] := by
  rw [reported]
  exact if_congr Iff.rfl (Node.reported_eq_filter_exposes tree.root) rfl

theorem exposes_root_iff
    {tree : Tree}
    (agree : tree.FlagsAgree)
    (isolated : tree.MissingIsolated)
    {node : Node}
    (member : node ∈ tree.root.subtree) :
    tree.root.Exposes node ↔ node.label.isProblem = true := by
  constructor
  · exact Node.Exposes.problem
  · intro problem
    refine ⟨problem, ?_, ?_⟩
    · intro upper upperMember above
      have below : node ∈ upper.descendants :=
        (Node.isAbove_iff_mem_descendants upperMember member).mp above
      cases missing : upper.label.isMissing with
      | false =>
          rfl
      | true =>
          have clean := isolated upper upperMember missing node below
          rw [problem] at clean
          contradiction
    · intro upper upperMember reaches
      have inTree := Node.mem_subtree_of_mem_descendants upperMember
      have below : node ∈ upper.subtree :=
        Node.mem_subtree_of_isAbove_or_index_eq inTree member reaches
      exact Or.inl ((agree upper inTree).mpr ⟨node, below, problem⟩)

end Tree

namespace Document

/--
A document's diagnostics are the reports of the exposed nodes, each once and in
document order; there are none unless the topmost node is said to hold
something erroneous.  Where the flags of the nodes agree with what stands below
them, and missing tokens are isolated, these are the reports of all problems.
A report tells a missing token by its kind, anything else as unexpected, and
passes on the range and the places of its node.
-/
theorem diagnostics_eq_scan (document : Document) :
    document.diagnostics =
        (if document.hasErrors then
            document.tree.nodes.filter fun node => document.root.Exposes node
          else
            []).map Node.report ∧
      (document.tree.FlagsAgree → document.tree.MissingIsolated →
        document.diagnostics =
          (document.tree.nodes.filter fun node => node.label.isProblem).map
            Node.report) ∧
      ∀ node : Node,
        (node.label.isMissing = true → node.report.problem = .missing node.label.kind) ∧
          (node.label.isMissing = false → node.report.problem = .unexpected) ∧
            node.report.range = node.label.range ∧ node.report.start = node.label.start ∧
              node.report.stop = node.label.stop := by
  have scan : document.tree.reported =
      if document.hasErrors then
        document.tree.nodes.filter fun node => document.root.Exposes node
      else
        [] :=
    document.tree.reported_eq_scan
  refine ⟨congrArg (List.map Node.report) scan, ?_, Node.report_parts⟩
  intro agree isolated
  refine congrArg (List.map Node.report) (scan.trans ?_)
  by_cases hasErrors : document.hasErrors = true
  · rw [if_pos hasErrors]
    apply List.filter_congr
    intro node member
    simp [root, Tree.exposes_root_iff agree isolated member]
  · rw [if_neg hasErrors, eq_comm, List.filter_eq_nil_iff]
    intro node member problem
    have holds :=
      (agree document.root document.tree.self_mem_nodes).mpr ⟨node, member, problem⟩
    exact hasErrors holds

/--
A source of two lines: an unplaced letter of two bytes, and below it an
unplaced parenthesis with a missing partner and an unplaced semicolon.
-/
def brokenSample : Document where
  source := "é\n(;"
  tree :=
    .node ⟨"source_file", true, true, false, false, none, ⟨0, 5⟩, ⟨0, 0⟩, ⟨1, 2⟩⟩
      [.node ⟨"ERROR", true, true, true, false, none, ⟨0, 2⟩, ⟨0, 0⟩, ⟨0, 2⟩⟩ [],
        .node ⟨"ERROR", true, true, true, false, none, ⟨3, 5⟩, ⟨1, 0⟩, ⟨1, 2⟩⟩
          [.node ⟨"(", false, false, false, false, none, ⟨3, 4⟩, ⟨1, 0⟩, ⟨1, 1⟩⟩ [],
            .node ⟨")", false, true, false, true, none, ⟨4, 4⟩, ⟨1, 1⟩, ⟨1, 1⟩⟩ [],
            .node ⟨"ERROR", true, true, true, false, none, ⟨4, 5⟩, ⟨1, 1⟩, ⟨1, 2⟩⟩
              [.node ⟨";", false, false, false, false, none, ⟨4, 5⟩, ⟨1, 1⟩, ⟨1, 2⟩⟩ []]]]

theorem diagnostics_brokenSample :
    brokenSample.tree.FlagsAgree ∧ brokenSample.tree.MissingIsolated ∧
      brokenSample.diagnostics =
        [⟨.unexpected, ⟨0, 2⟩, ⟨0, 0⟩, ⟨0, 2⟩⟩, ⟨.unexpected, ⟨3, 5⟩, ⟨1, 0⟩, ⟨1, 2⟩⟩,
          ⟨.missing ")", ⟨4, 4⟩, ⟨1, 1⟩, ⟨1, 1⟩⟩, ⟨.unexpected, ⟨4, 5⟩, ⟨1, 1⟩, ⟨1, 2⟩⟩] := by
  have agree : brokenSample.tree.FlagsAgree := by decide
  have isolated : brokenSample.tree.MissingIsolated := by decide
  refine ⟨agree, isolated, ?_⟩
  rw [(diagnostics_eq_scan brokenSample).2.1 agree isolated]
  decide

end Document

end SoliditySyntax
