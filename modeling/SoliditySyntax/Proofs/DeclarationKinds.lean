import SoliditySyntax.Proofs.Declarations
import Mathlib.Data.List.Sort

/-!
# Declarations kind by kind

The declarations of a document can be asked for one kind at a time.  This
module shows that a reader who goes through a list of kinds, each named once,
comes across every declaration once, provided the list has the kinds of all of
them, and finds the declarations themselves again when what was gathered is
put into document order.

A kind that no named child of the root has yields nothing, and neither does
the kind of comments, whatever comments the root holds.
-/

namespace SoliditySyntax

open SoliditySyntax.Text

namespace Node

/-- Other kinds are found among the nodes that are not of a given kind. -/
theorem flatMap_filter_kind_of_not_mem
    {kind : String}
    {others : List String}
    (fresh : kind ∉ others)
    (nodes : List Node) :
    (others.flatMap fun other => nodes.filter fun node => node.label.kind == other) =
      others.flatMap fun other =>
        (nodes.filter fun node => !node.label.kind == kind).filter fun node =>
          node.label.kind == other := by
  apply List.flatMap_congr
  intro other member
  have different : other ≠ kind := by
    rintro rfl
    exact fresh member
  rw [List.filter_filter]
  apply List.filter_congr
  intro node _
  by_cases ofOther : node.label.kind = other
  · simp [ofOther, different]
  · simp [ofOther]

/-- Nodes gathered kind by kind are the nodes that there were, in some order. -/
theorem flatMap_filter_kind_perm
    {kinds : List String}
    {nodes : List Node}
    (distinct : kinds.Nodup)
    (covered : ∀ node ∈ nodes, node.label.kind ∈ kinds) :
    (kinds.flatMap fun kind => nodes.filter fun node => node.label.kind == kind).Perm nodes := by
  induction kinds generalizing nodes with
  | nil =>
      have none : nodes = [] :=
        List.eq_nil_iff_forall_not_mem.mpr fun node member => List.not_mem_nil (covered node member)
      rw [none, List.flatMap_nil]
  | cons first rest ih =>
      rcases List.nodup_cons.mp distinct with ⟨fresh, restDistinct⟩
      have restCovered :
          ∀ node ∈ nodes.filter (fun node => !node.label.kind == first),
            node.label.kind ∈ rest := by
        intro node member
        rcases List.mem_filter.mp member with ⟨inNodes, notFirst⟩
        rcases List.mem_cons.mp (covered node inNodes) with ofFirst | inRest
        · simp [ofFirst] at notFirst
        · exact inRest
      rw [List.flatMap_cons, flatMap_filter_kind_of_not_mem fresh]
      exact ((ih restDistinct restCovered).append_left _).trans (List.filter_append_perm _ _)

/-- Nodes put into document order. -/
def sortedByIndex (nodes : List Node) : List Node :=
  nodes.mergeSort fun earlier later => earlier.index ≤ later.index

theorem sortedByIndex_perm (nodes : List Node) : (sortedByIndex nodes).Perm nodes :=
  List.mergeSort_perm nodes _

theorem sortedByIndex_inOrder (nodes : List Node) :
    (sortedByIndex nodes).Pairwise fun earlier later => earlier.index ≤ later.index := by
  have sorted :
      (sortedByIndex nodes).Pairwise fun earlier later =>
        decide (earlier.index ≤ later.index) = true := by
    apply List.pairwise_mergeSort
    · intro first second third
      simp only [decide_eq_true_eq]
      exact Nat.le_trans
    · intro first second
      simpa using Nat.le_total first.index second.index
  simpa only [decide_eq_true_eq] using sorted

/-- Nodes of one tree that are in document order are found again from any order of them. -/
theorem sortedByIndex_eq_of_perm
    {top : Node}
    {gathered nodes : List Node}
    (perm : gathered.Perm nodes)
    (inTree : nodes ⊆ top.subtree)
    (inOrder : nodes.Pairwise ComesBefore) :
    sortedByIndex gathered = nodes := by
  have same : (sortedByIndex gathered).Perm nodes := (sortedByIndex_perm gathered).trans perm
  refine
    List.Perm.eq_of_pairwise ?_ (sortedByIndex_inOrder gathered) (inOrder.imp Nat.le_of_lt) same
  intro first second firstMember secondMember notBehind notBefore
  exact
    eq_of_index_eq (inTree (same.subset firstMember)) (inTree secondMember)
      (Nat.le_antisymm notBehind notBefore)

end Node

namespace Document

theorem mem_declarationsOf_iff
    {document : Document}
    {kind : String}
    {node : Node} :
    node ∈ document.declarationsOf kind ↔
      node ∈ document.declarations ∧ node.label.kind = kind := by
  rw [declarationsOf, List.mem_filter, beq_iff_eq]

theorem declarationsOf_eq_nil_iff {document : Document} {kind : String} :
    document.declarationsOf kind = [] ↔
      ∀ declaration ∈ document.declarations, declaration.label.kind ≠ kind := by
  simp [declarationsOf]

/--
The declarations of each kind keep their order; a kind that no named child of
the root has yields none, and no more does the kind of comments.  Over distinct
kinds that cover the kinds of all declarations, each declaration is found under
its own kind and under no other, what is gathered are the declarations in some
order, and sorting it by document order gives back the declarations.
-/
theorem declarationsOf_partition (document : Document) :
    (∀ kind, (document.declarationsOf kind).Sublist document.declarations) ∧
      (∀ kind,
        (∀ child ∈ document.root.children,
          child.label.isNamed = true → child.label.kind ≠ kind) →
        document.declarationsOf kind = []) ∧
      document.declarationsOf "comment" = [] ∧
      ∀ kinds : List String, kinds.Nodup →
        (∀ declaration ∈ document.declarations, declaration.label.kind ∈ kinds) →
        (∀ declaration ∈ document.declarations, ∀ kind,
          kind ∈ kinds ∧ declaration ∈ document.declarationsOf kind ↔
            kind = declaration.label.kind) ∧
        (kinds.flatMap document.declarationsOf).Perm document.declarations ∧
        Node.sortedByIndex (kinds.flatMap document.declarationsOf) = document.declarations := by
  refine ⟨fun kind => List.filter_sublist, ?_, ?_, ?_⟩
  · intro kind absent
    apply declarationsOf_eq_nil_iff.mpr
    intro declaration member
    rcases mem_declarations_iff.mp member with ⟨topLevel, named, -⟩
    exact absent declaration topLevel named
  · apply declarationsOf_eq_nil_iff.mpr
    intro declaration member
    exact (mem_declarations_iff.mp member).2.2
  · intro kinds distinct covered
    have perm := Node.flatMap_filter_kind_perm distinct covered
    refine ⟨?_, perm, ?_⟩
    · intro declaration member kind
      rw [mem_declarationsOf_iff]
      constructor
      · rintro ⟨-, -, ofKind⟩
        exact ofKind.symm
      · rintro rfl
        exact ⟨covered declaration member, member, rfl⟩
    · have inTree : document.declarations ⊆ document.root.subtree :=
        fun _ => mem_nodes_of_mem_declarations
      exact Node.sortedByIndex_eq_of_perm perm inTree document.declarations_inOrder

/-- A leaf that stands for a named rule. -/
def namedLeaf (kind : String) (range : ByteRange) : Tree :=
  .node ⟨kind, true, false, false, false, none, range, ⟨0, range.start⟩, ⟨0, range.stop⟩⟩ []

/-- A source in which a contract and a comment stand between two enumerations. -/
def interleavedSample : Document where
  source := "enum A{}contract B{}/**/enum C{}"
  tree :=
    .node ⟨"source_file", true, false, false, false, none, ⟨0, 32⟩, ⟨0, 0⟩, ⟨0, 32⟩⟩
      [namedLeaf "enum_declaration" ⟨0, 8⟩, namedLeaf "contract_declaration" ⟨8, 20⟩,
        namedLeaf "comment" ⟨20, 24⟩, namedLeaf "enum_declaration" ⟨24, 32⟩]

/-- The kinds of its declarations and one more, contracts first. -/
def sampleKinds : List String :=
  ["contract_declaration", "event_definition", "enum_declaration"]

/-- Gathered kind by kind, the contract comes first; sorting takes it back between the two. -/
theorem declarationsOf_interleavedSample :
    sampleKinds.Nodup ∧
      (∀ declaration ∈ interleavedSample.declarations,
        declaration.label.kind ∈ sampleKinds) ∧
        (sampleKinds.flatMap interleavedSample.declarationsOf).map (·.index) = [2, 1, 4] ∧
          Node.sortedByIndex (sampleKinds.flatMap interleavedSample.declarationsOf) =
              interleavedSample.declarations ∧
            interleavedSample.declarationsOf "event_definition" = [] := by
  have distinct : sampleKinds.Nodup := by decide
  have covered :
      ∀ declaration ∈ interleavedSample.declarations,
        declaration.label.kind ∈ sampleKinds := by
    decide
  rcases declarationsOf_partition interleavedSample with ⟨-, absent, -, partition⟩
  rcases partition sampleKinds distinct covered with ⟨-, -, sorted⟩
  exact ⟨distinct, covered, by decide, sorted, absent _ (by decide)⟩

end Document

end SoliditySyntax
