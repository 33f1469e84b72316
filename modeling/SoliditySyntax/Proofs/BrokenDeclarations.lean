import SoliditySyntax.Proofs.Declarations
import SoliditySyntax.Proofs.Verdict

/-!
# Diagnostics and the declarations that they concern

The diagnostics come from a descent through all children of the root, the
declarations from a look at its named children only.  This module relates the
two in trees whose ranges are laminar.

A declaration that is not suspect is never entered, so what is reported stems
from another child of the root, or from the root itself, and lies beside the
declaration.  A suspect declaration of a grounded tree is entered, and the
descent does not leave it without a report inside its range.
-/

namespace SoliditySyntax

open SoliditySyntax.Text

namespace Node

theorem reported_subset_subtree (top : Node) : top.reported ⊆ top.subtree := by
  rw [reported_eq_filter_exposes]
  exact List.filter_subset_self _

/-- A report stems from the node that was entered, or from the descent into a suspect child. -/
theorem eq_or_mem_child_of_mem_reported
    {top node : Node}
    (member : node ∈ top.reported) :
    node = top ∨
      ∃ child ∈ top.children, child.label.isSuspect = true ∧ node ∈ child.reported := by
  rw [reported_eq] at member
  split at member
  next missing =>
    exact Or.inl (List.mem_singleton.mp member)
  next present =>
    rcases List.mem_append.mp member with atTop | below
    · split at atTop
      · exact Or.inl (List.mem_singleton.mp atTop)
      · cases atTop
    · rcases List.mem_flatMap.mp below with ⟨child, childMember, inChild⟩
      split at inChild
      next suspect =>
        exact Or.inr ⟨child, childMember, suspect, inChild⟩
      next clean =>
        cases inChild

/-- A node that is present passes on what the descent into a suspect child reports. -/
theorem child_reported_subset
    {top child : Node}
    (present : top.label.isMissing = false)
    (member : child ∈ top.children)
    (suspect : child.label.isSuspect = true) :
    child.reported ⊆ top.reported := by
  intro node nodeMember
  rw [reported_eq, present, if_neg Bool.false_ne_true]
  refine List.mem_append_right _ (List.mem_flatMap.mpr ⟨child, member, ?_⟩)
  rwa [if_pos suspect]

/-- Of two children of a laminar node one precedes the other. -/
theorem Laminar.children_apart
    {top first second : Node}
    (laminar : top.Laminar)
    (firstMember : first ∈ top.children)
    (secondMember : second ∈ top.children)
    (distinct : first ≠ second) :
    first.range.Precedes second.range ∨ second.range.Precedes first.range := by
  have inTurn := laminar.children_inTurn
  have apart :=
    List.Pairwise.forall_of_forall_of_flip
      (R := fun earlier later : Node =>
        earlier ≠ later →
          earlier.range.Precedes later.range ∨ later.range.Precedes earlier.range)
      (fun _ _ same => absurd rfl same)
      (inTurn.imp fun precedes _ => Or.inl precedes)
      (inTurn.imp fun precedes _ => Or.inr precedes)
  exact apart firstMember secondMember distinct

/-- What is reported below a laminar node lies beside each of its children that is not suspect. -/
theorem Laminar.reported_beside
    {top clean node : Node}
    (laminar : top.Laminar)
    (cleanMember : clean ∈ top.children)
    (notSuspect : ¬ clean.label.isSuspect = true)
    (member : node ∈ top.reported)
    (below : node ≠ top) :
    node.range.Precedes clean.range ∨ clean.range.Precedes node.range := by
  rcases eq_or_mem_child_of_mem_reported member with
    atTop | ⟨child, childMember, suspect, inChild⟩
  · exact absurd atTop below
  · have distinct : child ≠ clean := by
      rintro rfl
      exact notSuspect suspect
    have inside : child.range.Covers node.range :=
      (laminar.child childMember).covers (child.reported_subset_subtree inChild)
    rcases laminar.children_apart childMember cleanMember distinct with before | behind
    · exact Or.inl (before.inside inside (ByteRange.Covers.refl _))
    · exact Or.inr (behind.inside (ByteRange.Covers.refl _) inside)

/-- The descent reports a node of each suspect child of a grounded node that is present. -/
theorem Grounded.exists_reported_in_child
    {top child : Node}
    (grounded : top.Grounded)
    (present : top.label.isMissing = false)
    (member : child ∈ top.children)
    (suspect : child.label.isSuspect = true) :
    ∃ node ∈ top.reported, node ∈ child.subtree := by
  have found : child.reported ≠ [] :=
    (grounded.child member).reported_ne_nil suspect
  rcases List.exists_mem_of_ne_nil _ found with ⟨node, nodeMember⟩
  exact
    ⟨node, child_reported_subset present member suspect nodeMember,
      child.reported_subset_subtree nodeMember⟩

end Node

namespace Document

theorem reported_subset_root_reported (document : Document) :
    document.tree.reported ⊆ document.root.reported := by
  by_cases hasErrors : document.root.label.hasError = true
  · rw [Tree.reported_of_hasError hasErrors]
    exact List.Subset.refl _
  · rw [Tree.reported_of_not_hasError hasErrors]
    exact List.nil_subset _

/--
Each diagnostic is the report of one reported node.  In a laminar tree, the
reports of nodes below the root lie beside every declaration that is not
suspect.  If the tree is grounded besides and the root is entered and present,
every suspect declaration holds a reported node whose report lies inside it.
-/
theorem diagnostics_beside_declarations
    (document : Document)
    (laminar : document.root.Laminar) :
    document.diagnostics = document.tree.reported.map Node.report ∧
      (∀ declaration ∈ document.declarations,
        declaration.label.hasError = false → declaration.label.isMissing = false →
          ∀ node ∈ document.tree.reported, node ≠ document.root →
            node.report.range.Precedes declaration.range ∨
              declaration.range.Precedes node.report.range) ∧
      (document.hasErrors = true → document.root.label.isMissing = false →
        document.root.Grounded →
          ∀ declaration ∈ document.declarations,
            declaration.label.hasError = true ∨ declaration.label.isMissing = true →
              ∃ node ∈ document.tree.reported,
                node ∈ declaration.subtree ∧
                  declaration.range.Covers node.report.range) := by
  refine ⟨rfl, ?_, ?_⟩
  · intro declaration member holdsNone present node reported below
    have notSuspect : ¬ declaration.label.isSuspect = true := by
      simp [Label.isSuspect, holdsNone, present]
    exact
      laminar.reported_beside (mem_children_of_mem_declarations member) notSuspect
        (document.reported_subset_root_reported reported) below
  · intro hasErrors present grounded declaration member suspect
    have topLevel := mem_children_of_mem_declarations member
    rw [Tree.reported_of_hasError hasErrors]
    rcases grounded.exists_reported_in_child present topLevel (Label.isSuspect_iff.mpr suspect) with
      ⟨node, reported, inDeclaration⟩
    exact ⟨node, reported, inDeclaration, (laminar.child topLevel).covers inDeclaration⟩

/-- An enumeration without values. -/
def emptyEnum : Tree :=
  .node ⟨"enum_declaration", true, false, false, false, none, ⟨0, 9⟩, ⟨0, 0⟩, ⟨0, 9⟩⟩
    [.node ⟨"enum", false, false, false, false, none, ⟨0, 4⟩, ⟨0, 0⟩, ⟨0, 4⟩⟩ [],
      .node ⟨"identifier", true, false, false, false, some "name", ⟨5, 6⟩, ⟨0, 5⟩, ⟨0, 6⟩⟩ [],
      .node ⟨"enum_body", true, false, false, false, some "body", ⟨7, 9⟩, ⟨0, 7⟩, ⟨0, 9⟩⟩
        [.node ⟨"\x7b", false, false, false, false, none, ⟨7, 8⟩, ⟨0, 7⟩, ⟨0, 8⟩⟩ [],
          .node ⟨"\x7d", false, false, false, false, none, ⟨8, 9⟩, ⟨0, 8⟩, ⟨0, 9⟩⟩ []]]

/-- A contract on the line below, whose closing brace is missing. -/
def openContract : Tree :=
  .node ⟨"contract_declaration", true, true, false, false, none, ⟨10, 22⟩, ⟨1, 0⟩, ⟨1, 12⟩⟩
    [.node ⟨"contract", false, false, false, false, none, ⟨10, 18⟩, ⟨1, 0⟩, ⟨1, 8⟩⟩ [],
      .node ⟨"identifier", true, false, false, false, some "name", ⟨19, 20⟩, ⟨1, 9⟩, ⟨1, 10⟩⟩ [],
      .node ⟨"contract_body", true, true, false, false, some "body", ⟨21, 22⟩, ⟨1, 11⟩, ⟨1, 12⟩⟩
        [.node ⟨"\x7b", false, false, false, false, none, ⟨21, 22⟩, ⟨1, 11⟩, ⟨1, 12⟩⟩ [],
          .node ⟨"\x7d", false, true, false, true, none, ⟨22, 22⟩, ⟨1, 12⟩, ⟨1, 12⟩⟩ []]]

/-- A source of two declarations of which the second one is broken. -/
def halfBrokenSample : Document where
  source := "enum E \x7b\x7d\ncontract C \x7b"
  tree :=
    .node ⟨"source_file", true, true, false, false, none, ⟨0, 22⟩, ⟨0, 0⟩, ⟨1, 12⟩⟩
      [emptyEnum, openContract]

theorem diagnostics_halfBrokenSample :
    halfBrokenSample.root.Laminar ∧ halfBrokenSample.root.Grounded ∧
      halfBrokenSample.declarations = [⟨1, emptyEnum⟩, ⟨7, openContract⟩] ∧
        halfBrokenSample.diagnostics = [⟨.missing "\x7d", ⟨22, 22⟩, ⟨1, 12⟩, ⟨1, 12⟩⟩] ∧
          (∀ node ∈ halfBrokenSample.tree.reported, node ≠ halfBrokenSample.root →
            node.report.range.Precedes ⟨0, 9⟩ ∨
              (⟨0, 9⟩ : ByteRange).Precedes node.report.range) ∧
          ∃ node ∈ halfBrokenSample.tree.reported,
            node ∈ Node.subtree ⟨7, openContract⟩ ∧
              (⟨10, 22⟩ : ByteRange).Covers node.report.range := by
  have laminar : halfBrokenSample.root.Laminar := by decide
  have grounded : halfBrokenSample.root.Grounded := by decide
  have declarations :
      halfBrokenSample.declarations = [⟨1, emptyEnum⟩, ⟨7, openContract⟩] := by
    rfl
  rcases diagnostics_beside_declarations halfBrokenSample laminar with
    ⟨-, besideClean, insideBroken⟩
  rw [declarations] at besideClean insideBroken
  refine ⟨laminar, grounded, declarations, by decide, ?_, ?_⟩
  · exact besideClean ⟨1, emptyEnum⟩ (by simp) rfl rfl
  · exact insideBroken rfl rfl grounded ⟨7, openContract⟩ (by simp) (Or.inl rfl)

end Document

end SoliditySyntax
