import SoliditySyntax.Proofs.Installation
import SoliditySyntax.Proofs.Positions
import SoliditySyntax.Proofs.ProblemScan

/-!
# Whether a source is broken

Three answers tell whether a source is broken: the flag of the topmost node,
the diagnostics, and the line that a parse leaves in the log.  This module
shows that they agree.

The flag and the log never differ, and there are no diagnostics without the
flag.  For the converse one local condition is enough: a node that is said to
hold something erroneous is a problem itself or has a suspect child.  The
descent then always finds a next node to enter until it reports one.

Of the engine nothing is used but that the three steps of a parse succeed: the
grammar loads, whatever its figures are, its language is installed, and the
parser makes a tree.
-/

namespace SoliditySyntax

open SoliditySyntax.Text

namespace Node

/--
Every node of the subtree that is said to hold something erroneous is a problem
itself or has a child that is said to, or that is a missing token.
-/
def Grounded (node : Node) : Prop :=
  ∀ lower ∈ node.subtree, lower.label.hasError = true →
    lower.label.isProblem = true ∨
      ∃ child ∈ lower.children,
        child.label.hasError = true ∨ child.label.isMissing = true

instance (node : Node) : Decidable node.Grounded :=
  inferInstanceAs
    (Decidable
      (∀ lower ∈ node.subtree, lower.label.hasError = true →
        lower.label.isProblem = true ∨
          ∃ child ∈ lower.children,
            child.label.hasError = true ∨ child.label.isMissing = true))

theorem Grounded.child
    {node child : Node}
    (grounded : node.Grounded)
    (member : child ∈ node.children) :
    child.Grounded := by
  intro lower lowerMember
  exact grounded lower (child_subtree_subset member lowerMember)

theorem Grounded.isProblem_or_child
    {node : Node}
    (grounded : node.Grounded)
    (suspect : node.label.isSuspect = true) :
    node.label.isProblem = true ∨
      ∃ child ∈ node.children, child.label.isSuspect = true := by
  rcases Label.isSuspect_iff.mp suspect with holds | missing
  · rcases grounded node node.self_mem_subtree holds with
      problem | ⟨child, member, childSuspect⟩
    · exact Or.inl problem
    · exact Or.inr ⟨child, member, Label.isSuspect_iff.mpr childSuspect⟩
  · exact Or.inl (Label.isProblem_iff.mpr (Or.inr missing))

theorem reported_ne_nil_of_isProblem
    {node : Node}
    (problem : node.label.isProblem = true) :
    node.reported ≠ [] := by
  rw [reported_eq]
  cases missing : node.label.isMissing with
  | true =>
      simp
  | false =>
      have error : node.label.isError = true :=
        (Label.isProblem_iff.mp problem).resolve_right (by simp [missing])
      simp [error]

theorem reported_ne_nil_of_child
    {node child : Node}
    (member : child ∈ node.children)
    (suspect : child.label.isSuspect = true)
    (found : child.reported ≠ []) :
    node.reported ≠ [] := by
  rw [reported_eq]
  cases missing : node.label.isMissing with
  | true =>
      simp
  | false =>
      intro empty
      have below := (List.append_eq_nil_iff.mp empty).2
      have atChild := List.flatMap_eq_nil_iff.mp below child member
      rw [if_pos suspect] at atChild
      exact found atChild

/-- From a suspect node on, the descent never ends without a report. -/
theorem Grounded.reported_ne_nil
    {node : Node}
    (grounded : node.Grounded)
    (suspect : node.label.isSuspect = true) :
    node.reported ≠ [] := by
  induction node using childInduction with
  | step node ih =>
      rcases grounded.isProblem_or_child suspect with
        problem | ⟨child, member, childSuspect⟩
      · exact reported_ne_nil_of_isProblem problem
      · have found : child.reported ≠ [] :=
          ih child member (grounded.child member) childSuspect
        exact reported_ne_nil_of_child member childSuspect found

end Node

namespace Document

theorem hasErrors_of_diagnostics_ne_nil
    (document : Document)
    (found : document.diagnostics ≠ []) :
    document.hasErrors = true := by
  by_contra clean
  apply found
  rw [diagnostics, Tree.reported_of_not_hasError clean, List.map_nil]

theorem hasErrors_iff_diagnostics_ne_nil
    (document : Document)
    (grounded : document.root.Grounded) :
    document.hasErrors = true ↔ document.diagnostics ≠ [] := by
  constructor
  · intro holds
    have suspect : document.root.label.isSuspect = true :=
      Label.isSuspect_iff.mpr (Or.inl holds)
    rw [diagnostics, Tree.reported_of_hasError holds, ne_eq, List.map_eq_nil_iff]
    exact grounded.reported_ne_nil suspect
  · exact document.hasErrors_of_diagnostics_ne_nil

end Document

namespace Engine

/-- A parse whose three steps succeed gives the tree and logs two events, the loading first. -/
theorem parse_of_treeOf?
    {engine : Engine}
    {source : String}
    {language : Language}
    {parser : Parser}
    {tree : Tree}
    (loads : engine.grammar.load.result = .ok language)
    (installs : engine.install language = .ok parser)
    (made : engine.treeOf? parser source = some tree) :
    engine.parse source =
      ⟨.ok tree,
        [.loaded "Solidity" language, .parsed source.utf8ByteSize tree.label.hasError]⟩ := by
  have parserMade :
      engine.parser = ⟨.ok parser, [.loaded "Solidity" language]⟩ :=
    Parser.ofGrammar_of_load loads installs
  rw [parse, Outcome.bind_eq_andThen, parserMade, Outcome.andThen_of_ok rfl, made]
  rfl

end Engine

theorem Event.line_parsed
    (byteCount : Nat)
    (hasErrors : Bool) :
    Event.line (.parsed byteCount hasErrors) =
      ⟨.debug,
        "parsed " ++ toString byteCount ++ " bytes of Solidity (errors: " ++
          toString hasErrors ++ ")"⟩ := by
  cases hasErrors <;> rfl

namespace Document

theorem parse_of_result_eq_ok
    {engine : Engine}
    {document : Document}
    (parsed : (engine.parse document.source).result = .ok document.tree) :
    Document.parse engine document.source =
      ⟨.ok document, (engine.parse document.source).events⟩ := by
  rw [Document.parse, Outcome.bind_eq_andThen, Outcome.andThen_of_ok parsed]
  simp [Outcome.ok]

/--
The flag of the topmost node, the diagnostics and the log give one verdict.
Diagnostics come only with the flag; in a grounded tree the flag comes only
with diagnostics.  Whatever the engine is linked with and whatever tree it makes
of a source, a parse whose steps succeed logs the loading, with the figures of
the loaded tables, and then one line with the number of bytes of the source and
the flag.
-/
theorem verdicts_agree (document : Document) :
    (document.diagnostics ≠ [] → document.hasErrors = true) ∧
      (document.root.Grounded →
        (document.hasErrors = true ↔ document.diagnostics ≠ [])) ∧
      ∀ (engine : Engine) (language : Language) (parser : Parser),
        engine.grammar.load.result = .ok language →
        engine.install language = .ok parser →
        engine.treeOf? parser document.source = some document.tree →
          (engine.parse document.source).result = .ok document.tree ∧
          (Document.parse engine document.source).result = .ok document ∧
          (Document.parse engine document.source).events =
            (engine.parse document.source).events ∧
          (engine.parse document.source).events.map Event.line =
            [⟨.debug,
                "loaded Solidity grammar (ABI " ++ toString language.abiVersion.toNat ++
                  ", " ++ toString language.nodeKindCount.toNat ++ " node kinds, " ++
                    toString language.fieldCount.toNat ++ " fields)"⟩,
              ⟨.debug,
                "parsed " ++ toString (bytes document.source).length ++
                  " bytes of Solidity (errors: " ++ toString document.hasErrors ++ ")"⟩] := by
  refine
    ⟨document.hasErrors_of_diagnostics_ne_nil,
      document.hasErrors_iff_diagnostics_ne_nil, ?_⟩
  intro engine language parser loads installs made
  have treeParsed := Engine.parse_of_treeOf? loads installs made
  have parsed : (engine.parse document.source).result = .ok document.tree :=
    congrArg Outcome.result treeParsed
  have documentParsed := parse_of_result_eq_ok parsed
  refine
    ⟨parsed, congrArg Outcome.result documentParsed,
      congrArg Outcome.events documentParsed, ?_⟩
  rw [treeParsed, length_bytes, List.map_cons, List.map_singleton, Event.line_parsed]
  rfl

theorem verdicts_brokenSample :
    brokenSample.root.Grounded ∧ brokenSample.diagnostics ≠ [] ∧
      (Document.parse (Parser.sampleEngine (some brokenSample.tree))
          brokenSample.source).events.map Event.line =
        [⟨.debug, "loaded Solidity grammar (ABI 15, 531 node kinds, 35 fields)"⟩,
          ⟨.debug, "parsed 5 bytes of Solidity (errors: true)"⟩] := by
  have grounded : brokenSample.root.Grounded := by decide
  rcases verdicts_agree brokenSample with ⟨-, verdict, logged⟩
  rcases logged (Parser.sampleEngine (some brokenSample.tree)) ⟨15, 531, 35⟩ ⟨⟨15, 531, 35⟩⟩
      rfl rfl rfl with ⟨-, -, sameEvents, lines⟩
  refine ⟨grounded, (verdict grounded).mp rfl, ?_⟩
  rw [sameEvents, lines]
  decide

end Document

end SoliditySyntax
