import SoliditySyntax.Document
import SoliditySyntax.Proofs.Legibility

/-!
# Texts of diagnostics tell them apart

A list of diagnostics is shown as one text, in which a missing token is quoted
and all positions are numerals.  This module shows that the text is legible:
each part of a diagnostic is, and so is their record, and the list of such
records is read back entry by entry.

The main theorem says that two lists have the same text exactly when they are
equal, so that comparing the diagnostics of two documents and comparing their
texts come to the same.
-/

namespace SoliditySyntax

open SoliditySyntax.Text

/-! ## The parts of a diagnostic -/

theorem Text.ByteRange.legible_inspect : Legible ByteRange.inspect := by
  apply Legible.of_append_inj
  rintro ⟨firstStart, firstStop⟩ ⟨secondStart, secondStop⟩ firstRest secondRest
    firstStops secondStops same
  have dots : PartsValues ".." := ⟨'.', by decide, by decide⟩
  rw [inspect, inspect] at same
  simp only [String.append_assoc] at same
  rcases toString_append_inj (dots.noLeadingDigit_append _) (dots.noLeadingDigit_append _)
      same with ⟨rfl, sameLater⟩
  rw [String.append_right_inj] at sameLater
  rcases toString_append_inj firstStops secondStops sameLater with ⟨rfl, sameRest⟩
  exact ⟨rfl, sameRest⟩

theorem Point.legible_inspect : Legible Point.inspect := by
  apply Legible.of_append_inj
  rintro ⟨firstRow, firstColumn⟩ ⟨secondRow, secondColumn⟩ firstRest secondRest - - same
  have agree :
      List.Forall₂ SameField
        [("row", toString firstRow), ("column", toString firstColumn)]
        [("row", toString secondRow), ("column", toString secondColumn)] :=
    .cons ⟨rfl, legible_toString.separable ..⟩
      (.cons ⟨rfl, legible_toString.separable ..⟩ .nil)
  rcases record_append_inj agree same with ⟨sameFields, sameRest⟩
  simp only [List.cons.injEq, Prod.mk.injEq, true_and, and_true] at sameFields
  rcases sameFields with ⟨sameRow, sameColumn⟩
  obtain rfl := legible_toString.injective sameRow
  obtain rfl := legible_toString.injective sameColumn
  exact ⟨rfl, sameRest⟩

/-- The two sorts of a problem begin differently, and the token of the second one is quoted. -/
theorem Problem.legible_inspect : Legible Problem.inspect := by
  apply Legible.of_append_inj
  intro first second firstRest secondRest _ _ same
  have sameHead := congrArg (List.head? ∘ String.toList) same
  cases first with
  | unexpected =>
      cases second with
      | unexpected => exact ⟨rfl, (String.append_right_inj _).mp same⟩
      | missing token => simp [inspect] at sameHead
  | missing token =>
      cases second with
      | unexpected => simp [inspect] at sameHead
      | missing other =>
          simp only [inspect, String.append_assoc, String.append_right_inj] at same
          rcases quoteBy_append_inj same with ⟨rfl, sameRest⟩
          exact ⟨rfl, (String.append_right_inj _).mp sameRest⟩

namespace Diagnostic

theorem legible_inspect : Legible inspect := by
  apply Legible.of_append_inj
  rintro ⟨firstProblem, firstRange, firstStart, firstStop⟩
    ⟨secondProblem, secondRange, secondStart, secondStop⟩ firstRest secondRest - - same
  have agree :
      List.Forall₂ SameField
        [("kind", firstProblem.inspect), ("byte_range", firstRange.inspect),
          ("start", firstStart.inspect), ("end", firstStop.inspect)]
        [("kind", secondProblem.inspect), ("byte_range", secondRange.inspect),
          ("start", secondStart.inspect), ("end", secondStop.inspect)] :=
    .cons ⟨rfl, Problem.legible_inspect.separable ..⟩
      (.cons ⟨rfl, ByteRange.legible_inspect.separable ..⟩
        (.cons ⟨rfl, Point.legible_inspect.separable ..⟩
          (.cons ⟨rfl, Point.legible_inspect.separable ..⟩ .nil)))
  rcases record_append_inj agree same with ⟨sameFields, sameRest⟩
  simp only [List.cons.injEq, Prod.mk.injEq, true_and, and_true] at sameFields
  rcases sameFields with ⟨sameProblem, sameRange, sameStart, sameStop⟩
  obtain rfl := Problem.legible_inspect.injective sameProblem
  obtain rfl := ByteRange.legible_inspect.injective sameRange
  obtain rfl := Point.legible_inspect.injective sameStart
  obtain rfl := Point.legible_inspect.injective sameStop
  exact ⟨rfl, sameRest⟩

/-! ## Lists of diagnostics -/

theorem inspect_ne_empty (diagnostic : Diagnostic) : diagnostic.inspect ≠ "" := by
  simp [inspect, record]

theorem inspectAll_injective : Function.Injective inspectAll :=
  legible_inspect.bracketed_injective inspect_ne_empty

theorem eq_iff_forall₂ (first second : List Diagnostic) :
    first = second ↔
      List.Forall₂
        (fun diagnostic other =>
          diagnostic.problem = other.problem ∧ diagnostic.range = other.range ∧
            diagnostic.start = other.start ∧ diagnostic.stop = other.stop)
        first second := by
  have sameParts (diagnostic other : Diagnostic) :
      diagnostic = other ↔
        diagnostic.problem = other.problem ∧ diagnostic.range = other.range ∧
          diagnostic.start = other.start ∧ diagnostic.stop = other.stop := by
    cases diagnostic
    cases other
    simp
  simp only [← sameParts, List.forall₂_eq_eq_eq]

theorem inspect_eq (diagnostic : Diagnostic) :
    diagnostic.inspect =
      "SyntaxError \x7b kind: " ++ diagnostic.problem.inspect ++
        ", byte_range: " ++ toString diagnostic.range.start ++ ".." ++
          toString diagnostic.range.stop ++
        ", start: Point \x7b row: " ++ toString diagnostic.start.row ++
          ", column: " ++ toString diagnostic.start.column ++
        " \x7d, end: Point \x7b row: " ++ toString diagnostic.stop.row ++
          ", column: " ++ toString diagnostic.stop.column ++ " \x7d \x7d" := by
  apply String.toList_inj.mp
  simp [inspect, record, fieldText, commaSeparated, ByteRange.inspect, Point.inspect]

/--
The text of a list of diagnostics shows every part of every entry.  Two lists
have the same text exactly when they are equal, that is when they have the
same length and agree entry by entry in the problem with its token, in the
range and in both places.  Comparing the diagnostics of two documents and
comparing their texts therefore give the same verdict.
-/
theorem inspectAll_tells_apart :
    (∀ diagnostics : List Diagnostic,
        inspectAll diagnostics =
          "[" ++
            ", ".intercalate
              (diagnostics.map fun diagnostic =>
                "SyntaxError \x7b kind: " ++ diagnostic.problem.inspect ++
                  ", byte_range: " ++ toString diagnostic.range.start ++ ".." ++
                    toString diagnostic.range.stop ++
                  ", start: Point \x7b row: " ++ toString diagnostic.start.row ++
                    ", column: " ++ toString diagnostic.start.column ++
                  " \x7d, end: Point \x7b row: " ++ toString diagnostic.stop.row ++
                    ", column: " ++ toString diagnostic.stop.column ++ " \x7d \x7d") ++
            "]") ∧
      (∀ first second : List Diagnostic,
        (inspectAll first = inspectAll second ↔ first = second) ∧
          (first = second ↔
            List.Forall₂
              (fun diagnostic other =>
                diagnostic.problem = other.problem ∧ diagnostic.range = other.range ∧
                  diagnostic.start = other.start ∧ diagnostic.stop = other.stop)
              first second)) ∧
      ∀ first second : Document,
        (inspectAll first.diagnostics == inspectAll second.diagnostics) =
          (first.diagnostics == second.diagnostics) := by
  refine ⟨?_, fun first second => ⟨inspectAll_injective.eq_iff, eq_iff_forall₂ first second⟩, ?_⟩
  · intro diagnostics
    rw [inspectAll, bracketed, commaSeparated_eq_intercalate,
      List.map_congr_left fun diagnostic _ => diagnostic.inspect_eq]
  · intro first second
    rw [Bool.eq_iff_iff, beq_iff_eq, beq_iff_eq]
    exact inspectAll_injective.eq_iff

end Diagnostic

end SoliditySyntax
