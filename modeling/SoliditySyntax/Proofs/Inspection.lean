import SoliditySyntax.Document
import SoliditySyntax.Proofs.Legibility

/-!
# Inspection loses nothing that it quotes

Grammars, failures and documents are inspected as records in which every text
of unknown content is quoted.  This module shows that what is quoted can be
read back: the name of a grammar, all that a failure carries, and the source of
a document, although the tree of a document is shown behind its source without
quotes.

The main theorem rests on the law of quoting alone.  That law is stated with
it for every choice of the characters that are written by their code points,
and so are the texts that are inspected.
-/

namespace SoliditySyntax

open SoliditySyntax.Text

/-! ## Grammars -/

namespace Grammar

theorem inspect_eq (grammar : Grammar) :
    grammar.inspect = "Grammar \x7b name: " ++ quote grammar.name ++ " \x7d" := by
  apply String.toList_inj.mp
  simp [inspect, record, fieldText, commaSeparated]

theorem inspectSpread_eq (grammar : Grammar) :
    grammar.inspectSpread =
      "Grammar \x7b\n    name: " ++ quote grammar.name ++ ",\n\x7d" := by
  apply String.toList_inj.mp
  simp [inspectSpread, spreadRecord, fieldText]

theorem inspect_eq_iff (first second : Grammar) :
    first.inspect = second.inspect ↔ first.name = second.name := by
  constructor
  · exact legible_quote.eq_of_record_eq
  · intro sameName
    rw [inspect, inspect, sameName]

theorem inspectSpread_eq_iff (first second : Grammar) :
    first.inspectSpread = second.inspectSpread ↔ first.name = second.name := by
  constructor
  · intro same
    rw [inspectSpread_eq, inspectSpread_eq] at same
    simp only [String.append_assoc, String.append_right_inj] at same
    exact (quoteBy_append_inj same).1
  · intro sameName
    rw [inspectSpread, inspectSpread, sameName]

end Grammar

/-! ## Failures -/

/-- The engine's structural text of a rejection tells its version. -/
theorem Rejection.inspect_injective : Function.Injective Rejection.inspect := by
  rintro ⟨first⟩ ⟨second⟩ same
  obtain rfl : first = second := legible_toString.eq_of_record_eq same
  rfl

namespace Failure

/-- The text of a failure is its cause with all that it carries, texts being quoted. -/
theorem inspect_eq (failure : Failure) :
    failure.inspect =
      match failure with
      | .noHandle grammar => "NullHandle \x7b grammar: " ++ quote grammar ++ " \x7d"
      | .noNodeKinds grammar => "EmptyGrammar \x7b grammar: " ++ quote grammar ++ " \x7d"
      | .unreadableVersion grammar version oldest newest =>
          "IncompatibleVersion \x7b grammar: " ++ quote grammar ++
            ", version: " ++ toString version ++ ", min: " ++ toString oldest ++
              ", max: " ++ toString newest ++ " \x7d"
      | .rejected rejection =>
          "Language(LanguageError \x7b version: " ++ toString rejection.version ++ " \x7d)"
      | .noTree => "ParseAborted" := by
  apply String.toList_inj.mp
  cases failure with
  | noHandle grammar =>
      show (record "NullHandle" [("grammar", quote grammar)]).toList = _
      simp [record, fieldText, commaSeparated]
  | noNodeKinds grammar =>
      show (record "EmptyGrammar" [("grammar", quote grammar)]).toList = _
      simp [record, fieldText, commaSeparated]
  | unreadableVersion grammar version oldest newest =>
      show
        (record "IncompatibleVersion"
          [("grammar", quote grammar), ("version", toString version),
            ("min", toString oldest), ("max", toString newest)]).toList = _
      simp [record, fieldText, commaSeparated]
  | rejected rejection =>
      show ("Language(" ++ rejection.inspect ++ ")").toList = _
      simp [Rejection.inspect, record, fieldText, commaSeparated]
  | noTree =>
      rfl

/-- The texts of two failures of different causes begin differently. -/
theorem head?_inspect (failure : Failure) :
    failure.inspect.toList.head? =
      match failure with
      | .noHandle _ => some 'N'
      | .noNodeKinds _ => some 'E'
      | .unreadableVersion .. => some 'I'
      | .rejected _ => some 'L'
      | .noTree => some 'P' := by
  have begins (title : String) (mark : Char) (titleBegins : title.toList.head? = some mark)
      (fields : List (String × String)) :
      (record title fields).toList.head? = some mark := by
    simp [record, List.head?_append, titleBegins]
  cases failure with
  | noHandle grammar => exact begins "NullHandle" 'N' (by decide) _
  | noNodeKinds grammar => exact begins "EmptyGrammar" 'E' (by decide) _
  | unreadableVersion => exact begins "IncompatibleVersion" 'I' (by decide) _
  | rejected rejection =>
      show ("Language(" ++ _ ++ ")").toList.head? = some 'L'
      simp
  | noTree => decide

theorem unreadableVersion_eq_of_inspect_eq
    {firstGrammar secondGrammar : String}
    {firstVersion firstOldest firstNewest secondVersion secondOldest secondNewest : Nat}
    (same :
      (unreadableVersion firstGrammar firstVersion firstOldest firstNewest).inspect =
        (unreadableVersion secondGrammar secondVersion secondOldest secondNewest).inspect) :
    unreadableVersion firstGrammar firstVersion firstOldest firstNewest =
      unreadableVersion secondGrammar secondVersion secondOldest secondNewest := by
  have agree :
      List.Forall₂ SameField
        [("grammar", quote firstGrammar), ("version", toString firstVersion),
          ("min", toString firstOldest), ("max", toString firstNewest)]
        [("grammar", quote secondGrammar), ("version", toString secondVersion),
          ("min", toString secondOldest), ("max", toString secondNewest)] :=
    .cons ⟨rfl, legible_quote.separable ..⟩
      (.cons ⟨rfl, legible_toString.separable ..⟩
        (.cons ⟨rfl, legible_toString.separable ..⟩
          (.cons ⟨rfl, legible_toString.separable ..⟩ .nil)))
  have sameFields := record_inj agree same
  simp only [List.cons.injEq, Prod.mk.injEq, true_and, and_true] at sameFields
  rcases sameFields with ⟨sameGrammar, sameVersion, sameOldest, sameNewest⟩
  obtain rfl := legible_quote.injective sameGrammar
  obtain rfl := legible_toString.injective sameVersion
  obtain rfl := legible_toString.injective sameOldest
  obtain rfl := legible_toString.injective sameNewest
  rfl

/-- Different causes differ in their first character, so only like ones are left to compare. -/
theorem inspect_injective : Function.Injective inspect := by
  intro first second same
  have sameHead := congrArg (List.head? ∘ String.toList) same
  simp only [Function.comp_apply, head?_inspect] at sameHead
  cases first with
  | noHandle grammar =>
      cases second with
      | noHandle other =>
          obtain rfl : grammar = other := legible_quote.eq_of_record_eq same
          rfl
      | _ => simp at sameHead
  | noNodeKinds grammar =>
      cases second with
      | noNodeKinds other =>
          obtain rfl : grammar = other := legible_quote.eq_of_record_eq same
          rfl
      | _ => simp at sameHead
  | unreadableVersion grammar version oldest newest =>
      cases second with
      | unreadableVersion => exact unreadableVersion_eq_of_inspect_eq same
      | _ => simp at sameHead
  | rejected rejection =>
      cases second with
      | rejected other =>
          obtain rfl : rejection = other :=
            Rejection.inspect_injective
              ((String.append_right_inj _).mp ((String.append_left_inj _).mp same))
          rfl
      | _ => simp at sameHead
  | noTree =>
      cases second with
      | noTree => rfl
      | _ => simp at sameHead

end Failure

/-! ## Documents -/

namespace Document

theorem inspect_eq_iff (first second : Document) :
    first.inspect = second.inspect ↔
      first.source = second.source ∧ first.tree.inspect = second.tree.inspect := by
  constructor
  · intro same
    rcases record_cons_inj (legible_quote.separable ..) same with ⟨sameSource, sameLater⟩
    simp only [List.map_cons, List.map_nil, laterItems_cons, laterItems_nil, fieldText,
      String.append_empty, String.append_right_inj] at sameLater
    exact ⟨legible_quote.injective sameSource, sameLater⟩
  · rintro ⟨sameSource, sameTree⟩
    rw [inspect, inspect, sameSource, sameTree]

theorem inspect_eq (document : Document) :
    document.inspect =
      "SourceFile \x7b source: " ++ quote document.source ++
        ", tree: \x7bTree \x7bNode " ++ document.tree.label.kind ++
          " (" ++ toString document.tree.label.start.row ++ ", " ++
            toString document.tree.label.start.column ++ ") - (" ++
            toString document.tree.label.stop.row ++ ", " ++
            toString document.tree.label.stop.column ++ ")\x7d\x7d \x7d" := by
  have treeText :
      document.tree.inspect =
        "\x7bTree \x7bNode " ++ document.tree.label.kind ++ " " ++
          document.tree.label.start.inspectPair ++ " - " ++
            document.tree.label.stop.inspectPair ++ "\x7d\x7d" :=
    rfl
  apply String.toList_inj.mp
  simp [inspect, record, fieldText, commaSeparated, treeText, Point.inspectPair]

end Document

/--
A quoted text in front of any other is read back together with that other,
whichever characters are written by their code points.  So two grammars look
alike on inspection exactly when they have the same name, two failures exactly
when they are equal, and two documents exactly when they have the same source
and their trees look alike.  The texts themselves are spelled out behind these
laws, for grammars in both forms, for each cause of a failure and for documents;
a rejection is shown in the engine's own words.
-/
theorem inspection_lossless :
    (∀ (hidden : Char → Bool) (first second firstRest secondRest : String),
        quoteBy hidden first ++ firstRest = quoteBy hidden second ++ secondRest ↔
          first = second ∧ firstRest = secondRest) ∧
      (∀ first second : Grammar,
        (first.inspect = second.inspect ↔ first.name = second.name) ∧
          (first.inspectSpread = second.inspectSpread ↔ first.name = second.name)) ∧
      (∀ first second : Failure, first.inspect = second.inspect ↔ first = second) ∧
      (∀ first second : Document,
        first.inspect = second.inspect ↔
          first.source = second.source ∧ first.tree.inspect = second.tree.inspect) ∧
      (∀ grammar : Grammar,
        grammar.inspect = "Grammar \x7b name: " ++ quote grammar.name ++ " \x7d" ∧
          grammar.inspectSpread =
            "Grammar \x7b\n    name: " ++ quote grammar.name ++ ",\n\x7d") ∧
      (∀ failure : Failure,
        failure.inspect =
          match failure with
          | .noHandle grammar => "NullHandle \x7b grammar: " ++ quote grammar ++ " \x7d"
          | .noNodeKinds grammar => "EmptyGrammar \x7b grammar: " ++ quote grammar ++ " \x7d"
          | .unreadableVersion grammar version oldest newest =>
              "IncompatibleVersion \x7b grammar: " ++ quote grammar ++
                ", version: " ++ toString version ++ ", min: " ++ toString oldest ++
                  ", max: " ++ toString newest ++ " \x7d"
          | .rejected rejection =>
              "Language(LanguageError \x7b version: " ++ toString rejection.version ++ " \x7d)"
          | .noTree => "ParseAborted") ∧
      ∀ document : Document,
        document.inspect =
          "SourceFile \x7b source: " ++ quote document.source ++
            ", tree: \x7bTree \x7bNode " ++ document.tree.label.kind ++
              " (" ++ toString document.tree.label.start.row ++ ", " ++
                toString document.tree.label.start.column ++ ") - (" ++
                toString document.tree.label.stop.row ++ ", " ++
                toString document.tree.label.stop.column ++ ")\x7d\x7d \x7d" := by
  refine
    ⟨?_, fun first second =>
      ⟨first.inspect_eq_iff second, first.inspectSpread_eq_iff second⟩,
      fun _ _ => Failure.inspect_injective.eq_iff, Document.inspect_eq_iff,
      fun grammar => ⟨grammar.inspect_eq, grammar.inspectSpread_eq⟩, Failure.inspect_eq,
      Document.inspect_eq⟩
  intro hidden first second firstRest secondRest
  constructor
  · exact quoteBy_append_inj
  · rintro ⟨rfl, rfl⟩
    rfl

end SoliditySyntax
