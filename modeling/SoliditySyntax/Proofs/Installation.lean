import SoliditySyntax.Parser
import SoliditySyntax.Proofs.Loading

/-!
# Loading and installing agree on versions

The version of a language is checked twice, when its grammar is loaded and by
the engine when the language is installed in a parser.  The two checks are
written apart, fail in different ways and word their failures differently.
This module shows that they agree.

Of the engine only this is used: it takes a language exactly when it reads the
version of the language, and a rejection carries that version.  The documented
way of installing languages is one case of it.
-/

namespace SoliditySyntax

namespace Parser

/-- An engine takes exactly the languages of the versions it reads, and tells a version it rejects. -/
structure ReadsVersions (install : Language → Except Rejection Parser) : Prop where
  accepts_iff :
    ∀ language, (∃ parser, install language = .ok parser) ↔ language.IsReadable
  version_eq :
    ∀ language rejection, install language = .error rejection →
      rejection.version = language.abiVersion.toNat

theorem readsVersions_install : ReadsVersions install := by
  constructor
  · intro language
    rw [install]
    split
    next readable =>
      exact iff_of_true ⟨_, rfl⟩ readable
    next unreadable =>
      refine iff_of_false ?_ unreadable
      rintro ⟨parser, taken⟩
      cases taken
  · intro language rejection rejected
    rw [install] at rejected
    split at rejected
    · cases rejected
    · cases rejected
      rfl

section OfGrammar

variable {install : Language → Except Rejection Parser} {grammar : Grammar}

/-- A grammar that loads gives a parser when its language is installed; only the loading is logged. -/
theorem ofGrammar_of_load
    {language : Language}
    {parser : Parser}
    (loads : grammar.load.result = .ok language)
    (installs : install language = .ok parser) :
    ofGrammar install grammar = ⟨.ok parser, [.loaded grammar.name language]⟩ := by
  rw [ofGrammar, Outcome.bind_eq_andThen, Outcome.andThen_of_ok loads, installs,
    grammar.loadsTo_load.events_of_ok loads]
  rfl

theorem ofGrammar_of_load_error
    {failure : Failure}
    (fails : grammar.load.result = .error failure) :
    ofGrammar install grammar = .fail failure := by
  rw [ofGrammar, Outcome.bind_eq_andThen, Outcome.andThen_of_error fails,
    grammar.loadsTo_load.events_of_error fails]
  rfl

end OfGrammar

namespace ReadsVersions

variable {install : Language → Except Rejection Parser}

theorem rejects_iff
    (reads : ReadsVersions install)
    (language : Language) :
    (∃ rejection, install language = .error rejection) ↔ ¬ language.IsReadable := by
  rw [← reads.accepts_iff]
  cases install language with
  | ok parser => simp
  | error rejection => simp

/-- What a loaded grammar hands on is taken, so the parser is made. -/
theorem exists_parser_of_load
    (reads : ReadsVersions install)
    {grammar : Grammar}
    {language : Language}
    (loads : grammar.load.result = .ok language) :
    ∃ parser, install language = .ok parser ∧
      (ofGrammar install grammar).result = .ok parser := by
  have usable := (grammar.loadsTo_load.result_eq_ok_iff language).mp loads
  rcases (reads.accepts_iff language).mpr usable.2.1 with ⟨parser, installs⟩
  exact ⟨parser, installs, congrArg Outcome.result (ofGrammar_of_load loads installs)⟩

/-- A parser is refused for a failure of loading only. -/
theorem result_ne_rejected
    (reads : ReadsVersions install)
    (grammar : Grammar)
    (rejection : Rejection) :
    (ofGrammar install grammar).result ≠ .error (.rejected rejection) := by
  cases loads : grammar.load.result with
  | ok language =>
      rcases reads.exists_parser_of_load loads with ⟨parser, -, made⟩
      rw [made]
      exact nofun
  | error failure =>
      intro refused
      rw [ofGrammar_of_load_error loads] at refused
      obtain rfl : failure = .rejected rejection := Except.error.inj refused
      have causes := (grammar.loadsTo_load.result_eq_error_iff _).mp loads
      simp at causes

/-- The engine rejects exactly the tables that loading refuses for their version. -/
theorem rejects_iff_load
    (reads : ReadsVersions install)
    {grammar : Grammar}
    {language : Language}
    (handed : grammar.handle? = some language) :
    (∃ rejection, install language = .error rejection) ↔
      ∃ version oldest newest,
        grammar.load.result =
          .error (.unreadableVersion grammar.name version oldest newest) := by
  have refusedIff := grammar.loadsTo_load.result_eq_unreadableVersion_iff handed grammar.name
  rw [reads.rejects_iff]
  constructor
  · intro unreadable
    exact ⟨_, _, _, (refusedIff ..).mpr ⟨unreadable, rfl, rfl, rfl, rfl⟩⟩
  · rintro ⟨version, oldest, newest, refused⟩
    exact ((refusedIff version oldest newest).mp refused).1

/-- The tables that the engine takes and loading refuses are those without node kinds. -/
theorem load_fails_iff
    (reads : ReadsVersions install)
    {grammar : Grammar}
    {language : Language}
    (handed : grammar.handle? = some language)
    (taken : ∃ parser, install language = .ok parser) :
    (∃ failure, grammar.load.result = .error failure) ↔
      language.nodeKindCount.toNat = 0 := by
  have readable := (reads.accepts_iff language).mp taken
  simp [grammar.loadsTo_load.result_eq_error_iff, handed, readable]

end ReadsVersions

/--
With any engine that reads versions, a grammar that loads is taken by the
engine, so that a parser is never refused by a rejection, be it for this
grammar or for the one that the engine is linked with.  The engine rejects a
grammar's tables exactly when loading refuses their version; then both failures
hold the same version and word the same figures.  Tables that the engine takes
are refused by loading exactly when they hold no node kinds.
-/
theorem loading_agrees_with_installing
    (engine : Engine)
    (reads : ReadsVersions engine.install)
    (grammar : Grammar)
    (language : Language)
    (handed : grammar.handle? = some language) :
    (∀ loaded, grammar.load.result = .ok loaded →
        ∃ parser, engine.install loaded = .ok parser ∧
          (ofGrammar engine.install grammar).result = .ok parser) ∧
      (∀ loaded, engine.grammar.load.result = .ok loaded →
        ∃ parser, engine.install loaded = .ok parser ∧
          engine.parser.result = .ok parser) ∧
      (∀ rejection,
        (ofGrammar engine.install grammar).result ≠ .error (.rejected rejection) ∧
          engine.parser.result ≠ .error (.rejected rejection)) ∧
      ((∃ rejection, engine.install language = .error rejection) ↔
        ∃ version oldest newest,
          grammar.load.result =
            .error (.unreadableVersion grammar.name version oldest newest)) ∧
      (∀ rejection version oldest newest, engine.install language = .error rejection →
        grammar.load.result =
            .error (.unreadableVersion grammar.name version oldest newest) →
          rejection.version = version ∧
            (Failure.rejected rejection).message =
              "parser rejected language: " ++
                ("Incompatible language version " ++ toString version ++
                  ". Expected minimum " ++ toString oldest ++
                    ", maximum " ++ toString newest) ∧
            (Failure.unreadableVersion grammar.name version oldest newest).message =
              "Error loading " ++ grammar.name ++ " grammar: ABI version " ++
                toString version ++ " outside " ++ toString oldest ++ "..=" ++
                  toString newest) ∧
      ((∃ parser, engine.install language = .ok parser) →
        ((∃ failure, grammar.load.result = .error failure) ↔
          language.nodeKindCount.toNat = 0)) := by
  refine
    ⟨fun _ loads => reads.exists_parser_of_load loads,
      fun _ loads => reads.exists_parser_of_load loads, ?_,
      reads.rejects_iff_load handed, ?_, reads.load_fails_iff handed⟩
  · intro rejection
    exact
      ⟨reads.result_ne_rejected grammar rejection,
        reads.result_ne_rejected engine.grammar rejection⟩
  · intro rejection version oldest newest rejected refused
    rcases (grammar.loadsTo_load.result_eq_unreadableVersion_iff handed ..).mp refused with
      ⟨-, -, rfl, rfl, rfl⟩
    have sameVersion := reads.version_eq language rejection rejected
    rw [← sameVersion]
    exact ⟨rfl, rfl, rfl⟩

/-- An engine with the documented way of installing languages, which answers every source alike. -/
def sampleEngine (tree? : Option Tree) : Engine where
  handle? := some ⟨15, 531, 35⟩
  install := install
  treeOf? _ _ := tree?

/-- A version just too new, and readable tables with and without a node kind. -/
theorem loading_agrees_with_installing_samples :
    ReadsVersions (sampleEngine none).install ∧
      (Grammar.mk "New" (some ⟨16, 5, 2⟩)).load.result =
          .error (.unreadableVersion "New" 16 13 15) ∧
        (Failure.rejected ⟨16⟩).message =
            "parser rejected language: Incompatible language version 16. " ++
              "Expected minimum 13, maximum 15" ∧
          (Failure.unreadableVersion "New" 16 13 15).message =
              "Error loading New grammar: ABI version 16 outside 13..=15" ∧
            (∃ parser, (sampleEngine none).parser.result = .ok parser) ∧
              ∃ failure, (Grammar.mk "Empty" (some ⟨14, 0, 2⟩)).load.result = .error failure := by
  have reads : ReadsVersions (sampleEngine none).install := readsVersions_install
  rcases loading_agrees_with_installing (sampleEngine none) reads
      ⟨"New", some ⟨16, 5, 2⟩⟩ ⟨16, 5, 2⟩ rfl with ⟨-, made, -, -, worded, -⟩
  rcases loading_agrees_with_installing (sampleEngine none) reads
      ⟨"Empty", some ⟨14, 0, 2⟩⟩ ⟨14, 0, 2⟩ rfl with ⟨-, -, -, -, -, refusedIff⟩
  rcases worded ⟨16⟩ 16 13 15 rfl rfl with ⟨-, rejectedText, refusedText⟩
  rcases made ⟨15, 531, 35⟩ rfl with ⟨parser, -, parserMade⟩
  exact
    ⟨reads, rfl, rejectedText.trans (by decide), refusedText.trans (by decide),
      ⟨parser, parserMade⟩, (refusedIff ⟨⟨14, 0, 2⟩, rfl⟩).mpr rfl⟩

end Parser

end SoliditySyntax
