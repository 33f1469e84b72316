import SoliditySyntax.Grammar.Basic

/-!
# Which grammars load

Loading looks at a grammar's handle, at the version of its tables and at the
number of their node kinds, in this order.  This module states the four rules
that say what loading comes to, each with all of its conditions, and shows
that the outcome of a load always follows one of them.

The main theorem reads the rules backwards.  A grammar loads exactly when all
three checks pass, each failure has one cause and carries the grammar's name,
and the log has a line exactly when the grammar loads.
-/

namespace SoliditySyntax

/-- The engine reads the version that a language is laid out for. -/
def Language.IsReadable (language : Language) : Prop :=
  Engine.oldestReadable ≤ language.abiVersion.toNat ∧
    language.abiVersion.toNat ≤ Engine.newestReadable

instance (language : Language) : Decidable language.IsReadable :=
  inferInstanceAs
    (Decidable
      (Engine.oldestReadable ≤ language.abiVersion.toNat ∧
        language.abiVersion.toNat ≤ Engine.newestReadable))

namespace Grammar

/-- The rules of loading.  The conditions of any two of them exclude one another. -/
inductive LoadsTo (grammar : Grammar) : Outcome Language → Prop where
  /-- Without tables there is nothing to look at. -/
  | noHandle
      (absent : grammar.handle? = none) :
      LoadsTo grammar (.fail (.noHandle grammar.name))
  /-- A version out of range is refused whatever the counts are. -/
  | unreadable {language : Language}
      (handed : grammar.handle? = some language)
      (outside : ¬ language.IsReadable) :
      LoadsTo grammar
        (.fail
          (.unreadableVersion grammar.name language.abiVersion.toNat
            Engine.oldestReadable Engine.newestReadable))
  /-- Tables in a readable layout are refused when they hold no node kinds. -/
  | noNodeKinds {language : Language}
      (handed : grammar.handle? = some language)
      (readable : language.IsReadable)
      (empty : language.nodeKindCount.toNat = 0) :
      LoadsTo grammar (.fail (.noNodeKinds grammar.name))
  /-- All other tables are handed on as they are, and this is logged. -/
  | loaded {language : Language}
      (handed : grammar.handle? = some language)
      (readable : language.IsReadable)
      (filled : 0 < language.nodeKindCount.toNat) :
      LoadsTo grammar ⟨.ok language, [.loaded grammar.name language]⟩

/-- Loading follows the rules. -/
theorem loadsTo_load (grammar : Grammar) : grammar.LoadsTo grammar.load := by
  rw [load, usableLanguage]
  cases handed : grammar.handle? with
  | none =>
      exact .noHandle handed
  | some language =>
      by_cases outside :
          language.abiVersion.toNat < Engine.oldestReadable ∨
            Engine.newestReadable < language.abiVersion.toNat
      · simp only [if_pos outside]
        apply LoadsTo.unreadable handed
        rintro ⟨notOlder, notNewer⟩
        omega
      · have readable : language.IsReadable := by
          constructor <;> omega
        simp only [if_neg outside]
        by_cases empty : language.nodeKindCount = 0
        · simp only [if_pos empty]
          exact .noNodeKinds handed readable (congrArg UInt32.toNat empty)
        · simp only [if_neg empty]
          refine .loaded handed readable (Nat.pos_of_ne_zero ?_)
          intro zero
          exact empty (UInt32.toNat_inj.mp zero)

namespace LoadsTo

variable {grammar : Grammar} {outcome : Outcome Language}

theorem result_eq_ok_iff
    (loadsTo : grammar.LoadsTo outcome)
    (language : Language) :
    outcome.result = .ok language ↔
      grammar.handle? = some language ∧ language.IsReadable ∧
        0 < language.nodeKindCount.toNat := by
  cases loadsTo with
  | noHandle absent =>
      simp [Outcome.fail, absent]
  | unreadable handed outside =>
      simp only [Outcome.fail, reduceCtorEq, handed, Option.some.injEq, false_iff]
      rintro ⟨rfl, readable, -⟩
      exact outside readable
  | noNodeKinds handed readable empty =>
      simp only [Outcome.fail, reduceCtorEq, handed, Option.some.injEq, false_iff]
      rintro ⟨rfl, -, filled⟩
      omega
  | loaded handed readable filled =>
      simp only [Except.ok.injEq, handed, Option.some.injEq]
      constructor
      · rintro rfl
        exact ⟨rfl, readable, filled⟩
      · exact And.left

theorem result_eq_error_iff
    (loadsTo : grammar.LoadsTo outcome)
    (failure : Failure) :
    outcome.result = .error failure ↔
      grammar.handle? = none ∧ failure = .noHandle grammar.name ∨
        ∃ language, grammar.handle? = some language ∧
          (¬ language.IsReadable ∧
              failure =
                .unreadableVersion grammar.name language.abiVersion.toNat
                  Engine.oldestReadable Engine.newestReadable ∨
            language.IsReadable ∧ language.nodeKindCount.toNat = 0 ∧
              failure = .noNodeKinds grammar.name) := by
  cases loadsTo with
  | noHandle absent =>
      simp [Outcome.fail, absent, eq_comm]
  | unreadable handed outside =>
      simp [Outcome.fail, handed, outside, eq_comm]
  | noNodeKinds handed readable empty =>
      simp [Outcome.fail, handed, readable, empty, eq_comm]
  | loaded handed readable filled =>
      simp [handed, readable, Nat.ne_of_gt filled]

/-- Tables are refused for their version exactly when it is out of range, and the version is told. -/
theorem result_eq_unreadableVersion_iff
    (loadsTo : grammar.LoadsTo outcome)
    {language : Language}
    (handed : grammar.handle? = some language)
    (name : String)
    (version oldest newest : Nat) :
    outcome.result = .error (.unreadableVersion name version oldest newest) ↔
      ¬ language.IsReadable ∧ name = grammar.name ∧ version = language.abiVersion.toNat ∧
        oldest = Engine.oldestReadable ∧ newest = Engine.newestReadable := by
  simp [loadsTo.result_eq_error_iff, handed]

theorem events_of_ok
    (loadsTo : grammar.LoadsTo outcome)
    {language : Language}
    (succeeds : outcome.result = .ok language) :
    outcome.events = [.loaded grammar.name language] := by
  cases loadsTo with
  | noHandle | unreadable | noNodeKinds =>
      cases succeeds
  | loaded =>
      cases succeeds
      rfl

theorem events_of_error
    (loadsTo : grammar.LoadsTo outcome)
    {failure : Failure}
    (fails : outcome.result = .error failure) :
    outcome.events = [] := by
  cases loadsTo with
  | noHandle | unreadable | noNodeKinds =>
      rfl
  | loaded =>
      cases fails

end LoadsTo

/--
A grammar loads exactly when it hands out tables of a version from 13 to 15
with at least one node kind, and these are its language.  It fails for a
missing handle, for any other version, or for a readable version without node
kinds, and for nothing else; the failure carries the grammar's name and the
version with its bounds.  One line is logged when it loads, for debugging, and
none when it fails.
-/
theorem load_verdict (grammar : Grammar) :
    (∀ language, grammar.load.result = .ok language ↔
        grammar.handle? = some language ∧
          (13 ≤ language.abiVersion.toNat ∧ language.abiVersion.toNat ≤ 15) ∧
            0 < language.nodeKindCount.toNat) ∧
      (∀ failure, grammar.load.result = .error failure ↔
        grammar.handle? = none ∧ failure = .noHandle grammar.name ∨
          ∃ language, grammar.handle? = some language ∧
            (¬ (13 ≤ language.abiVersion.toNat ∧ language.abiVersion.toNat ≤ 15) ∧
                failure =
                  .unreadableVersion grammar.name language.abiVersion.toNat 13 15 ∨
              (13 ≤ language.abiVersion.toNat ∧ language.abiVersion.toNat ≤ 15) ∧
                language.nodeKindCount.toNat = 0 ∧
                  failure = .noNodeKinds grammar.name)) ∧
      (∀ language, grammar.load.result = .ok language →
        grammar.load.events.map Event.line =
          [⟨.debug,
            "loaded " ++ grammar.name ++ " grammar (ABI " ++
              toString language.abiVersion.toNat ++ ", " ++
                toString language.nodeKindCount.toNat ++ " node kinds, " ++
                  toString language.fieldCount.toNat ++ " fields)"⟩]) ∧
      ∀ failure, grammar.load.result = .error failure → grammar.load.events = [] := by
  have loadsTo := grammar.loadsTo_load
  refine
    ⟨loadsTo.result_eq_ok_iff, loadsTo.result_eq_error_iff, ?_,
      fun _ => loadsTo.events_of_error⟩
  intro language succeeds
  rw [loadsTo.events_of_ok succeeds]
  rfl

/-- A version just too old is told before the missing node kinds, the oldest readable one loads. -/
theorem load_verdict_samples :
    (Grammar.mk "Old" (some ⟨12, 0, 4294967295⟩)).load.result =
        .error (.unreadableVersion "Old" 12 13 15) ∧
      (Grammar.mk "Old" (some ⟨12, 0, 4294967295⟩)).load.events = [] ∧
        (Grammar.mk "Small" (some ⟨13, 1, 0⟩)).load.result = .ok ⟨13, 1, 0⟩ ∧
          (Grammar.mk "Small" (some ⟨13, 1, 0⟩)).load.events.map Event.line =
            [⟨.debug, "loaded Small grammar (ABI 13, 1 node kinds, 0 fields)"⟩] := by
  rcases load_verdict ⟨"Old", some ⟨12, 0, 4294967295⟩⟩ with ⟨-, failsIff, -, silent⟩
  rcases load_verdict ⟨"Small", some ⟨13, 1, 0⟩⟩ with ⟨loadsIff, -, logged, -⟩
  have refused := (failsIff (.unreadableVersion "Old" 12 13 15)).mpr (by simp)
  have loaded := (loadsIff ⟨13, 1, 0⟩).mpr (by simp)
  refine ⟨refused, silent _ refused, loaded, ?_⟩
  rw [logged _ loaded]
  decide

end Grammar

end SoliditySyntax
