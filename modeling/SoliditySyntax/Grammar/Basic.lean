import SoliditySyntax.Grammar.Failure

/-!
# Compiled grammars and how they load

A compiled grammar is known by its name and hands out, when it can, a handle
to its tables.  Of the tables this library uses three figures: the interface
version that they are laid out for, the number of node kinds and the number of
fields.  A grammar is inspected by its name alone.

Loading and parsing leave a log of what was achieved.  An outcome is a result,
or the failure that stood in its way, together with the events logged until
then.  Outcomes are chained: the events of the later step follow those of the
earlier one, and after a failure nothing is run and nothing more is logged.

A grammar loads when it hands out tables that the engine can read and that
hold at least one node kind.  The version is looked at first: the counts of
tables in an unknown layout mean nothing.  Only a grammar that loads leaves an
event in the log.
-/

namespace SoliditySyntax

open SoliditySyntax.Text

/-! ## Grammars -/

/-- The figures of a grammar's tables. -/
structure Language where
  abiVersion : UInt32
  nodeKindCount : UInt32
  fieldCount : UInt32
deriving DecidableEq

/-- A compiled grammar: its name, and the tables it hands out, if any. -/
structure Grammar where
  name : String
  handle? : Option Language
deriving DecidableEq

namespace Grammar

/-- The grammar of the Solidity language, with the tables that its compiled form hands out. -/
def solidity (handle? : Option Language) : Grammar where
  name := "Solidity"
  handle? := handle?

/-- A grammar as a record of its name. -/
def inspect (grammar : Grammar) : String :=
  record "Grammar" [("name", quote grammar.name)]

/-- A grammar as a record of its name, spread over lines. -/
def inspectSpread (grammar : Grammar) : String :=
  spreadRecord "Grammar" [("name", quote grammar.name)]

end Grammar

/-! ## The log -/

/-- What is logged of loading and parsing. -/
inductive Event where
  /-- A grammar was loaded. -/
  | loaded (grammar : String) (language : Language)
  /-- A source of the Solidity language was parsed, with or without errors in it. -/
  | parsed (byteCount : Nat) (hasErrors : Bool)
deriving DecidableEq

/-- The levels of a log, the gravest first. -/
inductive Level where
  | error
  | warning
  | info
  | debug
  | trace
deriving DecidableEq

/-- A line of a log, with the level that it is logged at. -/
structure LogLine where
  level : Level
  text : String
deriving DecidableEq

/-- The line of the log that an event stands for.  All of them are for debugging. -/
def Event.line : Event → LogLine
  | .loaded grammar language =>
      ⟨.debug,
        "loaded " ++ grammar ++ " grammar (ABI " ++ toString language.abiVersion.toNat ++
          ", " ++ toString language.nodeKindCount.toNat ++ " node kinds, " ++
          toString language.fieldCount.toNat ++ " fields)"⟩
  | .parsed byteCount hasErrors =>
      ⟨.debug,
        "parsed " ++ toString byteCount ++ " bytes of Solidity (errors: " ++
          (if hasErrors then "true" else "false") ++ ")"⟩

/-! ## Outcomes -/

/-- A result or a failure, and the events logged on the way, the earliest first. -/
structure Outcome (α : Type) where
  result : Except Failure α
  events : List Event

namespace Outcome

/-- A result without any event. -/
def ok (value : α) : Outcome α :=
  ⟨.ok value, []⟩

/-- A failure without any event. -/
def fail (failure : Failure) : Outcome α :=
  ⟨.error failure, []⟩

/-- The outcome that only logs an event. -/
def log (event : Event) : Outcome Unit :=
  ⟨.ok (), [event]⟩

/-- Go on with the result of an outcome, if it has one. -/
def andThen (earlier : Outcome α) (next : α → Outcome β) : Outcome β :=
  match earlier.result with
  | .ok value => ⟨(next value).result, earlier.events ++ (next value).events⟩
  | .error failure => ⟨.error failure, earlier.events⟩

instance : Monad Outcome where
  pure := ok
  bind := andThen

@[simp]
theorem pure_eq_ok (value : α) : (pure value : Outcome α) = ok value :=
  rfl

@[simp]
theorem bind_eq_andThen (earlier : Outcome α) (next : α → Outcome β) :
    earlier >>= next = earlier.andThen next :=
  rfl

theorem andThen_of_ok
    {earlier : Outcome α}
    {next : α → Outcome β}
    {value : α}
    (succeeds : earlier.result = .ok value) :
    earlier.andThen next =
      ⟨(next value).result, earlier.events ++ (next value).events⟩ := by
  rw [andThen, succeeds]

theorem andThen_of_error
    {earlier : Outcome α}
    {next : α → Outcome β}
    {failure : Failure}
    (fails : earlier.result = .error failure) :
    earlier.andThen next = ⟨.error failure, earlier.events⟩ := by
  rw [andThen, fails]

end Outcome

/-! ## Loading -/

namespace Grammar

/-- The tables of a grammar, if they can be used. -/
def usableLanguage (grammar : Grammar) : Except Failure Language :=
  match grammar.handle? with
  | none => .error (.noHandle grammar.name)
  | some language =>
      let version := language.abiVersion.toNat
      if version < Engine.oldestReadable ∨ Engine.newestReadable < version then
        .error (.unreadableVersion grammar.name version
          Engine.oldestReadable Engine.newestReadable)
      else if language.nodeKindCount = 0 then
        .error (.noNodeKinds grammar.name)
      else
        .ok language

/-- Load a grammar: its usable tables, with the event that it was loaded. -/
def load (grammar : Grammar) : Outcome Language :=
  match grammar.usableLanguage with
  | .error failure => .fail failure
  | .ok language => ⟨.ok language, [.loaded grammar.name language]⟩

end Grammar

end SoliditySyntax
