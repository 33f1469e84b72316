import SoliditySyntax.Text.Inspection

/-!
# Failures of loading and parsing

A compiled grammar is laid out for a version of the binary interface between
grammars and the parsing engine.  The engine reads a range of these versions
and rejects a language of any other.  The rejection carries the version; its
wording, which says what range was expected, and its structural text are the
engine's own.

A failure is a cause.  It has a message for a reader, a text that shows its
structure, and, when the engine rejected a language, the rejection behind it.
A message puts the name of the grammar in as it is, without quotes; the
structural text quotes it.
-/

namespace SoliditySyntax

open SoliditySyntax.Text

/-! ## Versions that the engine reads -/

namespace Engine

/-- The oldest interface version that the engine reads. -/
def oldestReadable : Nat :=
  13

/-- The newest interface version that the engine reads. -/
def newestReadable : Nat :=
  15

end Engine

/-- The engine's rejection of a language for its interface version. -/
structure Rejection where
  version : Nat
deriving DecidableEq

namespace Rejection

/-- The engine's wording of a rejection, with the range that it expected. -/
def message (rejection : Rejection) : String :=
  "Incompatible language version " ++ toString rejection.version ++
    ". Expected minimum " ++ toString Engine.oldestReadable ++
    ", maximum " ++ toString Engine.newestReadable

/-- The engine's structural text of a rejection. -/
def inspect (rejection : Rejection) : String :=
  record "LanguageError" [("version", toString rejection.version)]

end Rejection

/-! ## Failures -/

/-- Why a grammar could not be loaded, or a source not parsed. -/
inductive Failure where
  /-- The grammar hands out no tables. -/
  | noHandle (grammar : String)
  /-- The grammar's tables hold no node kinds. -/
  | noNodeKinds (grammar : String)
  /-- The grammar's tables are laid out for a version outside the readable range. -/
  | unreadableVersion (grammar : String) (version oldest newest : Nat)
  /-- The engine took no language of this version. -/
  | rejected (rejection : Rejection)
  /-- The engine gave up without a tree. -/
  | noTree
deriving DecidableEq

namespace Failure

/-- The wording of a failure. -/
def message : Failure → String
  | .noHandle grammar => "Error loading " ++ grammar ++ " grammar"
  | .noNodeKinds grammar => "Error loading " ++ grammar ++ " grammar: no node kinds"
  | .unreadableVersion grammar version oldest newest =>
      "Error loading " ++ grammar ++ " grammar: ABI version " ++ toString version ++
        " outside " ++ toString oldest ++ "..=" ++ toString newest
  | .rejected rejection => "parser rejected language: " ++ rejection.message
  | .noTree => "parser returned no tree"

/-- The structure of a failure: its cause with all that it carries. -/
def inspect : Failure → String
  | .noHandle grammar => record "NullHandle" [("grammar", quote grammar)]
  | .noNodeKinds grammar => record "EmptyGrammar" [("grammar", quote grammar)]
  | .unreadableVersion grammar version oldest newest =>
      record "IncompatibleVersion"
        [("grammar", quote grammar), ("version", toString version),
          ("min", toString oldest), ("max", toString newest)]
  | .rejected rejection => "Language(" ++ rejection.inspect ++ ")"
  | .noTree => "ParseAborted"

/-- The rejection by the engine that lies behind a failure. -/
def rejection? : Failure → Option Rejection
  | .rejected rejection => some rejection
  | _ => none

end Failure

end SoliditySyntax
