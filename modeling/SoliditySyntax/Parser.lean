import SoliditySyntax.Grammar.Basic
import SoliditySyntax.Tree.Basic

/-!
# Parsers

A parser holds the language that was installed in it.  A parse loads the
Solidity grammar, installs its language in a new parser and has the parser
make a tree of the source.

What lies outside this library is not fixed here: the tables that the compiled
Solidity grammar hands out, the way in which a language is installed, and the
tree that a parser makes of a source.  An engine is given by these three.  Of
the second, `Parser.install` is the documented form: a language is taken when
its version can be read, whatever else it holds.
-/

namespace SoliditySyntax

/-- A parser with an installed language. -/
structure Parser where
  language : Language
deriving DecidableEq

namespace Parser

/-- Install a language in a new parser, if its version can be read. -/
def install (language : Language) : Except Rejection Parser :=
  if Engine.oldestReadable ≤ language.abiVersion.toNat ∧
      language.abiVersion.toNat ≤ Engine.newestReadable then
    .ok ⟨language⟩
  else
    .error ⟨language.abiVersion.toNat⟩

/-- A new parser with the language of a grammar, by a way of installing languages. -/
def ofGrammar
    (install : Language → Except Rejection Parser)
    (grammar : Grammar) :
    Outcome Parser := do
  let language ← grammar.load
  match install language with
  | .ok parser => return parser
  | .error rejection => .fail (.rejected rejection)

end Parser

/-- A parsing engine that is linked with a compiled Solidity grammar. -/
structure Engine where
  /-- The tables that the Solidity grammar hands out, if any. -/
  handle? : Option Language
  /-- How a language is installed in a new parser. -/
  install : Language → Except Rejection Parser
  /-- The tree that a parser makes of a source; none when it gives up. -/
  treeOf? : Parser → String → Option Tree

namespace Engine

/-- The Solidity grammar that an engine is linked with. -/
def grammar (engine : Engine) : Grammar :=
  .solidity engine.handle?

/-- A new parser with the Solidity language. -/
def parser (engine : Engine) : Outcome Parser :=
  Parser.ofGrammar engine.install engine.grammar

/-- Parse a source of the Solidity language with a new parser. -/
def parse (engine : Engine) (source : String) : Outcome Tree := do
  let parser ← engine.parser
  match engine.treeOf? parser source with
  | none => .fail .noTree
  | some tree =>
      Outcome.log (.parsed source.utf8ByteSize tree.label.hasError)
      return tree

end Engine

end SoliditySyntax
