import SoliditySyntax.Text.Bytes
import SoliditySyntax.Text.Unprintable
import SoliditySyntax.Text.Inspection
import SoliditySyntax.Vocabulary
import SoliditySyntax.Tree.Basic
import SoliditySyntax.Tree.Entries
import SoliditySyntax.Grammar.Failure
import SoliditySyntax.Grammar.Basic
import SoliditySyntax.Parser
import SoliditySyntax.Diagnostic
import SoliditySyntax.Document
import SoliditySyntax.Proofs.DocumentOrder
import SoliditySyntax.Proofs.Parents
import SoliditySyntax.Proofs.Positions
import SoliditySyntax.Proofs.Ranges
import SoliditySyntax.Proofs.Slices
import SoliditySyntax.Proofs.ByteSlices
import SoliditySyntax.Proofs.ProblemScan
import SoliditySyntax.Proofs.Completeness
import SoliditySyntax.Proofs.Verdict
import SoliditySyntax.Proofs.Geometry
import SoliditySyntax.Proofs.Declarations
import SoliditySyntax.Proofs.DeclarationKinds
import SoliditySyntax.Proofs.BrokenDeclarations
import SoliditySyntax.Proofs.Names
import SoliditySyntax.Proofs.Tiling
import SoliditySyntax.Proofs.Loading
import SoliditySyntax.Proofs.Installation
import SoliditySyntax.Proofs.Numerals
import SoliditySyntax.Proofs.Messages
import SoliditySyntax.Proofs.Quotations
import SoliditySyntax.Proofs.Legibility
import SoliditySyntax.Proofs.DiagnosticTexts
import SoliditySyntax.Proofs.Inspection
