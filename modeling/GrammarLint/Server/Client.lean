import GrammarLint.Check.Outline
import GrammarLint.Diagnostic.Basic
import GrammarLint.Text.Units

/-!
# What an editor is told

Diagnostics and symbols in the editor's terms: positions in its unit, numbers
for severities and kinds. Positions are those of the lines that were checked; a
line past the last one becomes the position after all lines.
-/

namespace GrammarLint

/-- A position in the editor's unit. -/
structure ClientPosition where
  line : Nat
  character : Nat
  deriving DecidableEq, Repr, Inhabited

/-- A range in the editor's unit. -/
structure ClientRange where
  start : ClientPosition
  stop : ClientPosition
  deriving DecidableEq, Repr, Inhabited

namespace ClientRange

/-- A span in code points. -/
def plain (span : Span) : ClientRange :=
  ⟨⟨span.line, span.start⟩, ⟨span.line, span.stop⟩⟩

/-- A position in the lines, in the editor's unit. -/
def positionIn (unit : PositionUnit) (lines : List Text) (line column : Nat) :
    ClientPosition :=
  match lines[line]? with
  | some text => ⟨line, unit.column text column⟩
  | none => ⟨lines.length, 0⟩

/-- A span of the lines, in the editor's unit. -/
def inLines (unit : PositionUnit) (lines : List Text)
    (span : Span) : ClientRange :=
  ⟨positionIn unit lines span.line span.start,
    positionIn unit lines span.line span.stop⟩

end ClientRange

/-- A diagnostic as an editor is told. -/
structure ClientDiagnostic where
  range : ClientRange
  message : String
  severity : Nat
  code : String
  source : String
  deriving DecidableEq, Repr, Inhabited

/-- The number of a severity. -/
def Severity.number : Severity → Nat
  | .error => 1
  | .warning => 2

/-- A diagnostic at a range. -/
def ClientDiagnostic.ofDiagnostic (place : Span → ClientRange)
    (d : Diagnostic) : ClientDiagnostic :=
  ⟨place d.span, d.message, d.severity.number, d.code.label, d.source⟩

/-- A symbol as an editor is told. -/
structure ClientSymbol where
  name : Text
  kind : Nat
  range : ClientRange
  nameRange : ClientRange
  detail : String
  deriving DecidableEq, Repr, Inhabited

/-- The number of a kind: terminals are constants, rules are functions. -/
def SymbolKind.number : SymbolKind → Nat
  | .terminal => 14
  | .rule => 12

/-- The symbols of a document, at ranges. -/
def clientSymbols (place : Span → ClientRange) (lines : List Text) :
    List ClientSymbol :=
  (outline lines).map fun e =>
    ⟨e.name, e.kind.number, place e.span, place e.nameSpan, e.kind.word⟩

end GrammarLint
