import GrammarLint.Symbol.Name

/-!
# Diagnostics

A diagnostic is a message about a span of one line, with a severity and
a code. The code is what settings switch off; the severity is what
decides whether a check fails.
-/

namespace GrammarLint

/-- A stretch of one line, from `start` up to and without `stop`. Lines and
columns count from zero. -/
structure Span where
  line : Nat
  start : Nat
  stop : Nat
  deriving DecidableEq, Repr, Inhabited

/-- How serious a diagnostic is. -/
inductive Severity where
  | error
  | warning
  deriving DecidableEq, Repr, Inhabited

namespace Severity

/-- The word for a severity. -/
def word : Severity → String
  | error => "error"
  | warning => "warning"

end Severity

/-- What a diagnostic is about. -/
inductive Code where
  | invalidDefinitionName
  | undefinedRule
  | undefinedTerminal
  | unusedSymbol
  deriving DecidableEq, Repr, Inhabited

namespace Code

/-- The name by which settings and reports refer to a code. -/
def label : Code → String
  | invalidDefinitionName => "invalid-definition-name"
  | undefinedRule => "undefined-rule"
  | undefinedTerminal => "undefined-terminal"
  | unusedSymbol => "unused-symbol"

/-- Every code, in the order of the labels. -/
def all : List Code :=
  [invalidDefinitionName, undefinedRule, undefinedTerminal, unusedSymbol]

/-- The code with this label. -/
def ofLabel? (label : String) : Option Code :=
  all.find? fun code => code.label == label

end Code

/-- The name under which this program signs its diagnostics. -/
def toolName : String := "larklint"

/-- A message about a stretch of one line. -/
structure Diagnostic where
  span : Span
  message : String
  severity : Severity
  code : Code
  source : String := toolName
  deriving DecidableEq, Repr, Inhabited

namespace Diagnostic

/-- The diagnostic is an error. -/
def isError (d : Diagnostic) : Bool := d.severity == .error

/-- A name in quotes after a phrase. -/
def quoting (phrase : String) (name : Text) : String :=
  phrase ++ " '" ++ String.ofList name ++ "'"

/-- The text before a colon is not the head of a definition. -/
def invalidHead (line start : Nat) (head : Text) : Diagnostic where
  span := ⟨line, start, start + head.length⟩
  message := quoting "Invalid definition name" head
  severity := .error
  code := .invalidDefinitionName

/-- A symbol is referred to and bound nowhere. -/
def undefined (line start : Nat) (name : Text) : SymbolKind → Diagnostic
  | .terminal => {
      span := ⟨line, start, start + name.length⟩
      message := quoting "Undefined terminal" name
      severity := .error
      code := .undefinedTerminal }
  | .rule => {
      span := ⟨line, start, start + name.length⟩
      message := quoting "Undefined rule" name
      severity := .error
      code := .undefinedRule }

/-- A symbol is bound and referred to nowhere. -/
def unused (line start : Nat) (name : Text) : Diagnostic where
  span := ⟨line, start, start + name.length⟩
  message := quoting "Unused grammar symbol" name
  severity := .warning
  code := .unusedSymbol

/-- Report order: by line, then by start column. -/
def positionLe (a b : Diagnostic) : Bool :=
  a.span.line < b.span.line ||
    (a.span.line == b.span.line && a.span.start ≤ b.span.start)

/-- The diagnostics in report order; diagnostics at one place keep their
order. -/
def inReportOrder (ds : List Diagnostic) : List Diagnostic :=
  ds.mergeSort positionLe

end Diagnostic

end GrammarLint
