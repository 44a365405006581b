import GrammarLint.Diagnostic.Basic
import GrammarLint.Line.Basic

/-!
# The outline of a grammar

One entry for every binding, in the order of the text; a name that is
bound twice has two entries.
-/

namespace GrammarLint

/-- A bound name with the line that binds it. -/
structure OutlineEntry where
  name : Text
  kind : SymbolKind
  line : Nat
  lineLength : Nat
  nameStart : Nat
  deriving DecidableEq, Repr, Inhabited

namespace OutlineEntry

/-- The whole line of an entry. -/
def span (entry : OutlineEntry) : Span := ⟨entry.line, 0, entry.lineLength⟩

/-- The name of an entry on its line. -/
def nameSpan (entry : OutlineEntry) : Span :=
  ⟨entry.line, entry.nameStart, entry.nameStart + entry.name.length⟩

end OutlineEntry

/-- The entries of one line. -/
def outlineOfLine (line : Nat) (text : Text) : List OutlineEntry :=
  (classify text).bindings.map fun b =>
    { name := b.name, kind := b.kind, line, lineLength := text.length,
      nameStart := b.column }

/-- The entries of a grammar. -/
def outline (lines : List Text) : List OutlineEntry :=
  lines.zipIdx.flatMap fun (text, line) => outlineOfLine line text

end GrammarLint
