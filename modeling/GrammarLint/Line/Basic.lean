import GrammarLint.Line.Head
import GrammarLint.Line.Directive

/-!
# What a line of a grammar is

Every line is read on its own, so that a grammar that is only half
written, or broken elsewhere, can still be checked. The classes are tried
in a fixed order: a line that opens with `%` is a directive whatever else
it holds, one that opens with `//` is a comment, and only then come the
definition head and the invalid head.
-/

namespace GrammarLint

/-- Why a line takes no part in the checks. -/
inductive SkipReason where
  | directive
  | comment
  deriving DecidableEq, Repr, Inhabited

/-- What a line is. -/
inductive LineClass where
  /-- The line opens a definition. -/
  | definition (head : Head)
  /-- The line binds names and has no body. -/
  | directive (directive : Directive)
  /-- The line is a comment, or a directive that binds nothing. -/
  | skipped (reason : SkipReason)
  /-- What stands before the colon is not the head of a definition. -/
  | invalidHead (head : Text) (start : Nat)
  /-- Alternatives, continuations, blank lines. -/
  | body
  deriving DecidableEq, Repr, Inhabited

/-- Reads what a line is. -/
def classify (text : Text) : LineClass :=
  match text.dropWhile Text.isSpace with
  | '%' :: _ =>
    match Directive.read? text with
    | some directive => .directive directive
    | none => .skipped .directive
  | '/' :: '/' :: _ => .skipped .comment
  | _ =>
    match Head.read? text with
    | some head => .definition head
    | none =>
      match readInvalidHead? text with
      | some (head, start) => .invalidHead head start
      | none => .body

/-- A name that a line binds, with its kind and its column. -/
structure Binding where
  name : Text
  kind : SymbolKind
  column : Nat
  deriving DecidableEq, Repr, Inhabited

/-- The names that a line binds, in order. -/
def LineClass.bindings : LineClass → List Binding
  | .definition head => [⟨head.name, head.kind, head.nameStart⟩]
  | .directive d =>
    d.names.map fun bound =>
      ⟨bound.name, SymbolKind.ofName bound.name, bound.start⟩
  | _ => []

end GrammarLint
