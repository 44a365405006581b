import GrammarLint.Body.Mask
import GrammarLint.Symbol.Name

/-!
# References

A reference is a symbol name with an optional priority, standing between word
boundaries. A body is swept twice, once for each kind, so all its terminals
come before all its rules.
-/

namespace GrammarLint.Body

/-- A symbol name found in a body, with its column. -/
structure Reference where
  name : Text
  kind : SymbolKind
  column : Nat
  deriving DecidableEq, Repr, Inhabited

/-- The size of a priority at the front of a text, a dot and its digits, if a
word boundary follows them; no priority has size zero. -/
def prioritySize : Text → Nat
  | '.' :: cs =>
    let digits := cs.takeWhile Char.isDigit
    if digits.isEmpty ||
        (cs.dropWhile Char.isDigit).head?.any Text.isWord then 0
    else digits.length + 1
  | _ => 0

/-- Reads a name of this kind that starts a word; it takes its priority with
it. -/
def readReference? (kind : SymbolKind) (before : Option Char) :
    Text → Option (Text × Nat)
  | [] => none
  | c :: cs =>
    let name := c :: cs.takeWhile kind.continues
    let rest := cs.dropWhile kind.continues
    if !before.any Text.isWord && kind.opens c &&
        !rest.head?.any Text.isWord then
      some (name, name.length + prioritySize rest)
    else none

/-- The references of one kind in a body, left to right. -/
def referencesOf (kind : SymbolKind) (body : Text) : List Reference :=
  (Text.sweep (readReference? kind) body).map fun (column, name) =>
    ⟨name, kind, column⟩

/-- The references of a body: its terminals, then its rules. -/
def references (body : Text) : List Reference :=
  referencesOf .terminal body ++ referencesOf .rule body

end GrammarLint.Body
