import GrammarLint.Symbol.Name

/-!
# Definition heads

A definition opens with blanks, an optional `?` or `!`, the name, an optional
priority such as `.2`, blanks and a colon. What stands in front of a colon
without being such a head is an invalid head: it is cut out by Unicode blanks,
so it is at times wider than the ASCII rule would allow.
-/

namespace GrammarLint

/-- The head of a definition: its name, where the name starts, and where the
body starts, just past the colon. -/
structure Head where
  name : Text
  kind : SymbolKind
  nameStart : Nat
  bodyStart : Nat
  deriving DecidableEq, Repr, Inhabited

namespace Head

/-- The text after an optional `?` or `!`. -/
def skipMarker : Text → Text
  | '?' :: cs => cs
  | '!' :: cs => cs
  | cs => cs

/-- The text after an optional priority, a dot and one or more digits. -/
def skipPriority : Text → Text
  | '.' :: cs =>
    if cs.head?.any Char.isDigit then cs.dropWhile Char.isDigit else '.' :: cs
  | cs => cs

/-- Reads the head of a definition. -/
def read? (text : Text) : Option Head :=
  let marked := skipMarker (text.dropWhile Text.isBlank)
  let name := marked.takeWhile Text.isWord
  match SymbolKind.ofName? name with
  | none => none
  | some kind =>
    match (skipPriority (marked.dropWhile Text.isWord)).dropWhile
      Text.isBlank with
    | ':' :: body =>
      some {
        name, kind
        nameStart := text.length - marked.length
        bodyStart := text.length - body.length }
    | _ => none

end Head

/-- A run of characters that are neither blank nor colon, followed by a colon:
the run and its column. -/
def readInvalidHead? (text : Text) : Option (Text × Nat) :=
  let trimmed := text.dropWhile Text.isSpace
  let inHead := fun c => c != ':' && !Text.isSpace c
  let head := trimmed.takeWhile inHead
  match head, (trimmed.dropWhile inHead).dropWhile Text.isSpace with
  | _ :: _, ':' :: _ => some (head, text.length - trimmed.length)
  | _, _ => none

end GrammarLint
