import GrammarLint.Symbol.Name

/-!
# Directives that bind names

`%declare` binds the identifiers after it. `%import` binds a parenthesised list
of names, or the alias after `->`, or the last segment of a dotted module path;
when none of these yields a name, it binds the first run of upper-case letters,
digits and underscores after the keyword. A `//` ends a list of names.
-/

namespace GrammarLint

/-- A name and the column it is bound at. -/
structure BoundName where
  name : Text
  start : Nat
  deriving DecidableEq, Repr, Inhabited

/-- The two directives that bind names. -/
inductive DirectiveKind where
  | imports
  | declares
  deriving DecidableEq, Repr, Inhabited

/-- A directive with the names it binds, in order. -/
structure Directive where
  kind : DirectiveKind
  names : List BoundName
  deriving DecidableEq, Repr, Inhabited

namespace Directive

/-- The keyword `%declare`. -/
def declareKeyword : Text := ['%', 'd', 'e', 'c', 'l', 'a', 'r', 'e']

/-- The keyword `%import`. -/
def importKeyword : Text := ['%', 'i', 'm', 'p', 'o', 'r', 't']

/-- Reads an identifier at the front of a text. -/
def readIdentifier? : Text → Option Text
  | c :: cs =>
    if Text.isIdentStart c then some (c :: cs.takeWhile Text.isWord) else none
  | [] => none

/-- The identifiers of a list of names that starts at `offset`, up to a
comment. -/
def namesIn (offset : Nat) (fragment : Text) : List BoundName :=
  let read := fun (_ : Option Char) cs => (readIdentifier? cs).map fun name =>
    (name, name.length)
  (Text.sweep read (Text.beforeComment fragment)).map fun (column, name) =>
    ⟨name, offset + column⟩

/-- The names of a `%declare` line. The list ends with the line: a break may
close the text but not stand inside it. -/
def readDeclare? (text : Text) : Option (List BoundName) :=
  match declareKeyword.isPrefixOf? (text.dropWhile Text.isBlank) with
  | none => none
  | some rest =>
    if rest.head?.any Text.isWord then none
    else
      let list := rest.takeWhile (· != '\n')
      match rest.dropWhile (· != '\n') with
      | [] => some (namesIn (text.length - rest.length) list)
      | ['\n'] => some (namesIn (text.length - rest.length) list)
      | _ => none

/-- The segments of a module path: word characters, and dots that a
word character follows. -/
def takeSegments : Text → Text
  | [] => []
  | c :: cs =>
    if Text.isWord c || (c == '.' && cs.head?.any Text.isWord) then
      c :: takeSegments cs
    else []

/-- What stands after the last dot. -/
def lastSegment (segments : Text) : Text :=
  (segments.reverse.takeWhile (· != '.')).reverse

/-- The name a dotted module path ends in, if it is an identifier; `stop` is the
column after the path. -/
def pathName (segments : Text) (stop : Nat) : List BoundName :=
  let last := lastSegment segments
  if segments.contains '.' && last.head?.any Text.isIdentStart then
    [⟨last, stop - last.length⟩]
  else []

/-- The names that the clause after a module path binds: `-> alias` or `(name,
...)`. -/
def readClause? (size : Nat) : Text → Option (List BoundName)
  | '-' :: '>' :: cs =>
    let rest := cs.dropWhile Text.isBlank
    (readIdentifier? rest).map fun name => [⟨name, size - rest.length⟩]
  | '(' :: cs =>
    if cs.contains ')' then
      some (namesIn (size - cs.length) (cs.takeWhile (· != ')')))
    else none
  | _ => none

/-- The names of an `%import` line with a module path. -/
def readImport? (text : Text) : Option (List BoundName) :=
  match importKeyword.isPrefixOf? (text.dropWhile Text.isBlank) with
  | none => none
  | some rest =>
    let path := rest.dropWhile Text.isBlank
    let dotless := path.dropWhile (· == '.')
    let segments := takeSegments dotless
    let after := dotless.drop segments.length
    if rest.head?.any Text.isBlank && dotless.head?.any Text.isWord then
      match readClause? text.length (after.dropWhile Text.isBlank) with
      | some names => some names
      | none => some (pathName segments (text.length - after.length))
    else none

/-- Upper-case letters, digits and underscores. -/
def isBareName (c : Char) : Bool := c.isUpper || c.isDigit || c == '_'

/-- The first bare name after the `%import` keyword. -/
def readBareImport? (text : Text) : Option BoundName :=
  match importKeyword.isPrefixOf? (text.dropWhile Text.isBlank) with
  | none => none
  | some rest =>
    let run := rest.dropWhile (fun c => !isBareName c)
    let name := run.takeWhile isBareName
    if name.isEmpty then none else some ⟨name, text.length - run.length⟩

/-- Reads a directive that binds at least one name. -/
def read? (text : Text) : Option Directive :=
  match readDeclare? text with
  | some [] => none
  | some names => some ⟨.declares, names⟩
  | none =>
    match readImport? text with
    | some (name :: names) => some ⟨.imports, name :: names⟩
    | _ => (readBareImport? text).map fun name => ⟨.imports, [name]⟩

end Directive

end GrammarLint
