import GrammarLint.Text.Digits
import GrammarLint.Text.Hex
import GrammarLint.Text.Lines

/-!
# Literals

What may be given to the handler of a tag: numbers, quoted texts and bytes,
constants, and tuples, sets and mappings of literals. Sets and mappings can
change, so they are no members of a set and no keys of a mapping, and neither is
a tuple that holds one. Of a literal only its shape matters here, since nothing
is ever called; nor does it matter which character an escape names.
-/

namespace GrammarLint.Literal

/-- What matters of a literal for the one around it. -/
inductive Shape where
  /-- A number without a sign. -/
  | real
  /-- A number with a sign. -/
  | signed
  /-- A multiple of the imaginary unit, without a sign. -/
  | imaginary
  /-- Another value that stays as it is. -/
  | fixed
  /-- A set or a mapping, or a tuple that holds one. -/
  | changeable
  /-- The name of the empty set, which is a literal only when empty
  brackets follow it. -/
  | name
  deriving DecidableEq, Repr, Inhabited

/-- The shape of a tuple with these members. -/
def Shape.ofTuple (members : List Shape) : Shape :=
  if members.contains .changeable then .changeable else .fixed

/-- The text after blanks and comments, with the answer whether the text starts
inside a comment. Line breaks are blanks inside brackets, and after a backslash
if the text goes on after them. -/
def skip (inner : Bool) : Bool → Text → Text
  | _, [] => []
  | true, c :: cs =>
    if c ≠ '\n' then skip inner true cs else if inner then skip inner false cs
    else c :: cs
  | false, c :: cs =>
    if c = ' ' ∨ c = '\t' ∨ c = '\x0c' ∨ (inner ∧ c = '\n') then
      skip inner false cs
    else if c = '#' then skip inner true cs
    else if c = '\\' then
      match cs with
      | '\n' :: next :: rest => skip inner false (next :: rest)
      | _ => c :: cs
    else c :: cs

/-! ## Quoted texts -/

/-- How a quoted text is read: with or without escapes, as characters or as
bytes. -/
structure Quoting where
  raw : Bool
  bytes : Bool
  deriving DecidableEq, Repr, Inhabited

/-- The reading that letters in front of the quote ask for. -/
def Quoting.ofLetters? (letters : Text) : Option Quoting :=
  match letters.map Char.toLower with
  | [] => some ⟨false, false⟩
  | ['u'] => some ⟨false, false⟩
  | ['r'] => some ⟨true, false⟩
  | ['b'] => some ⟨false, true⟩
  | ['b', 'r'] => some ⟨true, true⟩
  | ['r', 'b'] => some ⟨true, true⟩
  | _ => none

/-- At least `size` hexadecimal digits stand at the front. -/
def hasHex (size : Nat) (cs : Text) : Bool :=
  (cs.take size).length == size && (cs.take size).all Text.isHex

/-- How many characters belong to the name of a character in braces, the braces
included. -/
def nameSize? : Text → Option Nat
  | '\x7b' :: cs =>
    let name := cs.takeWhile fun c => c.isAlphanum || c == ' ' || c == '-'
    if !name.isEmpty && (cs.drop name.length).head? == some '\x7d' then
      some (name.length + 2)
    else none
  | _ => none

/-- How many characters after a backslash belong to its escape. -/
def escapeSize? (q : Quoting) : Text → Option Nat
  | [] => none
  | c :: cs =>
    if q.bytes && 0x80 ≤ c.toNat then none
    else if q.raw then some 1
    else if c = 'x' then (if hasHex 2 cs then some 3 else none)
    else if q.bytes then some 1
    else if c = 'u' then (if hasHex 4 cs then some 5 else none)
    else if c = 'U' then
      (if hasHex 8 cs && Text.hexNumber (cs.take 8) ≤ 0x10ffff then some 9
        else none)
    else if c = 'N' then (nameSize? cs).map (· + 1)
    else some 1

/-- The text after a quoted one, from past its opening; `count` quotes in a row
close it, and `passed` characters belong to an escape already read. -/
def afterQuoted? (q : Quoting) (quote : Char) (count : Nat) :
    Nat → Text → Option Text
  | _, [] => none
  | passed + 1, _ :: cs => afterQuoted? q quote count passed cs
  | 0, c :: cs =>
    if (List.replicate count quote).isPrefixOf (c :: cs) then
      some ((c :: cs).drop count)
    else if c = '\\' then
      match escapeSize? q cs with
      | some size => afterQuoted? q quote count size cs
      | none => none
    else if (c = '\n' && count == 1) || (q.bytes && 0x80 ≤ c.toNat) then none
    else afterQuoted? q quote count 0 cs

/-- The letters in front of a quote. -/
def lettersOf (cs : Text) : Text := cs.takeWhile Char.isAlpha

/-- A quoted text starts here. -/
def startsQuoted (cs : Text) : Bool :=
  (Quoting.ofLetters? (lettersOf cs)).isSome
    && (cs.drop (lettersOf cs).length).head?.any fun c => c == '"' || c == '\''

/-- Reads a quoted text: whether it is one of bytes, and the text after it. -/
def quoted? (cs : Text) : Option (Bool × Text) :=
  match Quoting.ofLetters? (lettersOf cs), cs.drop (lettersOf cs).length with
  | some q, quote :: rest =>
    let long := [quote, quote].isPrefixOf rest
    let after :=
      if long then afterQuoted? q quote 3 0 (rest.drop 2)
      else afterQuoted? q quote 1 0 rest
    after.map fun rest => (q.bytes, rest)
  | _, _ => none

/-- The text after quoted texts side by side, all of them of bytes or none. -/
def afterQuotedRun? (inner : Bool) (bytes : Option Bool) :
    Nat → Text → Option Text
  | 0, _ => none
  | fuel + 1, cs =>
    match quoted? cs with
    | none => none
    | some (isBytes, rest) =>
      if bytes.any (· != isBytes) then none
      else if startsQuoted (skip inner false rest) then
        afterQuotedRun? inner (some isBytes) fuel (skip inner false rest)
      else some rest

/-! ## Numbers -/

/-- The characters that may not follow a number directly. -/
def isNameChar (c : Char) : Bool := c.isAlphanum || c == '_' || 0x80 ≤ c.toNat

/-- The digits of a number in another base, after its letter. -/
def basedDigits? (isDigit : Char → Bool) : Text → Option Text
  | '_' :: cs => Text.digits? isDigit cs
  | cs => Text.digits? isDigit cs

/-- The text after an optional fraction, whose digits may be left out. -/
def skipFraction : Text → Text
  | '.' :: cs => (Text.digits? Char.isDigit cs).getD cs
  | cs => cs

/-- The text after an optional exponent. -/
def skipExponent : Text → Text
  | c :: cs =>
    if c = 'e' ∨ c = 'E' then
      (Text.digits? Char.isDigit (Text.skipSign cs)).getD (c :: cs)
    else c :: cs
  | [] => []

/-- Reads a decimal number. A whole number has no zeros in front. -/
def decimal? (cs : Text) : Option (Shape × Text) :=
  let whole :=
    if cs.head? = some '.' then
      (Text.digits? Char.isDigit cs.tail).map fun _ => cs
    else Text.digits? Char.isDigit cs
  whole.bind fun afterWhole =>
    let rest := skipExponent (skipFraction afterWhole)
    let digits := (cs.take (cs.length - afterWhole.length)).filter Char.isDigit
    match rest with
    | 'j' :: rest => some (.imaginary, rest)
    | 'J' :: rest => some (.imaginary, rest)
    | rest =>
      if rest.length = afterWhole.length ∧ digits.head? = some '0' ∧
          digits.any (· != '0') then none
      else some (.real, rest)

/-- Reads a number. No letter, digit or underscore follows it directly. -/
def number? (cs : Text) : Option (Shape × Text) :=
  let based := fun (isDigit : Char → Bool) (rest : Text) =>
    (basedDigits? isDigit rest).map fun rest => (Shape.real, rest)
  let number := match cs with
    | '0' :: c :: rest =>
      if c = 'x' ∨ c = 'X' then based Text.isHex rest
      else if c = 'o' ∨ c = 'O' then based Text.isOctal rest
      else if c = 'b' ∨ c = 'B' then based Text.isBinary rest
      else decimal? cs
    | _ => decimal? cs
  number.bind fun (shape, rest) =>
    if rest.head?.any isNameChar then none else some (shape, rest)

/-! ## All literals -/

/-- Reads a constant, or the name of the empty set. -/
def named? (cs : Text) : Option (Shape × Text) :=
  let name := cs.takeWhile isNameChar
  let rest := cs.drop name.length
  if name = "None".toList ∨ name = "True".toList ∨ name = "False".toList then
    some (.fixed, rest)
  else if name = "set".toList then some (.name, rest)
  else none

/-- The name of the empty set becomes a literal with empty brackets after it. -/
def called (inner : Bool) : Shape × Text → Shape × Text
  | (.name, rest) =>
    match skip inner false rest with
    | '(' :: inside =>
      match skip true false inside with
      | ')' :: rest => (.changeable, rest)
      | _ => (.name, rest)
    | _ => (.name, rest)
  | other => other

mutual

/-- Reads a literal that starts with no sign, or the name of the empty set,
also in brackets of its own. Every literal takes a character, so the length of
the text is fuel enough. -/
def readAtom : Nat → Bool → Text → Option (Shape × Text)
  | 0, _, _ => none
  | fuel + 1, inner, cs =>
    if startsQuoted cs then
      (afterQuotedRun? inner none (cs.length + 1) cs).map fun rest =>
        (.fixed, rest)
    else
      match cs with
      | '(' :: rest =>
        match readMembers fuel rest with
        | some ([member], false, rest) => some (called inner (member, rest))
        | some (members, _, rest) =>
          if members.contains .name then none else some (.ofTuple members, rest)
        | none => none
      | '\x7b' :: rest =>
        match skip true false rest with
        | '\x7d' :: rest => some (.changeable, rest)
        | rest =>
          (readEntries fuel none rest).map fun rest => (.changeable, rest)
      | '.' :: '.' :: '.' :: rest => some (.fixed, rest)
      | c :: _ =>
        if c.isDigit || c == '.' then number? cs
        else (named? cs).map (called inner)
      | [] => none

/-- Reads a literal: with a sign if it is a number, and with an imaginary
part if it is a real one. -/
def readLiteral : Nat → Bool → Text → Option (Shape × Text)
  | 0, _, _ => none
  | fuel + 1, inner, cs =>
    let cs := skip inner false cs
    let first :=
      if cs.head? = some '+' ∨ cs.head? = some '-' then
        match readAtom fuel inner (skip inner false cs.tail) with
        | some (.real, rest) => some (Shape.signed, rest)
        | some (.imaginary, rest) => some (Shape.fixed, rest)
        | _ => none
      else readAtom fuel inner cs
    match first with
    | none => none
    | some (shape, rest) =>
      let rest := skip inner false rest
      if rest.head? = some '+' ∨ rest.head? = some '-' then
        match decide (shape = .real ∨ shape = .signed),
          readAtom fuel inner (skip inner false rest.tail) with
        | true, some (.imaginary, rest) => some (.fixed, skip inner false rest)
        | _, _ => none
      else some (shape, rest)

/-- Reads the members of a tuple up to its closing bracket, and
whether a comma follows one. -/
def readMembers : Nat → Text → Option (List Shape × Bool × Text)
  | 0, _ => none
  | fuel + 1, cs =>
    match skip true false cs with
    | ')' :: rest => some ([], false, rest)
    | cs =>
      match readLiteral fuel true cs with
      | some (shape, ')' :: rest) => some ([shape], false, rest)
      | some (shape, ',' :: rest) =>
        (readMembers fuel rest).map fun (shapes, _, rest) =>
          (shape :: shapes, true, rest)
      | _ => none

/-- Reads the members of a set or the entries of a mapping up to the closing
brace; the first one decides which of the two it is. -/
def readEntries : Nat → Option Bool → Text → Option Text
  | 0, _, _ => none
  | fuel + 1, mapping, cs =>
    match readLiteral fuel true cs with
    | none => none
    | some (.changeable, _) => none
    | some (.name, _) => none
    | some (_, rest) =>
      let isEntry := rest.head? = some ':'
      let after := if isEntry then readValue fuel rest.tail else some rest
      if mapping.any (· != isEntry) then none
      else
        match after with
        | some ('\x7d' :: rest) => some rest
        | some (',' :: rest) =>
          match skip true false rest with
          | '\x7d' :: rest => some rest
          | rest => readEntries fuel (some isEntry) rest
        | _ => none

/-- The text after the value of an entry. -/
def readValue : Nat → Text → Option Text
  | 0, _ => none
  | fuel + 1, cs =>
    match readLiteral fuel true cs with
    | some (.name, _) => none
    | some (_, rest) => some rest
    | none => none

end

/-- Nothing is left but blanks and comments, on this line and on those after
it. -/
def isEnd (cs : Text) : Bool :=
  let rest := skip false false cs
  rest.isEmpty || (rest.head? == some '\n' && (skip true false rest).isEmpty)

/-- The text is literals with commas between them, at least one. -/
def areLiterals : Nat → Text → Bool
  | 0, _ => false
  | fuel + 1, cs =>
    match readLiteral (3 * cs.length + 3) false cs with
    | some (.name, _) => false
    | some (_, ',' :: rest) => isEnd rest || areLiterals fuel rest
    | some (_, rest) => isEnd rest
    | none => false

/-- The line of the first literal, after lines of comments; blanks in front
of it are not allowed. -/
def firstLine? (cs : Text) : Option Text :=
  let line := skip true false cs
  let before := (cs.take (cs.length - line.length)).reverse.takeWhile fun c =>
    c != '\n' && c != '\x0c'
  if before.isEmpty then some line else none

/-- The text is a literal, or a tuple without its brackets. -/
def isLiteral (t : Text) : Bool :=
  (firstLine? (Text.unifyBreaks t)).any fun cs => areLiterals (cs.length + 1) cs

end GrammarLint.Literal
