/-!
# Text and its character classes

A text is the list of its code points. Columns, lengths and cuts all count
code points, so a column is a plain list index and the library's list lemmas
speak about it directly.

Two kinds of blank occur. Definition heads and directives are separated by the
six ASCII blanks; the question whether a line opens with a `%` or a `//`, and
the head in front of a colon, skip every Unicode blank. Words are ASCII
throughout: letters, digits and the underscore.
-/

namespace GrammarLint

/-- A text, code point by code point. -/
abbrev Text := List Char

namespace Text

/-! ## Blanks -/

/-- The six ASCII blanks. -/
def isBlank (c : Char) : Bool :=
  c == ' ' || c == '\t' || c == '\n' || c == '\r' || c == '\x0b' || c == '\x0c'

/-- The blanks outside the ASCII six: the four separators below the space, and
the Unicode spaces and line separators. A zero-width space is none of them. -/
def isWideBlank (c : Char) : Bool :=
  let n := c.toNat
  (0x1c ≤ n && n ≤ 0x1f) || n == 0x85 || n == 0xa0 || n == 0x1680
    || (0x2000 ≤ n && n ≤ 0x200a)
    || n == 0x2028 || n == 0x2029 || n == 0x202f || n == 0x205f || n == 0x3000

/-- Any blank, ASCII or not. -/
def isSpace (c : Char) : Bool := isBlank c || isWideBlank c

theorem isSpace_of_isBlank {c : Char} (h : isBlank c = true) :
    isSpace c = true := by
  simp [isSpace, h]

/-! ## Words -/

/-- The characters of words: ASCII letters, digits and the underscore. -/
def isWord (c : Char) : Bool := c.isAlphanum || c == '_'

/-- The word characters that may open an identifier: all but the digits. -/
def isIdentStart (c : Char) : Bool := c.isAlpha || c == '_'

/-- A word ends or begins between two neighbours exactly when one of them is a
word character; the ends of the text count as no word character. -/
def atBoundary (before after : Option Char) : Bool :=
  before.any isWord != after.any isWord

/-- The last character of a text, or the one in front of it if the text is
empty. -/
def lastOr (before : Option Char) (t : Text) : Option Char :=
  t.getLast?.or before

/-- The text `name` stands at the front of `rest` with a word boundary on both
sides; `before` is the character in front of `rest`. -/
def standsAt (name : Text) (before : Option Char) (rest : Text) : Bool :=
  name.isPrefixOf rest
    && atBoundary before rest.head?
    && atBoundary (lastOr before name) (rest.drop name.length).head?

/-- The text `name` stands somewhere with a word boundary on both sides. -/
def occursFrom (name : Text) : Option Char → Text → Bool
  | before, [] => standsAt name before []
  | before, c :: cs =>
    standsAt name before (c :: cs) || occursFrom name (some c) cs

/-- The text `name` occurs as a whole word. -/
def occursAsWord (name text : Text) : Bool := occursFrom name none text

/-! ## Searching -/

/-- The first column from `column` on at which `part` occurs. -/
def findFrom (part : Text) : Nat → Text → Option Nat
  | column, [] => if part.isEmpty then some column else none
  | column, c :: cs =>
    if part.isPrefixOf (c :: cs) then some column
    else findFrom part (column + 1) cs

/-- The first column at which `part` occurs in the text. -/
def columnOf? (part text : Text) : Option Nat := findFrom part 0 text

/-- The part stands in the text at `column`; past the end of the text not
even the empty part does. -/
def hasAt (part text : Text) (column : Nat) : Bool :=
  column ≤ text.length && part.isPrefixOf (text.drop column)

/-- The text up to the first `//`. -/
def beforeComment : Text → Text
  | '/' :: '/' :: _ => []
  | c :: cs => c :: beforeComment cs
  | [] => []

/-! ## Sweeps -/

/-- Everything that `read` finds in a text, left to right and without overlap,
each with its column. `read` is given the character in front of the place and
the rest of the text, and answers with what it read and how many characters that
took. `skip` characters are still covered by the last find. -/
def sweepFrom {α : Type} (read : Option Char → Text → Option (α × Nat)) :
    Nat → Nat → Option Char → Text → List (Nat × α)
  | _, _, _, [] => []
  | skip + 1, column, _, c :: cs => sweepFrom read skip (column + 1) (some c) cs
  | 0, column, before, c :: cs =>
    match read before (c :: cs) with
    | some (a, size) =>
      (column, a) :: sweepFrom read (size - 1) (column + 1) (some c) cs
    | none => sweepFrom read 0 (column + 1) (some c) cs

/-- Everything that `read` finds in the text, with its column. -/
def sweep {α : Type} (read : Option Char → Text → Option (α × Nat))
    (text : Text) : List (Nat × α) :=
  sweepFrom read 0 0 none text

/-! ## Splitting -/

/-- The parts of a text between separators; the text itself if there is none. -/
def splitOn (separator : Char) : Text → List Text
  | [] => [[]]
  | c :: cs =>
    if c = separator then [] :: splitOn separator cs
    else
      match splitOn separator cs with
      | [] => [[c]]
      | part :: parts => (c :: part) :: parts

/-- The texts in order with `separator` between each two. -/
def joinWith (separator : Text) : List Text → Text
  | [] => []
  | [t] => t
  | t :: ts => t ++ separator ++ joinWith separator ts

/-- Text order: code point by code point, a text before its continuations. -/
def le : Text → Text → Bool
  | [], _ => true
  | _ :: _, [] => false
  | a :: as, b :: bs => if a = b then le as bs else a.toNat < b.toNat

/-- The text without the blanks at its ends. -/
def trim (t : Text) : Text :=
  ((t.dropWhile isSpace).reverse.dropWhile isSpace).reverse

end Text

end GrammarLint
