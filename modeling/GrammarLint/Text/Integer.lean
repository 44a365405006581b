import GrammarLint.Text.Basic

/-!
# Written integers

An integer is digits, with a sign in front if any. White space around it does
not count, zeros in front of the digits are dropped, a point and zeros may
follow, and single underscores may stand between digits. Zeros may also stand in
front of a minus sign, but then none after it. Whatever is left after that must
be a bare number without a zero in front, and no longer than a limit.
-/

namespace GrammarLint.Integer

/-- White space around a number. The four separators of information count as
blanks elsewhere, but not here. -/
def isWhite (c : Char) : Bool := Text.isSpace c && !('\x1c' ≤ c && c ≤ '\x1f')

/-- The text without white space at its ends. -/
def trim (t : Text) : Text :=
  ((t.dropWhile isWhite).reverse.dropWhile isWhite).reverse

/-- The digits other than zero. -/
def isNonzero (c : Char) : Bool := '1' ≤ c && c ≤ '9'

/-- Drops the zeros and underscores that follow `last`, which is one of them.
The last of them is kept in front of a point and at the end. -/
def afterZero : Char → Text → Option Text
  | last, [] => some [last]
  | last, c :: cs =>
    if c = '0' ∨ c = '_' then afterZero c cs
    else if isNonzero c ∨ c = '-' then some (c :: cs)
    else if c = '.' then some (last :: c :: cs)
    else none

/-- Drops the zeros in front of a number, which starts with a digit. -/
def dropZeros : Text → Option Text
  | [] => none
  | c :: cs =>
    if c = '0' then afterZero c cs
    else if isNonzero c then some (c :: cs)
    else none

/-- Drops what does not count in front of a number: a plus sign, and zeros,
also after a minus sign. -/
def dropFront : Text → Option Text
  | '+' :: cs => dropZeros cs
  | '-' :: cs => (dropZeros cs).map ('-' :: ·)
  | cs => dropZeros cs

/-- Drops a point with zeros after it, at least one. -/
def dropFraction (t : Text) : Text :=
  match t.dropWhile (· != '.') with
  | _ :: zero :: zeros =>
      if (zero :: zeros).all (· == '0') then t.takeWhile (· != '.') else t
  | _ => t

/-- Two underscores stand side by side. -/
def hasDouble : Text → Bool
  | '_' :: '_' :: _ => true
  | _ :: cs => hasDouble cs
  | [] => false

/-- Drops underscores, unless one stands first or last or two stand side by
side. -/
def dropUnderscores (t : Text) : Text :=
  if t.head? = some '_' || t.getLast? = some '_' || hasDouble t then t
  else t.filter (· != '_')

/-- The most characters that a number may have. -/
def limit : Nat := 4300

/-- The value of digits. -/
def value (digits : Text) : Nat :=
  digits.foldl (fun n c => n * 10 + (c.toNat - '0'.toNat)) 0

/-- Reads digits that do not start with a zero, unless there is only one. -/
def bareDigits? (t : Text) : Option Nat :=
  if !t.isEmpty && t.all Char.isDigit &&
      (t.head? != some '0' || t.length == 1) then some (value t)
  else none

/-- Reads a bare number. -/
def bare? (t : Text) : Option Int :=
  if limit < t.length then none
  else
    match t with
    | '-' :: digits => (bareDigits? digits).map fun n => -(n : Int)
    | digits => (bareDigits? digits).map Int.ofNat

/-- Reads an integer. -/
def read? (t : Text) : Option Int :=
  (dropFront (trim t)).bind fun number =>
    bare? (dropUnderscores (dropFraction number))

end GrammarLint.Integer
