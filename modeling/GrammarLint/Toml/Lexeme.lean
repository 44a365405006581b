import GrammarLint.Text.Digits
import GrammarLint.Text.Hex
import GrammarLint.Toml.Value

/-!
# The words of TOML

Strings in their four forms, keys, numbers, dates and times. Every reader takes
the text from the word on and answers with what it read and the text after it.
-/

namespace GrammarLint.Toml

/-- What was read, and the text after it. -/
abbrev Reading (α : Type) := Except Fault (α × Text)

/-- Puts a character in front of a text that is read. -/
def Reading.cons (c : Char) (r : Reading Text) : Reading Text :=
  r.map fun (t, rest) => (c :: t, rest)

/-! ## Characters -/

/-- The blanks inside a line. -/
def isBlank (c : Char) : Bool := c == ' ' || c == '\t'

/-- The blanks between the items of an array. -/
def isFiller (c : Char) : Bool := isBlank c || c == '\n'

/-- The control characters that may not stand inside a line. -/
def isControl (c : Char) : Bool :=
  (c.toNat < 0x20 || c.toNat == 0x7f) && c != '\t'

/-- The text after blanks. -/
def skipBlanks (cs : Text) : Text := cs.dropWhile isBlank

/-- The text after a comment, from the line break on. -/
def skipComment : Text → Except Fault Text
  | '#' :: cs =>
    if (cs.takeWhile (· != '\n')).any isControl then .error .control
    else .ok (cs.dropWhile (· != '\n'))
  | cs => .ok cs

/-- The text after blanks, line breaks and comments. -/
def skipFillerFrom : Bool → Text → Except Fault Text
  | _, [] => .ok []
  | true, c :: cs =>
    if c = '\n' then skipFillerFrom false cs
    else if isControl c then .error .control
    else skipFillerFrom true cs
  | false, c :: cs =>
    if isFiller c then skipFillerFrom false cs
    else if c = '#' then skipFillerFrom true cs
    else .ok (c :: cs)

/-- The text after blanks, line breaks and comments. -/
def skipFiller (cs : Text) : Except Fault Text := skipFillerFrom false cs

/-! ## Strings -/

/-- The character of `size` hexadecimal digits at the front of a text. -/
def hexChar? (size : Nat) (cs : Text) : Option Char :=
  let digits := cs.take size
  let n := Text.hexNumber digits
  if digits.length = size && digits.all Text.isHex &&
      (n < 0xd800 || (0xdfff < n && n ≤ 0x10ffff)) then
    some (Char.ofNat n)
  else none

/-- The character an escape stands for, and how many characters the escape
takes; the text starts past the backslash. -/
def readEscape? : Text → Option (Char × Nat)
  | 'b' :: _ => some ('\x08', 1)
  | 't' :: _ => some ('\t', 1)
  | 'n' :: _ => some ('\n', 1)
  | 'f' :: _ => some ('\x0c', 1)
  | 'r' :: _ => some ('\r', 1)
  | '"' :: _ => some ('"', 1)
  | '\\' :: _ => some ('\\', 1)
  | 'u' :: cs => (hexChar? 4 cs).map fun c => (c, 5)
  | 'U' :: cs => (hexChar? 8 cs).map fun c => (c, 9)
  | _ => none

/-- A string in double quotes, from past the opening quote; `skip` characters
belong to an escape already read. -/
def basicFrom : Nat → Text → Reading Text
  | _, [] => .error .string
  | skip + 1, _ :: cs => basicFrom skip cs
  | 0, c :: cs =>
    if c = '"' then .ok ([], cs)
    else if c = '\\' then
      match readEscape? cs with
      | some (e, size) => (basicFrom size cs).cons e
      | none => .error .escape
    else if isControl c then .error .control
    else (basicFrom 0 cs).cons c

/-- The quotes that may stand inside a long string just before its end: at most
two. -/
def closeLong (quote : Char) (cs : Text) : Text × Text :=
  let extra := (cs.take 2).takeWhile (· == quote)
  (extra, cs.drop extra.length)

/-- What a backslash at the end of a line does: swallow blanks up to the break,
then everything blank after it. -/
inductive Folding where
  | off
  | toBreak
  | pastBreak
  deriving DecidableEq, Repr

/-- A string in three double quotes, from past the opening quotes. -/
def longBasicFrom : Nat → Folding → Text → Reading Text
  | _, _, [] => .error .string
  | skip + 1, folding, _ :: cs => longBasicFrom skip folding cs
  | 0, .toBreak, c :: cs =>
    if isBlank c then longBasicFrom 0 .toBreak cs
    else if c = '\n' then longBasicFrom 0 .pastBreak cs
    else .error .escape
  | 0, folding, c :: cs =>
    if folding = .pastBreak ∧ isFiller c then longBasicFrom 0 .pastBreak cs
    else if c = '"' then
      match cs with
      | '"' :: '"' :: rest => .ok (closeLong '"' rest)
      | _ => (longBasicFrom 0 .off cs).cons c
    else if c = '\\' then
      match cs.head?.any isFiller, readEscape? cs with
      | true, _ => longBasicFrom 0 .toBreak cs
      | false, some (e, size) => (longBasicFrom size .off cs).cons e
      | false, none => .error .escape
    else if isControl c && c != '\n' then .error .control
    else (longBasicFrom 0 .off cs).cons c

/-- A string in single quotes, from past the opening quote. -/
def literal (cs : Text) : Reading Text :=
  let inside := cs.takeWhile (· != '\'')
  match cs.dropWhile (· != '\'') with
  | _ :: rest =>
      if inside.any isControl then .error .control else .ok (inside, rest)
  | [] => .error .string

/-- A string in three single quotes, from past the opening quotes. -/
def longLiteral : Text → Reading Text
  | '\'' :: '\'' :: '\'' :: cs => .ok (closeLong '\'' cs)
  | c :: cs =>
    if isControl c && c != '\n' then .error .control
    else (longLiteral cs).cons c
  | [] => .error .string

/-- A long string may open with a line break that does not count. -/
def skipFirstBreak : Text → Text
  | '\n' :: cs => cs
  | cs => cs

/-- Reads a string in any of its forms. -/
def readString? : Text → Option (Reading Text)
  | '"' :: '"' :: '"' :: cs => some (longBasicFrom 0 .off (skipFirstBreak cs))
  | '"' :: cs => some (basicFrom 0 cs)
  | '\'' :: '\'' :: '\'' :: cs => some (longLiteral (skipFirstBreak cs))
  | '\'' :: cs => some (literal cs)
  | _ => none

/-! ## Keys -/

/-- The characters of a key without quotes. -/
def isBareKey (c : Char) : Bool := c.isAlphanum || c == '-' || c == '_'

/-- Reads one part of a key: bare, or in simple quotes. -/
def readKeyPart : Text → Reading Text
  | '"' :: cs => basicFrom 0 cs
  | '\'' :: cs => literal cs
  | c :: cs =>
    if isBareKey c then
      .ok (c :: cs.takeWhile isBareKey, cs.dropWhile isBareKey)
    else .error .key
  | [] => .error .key

/-- Reads a key of parts between dots, and the blanks after it. Every part takes
a character, so the length of the text is fuel enough. -/
def readKeyFrom : Nat → Text → Reading (List Text)
  | 0, _ => .error .key
  | fuel + 1, cs =>
    match readKeyPart cs with
    | .error fault => .error fault
    | .ok (part, rest) =>
      match skipBlanks rest with
      | '.' :: rest =>
        (readKeyFrom fuel (skipBlanks rest)).map fun (parts, rest) =>
          (part :: parts, rest)
      | rest => .ok ([part], rest)

/-- Reads a key and the blanks after it. -/
def readKey (cs : Text) : Reading (List Text) := readKeyFrom (cs.length + 1) cs

/-! ## Numbers, dates and times -/

/-- The text after an optional fraction. -/
def skipFraction : Text → Text
  | '.' :: cs => (Text.digits? Char.isDigit cs).getD ('.' :: cs)
  | cs => cs

/-- The text after an optional exponent. -/
def skipExponent : Text → Text
  | 'e' :: cs => (Text.digits? Char.isDigit (Text.skipSign cs)).getD ('e' :: cs)
  | 'E' :: cs => (Text.digits? Char.isDigit (Text.skipSign cs)).getD ('E' :: cs)
  | cs => cs

/-- The text after a decimal number. A leading zero stands alone. -/
def decimal? (cs : Text) : Option Text :=
  match Text.skipSign cs with
  | '0' :: rest => some (skipExponent (skipFraction rest))
  | rest =>
      (Text.digits? Char.isDigit rest).map fun rest =>
        skipExponent (skipFraction rest)

/-- The text after a number: hexadecimal, binary, octal or decimal. -/
def number? (cs : Text) : Option Text :=
  let based := match cs with
    | '0' :: 'x' :: rest => Text.digits? Text.isHex rest
    | '0' :: 'b' :: rest => Text.digits? Text.isBinary rest
    | '0' :: 'o' :: rest => Text.digits? Text.isOctal rest
    | _ => none
  based.or (decimal? cs)

/-- The number of two digits. -/
def pair? (a b : Char) : Option Nat :=
  if a.isDigit && b.isDigit then some (Text.hexValue a * 10 + Text.hexValue b)
  else none

/-- Two digits, at most `limit`, then the text after them. -/
def upTo? (limit : Nat) : Text → Option (Nat × Text)
  | a :: b :: cs =>
    match pair? a b with
    | some n => if n ≤ limit then some (n, cs) else none
    | none => none
  | _ => none

/-- The text after `hh:mm`. -/
def clock? (cs : Text) : Option Text :=
  match upTo? 23 cs with
  | some (_, ':' :: cs) => (upTo? 59 cs).map Prod.snd
  | _ => none

/-- The text after a time, `hh:mm:ss` and an optional fraction. -/
def time? (cs : Text) : Option Text :=
  match clock? cs with
  | some (':' :: cs) =>
    (upTo? 59 cs).map fun (_, rest) =>
      match rest with
      | '.' :: c :: more =>
          if c.isDigit then more.dropWhile Char.isDigit else rest
      | _ => rest
  | _ => none

/-- The text after an optional offset from universal time. -/
def skipOffset : Text → Text
  | 'Z' :: cs => cs
  | 'z' :: cs => cs
  | '+' :: cs => (clock? cs).getD ('+' :: cs)
  | '-' :: cs => (clock? cs).getD ('-' :: cs)
  | cs => cs

/-- A year that has a twenty-ninth of February. -/
def isLeap (year : Nat) : Bool :=
  year % 4 == 0 && (year % 100 != 0 || year % 400 == 0)

/-- The days of a month. -/
def daysIn (year month : Nat) : Nat :=
  if month = 2 then (if isLeap year then 29 else 28)
  else if month = 4 ∨ month = 6 ∨ month = 9 ∨ month = 11 then 30
  else 31

/-- A date as written: year, month and day, then the text after it. -/
def date? : Text → Option (Nat × Nat × Nat × Text)
  | a :: b :: c :: d :: '-' :: cs =>
    match pair? a b, pair? c d, upTo? 12 cs with
    | some century, some year, some (month, '-' :: cs) =>
      match upTo? 31 cs with
      | some (day, rest) =>
        if 1 ≤ month ∧ 1 ≤ day then
          some (century * 100 + year, month, day, rest)
        else none
      | none => none
    | _, _, _ => none
  | _ => none

/-- The text after the time of a date, if there is one. -/
def skipDateTime (cs : Text) : Text :=
  match cs with
  | c :: rest =>
    if c == 'T' || c == 't' || c == ' ' then
      ((time? rest).map skipOffset).getD cs
    else cs
  | [] => []

/-- The text after a date or a time. The day must be one of the calendar. -/
def moment? (cs : Text) : Option (Except Fault Text) :=
  match date? cs with
  | some (year, month, day, rest) =>
    if 1 ≤ year ∧ day ≤ daysIn year month then some (.ok (skipDateTime rest))
    else some (.error .date)
  | none => (time? cs).map .ok

/-- The text after an infinity or a not-a-number. -/
def special? (cs : Text) : Option Text :=
  let unsigned := Text.skipSign cs
  (['i', 'n', 'f'].isPrefixOf? unsigned).or
  (['n', 'a', 'n'].isPrefixOf? unsigned)

/-- The text after a truth value. -/
def truth? (cs : Text) : Option Text :=
  (['t', 'r', 'u', 'e'].isPrefixOf? cs).or
    (['f', 'a', 'l', 's', 'e'].isPrefixOf? cs)

/-- The most digits of a decimal integer. -/
def digitLimit : Nat := 4300

/-- A decimal integer, as it is written, with more digits than are read. -/
def isLongInteger (written : Text) : Bool :=
  written.all (fun c => c.isDigit || c == '_' || c == '+' || c == '-')
    && decide (digitLimit < (written.filter Char.isDigit).length)

/-- Reads a plain value. -/
def readScalar (cs : Text) : Reading Value :=
  let taken :=
    fun (rest : Text) =>
      (Value.scalar (cs.take (cs.length - rest.length)), rest)
  match truth? cs with
  | some rest => .ok (taken rest)
  | none =>
    match moment? cs with
    | some (.ok rest) => .ok (taken rest)
    | some (.error fault) => .error fault
    | none =>
      match (number? cs).or (special? cs) with
      | some rest =>
        if isLongInteger (cs.take (cs.length - rest.length)) then
          .error .longInteger
        else .ok (taken rest)
      | none => .error .value

end GrammarLint.Toml
