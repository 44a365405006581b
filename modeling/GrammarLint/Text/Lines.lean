import GrammarLint.Text.Basic

/-!
# Lines

Only `\r\n`, `\r` and `\n` break a line. Form feeds and the Unicode line
separators stay inside their line, as editors count them, and a break at the
very end of a text opens no further line.
-/

namespace GrammarLint.Text

/-- The lines of a text, without their breaks. -/
def lines : Text → List Text
  | [] => []
  | '\r' :: '\n' :: cs => [] :: lines cs
  | '\r' :: cs => [] :: lines cs
  | '\n' :: cs => [] :: lines cs
  | c :: cs =>
    match lines cs with
    | [] => [[c]]
    | line :: rest => (c :: line) :: rest

/-- The text with every break written as `\n`. -/
def unifyBreaks : Text → Text
  | [] => []
  | '\r' :: '\n' :: cs => '\n' :: unifyBreaks cs
  | '\r' :: cs => '\n' :: unifyBreaks cs
  | c :: cs => c :: unifyBreaks cs

end GrammarLint.Text
