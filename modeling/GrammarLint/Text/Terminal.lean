import GrammarLint.Text.Cells

/-!
# Text for a terminal

What is printed is cleaned for output that is no terminal: plain lines lose the
sequences that set colours, and laid-out text loses control characters and has
its tabs filled up to the next stop.
-/

namespace GrammarLint.Terminal

/-! ## Colours -/

/-- The characters between the start of a colour sequence and the letter that
ends it. -/
def isParameter (c : Char) : Bool := c.isDigit || c == ';' || c == '?'

/-- How many characters after an escape character belong to its sequence. -/
def sequenceSize : Text → Nat
  | '[' :: cs =>
    let parameters := cs.takeWhile isParameter
    if (cs.drop parameters.length).head?.any Char.isAlpha then
      parameters.length + 2
    else 0
  | _ => 0

/-- Drops colour sequences; `skip` characters belong to one already seen. -/
def dropColoursFrom : Nat → Text → Text
  | _, [] => []
  | skip + 1, _ :: cs => dropColoursFrom skip cs
  | 0, c :: cs =>
    if c = '\x1b' ∧ 0 < sequenceSize cs then
      dropColoursFrom (sequenceSize cs) cs
    else c :: dropColoursFrom 0 cs

/-- The text without colour sequences. -/
def plain (t : Text) : Text := dropColoursFrom 0 t

/-! ## Layout -/

/-- The control characters that are never laid out: bell, backspace, vertical
tab, form feed and carriage return. -/
def isDropped (c : Char) : Bool :=
  c == '\x07' || c == '\x08' || c == '\x0b' || c == '\x0c' || c == '\x0d'

/-- The distance between tab stops. -/
def tabSize : Nat := 8

/-- Puts the parts of a line together that stand between tabs. Every tab becomes
a blank, and more blanks up to the next stop. -/
def joinParts : Nat → List Text → Text
  | _, [] => []
  | _, [part] => part
  | column, part :: parts =>
    let stop := column + Text.cells (part ++ [' '])
    let fill := (tabSize - stop % tabSize) % tabSize
    part ++ List.replicate (fill + 1) ' ' ++ joinParts (stop + fill) parts

/-- A line with its tabs filled up. -/
def fillTabs (line : Text) : Text := joinParts 0 (Text.splitOn '\t' line)

/-- The text as it is laid out. -/
def layOut (t : Text) : Text :=
  Text.joinWith ['\n']
    ((Text.splitOn '\n' (t.filter (!isDropped ·))).map fillTabs)

end GrammarLint.Terminal
