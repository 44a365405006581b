import GrammarLint.Text.Case
import GrammarLint.Text.Cells
import GrammarLint.Text.EmojiNames

/-!
# Emoji codes

A name between colons is a code for an emoji. The name may end in a hyphen
and the word `emoji` or `text`, which asks for that form of the emoji. A
code holds no blank, its name is read in lower case, and a code whose name
is unknown stays as it is.
-/

namespace GrammarLint.Emoji

/-- The emoji of a name among words that are names and emoji in turn. -/
def amongWords (name : Text) : List Text → Option Text
  | word :: emoji :: rest =>
    if word = name then some emoji else amongWords name rest
  | _ => none

/-- The emoji with this name. -/
def ofName? (name : Text) : Option Text :=
  rows.findSome? fun row => amongWords name (Text.splitOn ' ' row.toList)

/-- The character that asks for the plain form of the one before it. -/
def textSelector : Char := '\ufe0e'

/-- A code: its name, the selector of its form, and how many characters it has
after its first colon. -/
structure Code where
  name : Text
  selector : Text
  size : Nat
  deriving DecidableEq, Repr, Inhabited

/-- The code whose first colon stands in front of the text. The first colon
after that, or the first word for a form with a colon, ends it. -/
def code? : Text → Option Code
  | [] => none
  | c :: cs =>
    if c = ':' then some ⟨[], [], 1⟩
    else if "-emoji:".toList.isPrefixOf (c :: cs) then
      some ⟨[], [Text.emojiSelector], 7⟩
    else if "-text:".toList.isPrefixOf (c :: cs) then
      some ⟨[], [textSelector], 6⟩
    else if Text.isSpace c then none
    else
      (code? cs).map fun code => ⟨c :: code.name, code.selector, code.size + 1⟩

/-- Replaces codes; `skip` characters belong to one already read. -/
def replaceFrom : Nat → Text → Text
  | _, [] => []
  | skip + 1, _ :: cs => replaceFrom skip cs
  | 0, c :: cs =>
    match (if c = ':' then code? cs else none) with
    | none => c :: replaceFrom 0 cs
    | some code =>
      let emoji := (ofName? (Text.lower code.name)).map (· ++ code.selector)
      emoji.getD (c :: cs.take code.size) ++ replaceFrom code.size cs

/-- The text with its emoji codes replaced. -/
def replace (t : Text) : Text := replaceFrom 0 t

end GrammarLint.Emoji
