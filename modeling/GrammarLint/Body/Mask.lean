import GrammarLint.Text.Basic

/-!
# Masking the body of a definition

References are looked for in a copy of the body in which nothing else can look
like one: string literals are blanked out, the text is cut at the first comment
or alias, and regular expressions are blanked out. Blanking keeps columns, and
the cut only ever shortens the end.

Both kinds of literal are blanked by a small automaton that walks the text once.
It enters a literal only when the literal is closed further on, so an opening
quote or slash without a partner stays in the text as it is.
-/

namespace GrammarLint.Body

/-! ## Strings -/

/-- Where the walk stands: outside a string, inside one, or just past its
closing quote, where an `i` still belongs to it. -/
inductive QuoteState where
  | outside
  | inside
  | closed
  deriving DecidableEq, Repr

/-- Blanks out every string literal with its `i` flag. -/
def blankStringsFrom : QuoteState → Text → Text
  | _, [] => []
  | .inside, c :: cs =>
    ' ' :: blankStringsFrom (if c = '"' then .closed else .inside) cs
  | state, c :: cs =>
    if state = .closed ∧ c = 'i' then ' ' :: blankStringsFrom .outside cs
    else if c = '"' ∧ '"' ∈ cs then ' ' :: blankStringsFrom .inside cs
    else c :: blankStringsFrom .outside cs

/-- The text with its string literals blanked out. -/
def blankStrings (text : Text) : Text := blankStringsFrom .outside text

/-! ## Comments and aliases -/

/-- The text up to the first `//` or `->`. -/
def cutTail : Text → Text
  | '/' :: '/' :: _ => []
  | '-' :: '>' :: _ => []
  | c :: cs => c :: cutTail cs
  | [] => []

/-! ## Regular expressions -/

/-- The flags a regular expression may carry. -/
def isRegexpFlag (c : Char) : Bool :=
  c == 'g' || c == 'i' || c == 'm' || c == 's' || c == 'u' || c == 'y' ||
    c == 'l' || c == 'x'

/-- The text after an opening slash runs to a closing slash. A backslash takes
the next character with it, which must not be a line break. -/
def closesRegexp : Text → Bool
  | [] => false
  | '\\' :: c :: cs => c != '\n' && closesRegexp cs
  | c :: cs => c == '/' || (c != '\\' && closesRegexp cs)

/-- Where the walk stands: outside a regular expression, inside one, just past a
backslash inside one, or past its closing slash among the flags. -/
inductive SlashState where
  | outside
  | inside
  | escaped
  | flags
  deriving DecidableEq, Repr

/-- Blanks out every regular expression with its flags. -/
def blankRegexpsFrom : SlashState → Text → Text
  | _, [] => []
  | .inside, c :: cs =>
    ' ' :: blankRegexpsFrom
      (if c = '/' then .flags else if c = '\\' then .escaped else .inside) cs
  | .escaped, _ :: cs => ' ' :: blankRegexpsFrom .inside cs
  | state, c :: cs =>
    if state = .flags ∧ isRegexpFlag c then ' ' :: blankRegexpsFrom .flags cs
    else if c = '/' ∧ closesRegexp cs then ' ' :: blankRegexpsFrom .inside cs
    else c :: blankRegexpsFrom .outside cs

/-- The text with its regular expressions blanked out. -/
def blankRegexps (text : Text) : Text := blankRegexpsFrom .outside text

/-- The body with everything that cannot hold a reference blanked out or cut
off. -/
def mask (text : Text) : Text := blankRegexps (cutTail (blankStrings text))

end GrammarLint.Body
