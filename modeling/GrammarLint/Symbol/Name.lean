import GrammarLint.Text.Basic

/-!
# Symbol names

A grammar names its symbols in two spellings: terminals in upper case, rules in
lower case, both with digits and underscores after the first character. A name
of underscores and digits alone is spelled both ways and counts as a terminal.
-/

namespace GrammarLint

/-- The two kinds of grammar symbol. -/
inductive SymbolKind where
  | terminal
  | rule
  deriving DecidableEq, Repr, Inhabited

namespace SymbolKind

/-- The word for a kind. -/
def word : SymbolKind → String
  | terminal => "terminal"
  | rule => "rule"

end SymbolKind

/-- The characters a name of this kind may open with. -/
def SymbolKind.opens : SymbolKind → Char → Bool
  | .terminal, c => c.isUpper || c == '_'
  | .rule, c => c.isLower || c == '_'

/-- The characters a name of this kind may go on with. -/
def SymbolKind.continues (kind : SymbolKind) (c : Char) : Bool :=
  kind.opens c || c.isDigit

/-- A text is spelled as a name of this kind. -/
def SymbolKind.spells (kind : SymbolKind) : Text → Bool
  | [] => false
  | c :: cs => kind.opens c && cs.all kind.continues

/-- A terminal name. -/
def isTerminalName (name : Text) : Bool := SymbolKind.terminal.spells name

/-- A rule name. -/
def isRuleName (name : Text) : Bool := SymbolKind.rule.spells name

/-- The kind a bound name gets: a terminal if it is spelled as one, else a
rule. -/
def SymbolKind.ofName (name : Text) : SymbolKind :=
  if isTerminalName name then .terminal else .rule

/-- The kind of a name that is spelled as a symbol, and nothing for any other
text. -/
def SymbolKind.ofName? (name : Text) : Option SymbolKind :=
  if isTerminalName name then some .terminal
  else if isRuleName name then some .rule
  else none

/-- The name of the symbol every grammar starts from. -/
def startSymbol : Text := ['s', 't', 'a', 'r', 't']

end GrammarLint
