import GrammarLint.Text.Emoji
import GrammarLint.Text.Letters
import GrammarLint.Text.Literal
import GrammarLint.Text.Style

/-!
# Markup

In marked-up text a tag in square brackets opens a style, and one with a slash
in front closes it. A tag starts with a lower-case letter or one of `#`, `/` and
`@`, and holds no opening bracket; other brackets are text. An odd number of
backslashes in front makes a tag text; of the backslashes one is kept for every
two. Styles do not show here, so a rendered text is what stands between tags,
with emoji codes replaced.
-/

namespace GrammarLint.Markup

/-- A piece of marked-up text. -/
inductive Piece where
  | plain (text : Text)
  | tag (inside : Text)
  deriving DecidableEq, Repr, Inhabited

/-- The characters that a tag may start with. -/
def opensTag (c : Char) : Bool := c.isLower || c == '#' || c == '/' || c == '@'

/-- The inside of a tag; the text starts past the bracket. -/
def tagInside? (cs : Text) : Option Text :=
  let inside := cs.takeWhile fun c => c != '[' && c != ']'
  if cs.head?.any opensTag && (cs.drop inside.length).head? == some ']' then
    some inside
  else none

/-- The plain text of a piece, unless it is empty. -/
def plainPiece (t : Text) : List Piece := if t.isEmpty then [] else [.plain t]

/-- The pieces for a tag behind backslashes. -/
def tagPieces (slashes : Nat) (inside : Text) : List Piece :=
  plainPiece (List.replicate (slashes / 2) '\\') ++
    [if slashes % 2 = 1 then .plain ('[' :: inside ++ [']']) else .tag inside]

/-- Cuts a text into pieces. The plain text so far is kept in reverse, the
backslashes after it are counted, and `skip` characters belong to a tag already
read. -/
def piecesFrom : Nat → Text → Nat → Text → List Piece
  | _, before, slashes, [] =>
    plainPiece (before.reverse ++ List.replicate slashes '\\')
  | skip + 1, before, slashes, _ :: cs => piecesFrom skip before slashes cs
  | 0, before, slashes, c :: cs =>
    if c = '\\' then piecesFrom 0 before (slashes + 1) cs
    else
      match (if c = '[' then tagInside? cs else none) with
      | some inside =>
        plainPiece before.reverse ++ tagPieces slashes inside ++
          piecesFrom (inside.length + 1) [] 0 cs
      | none => piecesFrom 0 (c :: List.replicate slashes '\\' ++ before) 0 cs

/-- The pieces of a text. -/
def pieces (t : Text) : List Piece := piecesFrom 0 [] 0 t

/-! ## Rendering -/

/-- A backslash in front of a bracket that is text is dropped. -/
def unescape : Text → Text
  | '\\' :: '[' :: cs => '[' :: unescape cs
  | c :: cs => c :: unescape cs
  | [] => []

/-- Why marked-up text cannot be rendered. -/
inductive Fault where
  /-- A tag closes a style that is not open. -/
  | closing
  /-- What is given to the handler of a tag is no literal. -/
  | arguments
  /-- A component of a colour is no number. -/
  | number
  deriving DecidableEq, Repr, Inhabited

/-- A style that a tag opens: its name in normal form, and what
follows an equals sign. -/
structure Opening where
  name : Text
  parameters : Option Text
  deriving DecidableEq, Repr, Inhabited

/-- The part of a tag in front of its first equals sign. -/
def nameOf (inside : Text) : Text := inside.takeWhile (· != '=')

/-- The part of a tag after its first equals sign, if it has one. -/
def parametersOf (inside : Text) : Option Text :=
  match inside.dropWhile (· != '=') with
  | _ :: parameters => some parameters
  | [] => none

/-- The normal form of a style. -/
def styleName (t : Text) : Except Fault Text :=
  match Style.normalize t with
  | .ok name => .ok name
  | .error _ => .error .number

/-- The style that a tag opens. -/
def opening (inside : Text) : Except Fault Opening :=
  (styleName (nameOf inside)).map fun name => ⟨name, parametersOf inside⟩

/-- The style that is asked for when the text is shown can be read, or has a
word without meaning, which does no harm. -/
def Opening.check (o : Opening) : Except Fault Unit :=
  match o.parameters.map fun parameters =>
    Style.read (o.name ++ ' ' :: parameters) with
  | some (.error .number) => .error .number
  | _ => .ok ()

/-- The characters of a handler's name. -/
def isHandlerChar (c : Char) : Bool :=
  Text.isLetterOrNumber c || c == '_' || c == '.'

/-- The parameters of a handler are its name, with literals in brackets after it
if need be, or else literals alone. -/
def handlerFits (parameters : Text) : Bool :=
  let parameters := Text.trim parameters
  match parameters.dropWhile isHandlerChar with
  | [] => true
  | '(' :: inside =>
    if inside.getLast? = some ')' ∧ ¬ inside.elem '\n' then
      Literal.isLiteral ('(' :: inside)
    else Literal.isLiteral parameters
  | _ => Literal.isLiteral parameters

/-- A style that is closed. The parameters of a tag for a handler are looked at
only now. -/
def Opening.closed (o : Opening) : Except Fault Unit :=
  if o.name.head? = some '@' &&
      o.parameters.any (fun p => !p.isEmpty && !handlerFits p) then
    .error .arguments
  else .ok ()

/-- Takes away the style that a closing tag is about: the last one if the tag
has no name, else the last one of that name. -/
def close (styles : List Opening) (inside : Text) :
    Except Fault (List Opening) := do
  let fits ← match Text.trim (nameOf inside) with
    | [] => .ok fun (_ : Opening) => true
    | name => (styleName name).map fun name (o : Opening) => o.name == name
  match styles.find? fits with
  | none => .error .closing
  | some o =>
    o.closed
    return styles.eraseP fits

/-- What stands between the pieces, with the styles that are open, the last one
first. -/
def renderFrom : List Opening → List Piece → Except Fault Text
  | _, [] => .ok []
  | styles, .plain t :: rest =>
    (renderFrom styles rest).map (Emoji.replace (unescape t) ++ ·)
  | styles, .tag ('/' :: inside) :: rest =>
    (close styles inside).bind fun styles => renderFrom styles rest
  | styles, .tag inside :: rest =>
    (opening inside).bind fun o => renderFrom (o :: styles) rest

/-- The styles that the pieces open. -/
def openings (pieces : List Piece) : List Opening :=
  pieces.filterMap fun
    | .tag ('/' :: _) => none
    | .tag inside => (opening inside).toOption
    | .plain _ => none

/-- Renders a text; without an opening bracket there are no tags in it. Styles
are looked at once more when the whole text has been read. -/
def render (t : Text) : Except Fault Text :=
  if t.elem '[' then do
    let text ← renderFrom [] (pieces t)
    (openings (pieces t)).forM Opening.check
    return text
  else .ok (Emoji.replace t)

/-! ## Escaping -/

/-- Puts backslashes so that no tag is read as one. -/
def escapeFrom : Nat → Nat → Text → Text
  | _, slashes, [] => List.replicate slashes '\\'
  | skip + 1, slashes, c :: cs => c :: escapeFrom skip slashes cs
  | 0, slashes, c :: cs =>
    if c = '\\' then escapeFrom 0 (slashes + 1) cs
    else
      match (if c = '[' then tagInside? cs else none) with
      | some inside =>
        List.replicate (2 * slashes + 1) '\\' ++ c ::
          escapeFrom (inside.length + 1) 0 cs
      | none => List.replicate slashes '\\' ++ c :: escapeFrom 0 0 cs

/-- The text with its tags escaped. A single backslash at the end is doubled, so
that it does not escape what follows. -/
def escape (t : Text) : Text :=
  let escaped := escapeFrom 0 0 t
  if ['\\'].isSuffixOf escaped && !(['\\', '\\'].isSuffixOf escaped) then
    escaped ++ ['\\']
  else escaped

end GrammarLint.Markup
