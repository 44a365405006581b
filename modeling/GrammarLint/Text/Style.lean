import GrammarLint.Text.Case
import GrammarLint.Text.Decimal
import GrammarLint.Text.Hex

/-!
# Styles

A style is written as words apart by blanks: attributes, each set or, after
`not`, unset; a colour; a background after `on`; and a link. Later words win
over earlier ones. The normal form of a style has every part once and in a fixed
order, so that styles of one effect are written alike.
-/

namespace GrammarLint

/-- An attribute of styled text, in the order of the normal form. -/
inductive Attribute where
  | bold
  | dim
  | italic
  | underline
  | blink
  | blink2
  | reverse
  | conceal
  | strike
  | underline2
  | frame
  | encircle
  | overline
  deriving DecidableEq, Repr, Inhabited

namespace Attribute

/-- All attributes, in the order of the normal form. -/
def all : List Attribute :=
  [bold, dim, italic, underline, blink, blink2, reverse, conceal, strike,
    underline2, frame, encircle, overline]

/-- The name of an attribute. -/
def name : Attribute → String
  | bold => "bold"
  | dim => "dim"
  | italic => "italic"
  | underline => "underline"
  | blink => "blink"
  | blink2 => "blink2"
  | reverse => "reverse"
  | conceal => "conceal"
  | strike => "strike"
  | underline2 => "underline2"
  | frame => "frame"
  | encircle => "encircle"
  | overline => "overline"

/-- The short name of an attribute, if it has one. -/
def shortName? : Attribute → Option String
  | bold => some "b"
  | dim => some "d"
  | italic => some "i"
  | underline => some "u"
  | reverse => some "r"
  | conceal => some "c"
  | strike => some "s"
  | underline2 => some "uu"
  | overline => some "o"
  | _ => none

/-- The attribute with this name or short name. -/
def ofWord? (word : Text) : Option Attribute :=
  all.find? fun a => a.name.toList = word || a.shortName?.any (·.toList = word)

end Attribute

/-- Why a style cannot be read: a word has no meaning where it stands, or a
component of a colour is no number. -/
inductive StyleFault where
  | word
  | number
  deriving DecidableEq, Repr, Inhabited

/-! ## Colours -/

namespace Colour

/-- The names of colours. -/
def names : List String :=
  ["black red green yellow blue magenta cyan white bright_black bright_red",
    "bright_green bright_yellow bright_blue bright_magenta bright_cyan",
    "bright_white grey0 gray0 navy_blue dark_blue blue3 blue1 dark_green",
    "deep_sky_blue4 dodger_blue3 dodger_blue2 green4 spring_green4 turquoise4",
    "deep_sky_blue3 dodger_blue1 green3 spring_green3 dark_cyan",
    "light_sea_green deep_sky_blue2 deep_sky_blue1 spring_green2 cyan3",
    "dark_turquoise turquoise2 green1 spring_green1 medium_spring_green cyan2",
    "cyan1 dark_red deep_pink4 purple4 purple3 blue_violet orange4 grey37",
    "gray37 medium_purple4 slate_blue3 royal_blue1 chartreuse4",
    "dark_sea_green4 pale_turquoise4 steel_blue steel_blue3 cornflower_blue",
    "chartreuse3 cadet_blue sky_blue3 steel_blue1 pale_green3 sea_green3",
    "aquamarine3 medium_turquoise chartreuse2 sea_green2 sea_green1",
    "aquamarine1 dark_slate_gray2 dark_magenta dark_violet purple light_pink4",
    "plum4 medium_purple3 slate_blue1 yellow4 wheat4 grey53 gray53",
    "light_slate_grey light_slate_gray medium_purple light_slate_blue",
    "dark_olive_green3 dark_sea_green light_sky_blue3 sky_blue2",
    "dark_sea_green3 dark_slate_gray3 sky_blue1 chartreuse1 light_green",
    "pale_green1 dark_slate_gray1 red3 medium_violet_red magenta3",
    "dark_orange3 indian_red hot_pink3 medium_orchid3 medium_orchid",
    "medium_purple2 dark_goldenrod light_salmon3 rosy_brown grey63 gray63",
    "medium_purple1 gold3 dark_khaki navajo_white3 grey69 gray69",
    "light_steel_blue3 light_steel_blue yellow3 dark_sea_green2 light_cyan3",
    "light_sky_blue1 green_yellow dark_olive_green2 dark_sea_green1",
    "pale_turquoise1 deep_pink3 magenta2 hot_pink2 orchid medium_orchid1",
    "orange3 light_pink3 pink3 plum3 violet light_goldenrod3 tan misty_rose3",
    "thistle3 plum2 khaki3 light_goldenrod2 light_yellow3 grey84 gray84",
    "light_steel_blue1 yellow2 dark_olive_green1 honeydew2 light_cyan1 red1",
    "deep_pink2 deep_pink1 magenta1 orange_red1 indian_red1 hot_pink",
    "dark_orange salmon1 light_coral pale_violet_red1 orchid2 orchid1 orange1",
    "sandy_brown light_salmon1 light_pink1 pink1 plum1 gold1 navajo_white1",
    "misty_rose1 thistle1 yellow1 light_goldenrod1 khaki1 wheat1 cornsilk1",
    "grey100 gray100 grey3 gray3 grey7 gray7 grey11 gray11 grey15 gray15",
    "grey19 gray19 grey23 gray23 grey27 gray27 grey30 gray30 grey35 gray35",
    "grey39 gray39 grey42 gray42 grey46 gray46 grey50 gray50 grey54 gray54",
    "grey58 gray58 grey62 gray62 grey66 gray66 grey70 gray70 grey74 gray74",
    "grey78 gray78 grey82 gray82 grey85 gray85 grey89 gray89 grey93 gray93"]

/-- The word names a colour. -/
def isName (word : Text) : Bool :=
  word = "default".toList ||
    names.any fun row => (Text.splitOn ' ' row.toList).contains word

/-- What stands between a function's name with its opening bracket and a
closing bracket at the end. -/
def inside? (opening : String) (word : Text) : Option Text :=
  match opening.toList.isPrefixOf? word with
  | some rest => if rest.getLast? = some ')' then some rest.dropLast else none
  | none => none

/-- Six hexadecimal digits after a number sign; the word is in lower case. -/
def isHexForm : Text → Bool
  | '#' :: digits => digits.length == 6 && digits.all Text.isHex
  | _ => false

/-- The value of decimal digits of any script; there must be one at least. -/
def component? (digits : Text) : Option Nat :=
  match digits.mapM Text.decimalValue? with
  | some (v :: vs) => some ((v :: vs).foldl (fun n v => n * 10 + v) 0)
  | _ => none

/-- A number of a colour, of one to three digits. -/
def isNumberForm (word : Text) : Bool :=
  (inside? "color(" word).any fun digits =>
    !digits.isEmpty && digits.length ≤ 3 && digits.all Char.isDigit
      && (component? digits).any (· ≤ 255)

/-- The components of a colour. There must be three, all of them
numbers, none above 255; whether they are numbers is asked before
whether they are too large. -/
def readComponents (components : List Text) : Except StyleFault Unit :=
  if components.length ≠ 3 then .error .word
  else
    match components.mapM component? with
    | none => .error .number
    | some values => if values.all (· ≤ 255) then .ok () else .error .word

/-- Reads the word of a colour and gives its normal form. -/
def read (word : Text) : Except StyleFault Text :=
  let word := Text.lower word
  if isName word || isHexForm word || isNumberForm word then .ok word
  else
    match inside? "rgb(" word with
    | some parts =>
      if !parts.isEmpty && parts.all fun c =>
          c == ',' || (Text.decimalValue? c).isSome then
        (readComponents (Text.splitOn ',' parts)).map fun _ => word
      else .error .word
    | none => .error .word

end Colour

/-- A style. Of the settings of one attribute the first in the list counts. -/
structure Style where
  attributes : List (Attribute × Bool) := []
  colour : Option Text := none
  background : Option Text := none
  link : Option Text := none
  deriving DecidableEq, Repr, Inhabited

namespace Style

/-- Reads words on top of a style. -/
def readWords : Style → List Text → Except StyleFault Style
  | style, [] => .ok style
  | style, word :: words =>
    if Text.lower word = "on".toList then
      match words with
      | [] => .error .word
      | next :: words =>
        match Colour.read next with
        | .ok colour => readWords { style with background := some colour } words
        | .error fault => .error fault
    else if Text.lower word = "not".toList then
      match words with
      | [] => .error .word
      | next :: words =>
        match Attribute.ofWord? next with
        | some a =>
            readWords
              { style with attributes := (a, false) :: style.attributes } words
        | none => .error .word
    else if Text.lower word = "link".toList then
      match words with
      | [] => .error .word
      | next :: words => readWords { style with link := some next } words
    else
      match Attribute.ofWord? (Text.lower word) with
      | some a =>
          readWords { style with attributes := (a, true) :: style.attributes }
            words
      | none =>
        match Colour.read word with
        | .ok colour => readWords { style with colour := some colour } words
        | .error fault => .error fault

/-- The words of a text. -/
def wordsOf (t : Text) : List Text :=
  (Text.splitOn ' ' (t.map fun c => if Text.isSpace c then ' ' else c)).filter
    (· != [])

/-- Reads a style. The word `none` alone is the style without any part. -/
def read (t : Text) : Except StyleFault Style :=
  if Text.trim t = "none".toList then .ok {} else readWords {} (wordsOf t)

/-- The words for the setting of an attribute. -/
def attributeWords (style : Style) (a : Attribute) : List Text :=
  match style.attributes.lookup a with
  | some true => [a.name.toList]
  | some false => ["not".toList, a.name.toList]
  | none => []

/-- The normal form of a style. -/
def toText (style : Style) : Text :=
  let words := Attribute.all.flatMap style.attributeWords ++ style.colour.toList
    ++ (style.background.map fun colour => ["on".toList, colour]).getD []
    ++ (style.link.map fun link => ["link".toList, link]).getD []
  if words.isEmpty then "none".toList else Text.joinWith [' '] words

/-- The normal form of a written style. One with a word that has no meaning
stands for itself, in lower case and without blanks around it. -/
def normalize (t : Text) : Except StyleFault Text :=
  match read t with
  | .ok style => .ok style.toText
  | .error .word => .ok (Text.lower (Text.trim t))
  | .error .number => .error .number

end Style

end GrammarLint
