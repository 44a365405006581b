import GrammarLint.File.Path

/-!
# Located errors

An error of the program is a message and, where it has one, the place
it is about: a file, a line of it, a column of that line. A column
without a line is not shown.
-/

namespace GrammarLint

/-- The place an error is about. -/
structure Place where
  file : Path
  line : Option Int := none
  column : Option Int := none
  deriving DecidableEq, Repr, Inhabited

namespace Place

/-- A place, as `file`, `file:line` or `file:line:column`. -/
def text (place : Place) : String :=
  match place.line, place.column with
  | none, _ => place.file.toString
  | some line, none => place.file.toString ++ ":" ++ toString line
  | some line, some column =>
      place.file.toString ++ ":" ++ toString line ++ ":" ++ toString column

end Place

/-- What an error is about: the settings, a grammar file, or neither. -/
inductive Topic where
  | general
  | config
  | source
  deriving DecidableEq, Repr, Inhabited

/-- An error that is shown to the user. -/
structure LintError where
  topic : Topic := .general
  message : String
  place : Option Place := none
  deriving DecidableEq, Repr, Inhabited

namespace LintError

/-- The error with its place in front. -/
def text (e : LintError) : String :=
  match e.place with
  | none => e.message
  | some place => place.text ++ ": " ++ e.message

end LintError

end GrammarLint
