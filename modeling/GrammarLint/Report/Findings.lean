import GrammarLint.File.Path
import GrammarLint.Diagnostic.Basic
import GrammarLint.Text.Quoted
import GrammarLint.Text.Terminal

/-!
# Reports of findings

The findings of several files in three forms: for people, for an editor's
console (one line each), and as JSON. Files come in the order in which they were
checked, the findings of a file in the order of their positions; numbers of
lines and columns start at one.

The report for people is marked up: a line is made of parts, some with a
style, and what comes from outside is escaped. A printer turns marked-up text
into the line that is shown.
-/

namespace GrammarLint

/-- What was found in a file, under the path that is shown. -/
structure Findings where
  path : Text
  diagnostics : List Diagnostic
  deriving DecidableEq, Repr, Inhabited

/-- A part of a marked-up line. -/
structure Part where
  text : Text
  /-- The style it is shown in, if it has one. -/
  style : Option String := none
  /-- It comes from outside and has to be escaped. -/
  foreign : Bool := false
  deriving DecidableEq, Repr, Inhabited

/-- The part with its tags, if it has a style. -/
def Part.markup (escape : Text → Text) (part : Part) : Text :=
  let text := if part.foreign then escape part.text else part.text
  match part.style with
  | none => text
  | some style =>
      ("[" ++ style ++ "]").toList ++ text ++ ("[/" ++ style ++ "]").toList

/-- What prints marked-up text: it says how text is escaped, and which line
comes out. -/
structure Printer (ε : Type) where
  escape : Text → Text
  print : Text → Except ε Text

/-- Prints a line. -/
def Printer.printLine {ε : Type} (printer : Printer ε) (line : List Part) :
    Except ε Text :=
  printer.print (line.flatMap (Part.markup printer.escape))

namespace Findings

/-- The findings of a file in the order of a report. -/
def ordered (f : Findings) : List Diagnostic :=
  Diagnostic.inReportOrder f.diagnostics

/-- How many findings are errors. -/
def errors (all : List Findings) : Nat :=
  ((all.flatMap diagnostics).filter Diagnostic.isError).length

/-- How many findings are not errors. -/
def warnings (all : List Findings) : Nat :=
  ((all.flatMap diagnostics).filter fun d => !d.isError).length

/-! ## For people -/

/-- The style of a severity. -/
def styleOf : Severity → String
  | .error => "bold red"
  | .warning => "yellow"

/-- The line of a finding. -/
def humanLine (d : Diagnostic) : List Part := [
  { text := ("  " ++ toString (d.span.line + 1) ++ ":" ++
    toString (d.span.start + 1) ++ "  ").toList },
  { text := d.severity.word.toList, style := some (styleOf d.severity) },
  { text := [' ', ' '] },
  { text := d.message.toList, foreign := true },
  { text := [' ', ' '] },
  { text := d.code.label.toList, style := some "dim" }]

/-- The heading of a file. -/
def heading (path : Text) : List Part :=
  [{ text := path, style := some "bold", foreign := true }]

/-- The lines of a file. -/
def humanLines (f : Findings) : List (List Part) :=
  match f.ordered with
  | [] => []
  | ds => heading f.path :: ds.map humanLine

/-- The last line for people. -/
def summary (all : List Findings) : String :=
  let files := toString all.length ++ " file(s)."
  if errors all = 0 ∧ warnings all = 0 then "OK: no problems found in " ++ files
  else
    "\nFound " ++ toString (errors all) ++ " error(s) and "
      ++ toString (warnings all) ++ " warning(s) in " ++ files

/-- The report for people, if its lines can be printed. -/
def human {ε : Type} (printer : Printer ε) (all : List Findings) :
    Except ε String := do
  let lines ← (all.flatMap humanLines).mapM printer.printLine
  let last ← printer.printLine [{ text := (summary all).toList }]
  return String.ofList ((lines ++ [last]).flatMap (· ++ ['\n']))

/-! ## For an editor's console -/

/-- The line of a finding. -/
def consoleLine (path : Text) (d : Diagnostic) : Text :=
  path ++ (":" ++ toString (d.span.line + 1)
    ++ ":" ++ toString (d.span.start + 1) ++ ": "
    ++ d.severity.word ++ ": " ++ d.message
    ++ " [" ++ d.code.label ++ "]").toList

/-- The report of one line for every finding. -/
def console (all : List Findings) : String :=
  String.ofList (all.flatMap fun f => f.ordered.flatMap fun d =>
    Terminal.plain (consoleLine f.path d) ++ ['\n'])

/-! ## As JSON -/

/-- A field of an object, on a line of its own. -/
def jsonField (name : String) (value : Text) : Text :=
  ("    \"" ++ name ++ "\": ").toList ++ value

/-- The object of a finding. -/
def jsonObject (path : Text) (d : Diagnostic) : Text :=
  let number := fun (n : Nat) => (toString n).toList
  let fields := [
    jsonField "file" (Text.jsonString path),
    jsonField "line" (number (d.span.line + 1)),
    jsonField "column" (number (d.span.start + 1)),
    jsonField "end_column" (number (d.span.stop + 1)),
    jsonField "severity" (Text.jsonString d.severity.word.toList),
    jsonField "code" (Text.jsonString d.code.label.toList),
    jsonField "message" (Text.jsonString d.message.toList)]
  "  \x7b\n".toList ++ Text.joinWith [',', '\n'] fields ++ "\n  \x7d".toList

/-- The report as a JSON array. -/
def json (all : List Findings) : String :=
  match all.flatMap fun f => f.ordered.map (jsonObject f.path) with
  | [] => "[]\n"
  | objects =>
      "[\n" ++ String.ofList (Text.joinWith [',', '\n'] objects) ++ "\n]\n"

end Findings

end GrammarLint
