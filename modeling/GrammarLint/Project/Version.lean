import GrammarLint.Text.Lines

/-!
# The version of a package

The version stands in the manifest on a line that opens with `version`, an
equals sign and a quoted text. Blanks around the sign may include line breaks,
and either kind of quote may open or close the text.
-/

namespace GrammarLint.Version

/-- The word that opens the version line. -/
def keyword : Text := ['v', 'e', 'r', 's', 'i', 'o', 'n']

/-- Either kind of quote. -/
def isQuote (c : Char) : Bool := c == '"' || c == '\''

/-- Reads a version at the front of a text. -/
def readHere? (text : Text) : Option Text :=
  match keyword.isPrefixOf? text with
  | none => none
  | some rest =>
    match rest.dropWhile Text.isSpace with
    | '=' :: cs =>
      match cs.dropWhile Text.isSpace with
      | q :: quoted =>
        let version := quoted.takeWhile (fun c => !isQuote c)
        let after := quoted.dropWhile (fun c => !isQuote c)
        if isQuote q && !version.isEmpty && !after.isEmpty then some version
        else none
      | [] => none
    | _ => none

/-- The first version that stands at the start of a line. -/
def readFrom? : Bool → Text → Option Text
  | _, [] => none
  | atStart, c :: cs =>
    if atStart then (readHere? (c :: cs)).or (readFrom? (c == '\n') cs)
    else readFrom? (c == '\n') cs

/-- The version that a manifest states. -/
def ofManifest? (manifest : Text) : Option Text :=
  readFrom? true (Text.unifyBreaks manifest)

/-- The version when nothing states one. -/
def unknown : Text := ['0', '.', '0', '.', '0']

/-- The version of a package: what its manifest states, else what the
installation states. -/
def ofPackage (manifest installed : Option Text) : Text :=
  ((manifest.bind ofManifest?).or installed).getD unknown

/-- The version of this program. -/
def current : String := "0.1.0"

end GrammarLint.Version
