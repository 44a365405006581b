import GrammarLint.Diagnostic.Basic
import GrammarLint.Failure.Basic
import GrammarLint.File.Selection
import GrammarLint.Text.Markup
import GrammarLint.Toml.Value

/-!
# Causes of failure

Everything that can go wrong outside a grammar. Faults of the settings and of
grammar files are errors that are shown to the user, with the file they are
about; the rest ends the work at hand.
-/

namespace GrammarLint

/-- Why a file of settings cannot be used. -/
inductive ConfigFault where
  | malformed (fault : Toml.Fault)
  | unreadable (fault : FileFault)
  | patternNotText
  | notTextList (key : Text)
  | unknownCode (label : Text)
  deriving DecidableEq, Repr, Inhabited

namespace ConfigFault

/-- The labels of all codes, in alphabetical order. -/
def knownLabels : String := ", ".intercalate (Code.all.map Code.label)

/-- The fault in words. -/
def message (file : Path) : ConfigFault → String
  | malformed fault => "Invalid TOML: " ++ fault.message
  | unreadable fault => "Cannot read config: " ++ fault.message file
  | patternNotText => "'include' must be a string glob"
  | notTextList key => "'" ++ String.ofList key ++ "' must be a list of strings"
  | unknownCode label =>
    "Unknown diagnostic code '" ++ String.ofList label ++
      "' (expected one of: " ++ knownLabels ++ ")"

end ConfigFault

/-- What can go wrong outside a grammar. -/
inductive Failure where
  /-- The settings in a file, or given beside it, are unusable. -/
  | config (file : Path) (fault : ConfigFault)
  /-- A grammar file cannot be read. -/
  | grammar (file : Path) (fault : ReadFault)
  /-- A file of settings is not UTF-8. -/
  | configEncoding (fault : Utf8.Fault)
  /-- A whole number among the settings has more digits than can be read. -/
  | longNumber
  /-- Settings are nested deeper than can be read. -/
  | deepNesting
  /-- A value stands where a table of settings should be. -/
  | settingsNotTable
  /-- The pattern for grammar files cannot be used. -/
  | pattern (fault : PatternFault)
  /-- The text of a document that is not open cannot be read from its file. -/
  | document (file : Path) (fault : ReadFault)
  /-- A path cannot be followed. -/
  | path (fault : PathFault)
  /-- The address of a document is malformed. -/
  | address (uri : Text)
  /-- A document that is not open was changed. -/
  | notOpen (uri : Text)
  /-- Styled text cannot be rendered. -/
  | markup (fault : Markup.Fault)
  deriving DecidableEq, Repr, Inhabited

namespace Failure

/-- The error that is shown to the user, if this failure is one. -/
def shown? : Failure → Option LintError
  | config file fault => some ⟨.config, fault.message file, some { file }⟩
  | grammar file fault =>
    some ⟨.source, "Cannot read grammar: " ++ fault.message file, some { file }⟩
  | _ => none

end Failure

end GrammarLint
