import GrammarLint.Body.Reference
import GrammarLint.Diagnostic.Basic
import GrammarLint.Symbol.Table

/-!
# Checking a grammar

A check first collects the bound names, so a symbol may be bound after its uses.
Then it looks for uses: a name is used when it stands as a word on a line other
than its own, in comments and literals too. References are looked for more
strictly, in masked bodies, and those that nothing binds are errors, as are
heads that are no symbol names. Names left unused are warnings and come last.
-/

namespace GrammarLint

/-! ## Uses -/

/-- The record's name stands as a word on a line other than its own. -/
def Record.usedIn (r : Record) (lines : List Text) : Bool :=
  lines.zipIdx.any fun (text, line) =>
    line != r.line && Text.occursAsWord r.name text

/-- The record, marked as used if a use of it is seen. -/
def Record.markIn (lines : List Text) (r : Record) : Record :=
  { r with used := r.used || r.usedIn lines }

/-- Marks every record of which the lines hold a use. -/
def SymbolTable.markUses (table : SymbolTable)
    (lines : List Text) : SymbolTable :=
  ⟨table.records.map (Record.markIn lines)⟩

/-! ## Undefined references -/

/-- A reference needs a binding: every terminal does, and every rule
but the start symbol. -/
def Body.Reference.needsBinding (r : Body.Reference) : Bool :=
  !(r.kind == .rule && r.name == startSymbol)

/-- The references of a body that the table does not bind; the body
starts at column `offset`. -/
def undefinedIn (table : SymbolTable) (line offset : Nat) (body : Text) :
    List Diagnostic :=
  ((Body.references (Body.mask body)).filter fun r =>
      r.needsBinding && !table.has r.name).map
    fun r => .undefined line (offset + r.column) r.name r.kind

/-- The errors of one line. Directives and comments have none. -/
def lineErrors (table : SymbolTable) (line : Nat) (text : Text) :
    List Diagnostic :=
  match classify text with
  | .definition head =>
      undefinedIn table line head.bodyStart (text.drop head.bodyStart)
  | .directive _ => []
  | .skipped _ => []
  | .invalidHead head start =>
      .invalidHead line start head :: undefinedIn table line 0 text
  | .body => undefinedIn table line 0 text

/-- The errors of a grammar, line by line. -/
def findErrors (table : SymbolTable) (lines : List Text) : List Diagnostic :=
  lines.zipIdx.flatMap fun (text, line) => lineErrors table line text

/-! ## Unused symbols -/

/-- A record points to a line that the grammar does not have. -/
structure MissingLine where
  line : Nat
  deriving DecidableEq, Repr

/-- The column of a record's name on its line: the recorded one if the name
stands there, else the first one at which it does. -/
def Record.columnIn (r : Record) (text : Text) : Option Nat :=
  if Text.hasAt r.name text r.column then some r.column
  else Text.columnOf? r.name text

/-- The warning about a record, if its line shows the name at all. -/
def Record.warning? (lines : List Text) (r : Record) :
    Except MissingLine (Option Diagnostic) :=
  match lines[r.line]? with
  | none => .error ⟨r.line⟩
  | some text =>
      .ok ((r.columnIn text).map fun column => .unused r.line column r.name)

/-- The warnings about every record still unused. -/
def SymbolTable.warnings (table : SymbolTable) (lines : List Text) :
    Except MissingLine (List Diagnostic) :=
  (table.unused.mapM (Record.warning? lines)).map (List.filterMap id)

/-! ## The whole check -/

/-- Marks the uses and reports errors, then warnings. The marks are made even
when the warnings cannot be. -/
def SymbolTable.scan (table : SymbolTable) (lines : List Text) :
    SymbolTable × Except MissingLine (List Diagnostic) :=
  let marked := table.markUses lines
  (marked, (marked.warnings lines).map fun warnings =>
    findErrors marked lines ++ warnings)

/-- The diagnostics of a grammar. A table made from the same lines points to
none beyond them, so the scan always has an answer. -/
def validate (lines : List Text) : List Diagnostic :=
  match ((SymbolTable.ofLines lines).scan lines).2 with
  | .ok diagnostics => diagnostics
  | .error _ => []

end GrammarLint
