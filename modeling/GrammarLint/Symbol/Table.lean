import GrammarLint.Line.Basic

/-!
# The symbol table

A table holds one record for each bound name, in the order in which the
names were first bound. A name that is bound again keeps its place and gets
a fresh record, so line and column are those of the last binding and the
record counts as unused again.
-/

namespace GrammarLint

/-- Where a name was last bound, and whether a use of it has been seen since. -/
structure Record where
  name : Text
  kind : SymbolKind
  line : Nat
  column : Nat
  used : Bool := false
  deriving DecidableEq, Repr, Inhabited

/-- The records of the bound names, in order of first binding. -/
structure SymbolTable where
  records : List Record := []
  deriving DecidableEq, Repr, Inhabited

namespace SymbolTable

/-- The table without records. -/
def empty : SymbolTable := {}

/-- The record of a name. -/
def get? (table : SymbolTable) (name : Text) : Option Record :=
  table.records.find? fun r => r.name == name

/-- The name is bound. -/
def has (table : SymbolTable) (name : Text) : Bool :=
  table.records.any fun r => r.name == name

/-- The names in table order. -/
def names (table : SymbolTable) : List Text := table.records.map Record.name

/-- How many names are bound. -/
def size (table : SymbolTable) : Nat := table.records.length

/-- Applies `f` to the record of a name and leaves the others alone. -/
def update (table : SymbolTable) (name : Text)
    (f : Record → Record) : SymbolTable :=
  ⟨table.records.map fun r => if r.name == name then f r else r⟩

/-- Binds a name: in the place it has, or at the end. -/
def define (table : SymbolTable) (record : Record) : SymbolTable :=
  if table.has record.name then table.update record.name fun _ => record
  else ⟨table.records ++ [record]⟩

/-- Marks a name as used. -/
def touch (table : SymbolTable) (name : Text) : SymbolTable :=
  table.update name fun r => { r with used := true }

/-- The names marked as used, in table order. -/
def usedNames (table : SymbolTable) : List Text :=
  (table.records.filter Record.used).map Record.name

/-- The records of which no use has been seen. The start symbol needs none. -/
def unused (table : SymbolTable) : List Record :=
  table.records.filter fun r => !r.used && r.name != startSymbol

/-- Binds the names of one line. -/
def defineLine (table : SymbolTable) (line : Nat) (text : Text) : SymbolTable :=
  (classify text).bindings.foldl
    (fun t b =>
      t.define { name := b.name, kind := b.kind, line, column := b.column })
    table

/-- The table of the names that a grammar binds. -/
def ofLines (lines : List Text) : SymbolTable :=
  lines.zipIdx.foldl (fun table (text, line) => table.defineLine line text)
    empty

end SymbolTable

end GrammarLint
