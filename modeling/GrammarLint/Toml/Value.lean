import GrammarLint.Text.Basic

/-!
# TOML values

A document is a table of values. Settings are texts and lists of texts, so every
other plain value (a number, a truth value, a date) is kept as it is written.
-/

namespace GrammarLint.Toml

/-- A TOML value. -/
inductive Value where
  | text (value : Text)
  | scalar (written : Text)
  | array (items : List Value)
  | table (entries : List (Text × Value))
  deriving Repr, Inhabited

/-- A table: keys in the order in which they were set. -/
abbrev Table := List (Text × Value)

/-- Why a document is no TOML, or more than this reader takes. -/
inductive Fault where
  | statement
  | trailing
  | key
  | equals
  | value
  | date
  | string
  | escape
  | control
  | array
  | inlineTable
  | header
  | overwritten
  | redeclared
  | sealed
  | longInteger
  | nesting
  deriving DecidableEq, Repr, Inhabited

namespace Fault

/-- The fault in words. -/
def message : Fault → String
  | statement => "Invalid statement"
  | trailing => "Expected newline or end of document after a statement"
  | key => "Invalid initial character for a key part"
  | equals => "Expected '=' after a key in a key/value pair"
  | value => "Invalid value"
  | date => "Invalid date or datetime"
  | string => "Unterminated string"
  | escape => "Unescaped '\\' in a string"
  | control => "Illegal character"
  | array => "Unclosed array"
  | inlineTable => "Unclosed inline table"
  | header => "Expected ']' at the end of a table declaration"
  | overwritten => "Cannot overwrite a value"
  | redeclared => "Cannot declare a table twice"
  | sealed => "Cannot mutate immutable namespace"
  | longInteger => "Too many digits in an integer"
  | nesting => "Values are nested too deeply"

end Fault

namespace Table

/-- The value of a key. -/
def get? (table : Table) (key : Text) : Option Value := table.lookup key

/-- Sets a key: in the place it has, or at the end. -/
def set (table : Table) (key : Text) (value : Value) : Table :=
  if (table.get? key).isSome then
    table.map fun (k, v) => if k = key then (k, value)
  else (k, v)
  else table ++ [(key, value)]

/-- Changes the table under a path of keys. Tables that are missing on the way
are made. With `intoArrays` an array on the way stands for its last table. -/
def change (intoArrays : Bool) (f : Table → Except Fault Table) :
    List Text → Table → Except Fault Table
  | [], table => f table
  | key :: keys, table =>
    match table.get? key with
    | none =>
      (change intoArrays f keys []).map fun inner =>
        table.set key (.table inner)
    | some (.table inner) =>
      (change intoArrays f keys inner).map fun inner =>
        table.set key (.table inner)
    | some (.array items) =>
      match intoArrays, items.getLast? with
      | true, some (.table inner) =>
        (change intoArrays f keys inner).map fun inner =>
          table.set key (.array (items.dropLast ++ [.table inner]))
      | _, _ => .error .overwritten
    | some _ => .error .overwritten

/-- Adds a key that must be new. -/
def add (key : Text) (value : Value) (table : Table) : Except Fault Table :=
  if (table.get? key).isSome then .error .overwritten
  else .ok (table ++ [(key, value)])

end Table

end GrammarLint.Toml
