import GrammarLint.Toml.Lexeme

/-!
# Reading TOML documents

A document is read statement by statement into a draft. Besides the data the
draft knows three sets of key paths: the tables that have been declared and may
not be declared again, the tables that dotted keys have opened, which count as
declared once the next header is reached, and the values written inline, which
nothing may change any more.
-/

namespace GrammarLint.Toml

/-! ## Values -/

/-- The value is an array or a table, and so may have a namespace. -/
def Value.isNested : Value → Bool
  | .array _ => true
  | .table _ => true
  | _ => false

/-- A sealed path lies at or above this one. -/
def isSealed (sealed : List (List Text)) (keys : List Text) : Bool :=
  sealed.any fun path => path.isPrefixOf keys

mutual

/-- Reads a value with some room for nesting: every array takes two units of it,
and every inline table three. Every value takes a character, so the length of
the text is fuel enough. -/
def readValueFrom (room : Nat) : Nat → Text → Reading Value
  | 0, _ => .error .value
  | fuel + 1, cs =>
    match readString? cs with
    | some reading => reading.map fun (t, rest) => (.text t, rest)
    | none =>
      match cs with
      | '[' :: rest =>
        if room < 2 then .error .nesting
        else (readItems (room - 2) fuel [] rest).map fun (items, rest) =>
          (.array items, rest)
      | '\x7b' :: rest =>
        if room < 3 then .error .nesting
        else
          match skipBlanks rest with
          | '\x7d' :: rest => .ok (.table [], rest)
          | rest =>
            (readPairs (room - 3) fuel [] [] rest).map fun (entries, rest) =>
              (.table entries, rest)
      | _ => readScalar cs

/-- Reads the items of an array up to its closing bracket. -/
def readItems (room : Nat) : Nat → List Value → Text → Reading (List Value)
  | 0, _, _ => .error .array
  | fuel + 1, items, cs =>
    match skipFiller cs with
    | .error fault => .error fault
    | .ok (']' :: rest) => .ok (items, rest)
    | .ok cs =>
      match readValueFrom room fuel cs with
      | .error fault => .error fault
      | .ok (item, rest) =>
        match skipFiller rest with
        | .error fault => .error fault
        | .ok (']' :: rest) => .ok (items ++ [item], rest)
        | .ok (',' :: rest) => readItems room fuel (items ++ [item]) rest
        | .ok _ => .error .array

/-- Reads the pairs of an inline table up to its closing brace. -/
def readPairs (room : Nat) : Nat → List (List Text) → Table → Text →
    Reading Table
  | 0, _, _, _ => .error .inlineTable
  | fuel + 1, sealed, table, cs =>
    match readKey cs with
    | .error fault => .error fault
    | .ok (keys, '=' :: rest) =>
      match readValueFrom room fuel (skipBlanks rest) with
      | .error fault => .error fault
      | .ok (value, rest) =>
        if isSealed sealed keys then .error .sealed
        else
          match Table.change false (Table.add (keys.getLast?.getD []) value)
            keys.dropLast table with
          | .error fault => .error fault
          | .ok table =>
            match skipBlanks rest with
            | '\x7d' :: rest => .ok (table, rest)
            | ',' :: rest =>
              readPairs room fuel
                (if value.isNested then keys :: sealed else sealed) table
                (skipBlanks rest)
            | _ => .error .inlineTable
    | .ok _ => .error .equals

end

/-- Reads a value. -/
def readValue (room : Nat) (cs : Text) : Reading Value :=
  readValueFrom room (cs.length + 1) cs

/-! ## Statements -/

/-- A document as far as it is read. -/
structure Draft where
  data : Table := []
  /-- The path of the last header. -/
  header : List Text := []
  /-- Tables that may not be declared again. -/
  declared : List (List Text) := []
  /-- Tables that dotted keys have opened since the last header. -/
  opened : List (List Text) := []
  /-- Values written inline. -/
  sealed : List (List Text) := []
  deriving Inhabited

namespace Draft

/-- Tables that dotted keys opened count as declared from the next header on. -/
def settle (draft : Draft) : Draft :=
  { draft with declared := draft.opened ++ draft.declared, opened := [] }

/-- Opens a table by its header. -/
def openTable (draft : Draft) (keys : List Text) : Except Fault Draft :=
  if draft.declared.contains keys || isSealed draft.sealed keys then
    .error .redeclared
  else
    (Table.change true .ok keys draft.data).map fun data =>
      { draft with data, header := keys, declared := keys :: draft.declared }

/-- Adds an empty table at the end of an array of tables. -/
def appendTable (key : Text) (table : Table) : Except Fault Table :=
  match table.get? key with
  | none => .ok (table ++ [(key, .array [.table []])])
  | some (.array items) => .ok (table.set key (.array (items ++ [.table []])))
  | some _ => .error .overwritten

/-- Opens the next table of an array of tables. What was declared below the
last one is free again. -/
def openNext (draft : Draft) (keys : List Text) : Except Fault Draft :=
  if isSealed draft.sealed keys then .error .sealed
  else
    let free := fun (paths : List (List Text)) =>
      paths.filter fun path => !keys.isPrefixOf path
    (Table.change true (appendTable (keys.getLast?.getD [])) keys.dropLast
      draft.data).map fun data =>
      { draft with
        data
        header := keys
        declared := keys :: free draft.declared
        sealed := free draft.sealed }

/-- The paths of the tables that a dotted key passes through, below the
header. -/
def passed (header keys : List Text) : List (List Text) :=
  (List.range (keys.length - 1)).map fun k => header ++ keys.take (k + 1)

/-- Sets a key below the last header. -/
def setKey (draft : Draft) (keys : List Text) (value : Value) :
    Except Fault Draft :=
  let tables := passed draft.header keys
  let parent := draft.header ++ keys.dropLast
  if tables.any draft.declared.contains then .error .redeclared
  else if isSealed draft.sealed parent then .error .sealed
  else
    (Table.change true (Table.add (keys.getLast?.getD []) value) parent
      draft.data).map fun data =>
      { draft with
        data
        opened := tables ++ draft.opened
        sealed :=
          if value.isNested then (draft.header ++ keys) :: draft.sealed
          else draft.sealed }

/-- Reads a header or a pair from its first character on. -/
def readStatement (room : Nat) (draft : Draft) :
    Text → Except Fault (Draft × Text)
  | '[' :: '[' :: cs =>
    match readKey (skipBlanks cs) with
    | .error fault => .error fault
    | .ok (keys, ']' :: ']' :: rest) => (draft.settle.openNext keys).map
        fun d => (d, rest)
    | .ok _ => .error .header
  | '[' :: cs =>
    match readKey (skipBlanks cs) with
    | .error fault => .error fault
    | .ok (keys, ']' :: rest) => (draft.settle.openTable keys).map
        fun d => (d, rest)
    | .ok _ => .error .header
  | cs =>
    match readKey cs with
    | .error _ => .error .statement
    | .ok (keys, '=' :: rest) =>
      match readValue room (skipBlanks rest) with
      | .error fault => .error fault
      | .ok (value, rest) => (draft.setKey keys value).map fun d => (d, rest)
    | .ok _ => .error .equals

/-- Reads statements to the end. Every round takes a character or ends, so the
length of the text is fuel enough. -/
def readFrom (room : Nat) : Nat → Draft → Text → Except Fault Draft
  | 0, _, _ => .error .statement
  | fuel + 1, draft, cs =>
    match skipBlanks cs with
    | [] => .ok draft
    | '\n' :: rest => readFrom room fuel draft rest
    | cs =>
      match (if cs.head? = some '#' then .ok (draft, cs)
        else draft.readStatement room cs) with
      | .error fault => .error fault
      | .ok (draft, rest) =>
        match skipComment (skipBlanks rest) with
        | .error fault => .error fault
        | .ok [] => .ok draft
        | .ok ('\n' :: rest) => readFrom room fuel draft rest
        | .ok _ => .error .trailing

end Draft

/-- Reads a document with some room for values inside each other. -/
def read (room : Nat) (text : Text) : Except Fault Table :=
  (Draft.readFrom room (text.length + 1) {} text).map Draft.data

end GrammarLint.Toml
