import GrammarLint.Check.Outline

/-!
# The drawn outline

The outline of a grammar as a table of three columns. A column is as wide as its
widest cell; if the table would pass 80 columns the names give way, and a name
that is cut ends in an ellipsis.
-/

namespace GrammarLint.Grid

/-- A row: the number of the line, the kind, the name. -/
structure Row where
  line : Text
  kind : Text
  name : Text
  deriving DecidableEq, Repr, Inhabited

/-- The widths of the three columns, without the blanks beside the cells. -/
structure Widths where
  line : Nat
  kind : Nat
  name : Nat
  deriving DecidableEq, Repr, Inhabited

/-- The most columns a table takes. -/
def limit : Nat := 80

/-- The columns that borders and the blanks beside cells take. -/
def frame : Nat := 10

/-- The heads of the columns. -/
def heads : Row := ⟨"Line".toList, "Kind".toList, "Name".toList⟩

/-- The row of an entry. -/
def rowOf (e : OutlineEntry) : Row :=
  ⟨(toString (e.line + 1)).toList, e.kind.word.toList, e.name⟩

/-- The greatest length of the cells of a column. -/
def widest (cell : Row → Text) (rows : List Row) : Nat :=
  rows.foldl (fun n row => max n (cell row).length) (cell heads).length

/-- The widths for rows. -/
def widthsOf (rows : List Row) : Widths :=
  let line := widest Row.line rows
  let kind := widest Row.kind rows
  ⟨line, kind, min (widest Row.name rows) (limit - frame - line - kind)⟩

/-- A cell of at most `width` characters. -/
def fit (width : Nat) (t : Text) : Text :=
  if t.length ≤ width then t else t.take (width - 1) ++ ['…']

/-- A cell filled up on the right. -/
def padRight (width : Nat) (t : Text) : Text :=
  t ++ List.replicate (width - t.length) ' '

/-- A cell filled up on the left. -/
def padLeft (width : Nat) (t : Text) : Text :=
  List.replicate (width - t.length) ' ' ++ t

/-- A border: its ends, its crossings and its stroke. -/
structure Border where
  left : Char
  cross : Char
  right : Char
  stroke : Char
  deriving DecidableEq, Repr

/-- Draws a border. -/
def border (b : Border) (w : Widths) : Text :=
  let run := fun (n : Nat) => List.replicate (n + 2) b.stroke
  [b.left] ++ run w.line ++ [b.cross] ++ run w.kind ++ [b.cross] ++
    run w.name ++ [b.right]

/-- Draws a row; the first cell stands at the right of its column. -/
def drawRow (edge : Char) (w : Widths) (row : Row) : Text :=
  [edge, ' '] ++ padLeft w.line row.line
    ++ [' ', edge, ' '] ++ padRight w.kind row.kind
    ++ [' ', edge, ' '] ++ padRight w.name (fit w.name row.name) ++ [' ', edge]

/-- The lines of the table. -/
def draw (entries : List OutlineEntry) : List Text :=
  let rows := entries.map rowOf
  let w := widthsOf rows
  [border ⟨'┏', '┳', '┓', '━'⟩ w, drawRow '┃' w heads,
      border ⟨'┡', '╇', '┩', '━'⟩ w]
    ++ rows.map (drawRow '│' w) ++ [border ⟨'└', '┴', '┘', '─'⟩ w]

end GrammarLint.Grid
