import GrammarLint.Proofs.OutlineTable
import GrammarLint.Proofs.QuotedText
import GrammarLint.Server.Client
import GrammarLint.Text.Lines
import GrammarLint.Text.Utf8

/-!
# What an editor marks is what is named

Spans are found in code points, and an editor counts columns in units of its
encoding. This file proves that nothing is lost on the way. For every text and
every unit, an editor that encodes the line and cuts it at the two columns of a
diagnostic gets the encoded form of what the message quotes, and the same holds
for the name of a symbol, inside a range that is the whole line.

The encodings are written out here as lists of units, by the standards, so that
the statement does not speak of the function that counts. Columns and encodings
meet in one fact, `encode_extract`: to cut and to encode is the same in either
order. It is asked that the span lies within its line, and this the producers of
spans have settled (`Diagnostic.QuotesText`, `NamedAt`); so no column is ever
held at the end of a line, and no line is past the last.
-/

namespace GrammarLint

namespace PositionUnit

/-- The units that stand for a character: bytes of UTF-8, one unit or two
surrogates of UTF-16, or the code point. -/
def units : PositionUnit → Char → List Nat
  | utf8, c => (Utf8.encode [c]).map UInt8.toNat
  | utf16, c =>
    if c.toNat < 0x10000 then [c.toNat]
    else [0xd800 + (c.toNat - 0x10000) / 0x400,
      0xdc00 + (c.toNat - 0x10000) % 0x400]
  | utf32, c => [c.toNat]

/-- A text in units. -/
def encode (unit : PositionUnit) (text : Text) : List Nat :=
  text.flatMap unit.units

example : utf16.encode ['é', '😀'] = [0xe9, 0xd83d, 0xde00] := by decide

variable {unit : PositionUnit} {text : Text}

theorem length_units (unit : PositionUnit) (c : Char) :
    (unit.units c).length = unit.width c := by
  cases unit with
  | utf8 => simp [units, width, Utf8.encode]
  | utf16 =>
      rw [units, width]
      split
      · rfl
      · rfl
  | utf32 => rfl

theorem length_encode (unit : PositionUnit) (text : Text) :
    (unit.encode text).length = unit.size text := by
  induction text with
  | nil => rfl
  | cons c text ih =>
      rw [encode, List.flatMap_cons, List.length_append, length_units, size]
      exact congrArg (unit.width c + ·) ih

theorem encode_append (unit : PositionUnit) (a b : Text) :
    unit.encode (a ++ b) = unit.encode a ++ unit.encode b :=
  List.flatMap_append

theorem encode_split (unit : PositionUnit) (text : Text) (k : Nat) :
    unit.encode text =
      unit.encode (text.take k) ++ unit.encode (text.drop k) := by
  rw [← encode_append, List.take_append_drop]

theorem length_encode_take (unit : PositionUnit) (text : Text) (k : Nat) :
    (unit.encode (text.take k)).length = unit.column text k :=
  length_encode unit (text.take k)

theorem encode_take (unit : PositionUnit) (text : Text) (k : Nat) :
    (unit.encode text).take (unit.column text k) =
      unit.encode (text.take k) := by
  rw [encode_split unit text k,
    List.take_left' (length_encode_take unit text k)]

theorem encode_drop (unit : PositionUnit) (text : Text) (k : Nat) :
    (unit.encode text).drop (unit.column text k) =
      unit.encode (text.drop k) := by
  rw [encode_split unit text k,
    List.drop_left' (length_encode_take unit text k)]

theorem column_take {start stop : Nat} (h : start ≤ stop) :
    unit.column (text.take stop) start = unit.column text start := by
  rw [column, column, List.take_take, Nat.min_eq_left h]

theorem column_le_length (unit : PositionUnit) (text : Text) (k : Nat) :
    unit.column text k ≤ (unit.encode text).length := by
  rw [encode_split unit text k, List.length_append, length_encode_take]
  exact Nat.le_add_right _ _

theorem column_mono {start stop : Nat} (h : start ≤ stop) :
    unit.column text start ≤ unit.column text stop := by
  have hle := column_le_length unit (text.take stop) start
  rwa [column_take h, length_encode] at hle

theorem column_length (unit : PositionUnit) (text : Text) :
    unit.column text text.length = (unit.encode text).length := by
  rw [column, List.take_length, length_encode]

/-- Cutting a text and encoding it is encoding it and cutting it at the
columns. -/
theorem encode_extract {start stop : Nat} (h : start ≤ stop) :
    (unit.encode text).extract (unit.column text start)
      (unit.column text stop) =
        unit.encode (text.extract start stop) := by
  rw [List.extract_eq_take_drop, List.extract_eq_take_drop, ← List.drop_take,
    ← List.drop_take, encode_take, ← column_take h, encode_drop]

end PositionUnit

/-- Lines come first, then columns. -/
instance : LE ClientPosition where
  le p q := p.line < q.line ∨ p.line = q.line ∧ p.character ≤ q.character

namespace ClientRange

/-- The range lies on one of the lines, and the units of that line from its
start up to its end are those of the text shown. -/
def Shows (unit : PositionUnit) (lines : List Text) (range : ClientRange)
    (shown : Text) : Prop :=
  ∃ text, lines[range.start.line]? = some text ∧
    range.stop.line = range.start.line ∧
    range.start.character ≤ range.stop.character ∧
    range.stop.character ≤ (unit.encode text).length ∧
    (unit.encode text).extract range.start.character range.stop.character =
      unit.encode shown

/-- The range is one of the lines, from its first unit to its last. -/
def CoversLine (unit : PositionUnit) (lines : List Text)
    (range : ClientRange) : Prop :=
  ∃ text, lines[range.start.line]? = some text ∧
    range.stop.line = range.start.line ∧
    range.start.character = 0 ∧ range.stop.character = (unit.encode text).length

def Within (inner outer : ClientRange) : Prop :=
  outer.start ≤ inner.start ∧ inner.stop ≤ outer.stop

variable {unit : PositionUnit} {lines : List Text} {text : Text}

theorem positionIn_of_line {line column : Nat}
    (hline : lines[line]? = some text) :
    positionIn unit lines line column = ⟨line, unit.column text column⟩ := by
  rw [positionIn, hline]

theorem inLines_of_line {span : Span} (hline : lines[span.line]? = some text) :
    inLines unit lines span =
      ⟨⟨span.line, unit.column text span.start⟩,
        ⟨span.line, unit.column text span.stop⟩⟩ := by
  rw [inLines, positionIn_of_line hline, positionIn_of_line hline]

theorem inLines_shows {span : Span} (hline : lines[span.line]? = some text)
    (hle : span.start ≤ span.stop) :
    (inLines unit lines span).Shows unit lines
      (text.extract span.start span.stop) := by
  rw [inLines_of_line hline]
  exact ⟨text, hline, rfl, PositionUnit.column_mono hle,
    unit.column_le_length text span.stop, PositionUnit.encode_extract hle⟩

theorem inLines_coversLine {line : Nat} (hline : lines[line]? = some text) :
    (inLines unit lines ⟨line, 0, text.length⟩).CoversLine unit lines := by
  rw [inLines_of_line hline]
  exact ⟨text, hline, rfl, rfl, unit.column_length text⟩

theorem within_of_coversLine {inner outer : ClientRange} {shown : Text}
    (hinner : inner.Shows unit lines shown)
    (houter : outer.CoversLine unit lines)
    (hline : inner.start.line = outer.start.line) : inner.Within outer := by
  obtain ⟨text, htext, hstop, -, hlength, -⟩ := hinner
  obtain ⟨whole, hwhole, hend, hzero, hall⟩ := houter
  obtain rfl : text = whole := by
    rw [hline, hwhole] at htext
    exact (Option.some.inj htext).symm
  constructor
  · exact .inr ⟨hline.symm, by omega⟩
  · exact .inr ⟨by omega, by omega⟩

end ClientRange

theorem validate_quotesText {lines : List Text} {d : Diagnostic}
    (hd : d ∈ validate lines) :
    d.QuotesText lines := by
  rw [validate_eq] at hd
  rcases List.mem_append.mp hd with hd | hd
  · exact findErrors_quotesText hd
  · exact warnings_quoteText (markedTable_warnings lines) hd

theorem nameSpan_shows {lines : List Text} {entry : OutlineEntry}
    (unit : PositionUnit) (h : entry ∈ outline lines) :
    (ClientRange.inLines unit lines entry.nameSpan).Shows unit lines
      entry.name := by
  obtain ⟨text, hline, -, hshown⟩ := mem_outline h
  have hshows : (ClientRange.inLines unit lines entry.nameSpan).Shows unit lines
      (text.extract entry.nameStart (entry.nameStart + entry.name.length)) :=
    ClientRange.inLines_shows hline (Nat.le_add_right _ _)
  rwa [(Text.extract_of_hasAt hshown).2] at hshows

theorem span_coversLine {lines : List Text} {entry : OutlineEntry}
    (unit : PositionUnit) (h : entry ∈ outline lines) :
    (ClientRange.inLines unit lines entry.span).CoversLine unit lines := by
  obtain ⟨text, hline, hlength, -⟩ := mem_outline h
  rw [OutlineEntry.span, hlength]
  exact ClientRange.inLines_coversLine hline

theorem nameSpan_within {lines : List Text} {entry : OutlineEntry}
    (unit : PositionUnit) (h : entry ∈ outline lines) :
    (ClientRange.inLines unit lines entry.nameSpan).Within
      (ClientRange.inLines unit lines entry.span) := by
  refine ClientRange.within_of_coversLine (nameSpan_shows unit h)
    (span_coversLine unit h) ?_
  obtain ⟨text, hline, -⟩ := mem_outline h
  change (ClientRange.positionIn unit lines entry.line _).line =
    (ClientRange.positionIn unit lines entry.line _).line
  rw [ClientRange.positionIn_of_line hline,
    ClientRange.positionIn_of_line hline]

/-- In every unit, a diagnostic of a text marks what its message quotes, and a
symbol marks its name, inside the whole of its line. -/
theorem client_ranges_show (unit : PositionUnit) (text : Text) :
    (∀ told ∈ (validate (Text.lines text)).map
        (ClientDiagnostic.ofDiagnostic
          (ClientRange.inLines unit (Text.lines text))),
      ∃ code quoted, told.code = Code.label code ∧
        told.message = Diagnostic.quoting code.phrase quoted ∧
        told.range.Shows unit (Text.lines text) quoted) ∧
    ∀ symbol ∈ clientSymbols
        (ClientRange.inLines unit (Text.lines text)) (Text.lines text),
      symbol.range.CoversLine unit (Text.lines text) ∧
        symbol.nameRange.Within symbol.range ∧
        symbol.nameRange.Shows unit (Text.lines text) symbol.name := by
  constructor
  · intro told htold
    obtain ⟨d, hd, rfl⟩ := List.mem_map.mp htold
    obtain ⟨line, hline, hle, -, hmessage⟩ := validate_quotesText hd
    exact ⟨d.code, _, rfl, hmessage, ClientRange.inLines_shows hline hle⟩
  · intro symbol hsymbol
    obtain ⟨entry, hentry, rfl⟩ := List.mem_map.mp hsymbol
    exact ⟨span_coversLine unit hentry, nameSpan_within unit hentry,
      nameSpan_shows unit hentry⟩

/-- A name behind a character of two units, on the second line. -/
theorem client_ranges_show_surrogates :
    let lines : List Text := Text.lines
      ['C', '\r', 'a', ':', ' ', '"', '😀', '"', ' ', 'b']
    let told : ClientDiagnostic :=
      ⟨⟨⟨1, 8⟩, ⟨1, 9⟩⟩, "Undefined rule 'b'", 1, "undefined-rule", "larklint"⟩
    let symbol : ClientSymbol :=
      ⟨['a'], 12, ⟨⟨1, 0⟩, ⟨1, 9⟩⟩, ⟨⟨1, 0⟩, ⟨1, 1⟩⟩, "rule"⟩
    (told ∈ (validate lines).map
        (ClientDiagnostic.ofDiagnostic (ClientRange.inLines .utf16 lines)) ∧
      ∃ code quoted, told.code = Code.label code ∧
        told.message = Diagnostic.quoting code.phrase quoted ∧
        told.range.Shows .utf16 lines quoted) ∧
    symbol ∈ clientSymbols (ClientRange.inLines .utf16 lines) lines ∧
      symbol.range.CoversLine .utf16 lines ∧
      symbol.nameRange.Within symbol.range ∧
      symbol.nameRange.Shows .utf16 lines symbol.name := by
  intro lines told symbol
  have htold : told ∈ (validate lines).map
      (ClientDiagnostic.ofDiagnostic
        (ClientRange.inLines .utf16 lines)) := by decide
  have hsymbol :
      symbol ∈ clientSymbols (ClientRange.inLines .utf16 lines)
        lines := by decide
  obtain ⟨hdiagnostics, hsymbols⟩ := client_ranges_show .utf16
    ['C', '\r', 'a', ':', ' ', '"', '😀', '"', ' ', 'b']
  exact ⟨⟨htold, hdiagnostics told htold⟩, hsymbol, hsymbols symbol hsymbol⟩

end GrammarLint
