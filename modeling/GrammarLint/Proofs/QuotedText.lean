import GrammarLint.Proofs.Masking
import GrammarLint.Proofs.UndefinedReport
import GrammarLint.Proofs.Warnings

/-!
# Every diagnostic points at the text it quotes

A diagnostic quotes a name or a head and points to a span. Three producers find
their spans in three ways: an invalid head is cut out between blanks, an
undefined reference is found in a masked copy of a part of the line, and an
unused record is looked up at its column or searched for. In each case the raw
line shows the quoted text at the start of the span, and the span is as long as
that text.

Nothing is asked of the table. Where its records point is checked against the
lines by the report itself, and a scan that answers has found every line.
-/

namespace GrammarLint

open Text (hasAt)

/-- The phrase that the messages of a code open with. -/
def Code.phrase : Code → String
  | invalidDefinitionName => "Invalid definition name"
  | undefinedRule => "Undefined rule"
  | undefinedTerminal => "Undefined terminal"
  | unusedSymbol => "Unused grammar symbol"

/-- The span of the diagnostic lies on a line of the grammar, and what the line
shows there is what the message quotes. -/
def Diagnostic.QuotesText (lines : List Text) (d : Diagnostic) : Prop :=
  ∃ text, lines[d.span.line]? = some text ∧ d.span.start ≤ d.span.stop ∧
    d.span.stop ≤ text.length ∧
    d.message = quoting d.code.phrase (text.extract d.span.start d.span.stop)

theorem quotesText_of_hasAt {lines : List Text} {text name : Text}
    {d : Diagnostic} (hline : lines[d.span.line]? = some text)
    (hshown : hasAt name text d.span.start = true)
    (hstop : d.span.stop = d.span.start + name.length)
    (hmessage : d.message = Diagnostic.quoting d.code.phrase name) :
    d.QuotesText lines := by
  obtain ⟨hle, hcut⟩ := Text.extract_of_hasAt hshown
  refine ⟨text, hline, by omega, by omega, ?_⟩
  rw [hstop, hcut]
  exact hmessage

theorem readInvalidHead?_shown {text head : Text} {start : Nat}
    (h : readInvalidHead? text = some (head, start)) :
    hasAt head text start = true := by
  unfold readInvalidHead? at h
  simp only [] at h
  split at h
  · next c cs _ hhead _ =>
      injection h with h
      obtain ⟨rfl, rfl⟩ := Prod.mk.inj h
      exact Text.hasAt_of_suffix (List.dropWhile_suffix Text.isSpace)
        (List.takeWhile_prefix _)
  · cases h

/-- A reference found in a masked part of a line stands on the line itself. -/
theorem hasAt_of_mask {text word : Text} {offset column : Nat}
    (h : Text.WordAt (Body.mask (text.drop offset)) column word) :
    hasAt word text (offset + column) = true := by
  obtain ⟨before, after, hsplit, hcolumn, -⟩ :=
    Body.word_of_mask (p := none) h rfl
  exact Text.hasAt_of_drop h.run.nonempty
    (Text.hasAt_iff.mpr ⟨before, after, hsplit, hcolumn⟩)

theorem undefined_quotesText {lines : List Text} {text name : Text}
    {line start : Nat} (kind : SymbolKind) (hline : lines[line]? = some text)
    (hshown : hasAt name text start = true) :
    (Diagnostic.undefined line start name kind).QuotesText lines := by
  cases kind with
  | terminal => exact quotesText_of_hasAt hline hshown rfl rfl
  | rule => exact quotesText_of_hasAt hline hshown rfl rfl

theorem undefinedIn_quotesText {table : SymbolTable} {lines : List Text}
    {text : Text} {line offset : Nat} {d : Diagnostic}
    (hline : lines[line]? = some text)
    (hd : d ∈ undefinedIn table line offset (text.drop offset)) :
    d.QuotesText lines := by
  rw [undefinedIn_eq_wordErrors] at hd
  obtain ⟨column, name, kind, hword, rfl⟩ := mem_wordErrors hd
  exact undefined_quotesText kind hline (hasAt_of_mask hword)

theorem lineErrors_quotesText {table : SymbolTable} {lines : List Text}
    {text : Text} {line : Nat} {d : Diagnostic}
    (hline : lines[line]? = some text) (hd : d ∈ lineErrors table line text) :
    d.QuotesText lines := by
  have hread := classify_readFrom text
  rw [lineErrors] at hd
  split at hd
  · exact undefinedIn_quotesText hline hd
  · cases hd
  · cases hd
  · next head start hclass =>
      rcases List.mem_cons.mp hd with rfl | hd
      · rw [hclass] at hread
        exact quotesText_of_hasAt hline (readInvalidHead?_shown hread.2) rfl rfl
      · change d ∈ undefinedIn table line 0 (text.drop 0) at hd
        exact undefinedIn_quotesText hline hd
  · change d ∈ undefinedIn table line 0 (text.drop 0) at hd
    exact undefinedIn_quotesText hline hd

theorem findErrors_quotesText {table : SymbolTable} {lines : List Text}
    {d : Diagnostic} (hd : d ∈ findErrors table lines) :
    d.QuotesText lines := by
  obtain ⟨⟨text, line⟩, hmem, hd⟩ := List.mem_flatMap.mp hd
  exact lineErrors_quotesText (List.mk_mem_zipIdx_iff_getElem?.mp hmem) hd

theorem warnings_quoteText {table : SymbolTable} {lines : List Text}
    {ds : List Diagnostic} {d : Diagnostic} (h : table.warnings lines = .ok ds)
    (hd : d ∈ ds) : d.QuotesText lines := by
  obtain ⟨r, -, hwarning⟩ := SymbolTable.mem_warnings h hd
  obtain ⟨text, column, hline, hshown, rfl⟩ := Record.warning?_shows hwarning
  exact quotesText_of_hasAt hline hshown rfl rfl

/-- Whatever the table, every diagnostic of a scan that answers points at the
text it quotes. -/
theorem scan_quotesText {table : SymbolTable} {lines : List Text}
    {ds : List Diagnostic} (h : (table.scan lines).2 = .ok ds) :
    ∀ d ∈ ds, d.QuotesText lines := by
  intro d hd
  change Except.map _ ((table.markUses lines).warnings lines) = .ok ds at h
  cases hw : (table.markUses lines).warnings lines with
  | error e => rw [hw] at h; cases h
  | ok warnings =>
      rw [hw] at h
      injection h with h
      rw [← h] at hd
      rcases List.mem_append.mp hd with hd | hd
      · exact findErrors_quotesText hd
      · exact warnings_quoteText hw hd

/-- A table made for other lines: its one record names an invalid head, at a
column far beyond the line. -/
theorem scan_quotesText_stray :
    let lines : List Text :=
      [['1', 'a', ':', ' ', 'B', ' ', '"', 'q', '"', 'i', 'c'],
        ['D', ':', ' ', 'x']]
    let table : SymbolTable := ⟨[⟨['1', 'a'], .rule, 0, 40, false⟩]⟩
    let ds : List Diagnostic :=
      [.invalidHead 0 0 ['1', 'a'], .undefined 0 4 ['B'] .terminal,
        .undefined 0 10 ['c'] .rule, .undefined 1 3 ['x'] .rule,
        .unused 0 0 ['1', 'a']]
    (table.scan lines).2 = .ok ds ∧ ∀ d ∈ ds, d.QuotesText lines := by
  intro lines table ds
  have h : (table.scan lines).2 = .ok ds := rfl
  exact ⟨h, scan_quotesText h⟩

end GrammarLint
