import GrammarLint.Proofs.HeadText
import GrammarLint.Proofs.ReferenceUse

/-!
# Indentation

Blanks in front of a line move everything on it to the right and change nothing
else. A line is looked at by seven readers, and each begins by dropping blanks:
the question for a `%` or a `//` and the search for an invalid head drop every
Unicode blank, the others the six ASCII ones. So an indent of ASCII blanks is
gone before a reader sees the first sign, and joins whatever blanks the line had
of its own.

What is left of the indent is in the columns. Every reader counts from the back:
a column is the length of the line less the length of the part that starts there
(`length_indent_sub`). The line has grown in front, that part has not, and so
every column grows by the indent.

A line without a head is searched for references from its start, indent and all.
No blank opens a literal or cuts the line, so the mask keeps the indent
(`Body.mask_indent`), and no word stands in it or is joined to it
(`Text.words_indent`).
-/

namespace GrammarLint

open Text (isBlank isSpace isWord lastOr words wordsFrom)

def BoundName.shift (n : Nat) (b : BoundName) : BoundName :=
  { b with start := b.start + n }

def Head.shift (n : Nat) (head : Head) : Head :=
  { head with nameStart := head.nameStart + n, bodyStart := head.bodyStart + n }

def Directive.shift (n : Nat) (d : Directive) : Directive :=
  { d with names := d.names.map (BoundName.shift n) }

/-- What a line is when everything on it stands `n` columns further to the
right. -/
def LineClass.shift (n : Nat) : LineClass → LineClass
  | .definition head => .definition (head.shift n)
  | .directive d => .directive (d.shift n)
  | .skipped reason => .skipped reason
  | .invalidHead head start => .invalidHead head (start + n)
  | .body => .body

/-- The diagnostic `n` columns further to the right, on the same line. -/
def Diagnostic.shift (n : Nat) (d : Diagnostic) : Diagnostic :=
  { d with
    span := { d.span with start := d.span.start + n, stop := d.span.stop + n } }

theorem Diagnostic.shift_undefined (n line start : Nat) (name : Text)
    (kind : SymbolKind) :
    (undefined line start name kind).shift n =
      undefined line (start + n) name kind := by
  cases kind <;> simp [shift, undefined] <;> omega

theorem Diagnostic.shift_invalidHead (n line start : Nat) (head : Text) :
    (invalidHead line start head).shift n =
      invalidHead line (start + n) head := by
  simp [shift, invalidHead]
  omega

/-- A column that is counted from the back grows with the front of the line. -/
theorem length_indent_sub (w : Text) {text rest : Text} (h : rest <:+ text) :
    (w ++ text).length - rest.length =
      text.length - rest.length + w.length := by
  have hle := h.length_le
  rw [List.length_append]
  omega

section Readers

variable {w : Text} (hw : ∀ c ∈ w, isBlank c = true)

include hw

theorem dropWhile_isBlank_indent (text : Text) :
    (w ++ text).dropWhile isBlank = text.dropWhile isBlank :=
  List.dropWhile_append_of_pos hw

theorem dropWhile_isSpace_indent (text : Text) :
    (w ++ text).dropWhile isSpace = text.dropWhile isSpace :=
  List.dropWhile_append_of_pos fun c hc => Text.isSpace_of_isBlank (hw c hc)

theorem Head.read?_indent (text : Text) :
    read? (w ++ text) = (read? text).map (shift w.length) := by
  have hmarked : skipMarker (text.dropWhile isBlank) <:+ text :=
    (skipMarker_suffix _).trans (List.dropWhile_suffix _)
  have hrest :
      (skipPriority
        ((skipMarker (text.dropWhile isBlank)).dropWhile isWord)).dropWhile
      isBlank <:+ text :=
    (List.dropWhile_suffix _).trans ((skipPriority_suffix _).trans
      ((List.dropWhile_suffix _).trans hmarked))
  simp only [read?, dropWhile_isBlank_indent hw, length_indent_sub w hmarked]
  split
  · rfl
  · split
    · next body hbody =>
        rw [hbody] at hrest
        have hsuffix : body <:+ text := (List.suffix_cons _ _).trans hrest
        rw [length_indent_sub w hsuffix]
        rfl
    · rfl

theorem readInvalidHead?_indent (text : Text) :
    readInvalidHead? (w ++ text) =
      (readInvalidHead? text).map fun found =>
        (found.1, found.2 + w.length) := by
  have hsuffix : text.dropWhile isSpace <:+ text := List.dropWhile_suffix _
  simp only [readInvalidHead?, dropWhile_isSpace_indent hw,
    length_indent_sub w hsuffix]
  split <;> rfl

end Readers

namespace Directive

theorem namesIn_shift (n offset : Nat) (fragment : Text) :
    namesIn (offset + n) fragment =
      (namesIn offset fragment).map (BoundName.shift n) := by
  rw [namesIn, namesIn, List.map_map]
  refine List.map_congr_left fun found _ => ?_
  simp [BoundName.shift]
  omega

theorem pathName_shift (n : Nat) {segments : Text} {stop : Nat}
    (h : segments.length ≤ stop) :
    pathName segments (stop + n) =
      (pathName segments stop).map (BoundName.shift n) := by
  have hlast := (lastSegment_suffix segments).length_le
  simp only [pathName]
  split
  · simp [BoundName.shift]
    omega
  · rfl

theorem readClause?_shift (n : Nat) {size : Nat} {t : Text}
    (h : t.length ≤ size) :
    readClause? (size + n) t =
      (readClause? size t).map (List.map (BoundName.shift n)) := by
  unfold readClause?
  split
  · next cs =>
      have hle := (List.dropWhile_suffix (l := cs) isBlank).length_le
      simp only [List.length_cons] at h
      dsimp only
      cases readIdentifier? (cs.dropWhile isBlank) with
      | none => rfl
      | some name =>
          simp [BoundName.shift]
          omega
  · next cs =>
      simp only [List.length_cons] at h
      split
      · have hsize : size + n - cs.length = size - cs.length + n := by omega
        rw [hsize, namesIn_shift]
        rfl
      · rfl
  · rfl

variable {w : Text} (hw : ∀ c ∈ w, isBlank c = true)

include hw

theorem readDeclare?_indent (text : Text) :
    readDeclare? (w ++ text) =
      (readDeclare? text).map (List.map (BoundName.shift w.length)) := by
  simp only [readDeclare?, dropWhile_isBlank_indent hw]
  split
  · rfl
  · next rest hrest =>
      have hsuffix : rest <:+ text :=
        (suffix_of_isPrefixOf? hrest).trans (List.dropWhile_suffix _)
      rw [length_indent_sub w hsuffix, namesIn_shift]
      split
      · rfl
      · split <;> rfl

theorem readImport?_indent (text : Text) :
    readImport? (w ++ text) =
      (readImport? text).map (List.map (BoundName.shift w.length)) := by
  simp only [readImport?, dropWhile_isBlank_indent hw]
  split
  · rfl
  · next rest hrest =>
      have hrest : rest <:+ text :=
        (suffix_of_isPrefixOf? hrest).trans (List.dropWhile_suffix _)
      generalize hpath : (rest.dropWhile isBlank).dropWhile (· == '.') = dotless
      have hdotless : dotless <:+ text := by
        rw [← hpath]
        exact (List.dropWhile_suffix _).trans
          ((List.dropWhile_suffix _).trans hrest)
      have hsegments := (takeSegments_isPrefix dotless).length_le
      have hafter : dotless.drop (takeSegments dotless).length <:+ text :=
        (List.drop_suffix _ _).trans hdotless
      have hclause := ((List.dropWhile_suffix isBlank).trans hafter).length_le
      have hlength : (w ++ text).length = text.length + w.length := by
        rw [List.length_append, Nat.add_comm]
      have hstop : (takeSegments dotless).length ≤ text.length -
          (dotless.drop (takeSegments dotless).length).length := by
        have hle := hdotless.length_le
        rw [List.length_drop]
        omega
      split
      · rw [length_indent_sub w hafter, pathName_shift _ hstop, hlength,
          readClause?_shift _ hclause]
        cases readClause? text.length _ <;> rfl
      · rfl

theorem readBareImport?_indent (text : Text) :
    readBareImport? (w ++ text) =
      (readBareImport? text).map (BoundName.shift w.length) := by
  simp only [readBareImport?, dropWhile_isBlank_indent hw]
  split
  · rfl
  · next rest hrest =>
      have hrun : rest.dropWhile (fun c => !isBareName c) <:+ text :=
        (List.dropWhile_suffix _).trans
          ((suffix_of_isPrefixOf? hrest).trans (List.dropWhile_suffix _))
      rw [length_indent_sub w hrun]
      split <;> rfl

theorem read?_indent (text : Text) :
    read? (w ++ text) = (read? text).map (shift w.length) := by
  rw [read?, read?, readDeclare?_indent hw, readImport?_indent hw,
    readBareImport?_indent hw]
  cases readDeclare? text with
  | some names => cases names <;> rfl
  | none =>
      have hbare : ((readBareImport? text).map (BoundName.shift w.length)).map
            (fun name => (⟨.imports, [name]⟩ : Directive)) =
          ((readBareImport? text).map fun name => ⟨.imports, [name]⟩).map
          (shift w.length) := by
        cases readBareImport? text <;> rfl
      cases readImport? text with
      | none => exact hbare
      | some names =>
          cases names with
          | nil => exact hbare
          | cons => rfl

end Directive

/-- An indent moves what a line is to the right. -/
theorem classify_indent {w : Text} (hw : ∀ c ∈ w, isBlank c = true)
    (text : Text) :
    classify (w ++ text) = (classify text).shift w.length := by
  simp only [classify, dropWhile_isSpace_indent hw, Directive.read?_indent hw,
    Head.read?_indent hw, readInvalidHead?_indent hw]
  split
  · cases Directive.read? text <;> rfl
  · rfl
  · cases Head.read? text with
    | some head => rfl
    | none => cases readInvalidHead? text <;> rfl

namespace Text

/-- The words of an indented text are its words, moved to the right. -/
theorem words_indent {w : Text} (hw : ∀ c ∈ w, isWord c = false) (text : Text) :
    words (w ++ text) = (words text).map fun word =>
      (word.1 + w.length, word.2) := by
  have hlast : w.getLast?.any isWord = false := by
    cases h : w.getLast? with
    | none => rfl
    | some c => exact hw c (List.mem_of_getLast? h)
  rw [words, words, wordsFrom_append (.inl hlast), wordsFrom_eq_nil hw,
    List.nil_append, lastOr_none, wordsFrom_edge hlast, wordsFrom_shift]

end Text

namespace Body

theorem mask_cons_of_isBlank {c : Char} (hc : isBlank c = true) (text : Text) :
    mask (c :: text) = c :: mask text := by
  have hquote : c ≠ '"' := fun h => absurd (h ▸ hc) (by decide)
  have hslash : c ≠ '/' := fun h => absurd (h ▸ hc) (by decide)
  have hdash : c ≠ '-' := fun h => absurd (h ▸ hc) (by decide)
  simp [mask, blankStrings, blankStringsFrom, cutTail, blankRegexps,
    blankRegexpsFrom, hquote, hslash, hdash]

theorem mask_indent {w : Text} (hw : ∀ c ∈ w, isBlank c = true) (text : Text) :
    mask (w ++ text) = w ++ mask text := by
  induction w with
  | nil => rfl
  | cons c cs ih =>
      rw [List.forall_mem_cons] at hw
      rw [List.cons_append, mask_cons_of_isBlank hw.1, ih hw.2,
        List.cons_append]

end Body

theorem wordErrors_shift (table : SymbolTable) (line offset n : Nat)
    (masked : Text) :
    wordErrors table line (offset + n) masked =
      (wordErrors table line offset masked).map (Diagnostic.shift n) := by
  simp only [wordErrors, List.map_append, List.map_map, Function.comp_def,
    Diagnostic.shift_undefined, Nat.add_right_comm]

theorem wordErrors_indent {w : Text} (hw : ∀ c ∈ w, isWord c = false)
    (table : SymbolTable) (line offset : Nat) (masked : Text) :
    wordErrors table line offset (w ++ masked) =
      wordErrors table line (offset + w.length) masked := by
  simp only [wordErrors, Text.words_indent hw, List.filter_map, List.map_map,
    Function.comp_def, Nat.add_assoc, Nat.add_comm w.length]

theorem undefinedIn_shift (table : SymbolTable) (line offset n : Nat)
    (body : Text) :
    undefinedIn table line (offset + n) body =
      (undefinedIn table line offset body).map (Diagnostic.shift n) := by
  rw [undefinedIn_eq_wordErrors, undefinedIn_eq_wordErrors, wordErrors_shift]

/-- A line that is searched from its start has the same errors behind an
indent. -/
theorem undefinedIn_indent {w : Text} (hw : ∀ c ∈ w, isBlank c = true)
    (table : SymbolTable) (line offset : Nat) (text : Text) :
    undefinedIn table line offset (w ++ text) =
      (undefinedIn table line offset text).map (Diagnostic.shift w.length) := by
  rw [undefinedIn_eq_wordErrors, undefinedIn_eq_wordErrors, Body.mask_indent hw,
    wordErrors_indent (fun c hc => isWord_of_isBlank (hw c hc)),
    wordErrors_shift]

theorem lineErrors_indent {w : Text} (hw : ∀ c ∈ w, isBlank c = true)
    (table : SymbolTable) (line : Nat) (text : Text) :
    lineErrors table line (w ++ text) =
      (lineErrors table line text).map (Diagnostic.shift w.length) := by
  rw [lineErrors, lineErrors, classify_indent hw]
  cases classify text with
  | definition head =>
      have hbody : (w ++ text).drop (head.bodyStart + w.length) =
          text.drop head.bodyStart := by
        rw [Nat.add_comm, List.drop_length_add_append]
      show undefinedIn table line (head.bodyStart + w.length)
        ((w ++ text).drop (head.bodyStart + w.length)) = _
      rw [hbody, undefinedIn_shift]
  | directive => rfl
  | skipped => rfl
  | invalidHead head start =>
      show Diagnostic.invalidHead line (start + w.length) head :: _ = _ :: _
      rw [undefinedIn_indent hw, Diagnostic.shift_invalidHead]
  | body => exact undefinedIn_indent hw table line 0 text

/-- An indent of blanks moves what a line is, and every error on it, to the
right by the length of the indent. -/
theorem indent_moves_line {w : Text} (hw : ∀ c ∈ w, isBlank c = true)
    (text : Text) :
    classify (w ++ text) = (classify text).shift w.length ∧
    ∀ table : SymbolTable,
      findErrors table [w ++ text] =
        (findErrors table [text]).map (Diagnostic.shift w.length) := by
  refine ⟨classify_indent hw text, fun table => ?_⟩
  simp only [findErrors, List.zipIdx_singleton, List.flatMap_singleton]
  exact lineErrors_indent hw table 0 text

/-- The indent joins a wide blank of the line itself, and the head
behind it is invalid. -/
theorem indent_moves_line_wide :
    let w : Text := ['\t', '\n']
    let text : Text := ['\u00a0', '1', 'a', ' ', ':', ' ', 'b', '"', 'c', '"']
    classify (w ++ text) = .invalidHead ['1', 'a'] 3 ∧
      findErrors .empty [w ++ text] =
        [.invalidHead 0 3 ['1', 'a'], .undefined 0 8 ['b'] .rule] := by
  intro w text
  obtain ⟨hclass, herrors⟩ :=
    indent_moves_line (w := w) (List.all_eq_true.mp rfl) text
  exact ⟨hclass.trans (by decide), (herrors .empty).trans (by decide)⟩

end GrammarLint
