import GrammarLint.Command.Run
import GrammarLint.Proofs.Sessions

/-!
# A grammar in a file and the same grammar in an editor

The command line reads a grammar from a file: bytes are decoded, every line
break is written as `\n`, and only then the text is cut into lines. An editor
hands over a text, which is cut into lines as it is. Both ways end in the same
lines, and everything that is said about a grammar is said about its lines.

Two facts carry this. Decoding undoes encoding, because the first byte of a
character tells how many follow and every one of the others passes the test for
a tail (`Utf8.next_encode`). And unifying breaks changes none of the lines
(`Text.lines_unifyBreaks`): a carriage return is a break by itself, a line feed
behind it belongs to it on both ways, and after it is rewritten the two still
count as one.
-/

namespace GrammarLint

/-! ## Decoding what was encoded

A character has one of four forms, and the first byte tells them apart. -/

namespace Utf8

theorem toNat_ofNat_of_lt {n : Nat} (h : n < 256) :
    (UInt8.ofNat n).toNat = n := by
  rw [UInt8.toNat_ofNat']
  omega

theorem isTail_iff {b : UInt8} :
    isTail b = true ↔ 0x80 ≤ b.toNat ∧ b.toNat ≤ 0xbf := by
  rw [isTail, Bool.and_eq_true, decide_eq_true_eq, decide_eq_true_eq,
    UInt8.le_iff_toNat_le, UInt8.le_iff_toNat_le]
  rfl

theorem isSecond_iff {a b : UInt8} :
    isSecond a b = true ↔ isTail b = true ∧ (a.toNat = 0xe0 → 0xa0 ≤ b.toNat) ∧
      (a.toNat = 0xed → b.toNat < 0xa0) ∧ (a.toNat = 0xf0 → 0x90 ≤ b.toNat) ∧
      (a.toNat = 0xf4 → b.toNat < 0x90) := by
  simp [isSecond, UInt8.lt_iff_toNat_lt, UInt8.le_iff_toNat_le,
    ← UInt8.toNat_inj, and_assoc]
  omega

theorem isTail_ofNat (n : Nat) :
    isTail (UInt8.ofNat (n % 64 + 128)) = true := by
  rw [isTail_iff, toNat_ofNat_of_lt (by omega)]
  omega

theorem low_ofNat (n : Nat) : low (UInt8.ofNat (n % 64 + 128)) = n % 64 := by
  rw [low, toNat_ofNat_of_lt (by omega)]
  omega

theorem next_one {a : UInt8} (ha : a.toNat < 0x80) (rest : List UInt8) :
    next a rest = .ok (Char.ofNat a.toNat, 1) := by
  rw [next.eq_def, if_pos (UInt8.lt_iff_toNat_lt.mpr ha)]

theorem next_two {a b : UInt8} (hlow : 0xc2 ≤ a.toNat) (hhigh : a.toNat < 0xe0)
    (hb : isSecond a b = true) (rest : List UInt8) :
    next a (b :: rest) =
      .ok (Char.ofNat ((a.toNat - 0xc0) * 64 + low b), 2) := by
  rw [next.eq_def, if_neg, if_neg, if_pos (UInt8.lt_iff_toNat_lt.mpr hhigh)]
  · simp only [hb, if_true]
  · rw [UInt8.lt_iff_toNat_lt]
    exact Nat.not_lt.mpr hlow
  · rw [UInt8.lt_iff_toNat_lt]
    exact Nat.not_lt.mpr (Nat.le_trans (by decide) hlow)

theorem next_three {a b c : UInt8} (hlow : 0xe0 ≤ a.toNat)
    (hhigh : a.toNat < 0xf0) (hb : isSecond a b = true) (hc : isTail c = true)
    (rest : List UInt8) :
    next a (b :: c :: rest) =
      .ok (Char.ofNat ((a.toNat - 0xe0) * 4096 + low b * 64 + low c), 3) := by
  rw [next.eq_def, if_neg, if_neg, if_neg,
    if_pos (UInt8.lt_iff_toNat_lt.mpr hhigh)]
  · simp [hb, hc]
  all_goals
    rw [UInt8.lt_iff_toNat_lt]
    exact Nat.not_lt.mpr (Nat.le_trans (by decide) hlow)

theorem next_four {a b c d : UInt8} (hlow : 0xf0 ≤ a.toNat)
    (hhigh : a.toNat < 0xf5) (hb : isSecond a b = true) (hc : isTail c = true)
    (hd : isTail d = true) (rest : List UInt8) :
    next a (b :: c :: d :: rest) =
      .ok (Char.ofNat ((a.toNat - 0xf0) * 262144 + low b * 4096 + low c * 64 +
        low d), 4) := by
  rw [next.eq_def, if_neg, if_neg, if_neg, if_neg,
    if_pos (UInt8.lt_iff_toNat_lt.mpr hhigh)]
  · simp [hb, hc, hd]
  all_goals
    rw [UInt8.lt_iff_toNat_lt]
    exact Nat.not_lt.mpr (Nat.le_trans (by decide) hlow)

theorem ofNat_eq {n : Nat} {c : Char} (h : n = c.val.toNat) :
    Char.ofNat n = c := by
  rw [h]
  exact Char.ofNat_toNat c

/-- The bytes of a character are read back as that character, whatever
follows. -/
theorem next_encode (c : Char) (rest : List UInt8) :
    ∃ first tail, String.utf8EncodeChar c = first :: tail ∧
      next first (tail ++ rest) = .ok (c, tail.length + 1) := by
  have hvalid : c.val.toNat < 0xd800 ∨ 0xdfff < c.val.toNat ∧
      c.val.toNat < 0x110000 := c.valid
  simp only [String.utf8EncodeChar]
  split
  · next hone =>
      refine ⟨_, _, rfl, ?_⟩
      have hfirst := toNat_ofNat_of_lt (n := c.val.toNat) (by omega)
      rw [List.nil_append, next_one (by omega), hfirst, ofNat_eq rfl]
      rfl
  · split
    · next hone htwo =>
        refine ⟨_, _, rfl, ?_⟩
        have hfirst :=
          toNat_ofNat_of_lt (n := c.val.toNat / 64 % 32 + 192) (by omega)
        have hsecond :=
          toNat_ofNat_of_lt (n := c.val.toNat % 64 + 128) (by omega)
        rw [List.cons_append, next_two (by omega) (by omega), hfirst, low_ofNat,
          ofNat_eq (c := c) (by omega)]
        · rfl
        · rw [isSecond_iff]
          refine ⟨isTail_ofNat _, ?_⟩
          omega
    · split
      · next hone htwo hthree =>
          refine ⟨_, _, rfl, ?_⟩
          have hfirst := toNat_ofNat_of_lt (n := c.val.toNat / 4096 % 16 + 224)
            (by omega)
          have hsecond :=
            toNat_ofNat_of_lt (n := c.val.toNat / 64 % 64 + 128) (by omega)
          rw [List.cons_append, List.cons_append,
            next_three (by omega) (by omega) ?_ (isTail_ofNat _), hfirst,
            low_ofNat, low_ofNat, ofNat_eq (c := c) (by omega)]
          · rfl
          · rw [isSecond_iff]
            refine ⟨isTail_ofNat _, ?_⟩
            omega
      · next hone htwo hthree =>
          refine ⟨_, _, rfl, ?_⟩
          have hfirst := toNat_ofNat_of_lt (n := c.val.toNat / 262144 % 8 + 240)
            (by omega)
          have hsecond := toNat_ofNat_of_lt (n := c.val.toNat / 4096 % 64 + 128)
            (by omega)
          rw [List.cons_append, List.cons_append, List.cons_append,
            next_four (by omega) (by omega) ?_ (isTail_ofNat _)
              (isTail_ofNat _), hfirst,
            low_ofNat, low_ofNat, low_ofNat, ofNat_eq (c := c) (by omega)]
          · rfl
          · rw [isSecond_iff]
            refine ⟨isTail_ofNat _, ?_⟩
            omega

/-- Bytes that belong to the last character are passed over. -/
theorem decodeFrom_skip (tail rest : List UInt8) (position : Nat) :
    decodeFrom tail.length position (tail ++ rest) =
      decodeFrom 0 (position + tail.length) rest := by
  induction tail generalizing position with
  | nil => rfl
  | cons b bs ih =>
      rw [List.length_cons, List.cons_append, decodeFrom, ih]
      congr 1
      omega

theorem decodeFrom_encode (text : Text) (position : Nat) :
    decodeFrom 0 position (encode text) = .ok text := by
  induction text generalizing position with
  | nil => rfl
  | cons c cs ih =>
      obtain ⟨first, tail, hbytes, hnext⟩ := next_encode c (encode cs)
      have hcons : encode (c :: cs) = first :: (tail ++ encode cs) := by
        rw [encode, List.flatMap_cons, hbytes]
        rfl
      rw [hcons, decodeFrom, hnext]
      simp only [Nat.add_sub_cancel, decodeFrom_skip, ih]
      rfl

theorem decode_encode (text : Text) : decode (encode text) = .ok text :=
  decodeFrom_encode text 0

end Utf8

namespace Text

/-- A character that is no break stands at the front of the first line. -/
theorem lines_cons {c : Char} (hreturn : c ≠ '\r') (hfeed : c ≠ '\n')
    (cs : Text) :
    lines (c :: cs) = (c :: (lines cs).headD []) :: (lines cs).tail := by
  rw [lines]
  · cases lines cs with
    | nil => rfl
    | cons line rest => rfl
  · intro _ h _; exact hreturn h
  · exact hreturn
  · exact hfeed

theorem lines_unifyBreaks (text : Text) :
    lines (unifyBreaks text) = lines text := by
  fun_induction unifyBreaks text with
  | case1 => rfl
  | case2 cs ih => simp only [lines, ih]
  | case3 cs hpair ih =>
      rw [lines, lines, ih]
      exact hpair
  | case4 c cs _ hreturn ih =>
      by_cases hfeed : c = '\n'
      · subst hfeed
        simp only [lines, ih]
      · rw [lines_cons hreturn hfeed, lines_cons hreturn hfeed, ih]

end Text

theorem Disk.readText_of_read {disk : Disk} {path : Path} {text : Text}
    (hnul : path.hasNul = false) (h : disk.read path = .ok (Utf8.encode text)) :
    disk.readText path = .ok (Text.unifyBreaks text) := by
  rw [readText, hnul, if_neg (by decide), h]
  simp only [Utf8.decode_encode]

/-- The lines that are read from a file are those of the text it holds. -/
theorem Disk.readGrammar_of_read {disk : Disk} {path : Path} {text : Text}
    (hnul : path.hasNul = false) (h : disk.read path = .ok (Utf8.encode text)) :
    disk.readGrammar path = .ok (Text.lines text) := by
  rw [readGrammar, readText_of_read hnul h]
  simp only [Text.lines_unifyBreaks]

/-- A file that holds a text gets the diagnostics and the outline that the text
gets as an open document. The command line reports the one list, an editor is
told the other in its own units. -/
theorem file_agrees_with_document {disk : Disk} {path : Path} {text : Text}
    (config : Config) (hnul : path.hasNul = false)
    (hfile : disk.read path = .ok (Utf8.encode text)) :
    ∃ (diagnostics : List Diagnostic) (entries : List OutlineEntry),
      (config.lint disk path = .ok diagnostics ∧
        (config.lintAll disk [path]).2 = .ok [(path, diagnostics)] ∧
        (disk.readGrammar path).map outline = .ok entries) ∧
      (diagnostics = config.filter (validate (Text.lines text)) ∧
        entries = outline (Text.lines text)) ∧
      ∀ (session : Session) (uri : Text) (document : Document),
        session.config = config → session.document? uri = some document →
        document.text = text →
        let place := ClientRange.inLines session.unit (Text.lines text)
        (session.isGrammar uri = true →
          ∃ message, (session.check disk uri).emissions =
            [.publish uri (diagnostics.map (.ofDiagnostic place)),
              .info message]) ∧
        (session.step disk (.symbols uri)).2.outcome = .ok (entries.map fun e =>
          ⟨e.name, e.kind.number, place e.span, place e.nameSpan,
            e.kind.word⟩) := by
  have hlines := Disk.readGrammar_of_read hnul hfile
  refine ⟨config.filter (validate (Text.lines text)), outline (Text.lines text),
    ⟨?_, ?_, ?_⟩, ⟨rfl, rfl⟩, ?_⟩
  · rw [Config.lint, hlines]
    rfl
  · simp only [Config.lintAll, hlines]
    rfl
  · rw [hlines]
    rfl
  · intro session uri document hconfig hopen htext
    subst hconfig
    subst htext
    exact ⟨fun hgrammar =>
        Session.check_grammar hopen
          ((Session.isGrammar_iff hopen).mp hgrammar) disk,
      Session.symbols_document hopen disk⟩

/-- Breaks of all kinds in a row, and two separators that are no breaks:
both ways see five lines. -/
theorem file_agrees_with_document_mixed :
    let text : Text :=
      ['a', ':', '\r', '\r', '\n', '\n', '\r', 'B', '\x0c', '\u2028', 'c', '\r']
    let disk : Disk := { entries := [([['g']], .file (Utf8.encode text))] }
    let path : Path := .absolute [['g']]
    let config : Config := { disable := [.unusedSymbol] }
    let uri : Text := ['g', '.', 'l', 'a', 'r', 'k']
    let session : Session := { config, documents := [(uri, ⟨uri, [], text⟩)] }
    let diagnostics : List Diagnostic :=
      [.undefined 4 0 ['B'] .terminal, .undefined 4 3 ['c'] .rule]
    disk.read path = .ok (Utf8.encode text) ∧
      config.lint disk path = .ok diagnostics ∧
      config.filter (validate (Text.lines text)) = diagnostics ∧
      ∃ message, (session.check disk uri).emissions =
        [.publish uri
          (diagnostics.map (.ofDiagnostic (.inLines .utf16 (Text.lines text)))),
          .info message] := by
  intro text disk path config uri session diagnostics
  have hfile : disk.read path = .ok (Utf8.encode text) := by rfl
  have hchecked : config.filter (validate (Text.lines text)) =
      diagnostics := by decide
  obtain ⟨found, entries, ⟨hlint, -⟩, ⟨hfound, -⟩, hsession⟩ :=
    file_agrees_with_document config rfl hfile
  obtain rfl : found = diagnostics := hfound.trans hchecked
  exact ⟨hfile, hlint, hchecked,
    (hsession session uri ⟨uri, [], text⟩ rfl (by decide) rfl).1 (by decide)⟩

end GrammarLint
