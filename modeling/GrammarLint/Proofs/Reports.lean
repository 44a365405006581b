import GrammarLint.Proofs.JsonText
import GrammarLint.Proofs.Warnings

/-!
# Three reports of the same findings

Findings are told in three forms, each with its own function. This file says
what each of them tells in terms of one list of entries: file, line and column
from one on, severity, code and message.

* **As JSON** the entries are what a reader of JSON gets back, field by field
  (`Findings.read_json`).

* **On a console** every entry has a line, from which colour sequences are
  dropped. An entry without escape characters has nothing to drop
  (`Findings.plain_consoleText`); one with them may be told in part only.

* **For people** every file with entries has a heading and a line for each of
  them, and totals follow. What a line looks like is up to the printer. All that
  is asked of it is `Printer.PrintsEscaped`: escaped text comes out unchanged,
  and tags do not come out at all.

The entries of a file are sorted by position. Sorting neither loses nor adds any
(`Findings.entries_perm`), and entries at one place keep their order
(`Findings.entries_stable`).
-/

namespace GrammarLint

/-- A finding as reports tell it; lines and columns start at one. -/
structure Entry where
  file : Text
  line : Nat
  column : Nat
  severity : Severity
  code : Code
  message : String
  deriving DecidableEq, Repr, Inhabited

namespace Entry

/-- The entry of a diagnostic in a file. -/
def of (file : Text) (d : Diagnostic) : Entry :=
  ⟨file, d.span.line + 1, d.span.start + 1, d.severity, d.code, d.message⟩

/-- Report order: by line, then by column. -/
def PositionLe (a b : Entry) : Prop :=
  a.line < b.line ∨ a.line = b.line ∧ a.column ≤ b.column

/-- The entry stands at this line and column. -/
def isAt (line column : Nat) (e : Entry) : Bool :=
  e.line == line && e.column == column

/-- The entry as a line of a console. -/
def consoleText (e : Entry) : Text :=
  e.file ++ (":" ++ toString e.line ++ ":" ++ toString e.column ++ ": "
    ++ e.severity.word ++ ": " ++ e.message
    ++ " [" ++ e.code.label ++ "]").toList

/-- The entry as a line for people, below the heading of its file. -/
def humanText (e : Entry) : Text :=
  ("  " ++ toString e.line ++ ":" ++ toString e.column ++ "  "
    ++ e.severity.word ++ "  " ++ e.message ++ "  " ++ e.code.label).toList

/-- The severity with this word. -/
def severityOf? (word : Text) : Option Severity :=
  [Severity.error, .warning].find? fun severity => severity.word.toList == word

/-- Reads the entry from an object, field by field. -/
def ofObject? (object : Json.Object) : Option Entry :=
  match object.lookup "file".toList, object.lookup "line".toList,
    object.lookup "column".toList, object.lookup "severity".toList,
    object.lookup "code".toList, object.lookup "message".toList with
  | some (.text file), some (.number line), some (.number column),
    some (.text severity), some (.text code), some (.text message) =>
    match severityOf? severity, Code.ofLabel? (String.ofList code) with
    | some severity, some code =>
        some ⟨file, line, column, severity, code, String.ofList message⟩
    | _, _ => none
  | _, _, _, _, _, _ => none

end Entry

/-- A line of the report for people: the heading of a file, or one of its
findings. -/
inductive Item where
  | heading (file : Text)
  | finding (entry : Entry)

namespace Item

/-- The line as it is meant to be read. -/
def text : Item → Text
  | heading file => file
  | finding entry => entry.humanText

/-- The parts of the line as they are handed to the printer. -/
def line : Item → List Part
  | heading file => Findings.heading file
  | finding e => [
    { text := ("  " ++ toString e.line ++ ":" ++ toString e.column ++
      "  ").toList },
    { text := e.severity.word.toList,
      style := some (Findings.styleOf e.severity) },
    { text := [' ', ' '] },
    { text := e.message.toList, foreign := true },
    { text := [' ', ' '] },
    { text := e.code.label.toList, style := some "dim" }]

theorem flatMap_line (item : Item) :
    item.line.flatMap Part.text = item.text := by
  cases item with
  | heading file => exact List.append_nil file
  | finding e => simp [line, text, Entry.humanText]

end Item

/-! ## Printers

Marked-up text is escaped where it comes from outside, and what the report puts
around it holds neither brackets nor backslashes, nor two colons that could
enclose a name. That such a line is shown without its tags, and otherwise as it
is, is the one thing that the report for people has to take from its printer. -/

section

variable {ε : Type} (printer : Printer ε)

/-- The part can be told from tags: it is escaped, or needs no escaping. -/
structure Part.Fits (part : Part) : Prop where
  text : part.foreign = true ∨
    (∀ c ∈ part.text, c ≠ '[' ∧ c ≠ '\\') ∧ part.text.count ':' ≤ 1
  style : ∀ style ∈ part.style, ∀ c ∈ style.toList, c.isLower = true ∨ c = ' '

/-- The line is shown as it is meant: its parts without the tags. -/
def Printer.PrintsAsIs (line : List Part) : Prop :=
  printer.printLine line = .ok (line.flatMap Part.text)

/-- Escaped text is printed unchanged, and so is text that needs no escaping;
tags are not printed. -/
def Printer.PrintsEscaped : Prop :=
  ∀ line : List Part, (∀ part ∈ line, part.Fits) → printer.PrintsAsIs line

end

theorem isDigit_of_mem_number {n : Nat} {c : Char}
    (h : c ∈ (toString n).toList) : c.isDigit = true :=
  Nat.isDigit_of_mem_toDigits (by decide) (by decide)
    (Json.toList_toString n ▸ h)

/-- Characters that no fixed part of a line holds. -/
def marks : List Char :=
  ['\\', ':', '[', '\t', '\x07', '\x08', '\x0b', '\x0c', '\x0d']

/-- The text holds none of those characters. -/
def IsOrdinary (t : Text) : Prop := ∀ c ∈ t, c ∉ marks

theorem isOrdinary_of_all {t : Text}
    (h : t.all (fun c => !marks.contains c) = true) : IsOrdinary t := by
  intro c hc
  simpa using List.all_eq_true.mp h c hc

theorem IsOrdinary.append {s t : Text} (hs : IsOrdinary s)
    (ht : IsOrdinary t) : IsOrdinary (s ++ t) := by
  intro c hc
  rcases List.mem_append.mp hc with hc | hc
  · exact hs c hc
  · exact ht c hc

theorem isOrdinary_number (n : Nat) : IsOrdinary (toString n).toList := by
  intro c hc hmark
  have hdigit := isDigit_of_mem_number hc
  have hnone : (marks.all fun c => !c.isDigit) = true := by decide
  simpa [hdigit] using List.all_eq_true.mp hnone c hmark

theorem isOrdinary_word (severity : Severity) :
    IsOrdinary severity.word.toList := by
  cases severity <;> exact isOrdinary_of_all (by decide)

theorem isOrdinary_label (code : Code) : IsOrdinary code.label.toList := by
  cases code <;> exact isOrdinary_of_all (by decide)

theorem IsOrdinary.ne {t : Text} (h : IsOrdinary t) {mark : Char}
    (hmark : mark ∈ marks) : ∀ c ∈ t, c ≠ mark :=
  fun c hc heq => h c hc (heq ▸ hmark)

theorem IsOrdinary.bare {t : Text} (h : IsOrdinary t) :
    ∀ c ∈ t, c ≠ '[' ∧ c ≠ '\\' :=
  fun c hc => ⟨h.ne (by decide) c hc, h.ne (by decide) c hc⟩

/-- Ordinary text with at most one colon in it needs no escaping. -/
theorem Part.fits_of_colon {before after : Text} {style : Option String}
    (hbefore : IsOrdinary before) (hafter : IsOrdinary after)
    (hstyle : ∀ name ∈ style, ∀ c ∈ name.toList, c.isLower = true ∨ c = ' ') :
    Part.Fits { text := before ++ ':' :: after, style } := by
  have hnone : ∀ {t : Text}, IsOrdinary t → t.count ':' = 0 := fun ht =>
    List.count_eq_zero_of_not_mem fun h => ht ':' h (by decide)
  refine ⟨.inr ⟨fun c hc => ?_, ?_⟩, hstyle⟩
  · rcases List.mem_append.mp hc with hc | hc
    · exact hbefore.bare c hc
    · rcases List.mem_cons.mp hc with hc | hc
      · rw [hc]
        decide
      · exact hafter.bare c hc
  · rw [List.count_append, List.count_cons_self, hnone hbefore, hnone hafter]

theorem Part.fits_of_ordinary {text : Text} {style : Option String}
    (htext : IsOrdinary text)
    (hstyle : ∀ name ∈ style, ∀ c ∈ name.toList, c.isLower = true ∨ c = ' ') :
    Part.Fits { text, style } := by
  refine ⟨.inr ⟨htext.bare, ?_⟩, hstyle⟩
  rw [List.count_eq_zero_of_not_mem fun h => htext ':' h (by decide)]
  exact Nat.zero_le 1

theorem lower_styleOf (severity : Severity) :
    ∀ name ∈ some (Findings.styleOf severity),
      ∀ c ∈ name.toList, c.isLower = true ∨ c = ' ' := by
  intro name hname
  obtain rfl := Option.some.inj hname
  cases severity with
  | error => exact @of_decide_eq_true _ (List.decidableBAll _ _) rfl
  | warning => exact @of_decide_eq_true _ (List.decidableBAll _ _) rfl

theorem lower_style {name : String}
    (h : name.toList.all (fun c => c.isLower || c == ' ') = true) :
    ∀ style ∈ some name, ∀ c ∈ style.toList, c.isLower = true ∨ c = ' ' := by
  intro style hstyle c hc
  obtain rfl := Option.some.inj hstyle
  simpa using List.all_eq_true.mp h c hc

/-- Every part of a line for people can be told from tags. -/
theorem Item.fits (item : Item) : ∀ part ∈ item.line, part.Fits := by
  have hblanks : IsOrdinary [' ', ' '] := isOrdinary_of_all (by decide)
  have hplain : ∀ name ∈ (none : Option String),
      ∀ c ∈ name.toList, c.isLower = true ∨ c = ' ' := fun _ h => by cases h
  cases item with
  | heading file =>
      intro part hpart
      obtain rfl := List.mem_singleton.mp hpart
      exact ⟨.inl rfl, lower_style (by decide)⟩
  | finding e =>
      have hposition : ("  " ++ toString e.line ++ ":" ++ toString e.column ++
          "  ").toList = ([' ', ' '] ++ (toString e.line).toList) ++
            ':' :: ((toString e.column).toList ++ [' ', ' ']) := by
        simp
      have hnumbers := Part.fits_of_colon
        (hblanks.append (isOrdinary_number e.line))
        ((isOrdinary_number e.column).append hblanks) hplain
      simp only [line, hposition, List.forall_mem_cons]
      exact ⟨hnumbers, Part.fits_of_ordinary (isOrdinary_word e.severity)
          (lower_styleOf e.severity),
        Part.fits_of_ordinary hblanks hplain, ⟨.inl rfl, hplain⟩,
        Part.fits_of_ordinary hblanks hplain,
        Part.fits_of_ordinary (isOrdinary_label e.code)
          (lower_style (by decide)),
        List.forall_mem_nil _⟩

namespace Findings

/-- The entries of a file, in the order of its report. -/
def entries (f : Findings) : List Entry := f.ordered.map (Entry.of f.path)

/-- The lines for people of a file: a heading and the entries, if there are
any. -/
def items (f : Findings) : List Item :=
  match f.entries with
  | [] => []
  | es => .heading f.path :: es.map .finding

/-- The last line for people, from the entries and the number of files. -/
def totals (entries : List Entry) (files : Nat) : String :=
  if entries = [] then
    "OK: no problems found in " ++ toString files ++ " file(s)."
  else
    "\nFound " ++ toString (entries.countP fun e => e.severity == .error)
      ++ " error(s) and "
      ++ toString (entries.countP fun e => e.severity == .warning)
      ++ " warning(s) in " ++ toString files ++ " file(s)."

theorem humanLines_eq (f : Findings) :
    f.humanLines = f.items.map Item.line := by
  rw [humanLines, items, entries]
  cases f.ordered with
  | nil => rfl
  | cons d ds =>
      simp only [List.map_cons, List.map_map]
      rfl

/-- If every line can be printed, the report is made of the printed lines. -/
theorem human_of_printed {ε : Type} {printer : Printer ε} {all : List Findings}
    {lines : List Text} {last : Text}
    (hlines : List.Forall₂
      (fun item line => printer.printLine item.line = .ok line)
      (all.flatMap items) lines)
    (hlast : printer.printLine [{ text := (summary all).toList }] = .ok last) :
    human printer all =
      .ok (String.ofList ((lines ++ [last]).flatMap (· ++ ['\n']))) := by
  have hall : all.flatMap humanLines = (all.flatMap items).map Item.line := by
    rw [List.map_flatMap]
    exact congrArg (List.flatMap · all) (funext humanLines_eq)
  have hmapM : (all.flatMap humanLines).mapM printer.printLine = .ok lines := by
    rw [hall, mapM_eq_ok_iff, List.forall₂_map_left_iff]
    exact hlines
  rw [human, hmapM]
  simp only [bind, Except.bind, hlast]
  rfl

/-- The last line is a fixed text with numbers in it. -/
theorem summary_fixed (all : List Findings) : IsOrdinary (summary all).toList ∨
    ∃ before after, (summary all).toList = before ++ ':' :: after ∧
      IsOrdinary before ∧ IsOrdinary after := by
  have hfiles : IsOrdinary " file(s).".toList := isOrdinary_of_all (by decide)
  rw [summary]
  split
  · have htext : ("OK: no problems found in " ++
        (toString all.length ++ " file(s).")).toList = "OK".toList ++ ':' ::
          (" no problems found in ".toList ++
            ((toString all.length).toList ++ " file(s).".toList)) := by
      simp
    exact .inr ⟨_, _, htext, isOrdinary_of_all (by decide),
      (isOrdinary_of_all (by decide)).append
        ((isOrdinary_number _).append hfiles)⟩
  · simp only [String.toList_append]
    exact .inl ((((((isOrdinary_of_all (by decide)).append
      (isOrdinary_number _)).append (isOrdinary_of_all (by decide))).append
        (isOrdinary_number _)).append (isOrdinary_of_all (by decide))).append
          ((isOrdinary_number _).append hfiles))

theorem fits_summary (all : List Findings) :
    Part.Fits { text := (summary all).toList } := by
  rcases summary_fixed all with hfixed | ⟨before, after, htext, hbefore, hafter⟩
  · exact Part.fits_of_ordinary hfixed fun _ h => by cases h
  · rw [htext]
    exact Part.fits_of_colon hbefore hafter fun _ h => by cases h

/-- The report for people lists the items and closes with the last line. -/
theorem human_eq {ε : Type} {printer : Printer ε} (h : printer.PrintsEscaped)
    (all : List Findings) :
    human printer all = .ok (String.ofList
      (((all.flatMap items).map Item.text ++ [(summary all).toList]).flatMap
        (· ++ ['\n']))) := by
  have hlines : List.Forall₂
      (fun item line => printer.printLine item.line = .ok line)
      (all.flatMap items) ((all.flatMap items).map Item.text) := by
    rw [List.forall₂_map_right_iff, List.forall₂_same]
    intro item _
    rw [← item.flatMap_line]
    exact h item.line item.fits
  have hlast : printer.printLine [{ text := (summary all).toList }] =
      .ok (summary all).toList := by
    have hprints := h [{ text := (summary all).toList }]
      (List.forall_mem_singleton.mpr (fits_summary all))
    rwa [Printer.PrintsAsIs, List.flatMap_singleton] at hprints
  exact human_of_printed hlines hlast

theorem positionLe_iff {a b : Diagnostic} :
    a.positionLe b = true ↔ (Entry.of [] a).PositionLe (Entry.of [] b) := by
  simp [Diagnostic.positionLe, Entry.PositionLe, Entry.of]

theorem positionLe_trans (a b c : Diagnostic) (hab : a.positionLe b = true)
    (hbc : b.positionLe c = true) : a.positionLe c = true := by
  rw [positionLe_iff, Entry.PositionLe] at *
  omega

theorem positionLe_total (a b : Diagnostic) :
    (a.positionLe b || b.positionLe a) = true := by
  rw [Bool.or_eq_true, positionLe_iff, positionLe_iff, Entry.PositionLe,
    Entry.PositionLe]
  omega

theorem entries_perm (f : Findings) :
    f.entries.Perm (f.diagnostics.map (Entry.of f.path)) :=
  (List.mergeSort_perm f.diagnostics Diagnostic.positionLe).map _

theorem entries_pairwise (f : Findings) :
    f.entries.Pairwise Entry.PositionLe := by
  rw [entries, List.pairwise_map]
  refine (List.pairwise_mergeSort positionLe_trans positionLe_total
    f.diagnostics).imp ?_
  intro a b h
  exact positionLe_iff.mp h

/-- Entries at one place keep the order in which they were found. -/
theorem entries_stable (f : Findings) (line column : Nat) :
    f.entries.filter (Entry.isAt line column) =
      (f.diagnostics.map (Entry.of f.path)).filter
        (Entry.isAt line column) := by
  rw [entries, List.filter_map, List.filter_map]
  congr 1
  have hplace :
      (f.diagnostics.filter (Entry.isAt line column ∘ Entry.of f.path)).Pairwise
        (fun a b => a.positionLe b = true) := by
    refine List.pairwise_of_forall_mem_list fun a ha b hb => ?_
    have hat := (List.mem_filter.mp ha).2
    have hbt := (List.mem_filter.mp hb).2
    simp only [Function.comp_apply, Entry.isAt, Entry.of, Bool.and_eq_true,
      beq_iff_eq] at hat hbt
    simp only [positionLe_iff, Entry.PositionLe, Entry.of]
    omega
  have hsub := (List.sublist_mergeSort positionLe_trans positionLe_total hplace
    List.filter_sublist).filter (Entry.isAt line column ∘ Entry.of f.path)
  rw [List.filter_filter] at hsub
  simp only [Bool.and_self] at hsub
  refine (hsub.eq_of_length ?_).symm
  exact ((List.mergeSort_perm f.diagnostics Diagnostic.positionLe).filter
    _).length_eq.symm

theorem countP_entries (p : Severity → Bool) (all : List Findings) :
    (all.flatMap entries).countP (fun e => p e.severity) =
      (all.flatMap diagnostics).countP fun d => p d.severity := by
  induction all with
  | nil => rfl
  | cons f fs ih =>
      rw [List.flatMap_cons, List.flatMap_cons, List.countP_append,
        List.countP_append, ih, (entries_perm f).countP_eq, List.countP_map]
      rfl

theorem errors_eq (all : List Findings) :
    errors all =
      (all.flatMap entries).countP fun e => e.severity == .error := by
  rw [countP_entries (· == .error), List.countP_eq_length_filter]
  rfl

theorem warnings_eq (all : List Findings) :
    warnings all =
      (all.flatMap entries).countP fun e => e.severity == .warning := by
  rw [countP_entries (· == .warning), List.countP_eq_length_filter, warnings]
  congr 2
  funext d
  rw [Diagnostic.isError]
  cases d.severity <;> rfl

theorem entries_eq_nil_iff {entries : List Entry} :
    entries = [] ↔ (entries.countP fun e => e.severity == .error) = 0 ∧
      (entries.countP fun e => e.severity == .warning) = 0 := by
  constructor
  · intro heq
    subst heq
    exact ⟨rfl, rfl⟩
  · intro h
    obtain ⟨herrors, hwarnings⟩ := h
    rw [List.countP_eq_zero] at herrors hwarnings
    rw [List.eq_nil_iff_forall_not_mem]
    intro e he
    cases hseverity : e.severity with
    | error => exact herrors e he (by rw [hseverity]; rfl)
    | warning => exact hwarnings e he (by rw [hseverity]; rfl)

theorem summary_eq (all : List Findings) :
    summary all = totals (all.flatMap entries) all.length := by
  simp only [summary, totals, entries_eq_nil_iff, ← errors_eq, ← warnings_eq]
  split <;> simp only [String.append_assoc]

theorem plain_eq_self {t : Text} (h : '\x1b' ∉ t) : Terminal.plain t = t := by
  rw [Terminal.plain]
  induction t with
  | nil => rfl
  | cons c cs ih =>
      have hc : ¬ (c = '\x1b' ∧ 0 < Terminal.sequenceSize cs) :=
        fun hcolour => h (hcolour.1 ▸ List.mem_cons_self)
      rw [Terminal.dropColoursFrom, if_neg hc,
        ih fun hcs => h (List.mem_cons_of_mem c hcs)]

theorem console_eq (all : List Findings) :
    console all = String.ofList ((all.flatMap entries).flatMap fun e =>
      Terminal.plain e.consoleText ++ ['\n']) := by
  rw [console, List.flatMap_assoc]
  congr 2
  funext f
  rw [entries, List.flatMap_map]
  rfl

/-- An escape character in an entry's line comes from its file or its
message. -/
theorem plain_consoleText {e : Entry} (hfile : '\x1b' ∉ e.file)
    (hmessage : '\x1b' ∉ e.message.toList) :
    Terminal.plain e.consoleText = e.consoleText := by
  apply plain_eq_self
  have hnumber : ∀ n : Nat, '\x1b' ∉ Nat.toDigits 10 n := by
    intro n h
    rw [← Json.toList_toString] at h
    exact absurd (isDigit_of_mem_number h) (by decide)
  have hword : '\x1b' ∉ e.severity.word.toList := by cases e.severity <;> decide
  have hlabel : '\x1b' ∉ e.code.label.toList := by cases e.code <;> decide
  simp only [Entry.consoleText, String.toList_append, List.mem_append, not_or]
  simp [hfile, hmessage, hnumber, hword, hlabel]

/-- The fields of a finding. -/
def fields (path : Text) (d : Diagnostic) : List (String × Json.Value) :=
  [("file", .text path), ("line", .number (d.span.line + 1)),
    ("column", .number (d.span.start + 1)),
    ("end_column", .number (d.span.stop + 1)),
    ("severity", .text d.severity.word.toList),
    ("code", .text d.code.label.toList), ("message", .text d.message.toList)]

theorem plain_fields (path : Text) (d : Diagnostic) :
    Json.Plain (fields path d) := by
  refine ⟨List.cons_ne_nil _ _, fun field hfield => ?_⟩
  have hnames : ∀ name ∈ ["file", "line", "column", "end_column", "severity",
      "code", "message"], name.toList.flatMap Text.jsonChar = name.toList := by
    decide
  exact hnames field.1 (List.mem_map_of_mem (f := Prod.fst) hfield)

theorem ofObject?_fields (path : Text) (d : Diagnostic) :
    Entry.ofObject? (Json.objectOf (fields path d)) =
      some (Entry.of path d) := by
  have hseverity : Entry.severityOf? d.severity.word.toList =
      some d.severity := by
    cases d.severity <;> decide
  have hcode : Code.ofLabel? d.code.label = some d.code := by
    cases d.code <;> decide
  simp [Entry.ofObject?, Json.objectOf, fields, List.lookup_cons, hseverity,
    hcode, Entry.of]

theorem json_eq (all : List Findings) :
    (json all).toList =
      Json.arrayText (all.flatMap fun f => f.ordered.map (fields f.path)) := by
  have hobjects : (all.flatMap fun f => f.ordered.map (jsonObject f.path)) =
      (all.flatMap fun f => f.ordered.map (fields f.path)).map
        Json.objectText := by
    rw [List.map_flatMap]
    congr 1
    funext f
    rw [List.map_map]
    rfl
  rw [json, hobjects]
  cases all.flatMap fun f => f.ordered.map (fields f.path) with
  | nil => rfl
  | cons object objects => simp [Json.arrayText]

theorem read_json (all : List Findings) :
    (Json.read (json all).toList).bind (List.mapM Entry.ofObject?) =
      some (all.flatMap entries) := by
  have hplain : ∀ object ∈ all.flatMap fun f => f.ordered.map (fields f.path),
      Json.Plain object := by
    intro object hobject
    obtain ⟨f, -, hobject⟩ := List.mem_flatMap.mp hobject
    obtain ⟨d, -, rfl⟩ := List.mem_map.mp hobject
    exact plain_fields f.path d
  let found := all.flatMap fun f => f.ordered.map fun d => (f.path, d)
  have hfields : (all.flatMap fun f => f.ordered.map (fields f.path)) =
      found.map fun x => fields x.1 x.2 := by
    simp only [found, List.map_flatMap, List.map_map]
    rfl
  have hentries : all.flatMap entries =
      found.map fun x => Entry.of x.1 x.2 := by
    simp only [found, List.map_flatMap, List.map_map]
    rfl
  rw [json_eq, Json.read_arrayText hplain, Option.bind_some, hfields, hentries,
    List.map_map, List.mapM_map]
  have hread : (Entry.ofObject? ∘ Json.objectOf ∘
      fun x : Text × Diagnostic => fields x.1 x.2) =
        fun x => pure (Entry.of x.1 x.2) := by
    funext x
    exact ofObject?_fields x.1 x.2
  rw [hread, List.mapM_pure]
  rfl

end Findings

/-- Takes tags and backslashes out of marked-up text; inside a tag nothing is
shown. -/
def stripMarkup : Bool → Text → Text
  | _, [] => []
  | true, c :: cs => stripMarkup (c != ']') cs
  | false, '\\' :: c :: cs => c :: stripMarkup false cs
  | false, c :: cs =>
    if c = '[' then stripMarkup true cs else c :: stripMarkup false cs

/-- A printer that knows tags and nothing else. -/
def Printer.bare : Printer Empty where
  escape := fun t => t.flatMap fun c =>
    if c = '[' ∨ c = '\\' then ['\\', c] else [c]
  print := fun t => .ok (stripMarkup false t)

theorem stripMarkup_plain {t : Text} (h : ∀ c ∈ t, c ≠ '[' ∧ c ≠ '\\')
    (rest : Text) :
    stripMarkup false (t ++ rest) = t ++ stripMarkup false rest := by
  induction t with
  | nil => rfl
  | cons c cs ih =>
      obtain ⟨hbracket, hslash⟩ := h c List.mem_cons_self
      have hcs := ih fun d hd => h d (List.mem_cons_of_mem c hd)
      rw [List.cons_append, stripMarkup, if_neg hbracket, hcs, List.cons_append]
      intro d ds hc
      exact absurd hc hslash

theorem stripMarkup_escape (t rest : Text) :
    stripMarkup false (Printer.bare.escape t ++ rest) =
      t ++ stripMarkup false rest := by
  induction t with
  | nil => rfl
  | cons c cs ih =>
      have hescape : Printer.bare.escape (c :: cs) =
          (if c = '[' ∨ c = '\\' then ['\\', c] else [c]) ++
            Printer.bare.escape cs := by
        simp only [Printer.bare, List.flatMap_cons]
      rw [hescape, List.append_assoc]
      split
      · exact congrArg (c :: ·) ih
      · next hc =>
          rw [not_or] at hc
          rw [stripMarkup_plain (List.forall_mem_singleton.mpr hc), ih]
          rfl

theorem stripMarkup_tag {name : Text} (h : ']' ∉ name) (rest : Text) :
    stripMarkup true (name ++ ']' :: rest) = stripMarkup false rest := by
  induction name with
  | nil => rfl
  | cons c cs ih =>
      rw [List.mem_cons, not_or] at h
      rw [List.cons_append, stripMarkup, bne_iff_ne.mpr (Ne.symm h.1), ih h.2]

theorem stripMarkup_part {part : Part} (h : part.Fits) (rest : Text) :
    stripMarkup false (part.markup Printer.bare.escape ++ rest) =
      part.text ++ stripMarkup false rest := by
  have hinner : ∀ rest, stripMarkup false
      ((if part.foreign then Printer.bare.escape part.text else part.text) ++
          rest) =
        part.text ++ stripMarkup false rest := by
    intro rest
    split
    · exact stripMarkup_escape part.text rest
    · next hforeign =>
        exact stripMarkup_plain (h.text.resolve_left hforeign).1 rest
  rw [Part.markup]
  cases hstyle : part.style with
  | none => exact hinner rest
  | some style =>
      have hclosed : ']' ∉ style.toList := by
        intro hmem
        rcases h.style style hstyle ']' hmem with hlower | hblank
        · exact absurd hlower (by decide)
        · exact absurd hblank (by decide)
      have hend : ']' ∉ '/' :: style.toList := by
        rw [List.mem_cons, not_or]
        exact ⟨by decide, hclosed⟩
      have hopen : ∀ rest,
          stripMarkup false ('[' :: (style.toList ++ ']' :: rest)) =
            stripMarkup false rest :=
        stripMarkup_tag hclosed
      have hclose : ∀ rest, stripMarkup false
          ('[' :: ('/' :: style.toList ++ ']' :: rest)) =
            stripMarkup false rest :=
        stripMarkup_tag hend
      have htext : ∀ inner : Text, ("[" ++ style ++ "]").toList ++ inner ++
          ("[/" ++ style ++ "]").toList ++ rest =
            '[' :: (style.toList ++ ']' :: (inner ++
              '[' :: ('/' :: style.toList ++ ']' :: rest))) := by
        intro inner
        simp
      simp only [htext, hopen, hinner, hclose]

theorem Printer.bare_printsEscaped : Printer.bare.PrintsEscaped := by
  intro line hline
  refine congrArg Except.ok ?_
  induction line with
  | nil => rfl
  | cons part parts ih =>
      rw [List.forall_mem_cons] at hline
      rw [List.flatMap_cons, List.flatMap_cons, stripMarkup_part hline.1,
        ih hline.2]

/-- A file with brackets in its name and in a message, and two findings at one
place. -/
def bracketFile : Findings :=
  ⟨"a[b].lark".toList, [.unused 2 0 "B".toList, .invalidHead 1 0 "X[b]".toList,
    .undefined 1 0 "X".toList .terminal]⟩

theorem entries_bracketFile : bracketFile.entries =
    [⟨"a[b].lark".toList, 2, 1, .error, .invalidDefinitionName,
        "Invalid definition name 'X[b]'"⟩,
      ⟨"a[b].lark".toList, 2, 1, .error, .undefinedTerminal,
        "Undefined terminal 'X'"⟩,
      ⟨"a[b].lark".toList, 3, 1, .warning, .unusedSymbol,
        "Unused grammar symbol 'B'"⟩] := by
  have hordered : bracketFile.ordered = [.invalidHead 1 0 "X[b]".toList,
      .undefined 1 0 "X".toList .terminal, .unused 2 0 "B".toList] := by
    change List.mergeSort [.unused 2 0 "B".toList,
      .invalidHead 1 0 "X[b]".toList,
      .undefined 1 0 "X".toList .terminal] Diagnostic.positionLe = _
    simp [List.mergeSort, Diagnostic.positionLe, Diagnostic.unused,
      Diagnostic.invalidHead, Diagnostic.undefined]
  rw [Findings.entries, hordered]
  decide +kernel

end GrammarLint
