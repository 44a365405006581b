import GrammarLint.Command.Run
import GrammarLint.Proofs.EscapedText
import GrammarLint.Proofs.Reports

/-!
# Reports on a terminal

The report for people goes to a printer that knows more than tags. It puts
emoji for their names, takes a backslash at the end of a text for an escape of
the tag behind it, and drops control characters, so it does not print everything
that was escaped as it is.

No line makes it fail, though (`terminal_prints`), and there is a test for the
text from outside which says that the line is shown as it is meant
(`printsAsIs_of_untouched`). The last line of a report always passes: there is
nothing from outside in it.
-/

namespace GrammarLint

open Markup

/-- Printing changes nothing in the text: rendering finds no escape and no emoji
in it, no backslash at its end reaches for the tag behind it, and layout has
nothing to drop or to fill. -/
structure Untouched (t : Text) : Prop where
  inert : Inert t
  unslashed : t.getLast? ≠ some '\\'
  laidOut : ∀ c ∈ t, c ≠ '\t' ∧ Terminal.isDropped c = false

/-- The part of the line that comes from outside. -/
def Item.given : Item → Text
  | heading file => file
  | finding entry => entry.message.toList

theorem printLine_terminal {line : List Part} {shown : Text}
    (h : render (line.flatMap (Part.markup escape)) = .ok shown) :
    Printer.terminal.printLine line = .ok (Terminal.layOut shown) := by
  change (render (line.flatMap (Part.markup escape))).map Terminal.layOut = _
  rw [h]
  rfl

theorem plain_append {a b : List Piece} (ha : ∀ piece ∈ a, piece.IsPlain)
    (hb : ∀ piece ∈ b, piece.IsPlain) : ∀ piece ∈ a ++ b, piece.IsPlain :=
  fun piece h => (List.mem_append.mp h).elim (ha piece) (hb piece)

/-- Between two tags an escaped text is plain. Behind an odd number of
backslashes the closing tag is plain text as well. -/
theorem pieces_enclosed {name : Text} (hopen : IsInside name)
    (hclose : IsInside ('/' :: name)) {t line : Text}
    (hline : line = '[' :: (name ++ ']' ::
      (escape t ++ '[' :: ('/' :: name ++ [']'])))) :
    ∃ inner left, (∀ piece ∈ inner, Piece.IsPlain piece) ∧
      pieces line = .tag name :: inner ++
        [if left % 2 = 1 then .plain ('[' :: '/' :: name ++ [']'])
          else .tag ('/' :: name)] ∧
      (Inert t → t.getLast? ≠ some '\\' →
        left = 0 ∧ inner.flatMap Piece.text = t) := by
  obtain ⟨middle, after, left, hmiddle⟩ := pieces_escape t []
  refine ⟨middle ++ plainPiece after.reverse ++
      plainPiece (List.replicate (left / 2) '\\'), left,
    plain_append (plain_append hmiddle.plain (isPlain_plainPiece _))
      (isPlain_plainPiece _), ?_, fun hinert hlast => ?_⟩
  · have hbracket : ∀ rest, firstBracket ('[' :: rest) = some '[' :=
      fun _ => rfl
    rw [hline, pieces, piecesFrom_tag hopen,
      hmiddle.read _ (by rw [hbracket]; decide), piecesFrom_tag hclose,
      piecesFrom_nil, tagPieces_zero, List.reverse_nil, plainPiece_nil,
      tagPieces]
    simp only [List.nil_append, List.append_nil, List.append_assoc,
      List.cons_append]
  · obtain ⟨hleft, hkept⟩ := hmiddle.kept hinert hlast
    rw [hleft, List.flatMap_append, List.flatMap_append,
      flatMap_text_plainPiece, flatMap_text_plainPiece, hkept]
    exact ⟨rfl, List.append_nil t⟩

/-- A heading is rendered, and shows the path unless rendering changes it. -/
theorem render_heading (path : Text) :
    ∃ shown, render ((Findings.heading path).flatMap (Part.markup escape)) =
        .ok shown ∧
      (Inert path → path.getLast? ≠ some '\\' → shown = path) := by
  have hwritten : (Findings.heading path).flatMap (Part.markup escape) =
      '[' :: ("bold".toList ++ ']' ::
        (escape path ++ '[' :: ('/' :: "bold".toList ++ [']']))) := by
    simp [Findings.heading, Part.markup]
  generalize (Findings.heading path).flatMap (Part.markup escape) =
    line at hwritten
  have hopen : '[' ∈ line := hwritten ▸ List.mem_cons_self
  have hbold : "bold" ∈ reportStyles := by decide
  obtain ⟨inner, left, hplain, hpieces, hkept⟩ :=
    pieces_enclosed (by decide) (by decide) hwritten
  by_cases hodd : left % 2 = 1
  · rw [if_pos hodd] at hpieces
    have hall : ∀ piece ∈ inner ++
        [.plain ('[' :: '/' :: "bold".toList ++ [']'])], piece.IsPlain :=
      plain_append hplain (List.forall_mem_singleton.mpr trivial)
    refine ⟨_, (shows_plain hall).render_unclosed hbold hopen hpieces,
      fun hinert hlast => ?_⟩
    rw [(hkept hinert hlast).1] at hodd
    cases hodd
  · rw [if_neg hodd] at hpieces
    have hshows : Shows (pieces line) (inner.flatMap Piece.shown) := by
      rw [hpieces]
      exact (shows_plain hplain).styled hbold
    refine ⟨_, hshows.render hopen, fun hinert hlast => ?_⟩
    have htext := (hkept hinert hlast).2
    rw [flatMap_shown hplain (htext.symm ▸ hinert), htext]

/-! ## Fixed text

The fixed parts of a line hold nothing that rendering or layout would change,
apart from the colon between line and column, and a number behind a colon is not
the name of an emoji. -/

theorem code?_eq_none {t : Text} (h : ':' ∉ t) : Emoji.code? t = none := by
  induction t with
  | nil => rfl
  | cons c cs ih =>
      have hmem : ∀ word : Text, ':' ∈ word → ¬ word <+: c :: cs :=
        fun word hword hstart => h (hstart.subset hword)
      exact code?_cons_eq_none.mpr ⟨fun hc => h (hc ▸ List.mem_cons_self),
        hmem _ (by decide), hmem _ (by decide),
        .inr (ih fun hc => h (List.mem_cons_of_mem c hc))⟩

theorem IsOrdinary.inert_append {a b : Text} (ha : IsOrdinary a)
    (hb : Inert b) : Inert (a ++ b) := by
  induction a with
  | nil => exact hb
  | cons c cs ih =>
      have hc := ha c List.mem_cons_self
      exact ⟨fun hescape => hc (hescape.1 ▸ by decide),
        fun hcolon => absurd (hcolon ▸ by decide) hc,
        ih fun d hd => ha d (List.mem_cons_of_mem c hd)⟩

theorem IsOrdinary.inert {t : Text} (h : IsOrdinary t) : Inert t :=
  List.append_nil t ▸ h.inert_append trivial

theorem inert_colon {before after : Text} (hbefore : IsOrdinary before)
    (hafter : IsOrdinary after) : Inert (before ++ ':' :: after) := by
  have hcode : Emoji.code? after = none :=
    code?_eq_none fun h => hafter.ne (by decide) ':' h rfl
  exact hbefore.inert_append ⟨by simp, fun _ => hcode, hafter.inert⟩

theorem laidOut_of_ordinary {t : Text} (h : IsOrdinary t) :
    ∀ c ∈ t, c ≠ '\t' ∧ Terminal.isDropped c = false := by
  intro c hc
  refine ⟨h.ne (by decide) c hc, ?_⟩
  have hmark := h c hc
  simp only [marks, List.mem_cons, not_or] at hmark
  simp [Terminal.isDropped, hmark]

theorem laidOut_colon {before after : Text} (hbefore : IsOrdinary before)
    (hafter : IsOrdinary after) :
    ∀ c ∈ before ++ ':' :: after, c ≠ '\t' ∧ Terminal.isDropped c = false := by
  rw [List.forall_mem_append, List.forall_mem_cons]
  exact ⟨laidOut_of_ordinary hbefore, by decide, laidOut_of_ordinary hafter⟩

theorem splitOn_of_not_mem {c : Char} {t : Text} (h : c ∉ t) :
    Text.splitOn c t = [t] := by
  induction t with
  | nil => rfl
  | cons d ds ih =>
      have hd : d ≠ c := fun heq => h (heq ▸ List.mem_cons_self)
      rw [Text.splitOn, if_neg hd, ih fun hc => h (List.mem_cons_of_mem d hc)]

theorem splitOn_ne_nil (c : Char) (t : Text) : Text.splitOn c t ≠ [] := by
  cases t with
  | nil => exact List.cons_ne_nil _ _
  | cons d ds =>
      rw [Text.splitOn]
      split
      · exact List.cons_ne_nil _ _
      · split <;> exact List.cons_ne_nil _ _

theorem mem_of_mem_splitOn {c d : Char} {t part : Text}
    (h : part ∈ Text.splitOn c t) (hd : d ∈ part) : d ∈ t := by
  induction t generalizing part with
  | nil => simp_all [Text.splitOn]
  | cons e es ih =>
      rw [Text.splitOn] at h
      split at h
      · rcases List.mem_cons.mp h with rfl | h
        · cases hd
        · exact List.mem_cons_of_mem e (ih h hd)
      · cases hparts : Text.splitOn c es with
        | nil => exact absurd hparts (splitOn_ne_nil c es)
        | cons first parts =>
            rw [hparts] at h ih
            rcases List.mem_cons.mp h with rfl | h
            · rcases List.mem_cons.mp hd with rfl | hd
              · exact List.mem_cons_self
              · exact List.mem_cons_of_mem e (ih List.mem_cons_self hd)
            · exact List.mem_cons_of_mem e
                (ih (List.mem_cons_of_mem first h) hd)

theorem joinWith_splitOn (c : Char) (t : Text) :
    Text.joinWith [c] (Text.splitOn c t) = t := by
  induction t with
  | nil => rfl
  | cons d ds ih =>
      rw [Text.splitOn]
      cases hparts : Text.splitOn c ds with
      | nil => exact absurd hparts (splitOn_ne_nil c ds)
      | cons first parts =>
          rw [hparts] at ih
          split
          · next hd =>
              rw [Text.joinWith, ih, hd]
              · rfl
              · exact List.cons_ne_nil first parts
          · cases parts with
            | nil => exact congrArg (d :: ·) ih
            | cons second parts => exact congrArg (d :: ·) ih

/-- Layout drops some control characters and fills up tabs, and that is all. -/
theorem layOut_eq_self {t : Text}
    (h : ∀ c ∈ t, c ≠ '\t' ∧ Terminal.isDropped c = false) :
    Terminal.layOut t = t := by
  have hkept : t.filter (!Terminal.isDropped ·) = t :=
    List.filter_eq_self.mpr fun c hc => by rw [(h c hc).2]; rfl
  have hfilled : (Text.splitOn '\n' t).map Terminal.fillTabs =
      Text.splitOn '\n' t := by
    refine (List.map_congr_left fun part hpart => ?_).trans (List.map_id _)
    have htab : '\t' ∉ part := fun htab =>
      (h '\t' (mem_of_mem_splitOn hpart htab)).1 rfl
    rw [Terminal.fillTabs, splitOn_of_not_mem htab]
    rfl
  rw [Terminal.layOut, hkept, hfilled, joinWith_splitOn]

theorem shown_plainPiece {t : Text} (h : Inert t) :
    (plainPiece t).flatMap Piece.shown = t := by
  rw [flatMap_shown (isPlain_plainPiece t)
    ((flatMap_text_plainPiece t).symm ▸ h),
    flatMap_text_plainPiece]

/-- What stands in front of the position's colon. -/
def positionStart (line : Nat) : Text := ' ' :: ' ' :: (toString line).toList

/-- What stands behind the position's colon. -/
def positionEnd (column : Nat) : Text := (toString column).toList ++ [' ', ' ']

theorem isOrdinary_positionStart (line : Nat) :
    IsOrdinary (positionStart line) :=
  (isOrdinary_of_all (t := [' ', ' ']) (by decide)).append
    (isOrdinary_number line)

theorem isOrdinary_positionEnd (column : Nat) :
    IsOrdinary (positionEnd column) :=
  (isOrdinary_number column).append (isOrdinary_of_all (by decide))

/-- The position in front of a line for people. -/
def positionText (line column : Nat) : Text :=
  positionStart line ++ ':' :: positionEnd column

theorem inert_positionText (line column : Nat) :
    Inert (positionText line column) :=
  inert_colon (isOrdinary_positionStart line) (isOrdinary_positionEnd column)

theorem bare_positionText (line column : Nat) :
    ∀ c ∈ positionText line column, c ≠ '[' ∧ c ≠ '\\' := by
  rw [positionText, List.forall_mem_append, List.forall_mem_cons]
  exact ⟨(isOrdinary_positionStart line).bare, by decide,
    (isOrdinary_positionEnd column).bare⟩

/-- The message is the only part of a finding's line whose pieces depend on it.
The blanks behind it keep its last backslashes away from the tag of the code. -/
theorem pieces_finding {position style word message dim label line : Text}
    (hposition : ∀ c ∈ position, c ≠ '[' ∧ c ≠ '\\') (hstyle : IsInside style)
    (hword : ∀ c ∈ word, c ≠ '[' ∧ c ≠ '\\') (hclose : IsInside ('/' :: style))
    (hdim : IsInside dim) (hlabel : ∀ c ∈ label, c ≠ '[' ∧ c ≠ '\\')
    (hclosedim : IsInside ('/' :: dim))
    (hline : line = position ++ '[' :: (style ++ ']' :: (word ++
      '[' :: ('/' :: style ++ ']' :: (' ' :: ' ' :: (escape message ++
        ' ' :: ' ' :: '[' :: (dim ++ ']' :: (label ++
          '[' :: ('/' :: dim ++ [']']))))))))) :
    ∃ inner, (∀ piece ∈ inner, Piece.IsPlain piece) ∧
      pieces line = plainPiece position ++
        (.tag style :: plainPiece word ++ [.tag ('/' :: style)]) ++ inner ++
        (.tag dim :: plainPiece label ++ [.tag ('/' :: dim)]) ∧
      (Inert message → message.getLast? ≠ some '\\' →
        inner.flatMap Piece.text = ' ' :: ' ' :: (message ++ [' ', ' '])) := by
  obtain ⟨middle, after, left, hmiddle⟩ := pieces_escape message [' ', ' ']
  refine ⟨middle ++ plainPiece
      (after.reverse ++ List.replicate left '\\' ++ [' ', ' ']),
    plain_append hmiddle.plain (isPlain_plainPiece _), ?_,
    fun hinert hlast => ?_⟩
  · have hbracket : ∀ rest, firstBracket (' ' :: ' ' :: '[' :: rest) =
        some '[' :=
      fun _ => rfl
    have hblank : ∀ cs, IsOther ' ' cs := fun cs => ⟨by decide, rfl⟩
    rw [hline, pieces, piecesFrom_text hposition, piecesFrom_tag hstyle,
      piecesFrom_text hword, piecesFrom_tag hclose, piecesFrom_other (hblank _),
      piecesFrom_other (hblank _)]
    simp only [List.replicate_zero, List.nil_append, List.cons_append]
    rw [hmiddle.read _ (by rw [hbracket]; decide), piecesFrom_other (hblank _),
      piecesFrom_other (hblank _), piecesFrom_tag hdim, piecesFrom_text hlabel]
    rw [← List.cons_append, piecesFrom_tag hclosedim, piecesFrom_nil]
    simp only [tagPieces_zero]
    simp
  · obtain ⟨hleft, hkept⟩ := hmiddle.kept hinert hlast
    rw [hleft, List.flatMap_append, flatMap_text_plainPiece,
      List.replicate_zero, List.append_nil, ← List.append_assoc, hkept]
    rfl

theorem styleOf_mem (severity : Severity) :
    Findings.styleOf severity ∈ reportStyles := by
  cases severity <;> decide

theorem markup_finding (e : Entry) :
    (Item.finding e).line.flatMap (Part.markup escape) =
      positionText e.line e.column ++ '[' ::
      ((Findings.styleOf e.severity).toList ++
      ']' :: (e.severity.word.toList ++ '[' ::
      ('/' :: (Findings.styleOf e.severity).toList ++ ']' :: (' ' :: ' ' ::
      (escape e.message.toList ++ ' ' :: ' ' :: '[' :: ("dim".toList ++ ']' ::
      (e.code.label.toList ++ '[' :: ('/' :: "dim".toList ++ [']'])))))))) := by
  simp [Item.line, Part.markup, positionText, positionStart, positionEnd]

/-- A finding is rendered, and shows its entry unless rendering changes the
message. -/
theorem render_finding (e : Entry) :
    ∃ shown, render ((Item.finding e).line.flatMap (Part.markup escape)) =
        .ok shown ∧
      (Inert e.message.toList → e.message.toList.getLast? ≠ some '\\' →
        shown = e.humanText) := by
  have hstyle := styleOf_mem e.severity
  have hinside : ∀ name ∈ reportStyles,
      IsInside name.toList ∧ IsInside ('/' :: name.toList) := by
    decide
  have hwritten := markup_finding e
  generalize (Item.finding e).line.flatMap (Part.markup escape) =
    line at hwritten
  obtain ⟨inner, hplain, hpieces, hkept⟩ := pieces_finding
    (bare_positionText e.line e.column) (hinside _ hstyle).1
    (isOrdinary_word e.severity).bare (hinside _ hstyle).2
    (hinside "dim" (by decide)).1 (isOrdinary_label e.code).bare
    (hinside "dim" (by decide)).2 hwritten
  have hopen : '[' ∈ line := by
    rw [hwritten]
    exact List.mem_append_right _ List.mem_cons_self
  have hshows : Shows (pieces line) (positionText e.line e.column ++
      e.severity.word.toList ++ inner.flatMap Piece.shown ++
        e.code.label.toList) := by
    rw [hpieces]
    have hposition :=
      shows_plain (isPlain_plainPiece (positionText e.line e.column))
    have hword :=
      (shows_plain (isPlain_plainPiece e.severity.word.toList)).styled hstyle
    have hdim : "dim" ∈ reportStyles := by decide
    have hlabel :=
      (shows_plain (isPlain_plainPiece e.code.label.toList)).styled hdim
    rw [shown_plainPiece (inert_positionText e.line e.column)] at hposition
    rw [shown_plainPiece (isOrdinary_word e.severity).inert] at hword
    rw [shown_plainPiece (isOrdinary_label e.code).inert] at hlabel
    exact ((hposition.append hword).append (shows_plain hplain)).append hlabel
  refine ⟨_, hshows.render hopen, fun hinert hlast => ?_⟩
  have htext := hkept hinert hlast
  have hpadded : Inert (' ' :: ' ' :: (e.message.toList ++ [' ', ' '])) :=
    ⟨by simp, by simp, by simp, by simp,
      hinert.append_blank (isOrdinary_of_all (by decide)).inert⟩
  rw [flatMap_shown hplain (htext.symm ▸ hpadded), htext]
  simp [Entry.humanText, positionText, positionStart, positionEnd]

theorem laidOut_humanText {e : Entry}
    (h : ∀ c ∈ e.message.toList, c ≠ '\t' ∧ Terminal.isDropped c = false) :
    ∀ c ∈ e.humanText, c ≠ '\t' ∧ Terminal.isDropped c = false := by
  have hparts : e.humanText = positionText e.line e.column ++
      (e.severity.word.toList ++ ([' ', ' '] ++ (e.message.toList ++
        ([' ', ' '] ++ e.code.label.toList)))) := by
    simp [Entry.humanText, positionText, positionStart, positionEnd]
  have hblanks :=
    laidOut_of_ordinary (t := [' ', ' ']) (isOrdinary_of_all (by decide))
  rw [hparts, positionText]
  simp only [List.forall_mem_append]
  exact ⟨List.forall_mem_append.mp
    (laidOut_colon (isOrdinary_positionStart e.line)
      (isOrdinary_positionEnd e.column)),
    laidOut_of_ordinary (isOrdinary_word e.severity), hblanks, h, hblanks,
    laidOut_of_ordinary (isOrdinary_label e.code)⟩

theorem render_item (item : Item) :
    ∃ shown, render (item.line.flatMap (Part.markup escape)) = .ok shown ∧
      (Untouched item.given → Terminal.layOut shown = item.text) := by
  cases item with
  | heading file =>
      obtain ⟨shown, hrender, hshown⟩ := render_heading file
      refine ⟨shown, hrender, fun h => ?_⟩
      rw [hshown h.inert h.unslashed]
      exact layOut_eq_self h.laidOut
  | finding entry =>
      obtain ⟨shown, hrender, hshown⟩ := render_finding entry
      refine ⟨shown, hrender, fun h => ?_⟩
      rw [hshown h.inert h.unslashed]
      exact layOut_eq_self (laidOut_humanText h.laidOut)

/-- No line of a report makes the printer fail. -/
theorem terminal_prints (item : Item) :
    ∃ shown, Printer.terminal.printLine item.line = .ok shown := by
  obtain ⟨shown, hrender, -⟩ := render_item item
  exact ⟨_, printLine_terminal hrender⟩

theorem printsAsIs_of_untouched {item : Item} (h : Untouched item.given) :
    Printer.terminal.PrintsAsIs item.line := by
  obtain ⟨shown, hrender, hshown⟩ := render_item item
  rw [Printer.PrintsAsIs, item.flatMap_line,
    printLine_terminal hrender, hshown h]

namespace Findings

theorem terminal_prints_summary (all : List Findings) :
    Printer.terminal.PrintsAsIs [{ text := (summary all).toList }] := by
  have hmarkup :
      List.flatMap (Part.markup escape) [{ text := (summary all).toList }] =
        (summary all).toList := List.append_nil _
  obtain ⟨hopen, hinert, hlaid⟩ : '[' ∉ (summary all).toList ∧
      Inert (summary all).toList ∧
      ∀ c ∈ (summary all).toList, c ≠ '\t' ∧ Terminal.isDropped c = false := by
    rcases summary_fixed all with hfixed | ⟨before, after, htext,
      hbefore, hafter⟩
    · exact ⟨fun h => (hfixed.bare _ h).1 rfl, hfixed.inert,
        laidOut_of_ordinary hfixed⟩
    · rw [htext]
      refine ⟨fun h => ?_, inert_colon hbefore hafter,
        laidOut_colon hbefore hafter⟩
      rw [List.mem_append, List.mem_cons] at h
      rcases h with h | h | h
      · exact (hbefore.bare _ h).1 rfl
      · cases h
      · exact (hafter.bare _ h).1 rfl
  have hrender : render (List.flatMap (Part.markup escape)
      [{ text := (summary all).toList }]) = .ok (summary all).toList := by
    rw [hmarkup, render, if_neg (fun h => hopen (List.elem_iff.mp h)),
      hinert.replace]
  rw [Printer.PrintsAsIs, printLine_terminal hrender, layOut_eq_self hlaid,
    List.flatMap_singleton]

theorem exists_forall₂ {α β : Type} {R : α → β → Prop} {l : List α}
    (h : ∀ a ∈ l, ∃ b, R a b) : ∃ bs, List.Forall₂ R l bs := by
  induction l with
  | nil => exact ⟨[], .nil⟩
  | cons a as ih =>
      obtain ⟨b, hb⟩ := h a List.mem_cons_self
      obtain ⟨bs, hbs⟩ := ih fun other hother =>
        h other (List.mem_cons_of_mem a hother)
      exact ⟨b :: bs, .cons hb hbs⟩

/-- On a terminal a report never fails. It has a line for every item, which is
the item's own wherever the printer shows it so, and closes with the totals. -/
theorem human_terminal (all : List Findings) :
    ∃ lines, human .terminal all = .ok (String.ofList
        ((lines ++ [(summary all).toList]).flatMap (· ++ ['\n']))) ∧
      List.Forall₂ (fun item line => Printer.terminal.PrintsAsIs item.line →
        line = item.text) (all.flatMap items) lines := by
  obtain ⟨lines, hlines⟩ :=
    exists_forall₂ fun item (_ : item ∈ all.flatMap items) =>
      terminal_prints item
  have hlast := terminal_prints_summary all
  rw [Printer.PrintsAsIs, List.flatMap_singleton] at hlast
  refine ⟨lines, human_of_printed hlines hlast,
    hlines.imp fun item line h has => ?_⟩
  rw [Printer.PrintsAsIs, h, item.flatMap_line] at has
  exact Except.ok.inj has

end Findings

end GrammarLint
