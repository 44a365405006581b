import GrammarLint.Proofs.FileText
import Mathlib.Data.List.Chain

/-!
# Lines and the breaks behind them

A text is written by putting a break behind every line, any of the three, and
possibly one more line without a break. Cutting the text into lines undoes
this, with one exception: a line that ends in a carriage return, followed by
an empty line that ends in a line feed, puts the two characters side by side,
and they are read as one break.

Everything rests on one question, whether a break still ends where it was
written when more text follows (`Break.EndsBefore`). If it does, `lines`
takes off exactly the line in front of it (`lines_ended`); if it does not,
one line is lost (`length_lines_merged`). Over a whole list of lines the
question is asked at every break, and that is the condition that no two
neighbours merge (`keptApart_cons`).

In the other direction a text is taken apart at its first break
(`unbroken_or_ended`), and the choice of breaks is read off on the way.
-/

namespace GrammarLint.Text

/-- The text stands on one line: it has no carriage return and no line feed. -/
def Unbroken (t : Text) : Prop := '\r' ∉ t ∧ '\n' ∉ t

instance instDecidableUnbroken (t : Text) : Decidable (Unbroken t) :=
  inferInstanceAs (Decidable (_ ∧ _))

theorem unbroken_nil : Unbroken [] := ⟨List.not_mem_nil, List.not_mem_nil⟩

theorem unbroken_cons {c : Char} {cs : Text} :
    Unbroken (c :: cs) ↔ (c ≠ '\r' ∧ c ≠ '\n') ∧ Unbroken cs := by
  simp only [Unbroken, List.mem_cons, not_or, ne_comm (a := c)]
  tauto

theorem Unbroken.head?_ne {t : Text} (h : Unbroken t) : t.head? ≠ some '\n' :=
  fun hhead => h.2 (List.mem_of_head? hhead)

/-- What stands in front of a text without a break in between goes into
the first of its lines. -/
theorem lines_append {front text first : Text} {rest : List Text}
    (hfront : Unbroken front) (h : lines text = first :: rest) :
    lines (front ++ text) = (front ++ first) :: rest := by
  induction front with
  | nil => exact h
  | cons c cs ih =>
      obtain ⟨⟨hreturn, hfeed⟩, hcs⟩ := unbroken_cons.mp hfront
      rw [List.cons_append, lines_cons hreturn hfeed, ih hcs]
      rfl

/-- A text without a break is its only line, unless it is empty and has none. -/
theorem lines_unbroken {text : Text} (h : Unbroken text) (hne : text ≠ []) :
    lines text = [text] := by
  induction text with
  | nil => exact absurd rfl hne
  | cons c cs ih =>
      obtain ⟨⟨hreturn, hfeed⟩, hcs⟩ := unbroken_cons.mp h
      rw [lines_cons hreturn hfeed]
      cases cs with
      | nil => rfl
      | cons d ds => rw [ih hcs (List.cons_ne_nil d ds)]; rfl

/-- What can end a line. -/
inductive Break where
  | crlf
  | cr
  | lf
  deriving DecidableEq, Repr

namespace Break

def text : Break → Text
  | crlf => ['\r', '\n']
  | cr => ['\r']
  | lf => ['\n']

/-- With this text behind it the break is read as it was written. Only a
carriage return can go on, and only with a line feed. -/
def EndsBefore (b : Break) (rest : Text) : Prop :=
  b = cr → rest.head? ≠ some '\n'

theorem endsBefore_of_ne {b : Break} (h : b ≠ cr) (rest : Text) :
    b.EndsBefore rest :=
  fun hcr => absurd hcr h

theorem head?_text_eq_feed {b : Break} (rest : Text) :
    (b.text ++ rest).head? = some '\n' ↔ b = lf := by
  cases b <;> simp [text]

end Break

theorem lines_break {b : Break} {rest : Text} (h : b.EndsBefore rest) :
    lines (b.text ++ rest) = [] :: lines rest := by
  cases b with
  | crlf => simp only [Break.text, List.cons_append, List.nil_append, lines]
  | lf => simp only [Break.text, List.cons_append, List.nil_append, lines]
  | cr =>
      rw [Break.text, List.singleton_append, lines]
      intro cs heq
      subst heq
      exact h rfl rfl

/-- A line with the break behind it. -/
structure EndedLine where
  line : Text
  ending : Break
  unbroken : Unbroken line

namespace EndedLine

def text (entry : EndedLine) : Text := entry.line ++ entry.ending.text

/-- Next to each other the two breaks are read as one, and the second line is
lost. -/
def Merges (entry next : EndedLine) : Prop :=
  entry.ending = .cr ∧ next.line = [] ∧ next.ending = .lf

instance instDecidableMerges (entry next : EndedLine) :
    Decidable (entry.Merges next) :=
  inferInstanceAs (Decidable (_ ∧ _))

/-- A written line opens with a line feed only if that feed is all of it. -/
theorem head?_text_eq_feed (entry : EndedLine) (rest : Text) :
    (entry.text ++ rest).head? = some '\n' ↔
      entry.line = [] ∧ entry.ending = .lf := by
  rw [text, List.append_assoc]
  cases hline : entry.line with
  | nil => simp only [List.nil_append, Break.head?_text_eq_feed, true_and]
  | cons c cs =>
      have hfeed := (unbroken_cons.mp (hline ▸ entry.unbroken)).1.2
      simp [hfeed]

end EndedLine

/-- One line is taken off, if its break ends where it was written. -/
theorem lines_ended (entry : EndedLine) {rest : Text}
    (h : entry.ending.EndsBefore rest) :
    lines (entry.text ++ rest) = entry.line :: lines rest := by
  have hfirst := lines_append entry.unbroken (lines_break h)
  rw [List.append_nil] at hfirst
  rw [EndedLine.text, List.append_assoc, hfirst]

/-- A carriage return and the line feed behind it are one break, so the line
adds nothing to the number of lines. -/
theorem length_lines_merged (entry : EndedLine) {rest : Text}
    (h : ¬ entry.ending.EndsBefore rest) :
    (lines (entry.text ++ rest)).length = (lines rest).length := by
  obtain ⟨hending, hfeed⟩ := Classical.not_imp.mp h
  obtain ⟨behind, rfl⟩ := List.head?_eq_some_iff.mp (Classical.not_not.mp hfeed)
  have hpair : entry.text ++ '\n' :: behind =
      EndedLine.text { entry with ending := .crlf } ++ behind := by
    simp [EndedLine.text, hending, Break.text]
  have hrest : lines ('\n' :: behind) = [] :: lines behind :=
    lines_break (b := .lf) (Break.endsBefore_of_ne (by decide) behind)
  rw [hpair, lines_ended _ (Break.endsBefore_of_ne (by simp) behind), hrest]
  rfl

def joined (entries : List EndedLine) : Text := entries.flatMap EndedLine.text

/-- No two neighbours merge. -/
def KeptApart (entries : List EndedLine) : Prop :=
  entries.IsChain fun entry next => ¬ entry.Merges next

instance instDecidableKeptApart (entries : List EndedLine) :
    Decidable (KeptApart entries) :=
  inferInstanceAs (Decidable (List.IsChain _ _))

theorem joined_cons (entry : EndedLine) (entries : List EndedLine)
    (last : Text) :
    joined (entry :: entries) ++ last =
      entry.text ++ (joined entries ++ last) := by
  rw [joined, List.flatMap_cons, List.append_assoc]
  rfl

theorem head?_joined_eq_feed (entries : List EndedLine) {last : Text}
    (hlast : Unbroken last) :
    (joined entries ++ last).head? = some '\n' ↔
      ∃ next ∈ entries.head?, next.line = [] ∧ next.ending = .lf := by
  cases entries with
  | nil => simp [joined, hlast.head?_ne]
  | cons entry rest =>
      rw [joined_cons, EndedLine.head?_text_eq_feed]
      simp

/-- Neighbours merge exactly where a break goes on into the text behind it. -/
theorem keptApart_cons (entry : EndedLine) (entries : List EndedLine)
    {last : Text} (hlast : Unbroken last) :
    KeptApart (entry :: entries) ↔
      entry.ending.EndsBefore (joined entries ++ last) ∧ KeptApart entries := by
  rw [KeptApart, List.isChain_cons, KeptApart, Break.EndsBefore, Ne,
    head?_joined_eq_feed entries hlast]
  refine and_congr_left fun _ => ?_
  simp only [EndedLine.Merges, not_and, not_exists]
  tauto

theorem length_lines_joined_le (entries : List EndedLine) (last : Text) :
    (lines (joined entries ++ last)).length ≤
      entries.length + (lines last).length := by
  induction entries with
  | nil => simp [joined]
  | cons entry entries ih =>
      rw [joined_cons, List.length_cons]
      by_cases hend : entry.ending.EndsBefore (joined entries ++ last)
      · rw [lines_ended entry hend, List.length_cons]
        omega
      · rw [length_lines_merged entry hend]
        omega

/-- The lines are read back exactly when no two of them merge: a merged line is
missing, and the lines behind it cannot make up for it. -/
theorem lines_joined_iff (entries : List EndedLine) {last : Text}
    (hlast : Unbroken last) :
    lines (joined entries ++ last) = entries.map EndedLine.line ++ lines last ↔
      KeptApart entries := by
  induction entries with
  | nil => exact iff_of_true rfl .nil
  | cons entry entries ih =>
      rw [keptApart_cons entry entries hlast, joined_cons, List.map_cons,
        List.cons_append]
      by_cases hend : entry.ending.EndsBefore (joined entries ++ last)
      · rw [lines_ended entry hend, List.cons_inj_right, ih, and_iff_right hend]
      · refine iff_of_false (fun hlines => ?_) (fun h => hend h.1)
        have hcount := length_lines_merged entry hend
        have hbound := length_lines_joined_le entries last
        rw [hlines, List.length_cons, List.length_append,
          List.length_map] at hcount
        omega

/-- A text without a break, or its first line with the break behind it and the
rest. -/
theorem unbroken_or_ended (text : Text) :
    Unbroken text ∨ ∃ (entry : EndedLine) (rest : Text),
      text = entry.text ++ rest ∧ entry.ending.EndsBefore rest := by
  induction text with
  | nil => exact .inl unbroken_nil
  | cons c cs ih =>
      by_cases hreturn : c = '\r'
      · subst hreturn
        by_cases hfeed : cs.head? = some '\n'
        · obtain ⟨rest, rfl⟩ := List.head?_eq_some_iff.mp hfeed
          exact .inr ⟨⟨[], .crlf, unbroken_nil⟩, rest, rfl,
            Break.endsBefore_of_ne (by decide) rest⟩
        · exact .inr ⟨⟨[], .cr, unbroken_nil⟩, cs, rfl, fun _ => hfeed⟩
      by_cases hfeed : c = '\n'
      · subst hfeed
        exact .inr ⟨⟨[], .lf, unbroken_nil⟩, cs, rfl,
          Break.endsBefore_of_ne (by decide) cs⟩
      · rcases ih with hcs | ⟨entry, rest, rfl, hend⟩
        · exact .inl (unbroken_cons.mpr ⟨⟨hreturn, hfeed⟩, hcs⟩)
        · have hline := unbroken_cons.mpr ⟨⟨hreturn, hfeed⟩, entry.unbroken⟩
          exact .inr ⟨⟨c :: entry.line, entry.ending, hline⟩, rest, rfl, hend⟩

theorem EndedLine.length_lt (entry : EndedLine) (rest : Text) :
    rest.length < (entry.text ++ rest).length := by
  have hbreak : 0 < entry.ending.text.length := by cases entry.ending <;> decide
  simp only [EndedLine.text, List.length_append]
  omega

/-- Every text is written line by line, in a way that keeps its lines apart: a
line and its break are taken off until nothing is broken. -/
theorem exists_joined (text : Text) :
    ∃ (entries : List EndedLine) (last : Text),
      KeptApart entries ∧ Unbroken last ∧ text = joined entries ++ last := by
  induction hn : text.length using Nat.strong_induction_on generalizing
    text with
  | _ n ih =>
      subst hn
      rcases unbroken_or_ended text with h | ⟨entry, rest, rfl, hend⟩
      · exact ⟨[], text, .nil, h, rfl⟩
      · obtain ⟨entries, last, hapart, hlast, rfl⟩ :=
          ih _ (entry.length_lt rest) rest rfl
        exact ⟨entry :: entries, last, (keptApart_cons entry entries hlast).mpr
          ⟨hend, hapart⟩,
          hlast, (joined_cons entry entries last).symm⟩

theorem unbroken_of_mem_lines {text line : Text} (h : line ∈ lines text) :
    Unbroken line := by
  obtain ⟨entries, last, hapart, hlast, rfl⟩ := exists_joined text
  rw [(lines_joined_iff entries hlast).mpr hapart, List.mem_append,
    List.mem_map] at h
  rcases h with ⟨entry, -, rfl⟩ | h
  · exact entry.unbroken
  · by_cases hne : last = []
    · subst hne
      cases h
    · rw [lines_unbroken hlast hne, List.mem_singleton] at h
      exact h ▸ hlast

/-- Lines that were joined, each with a break of its own, are read back exactly
when no two of them merge, with and without a last line that has no break. And
every text is such a joining of its lines. -/
theorem lines_undo_joining :
    (∀ entries : List EndedLine,
      (lines (joined entries) = entries.map EndedLine.line ↔
        KeptApart entries) ∧
      ∀ last : Text, Unbroken last → last ≠ [] →
        (lines (joined entries ++ last) = entries.map EndedLine.line ++ [last] ↔
          KeptApart entries)) ∧
    ∀ text : Text,
      (∀ line ∈ lines text, Unbroken line) ∧
      ∃ entries : List EndedLine, KeptApart entries ∧
        ((text = joined entries ∧ lines text = entries.map EndedLine.line) ∨
          ∃ last : Text, Unbroken last ∧ last ≠ [] ∧
            text = joined entries ++ last ∧
            lines text = entries.map EndedLine.line ++ [last]) := by
  have hended (entries : List EndedLine) :
      lines (joined entries) = entries.map EndedLine.line ↔
        KeptApart entries := by
    have h := lines_joined_iff entries unbroken_nil
    rwa [List.append_nil, lines, List.append_nil] at h
  have hopen (entries : List EndedLine) (last : Text) (hlast : Unbroken last)
      (hne : last ≠ []) :
      lines (joined entries ++ last) = entries.map EndedLine.line ++ [last] ↔
        KeptApart entries := by
    rw [← lines_joined_iff entries hlast, lines_unbroken hlast hne]
  refine ⟨fun entries => ⟨hended entries, hopen entries⟩, fun text =>
    ⟨fun line => unbroken_of_mem_lines, ?_⟩⟩
  obtain ⟨entries, last, hapart, hlast, rfl⟩ := exists_joined text
  refine ⟨entries, hapart, ?_⟩
  by_cases hne : last = []
  · subst hne
    rw [List.append_nil]
    exact .inl ⟨rfl, (hended entries).mpr hapart⟩
  · exact .inr ⟨last, hlast, hne, rfl,
      (hopen entries last hlast hne).mpr hapart⟩

/-- Every break in front of an empty line, with a carriage return in front of a
pair, and a last line without a break. -/
theorem lines_undo_joining_mixed :
    let entries : List EndedLine :=
      [⟨['a'], .cr, by decide⟩, ⟨[], .crlf, by decide⟩, ⟨[], .lf, by decide⟩,
        ⟨[], .cr, by decide⟩, ⟨['b', '\x0c'], .lf, by decide⟩]
    let last : Text := ['c']
    KeptApart entries ∧ Unbroken last ∧
      joined entries ++ last =
        ['a', '\r', '\r', '\n', '\n', '\r', 'b', '\x0c', '\n', 'c'] ∧
      lines (joined entries) = [['a'], [], [], [], ['b', '\x0c']] ∧
      lines (joined entries ++ last) = [['a'], [], [], [], ['b', '\x0c'],
        ['c']] := by
  intro entries last
  have hapart : KeptApart entries := by decide
  have hlast : Unbroken last := by decide
  obtain ⟨hended, hopen⟩ := lines_undo_joining.1 entries
  exact ⟨hapart, hlast, rfl, hended.mpr hapart,
    (hopen last hlast (List.cons_ne_nil _ _)).mpr hapart⟩

/-- A carriage return in front of an empty line that ends in a line feed: the
two lines come back as one. -/
example :
    let entries : List EndedLine :=
      [⟨['a'], .cr, by decide⟩, ⟨[], .lf, by decide⟩]
    ¬ KeptApart entries ∧ lines (joined entries) = [['a']] := by
  decide

end GrammarLint.Text
