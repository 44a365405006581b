import GrammarLint.Proofs.Words
import GrammarLint.Report.Findings
import GrammarLint.Text.Markup

/-!
# Escaped text in marked-up lines

The report for people puts paths and messages between tags. They are escaped
first, so that nothing in them is read as a tag, and this file proves that it
works whatever the text is: the pieces of an escaped text are all plain, and
what follows it is cut into pieces as if it stood alone (`pieces_escape`).

Two things could go wrong. A bracket that opens no tag in the text might open
one together with what follows; it does not, because the first bracket that
follows is an opening one. And escaping might itself make a tag out of something
that was none; it does not, because it adds nothing but backslashes, which
neither open a tag nor end one.

What an escaped text shows is the text again, if it is `Inert`: rendering takes
a backslash away in front of what looks like a tag, and puts an emoji in the
place of its name, and an inert text has neither. `Shows` puts lines together
from parts that are plain or stand between the tags of a style.

Backslashes at the very end of a text are the exception to "as if it stood
alone": they are counted together with the tag behind them. So a path may be
shown changed, and its style may stay open, but no line ever fails to render.
-/

namespace GrammarLint.Markup

/-- The brackets of tags. -/
def isBracket (c : Char) : Bool := c == '[' || c == ']'

/-- The first bracket of a text. -/
def firstBracket (t : Text) : Option Char := t.find? isBracket

theorem not_isBracket (c : Char) : (c != '[' && c != ']') = !isBracket c := by
  rw [isBracket, Bool.not_or]
  rfl

theorem head?_drop_inside (cs : Text) :
    (cs.drop (cs.takeWhile fun c => c != '[' && c != ']').length).head? =
      firstBracket cs := by
  simp only [not_isBracket, firstBracket]
  induction cs with
  | nil => rfl
  | cons c cs ih => by_cases hc : isBracket c = true <;> simp [hc, ih]

theorem tagInside?_eq_none {cs : Text} :
    tagInside? cs = none ↔
      ¬ (cs.head?.any opensTag = true ∧ firstBracket cs = some ']') := by
  rw [tagInside?]
  simp only [head?_drop_inside]
  split
  · next h => simpa using h
  · next h => simpa using h

/-- The inside of a tag: it opens with one of the characters for that, holds no
bracket, and a closing bracket ends it. -/
def IsInside (inside : Text) : Prop :=
  inside.head?.any opensTag = true ∧ ∀ c ∈ inside, isBracket c = false

instance (inside : Text) : Decidable (IsInside inside) :=
  @instDecidableAnd _ _ inferInstance (List.decidableBAll _ inside)

theorem tagInside?_of_isInside {inside : Text} (h : IsInside inside)
    (rest : Text) :
    tagInside? (inside ++ ']' :: rest) = some inside := by
  have htake : (inside ++ ']' :: rest).takeWhile
      (fun c => c != '[' && c != ']') = inside := by
    refine Text.takeWhile_append_of_stop (fun c hc => ?_) rfl
    rw [not_isBracket, h.2 c hc, Bool.not_false]
  have hhead : (inside ++ ']' :: rest).head?.any opensTag = true := by
    cases inside with
    | nil => exact absurd h.1 (by decide)
    | cons c cs => exact h.1
  rw [tagInside?]
  simp only [htake, List.drop_left, hhead]
  rfl

theorem isInside_of_tagInside? {cs inside : Text}
    (h : tagInside? cs = some inside) :
    IsInside inside ∧ ∃ rest, cs = inside ++ ']' :: rest := by
  rw [tagInside?] at h
  split at h
  · next hopen =>
      obtain rfl := Option.some.inj h
      rw [Bool.and_eq_true, beq_iff_eq] at hopen
      obtain ⟨hhead, hclose⟩ := hopen
      obtain ⟨rest, hrest⟩ := List.head?_eq_some_iff.mp hclose
      have hsplit :
          cs = cs.takeWhile (fun c => c != '[' && c != ']') ++ ']' :: rest := by
        rw [← hrest]
        exact (List.prefix_iff_eq_append.mp (List.takeWhile_prefix _)).symm
      refine ⟨⟨?_, fun c hc => ?_⟩, rest, hsplit⟩
      · cases hinside : cs.takeWhile (fun c => c != '[' && c != ']') with
        | nil =>
            rw [hinside] at hsplit
            rw [hsplit] at hhead
            exact absurd hhead (by simp [opensTag])
        | cons c inside =>
            rw [hinside] at hsplit
            rw [hsplit] at hhead
            exact hhead
      · have := List.mem_takeWhile_imp hc
        rwa [not_isBracket, Bool.not_eq_true'] at this
  · cases h

theorem firstBracket_cons (c : Char) (cs : Text) :
    firstBracket (c :: cs) =
      if isBracket c = true then some c else firstBracket cs := by
  rw [firstBracket, List.find?_cons]
  split
  · next h => rw [if_pos h]
  · next h => rw [if_neg (by simp [h])]; rfl

theorem firstBracket_append (a b : Text) :
    firstBracket (a ++ b) = (firstBracket a).or (firstBracket b) :=
  List.find?_append

theorem firstBracket_slashes (n : Nat) :
    firstBracket (List.replicate n '\\') = none := by
  rw [firstBracket, List.find?_eq_none]
  intro c hc
  rw [List.eq_of_mem_replicate hc]
  decide

theorem firstBracket_escapeFrom (skip slashes : Nat) (cs : Text) :
    firstBracket (escapeFrom skip slashes cs) = firstBracket cs := by
  fun_induction escapeFrom skip slashes cs with
  | case1 skip slashes => exact firstBracket_slashes slashes
  | case2 skip slashes c cs ih => rw [firstBracket_cons, firstBracket_cons, ih]
  | case3 slashes cs ih =>
      rw [ih, firstBracket_cons]
      rfl
  | case4 slashes c cs hc inside htag ih =>
      rw [firstBracket_append, firstBracket_slashes, Option.none_or,
        firstBracket_cons, firstBracket_cons, ih]
  | case5 slashes c cs hc htag ih =>
      rw [firstBracket_append, firstBracket_slashes, Option.none_or,
        firstBracket_cons, firstBracket_cons, ih]

theorem head?_slashes (n : Nat) (rest : Text) :
    (List.replicate (n + 1) '\\' ++ rest).head? = some '\\' := rfl

theorem head?_escapeFrom_succ (slashes : Nat) (cs : Text) :
    (escapeFrom 0 (slashes + 1) cs).head? = some '\\' := by
  induction cs generalizing slashes with
  | nil => rfl
  | cons c cs ih =>
      rw [escapeFrom]
      split
      · exact ih (slashes + 1)
      · split
        · exact head?_slashes (2 * (slashes + 1)) _
        · exact head?_slashes slashes _

/-- Where an escaped text opens like a tag, the text did. -/
theorem opensTag_of_escapeFrom {slashes : Nat} {c : Char} {cs rest : Text}
    (h : (escapeFrom 0 slashes (c :: cs) ++ rest).head?.any opensTag = true) :
    opensTag c = true := by
  have hslash : ∀ t : Text, t.head? = some '\\' →
      ¬ (t ++ rest).head?.any opensTag = true := by
    intro t ht
    rw [List.head?_append, ht]
    exact Bool.false_ne_true
  rw [escapeFrom] at h
  split at h
  · exact absurd h (hslash _ (head?_escapeFrom_succ slashes cs))
  · split at h
    · exact absurd h (hslash _ (head?_slashes (2 * slashes) _))
    · cases slashes with
      | zero => exact h
      | succ n => exact absurd h (hslash _ (head?_slashes n _))

/-- A bracket that opens no tag opens none after escaping, if what follows has
no closing bracket to offer. -/
theorem tagInside?_escapeFrom {cs rest : Text} (h : tagInside? cs = none)
    (hrest : firstBracket rest ≠ some ']') :
    tagInside? (escapeFrom 0 0 cs ++ rest) = none := by
  rw [tagInside?_eq_none] at h ⊢
  intro hgiven
  obtain ⟨hhead, hclose⟩ := hgiven
  rw [firstBracket_append, firstBracket_escapeFrom,
    Option.or_eq_some_iff] at hclose
  rcases hclose with hclose | ⟨-, hclose⟩
  · cases cs with
    | nil => cases hclose
    | cons c cs => exact h ⟨opensTag_of_escapeFrom hhead, hclose⟩
  · exact hrest hclose

/-- The piece is no tag. -/
def Piece.IsPlain : Piece → Prop
  | .plain _ => True
  | .tag _ => False

theorem isPlain_plainPiece (t : Text) :
    ∀ piece ∈ plainPiece t, piece.IsPlain := by
  intro piece h
  rw [plainPiece] at h
  split at h
  · cases h
  · rw [List.mem_singleton.mp h]
    trivial

theorem piecesFrom_slashes (before : Text) (slashes n : Nat) (rest : Text) :
    piecesFrom 0 before slashes (List.replicate n '\\' ++ rest) =
      piecesFrom 0 before (slashes + n) rest := by
  induction n generalizing slashes with
  | zero => rfl
  | succ n ih =>
      rw [List.replicate_succ, List.cons_append, piecesFrom, if_pos rfl, ih]
      congr 1
      omega

theorem piecesFrom_skip (taken before : Text) (slashes : Nat) (rest : Text) :
    piecesFrom taken.length before slashes (taken ++ rest) =
      piecesFrom 0 before slashes rest := by
  induction taken with
  | nil => rfl
  | cons c cs ih => rw [List.length_cons, List.cons_append, piecesFrom, ih]

theorem escapeFrom_skip (taken : Text) (slashes : Nat) (rest : Text) :
    escapeFrom taken.length slashes (taken ++ rest) =
      taken ++ escapeFrom 0 slashes rest := by
  induction taken with
  | nil => rfl
  | cons c cs ih =>
      rw [List.length_cons, List.cons_append, escapeFrom, ih, List.cons_append]

/-! Both walks take a text apart in the same way: a backslash, a tag with all
that is in it, or any other character at a time. -/

/-- The character, in front of this text, is neither a backslash nor does it
open a tag. -/
def IsOther (c : Char) (cs : Text) : Prop :=
  c ≠ '\\' ∧ (if c = '[' then tagInside? cs else none) = none

/-- Induction over a text the way marked-up text is read. -/
@[elab_as_elim]
theorem readingInduction {motive : Text → Prop} (nil : motive [])
    (slash : ∀ cs, motive cs → motive ('\\' :: cs))
    (tag : ∀ inside rest, IsInside inside → motive rest →
      motive ('[' :: (inside ++ ']' :: rest)))
    (other : ∀ c cs, IsOther c cs → motive cs → motive (c :: cs))
    (cs : Text) : motive cs := by
  induction hlength : cs.length using Nat.strong_induction_on generalizing
    cs with
  | _ n ih =>
      subst hlength
      cases cs with
      | nil => exact nil
      | cons c cs =>
          have hrest : motive cs := ih cs.length (Nat.lt_succ_self _) cs rfl
          by_cases hc : c = '\\'
          · exact hc ▸ slash cs hrest
          · cases htag : (if c = '[' then tagInside? cs else none) with
            | none => exact other c cs ⟨hc, htag⟩ hrest
            | some inside =>
                split at htag
                · next hopen =>
                    obtain ⟨hinside, tail, rfl⟩ := isInside_of_tagInside? htag
                    subst hopen
                    refine tag inside tail hinside (ih tail.length ?_ tail rfl)
                    simp only [List.length_cons, List.length_append]
                    omega
                · cases htag

theorem escapeFrom_slash (slashes : Nat) (cs : Text) :
    escapeFrom 0 slashes ('\\' :: cs) = escapeFrom 0 (slashes + 1) cs := by
  rw [escapeFrom, if_pos rfl]

theorem escapeFrom_tag {inside : Text} (hinside : IsInside inside)
    (slashes : Nat) (rest : Text) :
    escapeFrom 0 slashes ('[' :: (inside ++ ']' :: rest)) =
      List.replicate (2 * slashes + 1) '\\' ++ '[' ::
      (inside ++ ']' :: escapeFrom 0 0 rest) := by
  have hcopied := escapeFrom_skip (inside ++ [']']) 0 rest
  rw [List.length_append, List.length_singleton, List.append_assoc,
    List.append_assoc, List.singleton_append, List.singleton_append] at hcopied
  rw [escapeFrom, if_neg (by decide), if_pos rfl,
    tagInside?_of_isInside hinside]
  simp only [hcopied]

theorem escapeFrom_other {c : Char} {cs : Text} (h : IsOther c cs)
    (slashes : Nat) :
    escapeFrom 0 slashes (c :: cs) =
      List.replicate slashes '\\' ++ c :: escapeFrom 0 0 cs := by
  rw [escapeFrom, if_neg h.1, h.2]

theorem piecesFrom_tag {inside : Text} (hinside : IsInside inside)
    (before : Text) (slashes : Nat) (rest : Text) :
    piecesFrom 0 before slashes ('[' :: (inside ++ ']' :: rest)) =
      plainPiece before.reverse ++ tagPieces slashes inside ++
      piecesFrom 0 [] 0 rest := by
  have hskip := piecesFrom_skip (inside ++ [']']) [] 0 rest
  rw [List.length_append, List.length_singleton, List.append_assoc,
    List.singleton_append] at hskip
  rw [piecesFrom, if_neg (by decide), if_pos rfl,
    tagInside?_of_isInside hinside]
  simp only [hskip]

theorem piecesFrom_other {c : Char} {cs : Text} (h : IsOther c cs)
    (before : Text) (slashes : Nat) :
    piecesFrom 0 before slashes (c :: cs) =
      piecesFrom 0 (c :: List.replicate slashes '\\' ++ before) 0 cs := by
  rw [piecesFrom, if_neg h.1, h.2]

theorem plainPiece_nil : plainPiece [] = [] := rfl

theorem tagPieces_zero (inside : Text) : tagPieces 0 inside = [.tag inside] :=
  rfl

theorem piecesFrom_nil : piecesFrom 0 [] 0 [] = [] := rfl

theorem piecesFrom_text {t : Text} (h : ∀ c ∈ t, c ≠ '[' ∧ c ≠ '\\')
    (before rest : Text) :
    piecesFrom 0 before 0 (t ++ rest) =
      piecesFrom 0 (t.reverse ++ before) 0 rest := by
  induction t generalizing before with
  | nil => rfl
  | cons c cs ih =>
      have hc := h c List.mem_cons_self
      have hother : IsOther c (cs ++ rest) := ⟨hc.2, if_neg hc.1⟩
      rw [List.cons_append, piecesFrom_other hother,
        ih fun d hd => h d (List.mem_cons_of_mem c hd)]
      simp

theorem IsOther.escaped {c : Char} {cs rest : Text} (h : IsOther c cs)
    (hrest : firstBracket rest ≠ some ']') :
    IsOther c (escapeFrom 0 0 cs ++ rest) := by
  refine ⟨h.1, ?_⟩
  split
  · next hopen =>
      have hnone := h.2
      rw [if_pos hopen] at hnone
      exact tagInside?_escapeFrom hnone hrest
  · rfl

theorem isPlain_tagPieces (n : Nat) (inside : Text) :
    ∀ piece ∈ tagPieces (2 * n + 1) inside, piece.IsPlain := by
  intro piece h
  rw [tagPieces, if_pos (by omega)] at h
  rcases List.mem_append.mp h with h | h
  · exact isPlain_plainPiece _ piece h
  · rw [List.mem_singleton.mp h]
    trivial

/-! ## Text that shows as it is

Rendering undoes escaping where the text has nothing in it that rendering itself
would change. `Inert` says what that is, character by character. -/

/-- Nothing in the text is changed by rendering it: no backslash stands in front
of a bracket, and no colon opens the code of an emoji. -/
def Inert : Text → Prop
  | [] => True
  | c :: cs =>
    ¬ (c = '\\' ∧ cs.head? = some '[') ∧ (c = ':' → Emoji.code? cs = none) ∧
    Inert cs

def Inert.decide : (t : Text) → Decidable (Inert t)
  | [] => .isTrue trivial
  | c :: cs =>
    have := Inert.decide cs
    inferInstanceAs (Decidable (¬ (c = '\\' ∧ cs.head? = some '[') ∧
      (c = ':' → Emoji.code? cs = none) ∧ Inert cs))

instance : DecidablePred Inert := Inert.decide

theorem code?_cons_eq_none {c : Char} {cs : Text} :
    Emoji.code? (c :: cs) = none ↔ c ≠ ':' ∧ ¬ "-emoji:".toList <+: c :: cs ∧
      ¬ "-text:".toList <+: c :: cs ∧
      (Text.isSpace c = true ∨ Emoji.code? cs = none) := by
  rw [Emoji.code?]
  simp only [List.isPrefixOf_iff_prefix]
  generalize "-emoji:".toList = pictured
  generalize "-text:".toList = written
  by_cases hc : c = ':'
  · simp [hc]
  · by_cases hpictured : pictured <+: c :: cs
    · simp [hc, hpictured]
    · by_cases hwritten : written <+: c :: cs
      · simp [hc, hpictured, hwritten]
      · by_cases hspace : Text.isSpace c = true <;> simp [hc, hpictured,
          hwritten, hspace]

theorem prefix_of_prefix_append_blank {word a b : Text} (hword : ' ' ∉ word)
    (h : word <+: a ++ ' ' :: b) : word <+: a := by
  rcases List.prefix_or_prefix_of_prefix h
    (List.prefix_append a (' ' :: b)) with hshort | ⟨q, rfl⟩
  · exact hshort
  · rw [List.prefix_append_right_inj] at h
    cases q with
    | nil => exact (List.append_nil a).symm ▸ List.prefix_rfl
    | cons c cs =>
        rw [List.cons_prefix_cons] at h
        exact absurd (by simp [h.1]) hword

theorem code?_of_append {a b : Text} (h : Emoji.code? (a ++ b) = none) :
    Emoji.code? a = none := by
  induction a with
  | nil => rfl
  | cons c cs ih =>
      rw [List.cons_append, code?_cons_eq_none] at h
      obtain ⟨hc, hform, hplain, hrest⟩ := h
      have hlonger : c :: cs <+: c :: (cs ++ b) :=
        List.prefix_append (c :: cs) b
      exact code?_cons_eq_none.mpr
        ⟨hc, fun h => hform (h.trans hlonger),
          fun h => hplain (h.trans hlonger), hrest.imp_right ih⟩

theorem code?_append_blank {a : Text} (h : Emoji.code? a = none) (b : Text) :
    Emoji.code? (a ++ ' ' :: b) = none := by
  induction a with
  | nil => rfl
  | cons c cs ih =>
      obtain ⟨hc, hform, hplain, hrest⟩ := code?_cons_eq_none.mp h
      rw [List.cons_append, code?_cons_eq_none]
      exact ⟨hc, fun h => hform (prefix_of_prefix_append_blank (by decide) h),
        fun h => hplain (prefix_of_prefix_append_blank (by decide) h),
        hrest.imp_right ih⟩

theorem Inert.of_append_right {a b : Text} (h : Inert (a ++ b)) : Inert b := by
  induction a with
  | nil => exact h
  | cons c cs ih => exact ih h.2.2

theorem Inert.of_append_left {a b : Text} (h : Inert (a ++ b)) : Inert a := by
  induction a with
  | nil => trivial
  | cons c cs ih =>
      refine ⟨fun hescape => h.1 ⟨hescape.1, ?_⟩,
        fun hc => code?_of_append (h.2.1 hc), ih h.2.2⟩
      change (cs ++ b).head? = some '['
      rw [List.head?_append, hescape.2]
      rfl

theorem Inert.append_blank {a b : Text} (ha : Inert a) (hb : Inert b) :
    Inert (a ++ ' ' :: b) := by
  induction a with
  | nil => exact ⟨by simp, by simp, hb⟩
  | cons c cs ih =>
      refine ⟨fun hescape => ha.1 ⟨hescape.1, ?_⟩,
        fun hc => code?_append_blank (ha.2.1 hc) b, ih ha.2.2⟩
      have hhead := hescape.2
      cases cs with
      | nil => exact absurd hhead (by simp)
      | cons d ds => exact hhead

theorem Inert.unescape {t : Text} (h : Inert t) : unescape t = t := by
  induction t with
  | nil => rfl
  | cons c cs ih =>
      rw [Markup.unescape, ih h.2.2]
      intro tail heq htail
      subst heq
      exact h.1 ⟨rfl, htail ▸ rfl⟩

theorem Inert.replace {t : Text} (h : Inert t) : Emoji.replace t = t := by
  rw [Emoji.replace]
  induction t with
  | nil => rfl
  | cons c cs ih =>
      have hcode : (if c = ':' then Emoji.code? cs else none) = none := by
        split
        · next hc => exact h.2.1 hc
        · rfl
      rw [Emoji.replaceFrom, hcode, ih h.2.2]

theorem not_inert_slashes (n : Nat) (rest : Text) :
    ¬ Inert (List.replicate (n + 1) '\\' ++ '[' :: rest) := by
  intro h
  rw [List.replicate_succ', List.append_assoc] at h
  exact h.of_append_right.1 ⟨rfl, rfl⟩

theorem getLast?_ne_of_append {a b : Text} {c : Char}
    (h : (a ++ b).getLast? ≠ some c) :
    b.getLast? ≠ some c := by
  intro hb
  rw [List.getLast?_append, hb] at h
  exact h rfl

/-- The text of a piece. -/
def Piece.text : Piece → Text
  | .plain t => t
  | .tag inside => inside

theorem flatMap_text_plainPiece (t : Text) :
    (plainPiece t).flatMap Piece.text = t := by
  rw [plainPiece]
  split
  · next h => rw [List.isEmpty_iff.mp h, List.flatMap_nil]
  · rw [List.flatMap_singleton, Piece.text]

/-- The text `t` is written as `written` where `before` came before it: its
pieces are plain, and those of what follows do not depend on it but for the
characters `after` and the backslashes that it leaves to the next piece. A
text that shows as it is, and does not end in a backslash, is cut into
pieces and nothing more. -/
structure Escapes (t before written : Text) (pieces : List Piece) (after : Text)
    (left : Nat) :
    Prop where
  plain : ∀ piece ∈ pieces, piece.IsPlain
  read : ∀ rest, firstBracket rest ≠ some ']' →
    piecesFrom 0 before 0 (written ++ rest) =
      pieces ++ piecesFrom 0 after left rest
  kept : Inert t → t.getLast? ≠ some '\\' →
    left = 0 ∧ pieces.flatMap Piece.text ++ after.reverse = before.reverse ++ t

theorem pieces_escapeFrom (cs before : Text) (slashes : Nat) :
    ∃ pieces after left, Escapes (List.replicate slashes '\\' ++ cs) before
      (escapeFrom 0 slashes cs) pieces after left := by
  induction cs using readingInduction generalizing before slashes with
  | nil =>
      refine ⟨[], before, slashes, by simp, fun rest _ => ?_, fun _ hlast => ?_⟩
      · rw [escapeFrom, piecesFrom_slashes, Nat.zero_add, List.nil_append]
      · cases slashes with
        | zero => exact ⟨rfl, (List.append_nil _).symm⟩
        | succ n => exact absurd (by simp [List.getLast?_replicate]) hlast
  | slash cs ih =>
      rw [escapeFrom_slash, ← List.singleton_append, ← List.append_assoc,
        ← List.replicate_succ']
      exact ih before (slashes + 1)
  | tag inside tail hinside ih =>
      obtain ⟨pieces, after, left, hpieces⟩ := ih [] 0
      refine ⟨plainPiece before.reverse ++ tagPieces (2 * slashes + 1) inside ++
        pieces, after,
        left, fun piece h => ?_, fun rest hrest => ?_, fun hinert hlast => ?_⟩
      · rw [List.mem_append, List.mem_append] at h
        rcases h with (h | h) | h
        · exact isPlain_plainPiece _ piece h
        · exact isPlain_tagPieces slashes inside piece h
        · exact hpieces.plain piece h
      · simp only [escapeFrom_tag hinside, List.append_assoc, List.cons_append,
          piecesFrom_slashes, Nat.zero_add, piecesFrom_tag hinside,
          hpieces.read rest hrest]
      · cases slashes with
        | zero =>
            have hsplit :
                List.replicate 0 '\\' ++ '[' :: (inside ++ ']' :: tail) =
                  '[' :: (inside ++ [']']) ++ tail := by simp
            rw [hsplit] at hinert hlast
            obtain ⟨hleft, hkept⟩ := hpieces.kept hinert.of_append_right
              (getLast?_ne_of_append hlast)
            refine ⟨hleft, ?_⟩
            simp only [List.reverse_nil, List.nil_append,
              List.replicate_zero] at hkept
            simp only [List.flatMap_append, flatMap_text_plainPiece,
              List.append_assoc, hkept, tagPieces, List.replicate_zero]
            simp [Piece.text]
        | succ n => exact absurd hinert (not_inert_slashes n _)
  | other c cs hother ih =>
      obtain ⟨pieces, after, left, hpieces⟩ :=
        ih (c :: List.replicate slashes '\\' ++ before) 0
      refine ⟨pieces, after, left, hpieces.plain, fun rest hrest => ?_,
        fun hinert hlast => ?_⟩
      · simp only [escapeFrom_other hother, List.append_assoc, List.cons_append,
          piecesFrom_slashes, Nat.zero_add,
          piecesFrom_other (hother.escaped hrest)]
        exact hpieces.read rest hrest
      · rw [← List.singleton_append, ← List.append_assoc] at hinert hlast
        obtain ⟨hleft, hkept⟩ :=
          hpieces.kept hinert.of_append_right (getLast?_ne_of_append hlast)
        exact ⟨hleft, hkept.trans (by simp)⟩

/-- Escaping keeps the last character. -/
theorem getLast?_escapeFrom (cs : Text) (slashes : Nat) :
    (escapeFrom 0 slashes cs).getLast? =
      (List.replicate slashes '\\' ++ cs).getLast? := by
  induction cs using readingInduction generalizing slashes with
  | nil => rw [escapeFrom, List.append_nil]
  | slash cs ih =>
      rw [escapeFrom_slash, ih, List.replicate_succ', List.append_assoc,
        List.singleton_append]
  | tag inside tail hinside ih =>
      have htail := ih 0
      rw [List.replicate_zero, List.nil_append] at htail
      rw [escapeFrom_tag hinside]
      simp only [List.getLast?_append, List.getLast?_cons, htail,
        Option.some_or]
  | other c cs hother ih =>
      have htail := ih 0
      rw [List.replicate_zero, List.nil_append] at htail
      rw [escapeFrom_other hother]
      simp only [List.getLast?_append, List.getLast?_cons, htail,
        Option.some_or]

/-- The same for a text that is escaped as a whole, with a backslash more if it
ends in a single one. -/
theorem pieces_escape (t before : Text) :
    ∃ pieces after left, Escapes t before (escape t) pieces after left := by
  obtain ⟨pieces, after, left, hpieces⟩ := pieces_escapeFrom t before 0
  rw [List.replicate_zero, List.nil_append] at hpieces
  by_cases hend : (['\\'].isSuffixOf (escapeFrom 0 0 t) &&
      !(['\\', '\\'].isSuffixOf (escapeFrom 0 0 t))) = true
  · have hescape : escape t = escapeFrom 0 0 t ++ ['\\'] := if_pos hend
    refine ⟨pieces, after, left + 1, hpieces.plain, fun rest hrest => ?_,
      fun _ hlast => absurd ?_ hlast⟩
    · rw [hescape, List.append_assoc, List.singleton_append,
        hpieces.read ('\\' :: rest) hrest, piecesFrom, if_pos rfl]
    · have hsame := getLast?_escapeFrom t 0
      obtain ⟨front, hfront⟩ :=
        List.isSuffixOf_iff_suffix.mp (Bool.and_eq_true_iff.mp hend).1
      rw [← hfront, List.getLast?_append, List.replicate_zero,
        List.nil_append] at hsame
      exact hsame.symm
  · have hescape : escape t = escapeFrom 0 0 t := if_neg hend
    exact ⟨pieces, after, left, hescape ▸ hpieces⟩

/-- What a plain piece shows. -/
def Piece.shown : Piece → Text
  | .plain t => Emoji.replace (unescape t)
  | .tag _ => []

/-- The pieces show the text, leave the styles that are open as they are, and
open none that is at fault. -/
structure Shows (pieces : List Piece) (text : Text) : Prop where
  rendered : ∀ styles rest,
    renderFrom styles (pieces ++ rest) =
      (renderFrom styles rest).map (text ++ ·)
  sound : ∀ o ∈ openings pieces, o.check = .ok ()

theorem openings_append (a b : List Piece) :
    openings (a ++ b) = openings a ++ openings b :=
  List.filterMap_append

theorem Shows.append {a b : List Piece} {s t : Text} (ha : Shows a s)
    (hb : Shows b t) :
    Shows (a ++ b) (s ++ t) where
  rendered styles rest := by
    rw [List.append_assoc, ha.rendered, hb.rendered]
    cases renderFrom styles rest with
    | error fault => rfl
    | ok text => exact congrArg Except.ok (List.append_assoc s t text).symm
  sound o h := by
    rw [openings_append] at h
    exact (List.mem_append.mp h).elim (ha.sound o) (hb.sound o)

theorem shows_plain {pieces : List Piece}
    (h : ∀ piece ∈ pieces, piece.IsPlain) :
    Shows pieces (pieces.flatMap Piece.shown) := by
  induction pieces with
  | nil =>
      refine ⟨fun styles rest => ?_, fun o ho => nomatch ho⟩
      rw [List.nil_append]
      cases renderFrom styles rest <;> rfl
  | cons piece pieces ih =>
      have hrest :=
        ih fun other hother => h other (List.mem_cons_of_mem piece hother)
      cases piece with
      | tag inside => exact (h _ List.mem_cons_self).elim
      | plain t =>
          have hone : Shows [.plain t] (Emoji.replace (unescape t)) :=
            ⟨fun _ _ => rfl, fun o ho => nomatch ho⟩
          exact hone.append hrest

theorem flatMap_shown {pieces : List Piece} (hplain : ∀ piece ∈ pieces,
      piece.IsPlain)
    (hinert : Inert (pieces.flatMap Piece.text)) :
    pieces.flatMap Piece.shown = pieces.flatMap Piece.text := by
  induction pieces with
  | nil => rfl
  | cons piece pieces ih =>
      rw [List.flatMap_cons] at hinert
      have hrest :=
        ih (fun other h => hplain other (List.mem_cons_of_mem piece h))
        hinert.of_append_right
      cases piece with
      | tag inside => exact (hplain _ List.mem_cons_self).elim
      | plain t =>
          have ht : Inert t := hinert.of_append_left
          have hshown : Piece.shown (.plain t) = t := by
            rw [Piece.shown, ht.unescape, ht.replace]
          rw [List.flatMap_cons, List.flatMap_cons, hrest, hshown]
          rfl

/-- The styles of reports. -/
def reportStyles : List String := ["bold", "dim", "yellow", "bold red"]

theorem ok_of_toOption {α : Type} {result : Except Fault α} {value : α}
    (h : result.toOption = some value) : result = .ok value := by
  cases result with
  | error fault => cases h
  | ok other => exact congrArg Except.ok (Option.some.inj h)

/-- The styles are in normal form and have no parameters. -/
theorem reportStyles_normal : ∀ name ∈ reportStyles,
    (styleName name.toList).toOption = some name.toList ∧
    nameOf name.toList = name.toList ∧
      parametersOf name.toList = none ∧ Text.trim name.toList = name.toList ∧
      name.toList.head?.any (fun c => c != '/') = true := by
  decide +kernel

theorem opening_reportStyle {name : String} (h : name ∈ reportStyles) :
    opening name.toList = .ok ⟨name.toList, none⟩ := by
  obtain ⟨hstyle, hname, hparameters, -⟩ := reportStyles_normal name h
  rw [opening, hname, hparameters, ok_of_toOption hstyle]
  rfl

theorem renderFrom_open {name : String} (h : name ∈ reportStyles)
    (styles : List Opening) (rest : List Piece) :
    renderFrom styles (.tag name.toList :: rest) =
      renderFrom (⟨name.toList, none⟩ :: styles) rest := by
  obtain ⟨-, -, -, -, hhead⟩ := reportStyles_normal name h
  rw [renderFrom, opening_reportStyle h]
  · rfl
  · intro inside hinside
    rw [hinside] at hhead
    exact absurd hhead (by simp)

theorem renderFrom_close {name : String} (h : name ∈ reportStyles)
    (styles : List Opening) (rest : List Piece) :
    renderFrom (⟨name.toList, none⟩ :: styles)
      (.tag ('/' :: name.toList) :: rest) =
        renderFrom styles rest := by
  obtain ⟨hstyle, hname, -, htrim, hhead⟩ := reportStyles_normal name h
  have hclosed : Opening.closed ⟨name.toList, none⟩ = .ok () := by
    simp [Opening.closed]
  have hclose : close (⟨name.toList, none⟩ :: styles) name.toList =
      .ok styles := by
    have hnormal := ok_of_toOption hstyle
    rw [close, hname, htrim]
    cases hcs : name.toList with
    | nil =>
        rw [hcs] at hhead
        cases hhead
    | cons c cs =>
        rw [hcs] at hclosed hnormal
        simp [hnormal, Except.map, bind, Except.bind, hclosed, pure,
          Except.pure]
  rw [renderFrom, hclose]
  rfl

theorem openings_close (inside : Text) : openings [.tag ('/' :: inside)] = [] :=
  rfl

theorem openings_reportStyle {name : String} (h : name ∈ reportStyles) :
    ∀ o ∈ openings [.tag name.toList], o.check = .ok () := by
  intro o ho
  have hopenings : openings [.tag name.toList] = [⟨name.toList, none⟩] := by
    obtain ⟨-, -, -, -, hhead⟩ := reportStyles_normal name h
    cases hcs : name.toList with
    | nil => rw [hcs] at hhead; cases hhead
    | cons c cs =>
        have hopening := opening_reportStyle h
        rw [hcs] at hopening hhead
        have hslash : c ≠ '/' := by simpa using hhead
        simp [openings, hslash, hopening, Except.toOption]
  rw [hopenings] at ho
  rw [List.mem_singleton.mp ho]
  rfl

/-- A style around pieces does not show. -/
theorem Shows.styled {name : String} (h : name ∈ reportStyles)
    {inner : List Piece} {text : Text} (hinner : Shows inner text) :
    Shows (.tag name.toList :: inner ++ [.tag ('/' :: name.toList)]) text where
  rendered styles rest := by
    rw [List.append_assoc, List.cons_append, renderFrom_open h, hinner.rendered,
      List.singleton_append, renderFrom_close h]
  sound o ho := by
    rw [openings_append, ← List.singleton_append, openings_append,
      openings_close, List.append_nil, List.mem_append] at ho
    exact ho.elim (openings_reportStyle h o) (hinner.sound o)

theorem forM_check {all : List Opening} (h : ∀ o ∈ all, o.check = .ok ()) :
    all.forM Opening.check = .ok () := by
  induction all with
  | nil => rfl
  | cons o os ih =>
      rw [List.forM, h o List.mem_cons_self]
      exact ih fun other hother => h other (List.mem_cons_of_mem o hother)

theorem render_eq_ok {t text : Text} (h : '[' ∈ t)
    (hrendered : renderFrom [] (pieces t) = .ok text)
    (hsound : ∀ o ∈ openings (pieces t), o.check = .ok ()) :
    render t = .ok text := by
  rw [render, if_pos (List.elem_iff.mpr h), hrendered]
  simp only [bind, Except.bind, forM_check hsound]
  rfl

theorem Shows.render {t text : Text} (h : '[' ∈ t)
    (hshows : Shows (pieces t) text) :
    render t = .ok text := by
  have hrendered := hshows.rendered [] []
  rw [List.append_nil, renderFrom, Except.map, List.append_nil] at hrendered
  exact render_eq_ok h hrendered hshows.sound

/-- A style that is not closed does no harm. -/
theorem Shows.render_unclosed {name : String} (hname : name ∈ reportStyles)
    {t text : Text} {inner : List Piece} (h : '[' ∈ t)
    (hpieces : pieces t = .tag name.toList :: inner)
    (hinner : Shows inner text) : Markup.render t = .ok text := by
  refine render_eq_ok h ?_ fun o ho => ?_
  · have hrendered := hinner.rendered [⟨name.toList, none⟩] []
    rw [List.append_nil, renderFrom, Except.map, List.append_nil] at hrendered
    rw [hpieces, renderFrom_open hname, hrendered]
  · rw [hpieces, ← List.singleton_append, openings_append,
      List.mem_append] at ho
    exact ho.elim (openings_reportStyle hname o) (hinner.sound o)

end GrammarLint.Markup
