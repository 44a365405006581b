import GrammarLint.Body.Mask
import GrammarLint.Proofs.Columns

/-!
# What masking leaves of a body

Masking runs three passes over a body. Two of them blank out literals and one
cuts the end off, and each was written to keep columns. The relation `Covers`
says what such a pass may do, one character at a time: keep it, blank it, or
cut everything from here on. It also says at which borders. A stretch that is
blanked or cut off after a kept character starts at no word character, because
a literal opens with a quote or a slash and a cut is made at a slash or a dash.
And a word character that is blanked right before a kept one is the flag of a
literal, because a literal ends with its closing quote or slash, or with flags.

The relation is kept by composition, so the three passes are looked at one at a
time, each with the states of its automaton matched to the edges they can stand
at. What comes out is `word_of_mask`: a word of the masked body stands at the
same column of the body, its end is a word's end there too, and in front of it
stands no word character other than a flag.
-/

namespace GrammarLint.Body

open Text (IsRun isWord lastOr)

theorem isWord_of_isRegexpFlag {c : Char} (h : isRegexpFlag c = true) :
    isWord c = true := by
  simp only [isRegexpFlag, Bool.or_eq_true, beq_iff_eq] at h
  rcases h with ((((((rfl | rfl) | rfl) | rfl) | rfl) | rfl) | rfl) | rfl <;>
    decide

/-- What stands in front of the place a pass has reached: a character that the
pass kept, if there is one, or a character that it blanked. -/
inductive Edge where
  | kept (c : Option Char)
  | blanked (c : Char)

namespace Edge

/-- The character in front, as the text has it. -/
def raw : Edge → Option Char
  | .kept c => c
  | .blanked c => some c

/-- The character in front, as the result shows it. -/
def seen : Edge → Option Char
  | .kept c => c
  | .blanked _ => some ' '

/-- The edge after two passes: what either of them blanked is blanked. -/
def join : Edge → Edge → Edge
  | .blanked c, _ => .blanked c
  | .kept _, .blanked c => .blanked c
  | .kept c, .kept _ => .kept c

theorem join_eq_kept {e f : Edge} {c : Option Char} (h : e.join f = .kept c) :
    e = .kept c ∧ ∃ d, f = .kept d := by
  cases e with
  | blanked => cases h
  | kept =>
      cases f with
      | blanked => cases h
      | kept d => cases h; exact ⟨rfl, d, rfl⟩

theorem join_eq_blanked {e f : Edge} {c : Char} (h : e.join f = .blanked c) :
    e = .blanked c ∨ f = .blanked c := by
  cases e with
  | blanked => exact .inl h
  | kept =>
      cases f with
      | blanked => exact .inr h
      | kept => cases h

end Edge

/-- The first text is what a pass makes of the second, behind the edge. What is
blanked or cut off after a kept character starts at no word character, and a
word character that is blanked before a kept one is a flag. -/
inductive Covers : Edge → Text → Text → Prop where
  | done (e : Edge) : Covers e [] []
  | cut {e : Edge} {c : Char} {text : Text}
      (hc : ∀ p, e = .kept p → isWord c = false) : Covers e [] (c :: text)
  | keep {e : Edge} {c : Char} {masked text : Text}
      (he : ∀ d, e = .blanked d → isWord d = true → isRegexpFlag d = true)
      (h : Covers (.kept (some c)) masked text) :
      Covers e (c :: masked) (c :: text)
  | blank {e : Edge} {c : Char} {masked text : Text}
      (hc : ∀ p, e = .kept p → isWord c = false)
      (h : Covers (.blanked c) masked text) :
      Covers e (' ' :: masked) (c :: text)

/-- Two passes after one another are a pass. -/
theorem Covers.trans {e f : Edge} {masked middle text : Text}
    (h₁ : Covers e middle text) (h₂ : Covers f masked middle) :
    Covers (e.join f) masked text := by
  induction h₁ generalizing f masked with
  | done e =>
      cases h₂
      exact .done _
  | cut hc =>
      cases h₂
      exact .cut fun p hp => hc p (Edge.join_eq_kept hp).1
  | @keep e c middle text he _ ih =>
      cases h₂ with
      | cut hcut =>
          refine .cut fun p hp => ?_
          obtain ⟨-, d, hd⟩ := Edge.join_eq_kept hp
          exact hcut d hd
      | keep hkeep h =>
          refine .keep (fun d hd hword => ?_) (ih h)
          rcases Edge.join_eq_blanked hd with hd | hd
          · exact he d hd hword
          · exact hkeep d hd hword
      | blank hblank h =>
          refine .blank (fun p hp => ?_) (ih h)
          obtain ⟨-, d, hd⟩ := Edge.join_eq_kept hp
          exact hblank d hd
  | @blank e c middle text hc _ ih =>
      have hfirst : ∀ p, e.join f = .kept p → isWord c = false :=
        fun p hp => hc p (Edge.join_eq_kept hp).1
      cases h₂ with
      | cut => exact .cut hfirst
      | keep _ h => exact .blank hfirst (ih h)
      | blank _ h => exact .blank hfirst (ih h)

/-- Outside a literal a character is blanked if it opens one, and kept
otherwise. -/
theorem Covers.outside {e : Edge} {c : Char} {opens : Prop} [Decidable opens]
    {inner outer text : Text} (hopens : opens → isWord c = false)
    (he : ∀ d, e = .blanked d → isWord d = true → isRegexpFlag d = true)
    (hinner : Covers (.blanked c) inner text)
    (houter : Covers (.kept (some c)) outer text) :
    Covers e (if opens then ' ' :: inner else c :: outer) (c :: text) := by
  split
  · next h => exact .blank (fun _ _ => hopens h) hinner
  · exact .keep he houter

/-- The edges at which the walk over strings can be in a state. -/
def QuoteState.Meets : QuoteState → Edge → Prop
  | .outside, e => (∃ p, e = .kept p) ∨ e = .blanked 'i'
  | .inside, e => ∃ c, e = .blanked c
  | .closed, e => e = .blanked '"'

theorem blankStringsFrom_covers {state : QuoteState} {e : Edge} {text : Text}
    (hmeets : state.Meets e) : Covers e (blankStringsFrom state text) text := by
  induction text generalizing state e with
  | nil =>
      cases state <;> exact .done e
  | cons c cs ih =>
      have hopens : c = '"' ∧ '"' ∈ cs → isWord c = false := by
        intro h
        rw [h.1]
        decide
      cases state with
      | inside =>
          obtain ⟨d, rfl⟩ := hmeets
          rw [blankStringsFrom]
          refine .blank (fun _ h => by cases h) (ih ?_)
          split
          · next hquote => exact congrArg _ hquote
          · exact ⟨c, rfl⟩
      | closed =>
          obtain rfl : e = .blanked '"' := hmeets
          rw [blankStringsFrom]
          · split
            · next hflag =>
                refine .blank (fun _ h => by cases h) (ih (.inr ?_))
                rw [hflag.2]
            · refine .outside hopens (fun d hd hword => ?_) (ih ⟨c, rfl⟩)
                (ih (.inl ⟨some c, rfl⟩))
              cases hd
              exact absurd hword (by decide)
          · intro h; cases h
      | outside =>
          rw [blankStringsFrom]
          · rw [if_neg (fun h => by cases h.1)]
            refine .outside hopens (fun d hd hword => ?_) (ih ⟨c, rfl⟩)
              (ih (.inl ⟨some c, rfl⟩))
            rcases hmeets with ⟨p, rfl⟩ | rfl
            · cases hd
            · cases hd
              decide
          · intro h; cases h

theorem cutTail_covers {p : Option Char} (text : Text) :
    Covers (.kept p) (cutTail text) text := by
  fun_induction cutTail text generalizing p with
  | case1 => exact .cut fun _ _ => by decide
  | case2 => exact .cut fun _ _ => by decide
  | case3 c cs _ _ ih => exact .keep (fun _ h => by cases h) ih
  | case4 => exact .done _

/-- The edges at which the walk over regular expressions can be in a state. -/
def SlashState.Meets : SlashState → Edge → Prop
  | .outside, e => ∃ p, e = .kept p
  | .inside, e => ∃ c, e = .blanked c
  | .escaped, e => ∃ c, e = .blanked c
  | .flags, e => ∃ c, e = .blanked c ∧ (isWord c = true → isRegexpFlag c = true)

theorem blankRegexpsFrom_covers {state : SlashState} {e : Edge} {text : Text}
    (hmeets : state.Meets e) : Covers e (blankRegexpsFrom state text) text := by
  induction text generalizing state e with
  | nil => cases state <;> exact .done e
  | cons c cs ih =>
      have hopens : c = '/' ∧ closesRegexp cs = true → isWord c = false := by
        intro h
        rw [h.1]
        decide
      cases state with
      | inside =>
          obtain ⟨d, rfl⟩ := hmeets
          rw [blankRegexpsFrom]
          refine .blank (fun _ h => by cases h) (ih ?_)
          split
          · next hslash =>
              refine ⟨c, rfl, fun hword => ?_⟩
              rw [hslash] at hword
              exact absurd hword (by decide)
          · split
            · exact ⟨c, rfl⟩
            · exact ⟨c, rfl⟩
      | escaped =>
          obtain ⟨d, rfl⟩ := hmeets
          rw [blankRegexpsFrom]
          exact .blank (fun _ h => by cases h) (ih ⟨c, rfl⟩)
      | flags =>
          obtain ⟨d, rfl, hd⟩ := hmeets
          rw [blankRegexpsFrom]
          · split
            · next hflag =>
                exact .blank (fun _ h => by cases h)
                  (ih ⟨c, rfl, fun _ => hflag.2⟩)
            · refine .outside hopens (fun d' hd' hword => ?_) (ih ⟨c, rfl⟩)
                (ih ⟨some c, rfl⟩)
              cases hd'
              exact hd hword
          · intro h; cases h
          · intro h; cases h
      | outside =>
          obtain ⟨p, rfl⟩ := hmeets
          rw [blankRegexpsFrom]
          · rw [if_neg (fun h => by cases h.1)]
            exact .outside hopens (fun d hd => by cases hd) (ih ⟨c, rfl⟩)
              (ih ⟨some c, rfl⟩)
          · intro h; cases h
          · intro h; cases h

/-- Masking is a pass. -/
theorem mask_covers (p : Option Char) (text : Text) :
    Covers (.kept p) (mask text) text := by
  have hstrings : Covers (.kept p) (blankStrings text) text :=
    blankStringsFrom_covers (.inl ⟨p, rfl⟩)
  have hcut : Covers (.kept p) (cutTail (blankStrings text))
      (blankStrings text) :=
    cutTail_covers _
  have hregexps : Covers (.kept p) (mask text) (cutTail (blankStrings text)) :=
    blankRegexpsFrom_covers ⟨p, rfl⟩
  exact (hstrings.trans hcut).trans hregexps

/-- The rest of a word that a pass has begun to keep is kept to its end, and the
text goes on with no word character. -/
theorem Covers.word_rest {p : Option Char} {word after text : Text}
    (h : Covers (.kept p) (word ++ after) text)
    (hword : ∀ c ∈ word, isWord c = true)
    (hright : after.head?.any isWord = false) :
    ∃ after', text = word ++ after' ∧ after'.head?.any isWord = false := by
  induction word generalizing p text with
  | nil =>
      refine ⟨text, rfl, ?_⟩
      rw [List.nil_append] at h
      cases h with
      | done => rfl
      | cut hc => simpa using hc p rfl
      | keep => simpa using hright
      | blank hc => simpa using hc p rfl
  | cons c cs ih =>
      rw [List.cons_append] at h
      have hcs : ∀ d ∈ cs, isWord d = true :=
        fun d hd => hword d (List.mem_cons_of_mem c hd)
      cases h with
      | keep _ h =>
          obtain ⟨after', rfl, hafter⟩ := ih h hcs
          exact ⟨after', rfl, hafter⟩
      | blank => exact absurd (hword ' ' List.mem_cons_self) (by decide)

/-- A word of the result is a part of the text at the same column. Behind it
stands no word character, and before it none but a flag. -/
theorem Covers.word {e : Edge} {before word after text : Text}
    (h : Covers e (before ++ word ++ after) text) (hrun : IsRun word)
    (hleft : (lastOr e.seen before).any isWord = false)
    (hright : after.head?.any isWord = false) :
    ∃ before' after', text = before' ++ word ++ after' ∧
      before'.length = before.length ∧
      (∀ c ∈ lastOr e.raw before', isWord c = true → isRegexpFlag c = true) ∧
      after'.head?.any isWord = false := by
  induction before generalizing e text with
  | nil =>
      obtain ⟨c, cs, rfl⟩ := List.exists_cons_of_ne_nil hrun.nonempty
      rw [List.nil_append, List.cons_append] at h
      cases h with
      | keep he h =>
          obtain ⟨after', rfl, hafter⟩ := h.word_rest
            (fun d hd => hrun.inside d (List.mem_cons_of_mem c hd)) hright
          refine ⟨[], after', rfl, rfl, fun d hd hword => ?_, hafter⟩
          cases e with
          | blanked b =>
              obtain rfl : b = d := by simpa [Edge.raw] using hd
              exact he b rfl hword
          | kept p =>
              obtain rfl : p = some d := by simpa [Edge.raw] using hd
              rw [Text.lastOr_nil, Edge.seen, Option.any_some, hword] at hleft
              cases hleft
      | blank => exact absurd (hrun.inside ' ' List.mem_cons_self) (by decide)
  | cons b bs ih =>
      rw [List.cons_append, List.cons_append] at h
      rw [Text.lastOr_cons] at hleft
      cases h with
      | keep _ h =>
          obtain ⟨before', after', rfl, hlen, hflag, hafter⟩ := ih h hleft
          refine ⟨b :: before', after', rfl, by simp [hlen], ?_, hafter⟩
          rw [Text.lastOr_cons]
          exact hflag
      | @blank _ c _ _ _ h =>
          obtain ⟨before', after', rfl, hlen, hflag, hafter⟩ := ih h hleft
          refine ⟨c :: before', after', rfl, by simp [hlen], ?_, hafter⟩
          rw [Text.lastOr_cons]
          exact hflag

/-- A word of a masked body stands in the body at the same column. Behind it
stands no word character, and before it none but the flag of a literal; `p` is
what stands in front of the body and is no word character. -/
theorem word_of_mask {p : Option Char} {body word : Text} {column : Nat}
    (h : Text.WordAt (mask body) column word) (hp : p.any isWord = false) :
    ∃ before after, body = before ++ word ++ after ∧ before.length = column ∧
      (∀ c ∈ lastOr p before, isWord c = true → isRegexpFlag c = true) ∧
      after.head?.any isWord = false := by
  obtain ⟨before, after, hsplit, rfl, hrun, hleft, hright⟩ := h
  have hcovers := mask_covers p body
  rw [hsplit] at hcovers
  refine hcovers.word hrun ?_ hright
  show (lastOr p before).any isWord = false
  rw [lastOr]
  cases hlast : before.getLast? with
  | none => simpa using hp
  | some c => simpa [hlast] using hleft

end GrammarLint.Body
