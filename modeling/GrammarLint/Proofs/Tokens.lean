import GrammarLint.Proofs.HeadText
import GrammarLint.Proofs.Masking
import Mathlib.Data.List.Forall2
import Mathlib.Data.List.Infix

/-!
# Masking a body token by token

The three passes of masking know nothing of tokens. Strings are paired quote by
quote, the cut falls on the first `//` or `->` that is left, and regular
expressions are looked for in what then remains. On a body that is written as
tokens with blanks between them they act token by token all the same, as long
as no token misleads them: a string holds no quote, and a regular expression
holds none of the two marks at which the text is cut and no quote that could
pair with one behind it. Such a token is passed over by the passes that are not
meant for it, or loses no more than characters it will lose anyway, and is
blanked out from end to end by the pass that is.

`mask_token` says this of one plain token in front of any text that does not
continue it, and `mask_render` of a whole body. A plain regular expression has
no quotes at all; `mask_regexp` is the stronger statement for those that do.
-/

namespace GrammarLint.Body

open Text (isWord)

/-- The tokens of a body: a name with its priority, a number, an operator, a
string with or without its flag, a regular expression with its flags. -/
inductive Token where
  | name (name priority : Text)
  | number (digits : Text)
  | operator (symbol : Text)
  | string (inner : Text) (flagged : Bool)
  | regexp (inner flags : Text)
  deriving DecidableEq, Repr

/-- The text has one of the marks at which a body is cut. -/
def HasCut (text : Text) : Prop := ['/', '/'] <:+: text ∨ ['-', '>'] <:+: text

instance (text : Text) : Decidable (HasCut text) :=
  inferInstanceAs (Decidable (_ ∨ _))

/-- The quote stands in the text only behind a backslash, and every backslash
has a character to take along. -/
def isQuotable (quote : Char) : Text → Bool
  | [] => true
  | '\\' :: _ :: cs => isQuotable quote cs
  | c :: cs => c != quote && c != '\\' && isQuotable quote cs

namespace Token

/-- A token as it is written. -/
def text : Token → Text
  | name n priority => n ++ priority
  | number digits => digits
  | operator symbol => symbol
  | string inner flagged =>
    '"' :: (inner ++ '"' :: if flagged then ['i'] else [])
  | regexp inner flags => '/' :: (inner ++ '/' :: flags)

/-- Strings and regular expressions. -/
def isLiteral : Token → Bool
  | string _ _ => true
  | regexp _ _ => true
  | _ => false

/-- What masking should leave of a token. -/
def masked (t : Token) : Text :=
  if t.isLiteral then List.replicate t.text.length ' ' else t.text

theorem masked_literal {t : Token} (h : t.isLiteral = true) :
    t.masked = List.replicate t.text.length ' ' := if_pos h

theorem masked_bare {t : Token} (h : t.isLiteral = false) : t.masked = t.text :=
  if_neg (by rw [h]; exact Bool.false_ne_true)

/-- A token that the passes cannot mistake. A string has no quote
inside. In a regular expression every backslash takes a character along
and every slash is escaped; it holds no quote, no line break and no mark
of a cut. A number is written in digits, signs and points. An operator
is not the arrow of an alias. -/
def Plain : Token → Prop
  | name n priority =>
    (isTerminalName n || isRuleName n) = true ∧ isPriority priority = true
  | number digits => ∀ c ∈ digits, c.isDigit = true ∨ c ∈ ['.', '+', '-']
  | operator symbol =>
    (∀ c ∈ symbol, isWord c = false ∧ c ∉ [' ', '"', '/']) ∧
      ¬ ['-', '>'] <:+: symbol
  | string inner _ => '"' ∉ inner
  | regexp inner flags =>
    isQuotable '/' inner = true ∧ '"' ∉ inner ∧ '\n' ∉ inner ∧
      (∀ c ∈ flags, isRegexpFlag c = true) ∧
        ¬ HasCut (text (regexp inner flags))

-- The quantifiers run over the characters of the token, not over all
-- characters.
instance : (t : Token) → Decidable t.Plain
  | name _ _ => inferInstanceAs (Decidable (_ ∧ _))
  | number digits => List.decidableBAll _ digits
  | operator symbol =>
    @instDecidableAnd _ _ (List.decidableBAll _ symbol) inferInstance
  | string inner _ => inferInstanceAs (Decidable ('"' ∉ inner))
  | regexp _ flags =>
    have : Decidable (∀ c ∈ flags, isRegexpFlag c = true) :=
      List.decidableBAll _ flags
    inferInstanceAs (Decidable (_ ∧ _ ∧ _ ∧ _ ∧ ¬ HasCut _))

end Token

theorem blankStringsFrom_bare {u : Text} (hu : '"' ∉ u) (rest : Text) :
    blankStringsFrom .outside (u ++ rest) =
      u ++ blankStringsFrom .outside rest := by
  induction u with
  | nil => rfl
  | cons c cs ih =>
      rw [List.mem_cons, not_or] at hu
      rw [List.cons_append, blankStringsFrom]
      · rw [if_neg (fun h => by cases h.1), if_neg (fun h => hu.1 h.1.symm),
          ih hu.2]
        rfl
      · intro h; cases h

theorem blankStringsFrom_inside {inner : Text} (hinner : '"' ∉ inner)
    (rest : Text) :
    blankStringsFrom .inside (inner ++ '"' :: rest) =
      List.replicate (inner.length + 1) ' ' ++
      blankStringsFrom .closed rest := by
  induction inner with
  | nil => rfl
  | cons c cs ih =>
      rw [List.mem_cons, not_or] at hinner
      rw [List.cons_append, blankStringsFrom, if_neg (Ne.symm hinner.1),
        ih hinner.2]
      rfl

theorem blankStringsFrom_closed {rest : Text} (hrest : rest.head? ≠ some 'i') :
    blankStringsFrom .closed rest = blankStringsFrom .outside rest := by
  cases rest with
  | nil => rfl
  | cons c cs =>
      have hc : c ≠ 'i' := fun h => hrest (congrArg some h)
      simp [blankStringsFrom, hc]

theorem blankStringsFrom_outer {state : QuoteState} (hstate : state ≠ .inside)
    (c : Char) (cs : Text) :
    blankStringsFrom state (c :: cs) =
      if state = .closed ∧ c = 'i' then ' ' :: blankStringsFrom .outside cs
      else if c = '"' ∧ '"' ∈ cs then ' ' :: blankStringsFrom .inside cs
      else c :: blankStringsFrom .outside cs := by
  cases state with
  | inside => exact absurd rfl hstate
  | outside | closed => rfl

/-- Outside a string a quote opens one, and the contents of the string are
replaced by as many blanks. -/
theorem blankStringsFrom_literal {state : QuoteState} {inner : Text}
    (hstate : state ≠ .inside) (hinner : '"' ∉ inner) (rest : Text) :
    blankStringsFrom state ('"' :: (inner ++ '"' :: rest)) =
      List.replicate (inner.length + 2) ' ' ++
      blankStringsFrom .closed rest := by
  have hclose : '"' ∈ inner ++ '"' :: rest := by simp
  rw [blankStringsFrom_outer hstate, if_neg (fun h => by cases h.2),
    if_pos ⟨rfl, hclose⟩, blankStringsFrom_inside hinner]
  rfl

theorem blankStrings_string {inner rest : Text} (flagged : Bool)
    (hinner : '"' ∉ inner) (hrest : rest.head? ≠ some 'i') :
    blankStrings ((Token.string inner flagged).text ++ rest) =
      (Token.string inner flagged).masked ++ blankStrings rest := by
  have hopen : ∀ more : Text, blankStrings ('"' :: (inner ++ '"' :: more)) =
      List.replicate (inner.length + 2) ' ' ++ blankStringsFrom .closed more :=
    blankStringsFrom_literal (by decide) hinner
  cases flagged with
  | false =>
      have htext : (Token.string inner false).text ++ rest =
          '"' :: (inner ++ '"' :: rest) := by
        simp [Token.text]
      have hlen : (Token.string inner false).text.length =
          inner.length + 2 := by
        simp [Token.text]
      rw [htext, hopen, blankStringsFrom_closed hrest,
        Token.masked_literal rfl, hlen]
      rfl
  | true =>
      have htext : (Token.string inner true).text ++ rest =
          '"' :: (inner ++ '"' :: 'i' :: rest) := by
        simp [Token.text]
      have hlen : (Token.string inner true).text.length =
          inner.length + 2 + 1 := by
        simp [Token.text]
      have hflag : blankStringsFrom .closed ('i' :: rest) =
          ' ' :: blankStrings rest := rfl
      have hsplit : List.replicate (inner.length + 2 + 1) ' ' =
          List.replicate (inner.length + 2) ' ' ++ [' '] := List.replicate_succ'
      rw [htext, hopen, hflag, Token.masked_literal rfl, hlen, hsplit,
        List.append_assoc]
      rfl

/-! ## Quotes in a regular expression

A regular expression may hold quotes. If their number is even, or if no quote
follows, they pair among themselves: the pass over strings blanks some of the
characters in between and is outside a string at the end. What it leaves is
still the inside of a regular expression, because it never separates a
backslash from the character it takes along. Either both are blanked, or the
backslash stays and has that character or a blank behind it. -/

/-- The first text is the second with some characters blanked. -/
def Dims (kept text : Text) : Prop :=
  List.Forall₂ (fun d c => d = c ∨ d = ' ') kept text

theorem mem_of_dims {kept text : Text} {c : Char} (h : Dims kept text)
    (hblank : c ≠ ' ') (hc : c ∈ kept) : c ∈ text := by
  induction h with
  | nil => exact hc
  | cons hd _ ih =>
      rcases List.mem_cons.mp hc with rfl | hc
      · exact List.mem_cons.mpr (.inl (hd.resolve_right hblank))
      · exact List.mem_cons_of_mem _ (ih hc)

theorem pair_infix_of_dims {kept text : Text} {a b : Char} (h : Dims kept text)
    (ha : a ≠ ' ') (hb : b ≠ ' ') (hpair : [a, b] <:+: kept) :
    [a, b] <:+: text := by
  induction h with
  | nil => exact hpair
  | @cons d c ds cs hd hds ih =>
      rcases List.infix_cons_iff.mp hpair with hpair | hpair
      · obtain ⟨more, hmore⟩ := hpair
        obtain ⟨rfl, rfl⟩ : a = d ∧ b :: more = ds := List.cons.inj hmore
        cases hds with
        | cons he _ =>
            rw [← hd.resolve_right ha, ← he.resolve_right hb]
            exact (List.prefix_append [_, _] _).isInfix
      · exact (ih hpair).trans (List.suffix_cons c cs).isInfix

theorem hasCut_of_dims {kept text : Text} (h : Dims kept text)
    (hcut : HasCut kept) :
    HasCut text :=
  hcut.imp (pair_infix_of_dims h (by decide) (by decide))
    (pair_infix_of_dims h (by decide) (by decide))

/-- A walk that enters the text in the state leaves it outside a string: the
quotes of the text pair among themselves, or none follows for the last one. -/
def QuoteState.Settles (state : QuoteState) (inner rest : Text) : Prop :=
  match state with
  | .inside => '"' ∈ inner ∧ (inner.count '"' % 2 = 1 ∨ '"' ∉ rest)
  | _ => inner.count '"' % 2 = 0 ∨ '"' ∉ rest

theorem blankStringsFrom_inside_step {c : Char} {cs rest : Text}
    (h : QuoteState.inside.Settles (c :: cs) rest) :
    ∃ state : QuoteState,
      blankStringsFrom .inside (c :: (cs ++ rest)) =
        ' ' :: blankStringsFrom state (cs ++ rest) ∧
      state.Settles cs rest ∧ (c ≠ '"' → state = .inside) := by
  obtain ⟨hmem, hcount⟩ := h
  rw [blankStringsFrom]
  by_cases hc : c = '"'
  · subst hc
    refine ⟨.closed, by rw [if_pos rfl], ?_, fun h => absurd rfl h⟩
    refine hcount.imp_left fun h => ?_
    rw [List.count_cons_self] at h
    omega
  · refine ⟨.inside, by rw [if_neg hc], ⟨?_, ?_⟩, fun _ => rfl⟩
    · exact (List.mem_cons.mp hmem).resolve_left (Ne.symm hc)
    · rwa [List.count_cons_of_ne hc] at hcount

theorem blankStringsFrom_outer_step {state : QuoteState} {c : Char}
    {cs rest : Text} (hstate : state ≠ .inside)
    (h : state.Settles (c :: cs) rest) :
    ∃ (d : Char) (next : QuoteState),
      blankStringsFrom state (c :: (cs ++ rest)) =
        d :: blankStringsFrom next (cs ++ rest) ∧
      next.Settles cs rest ∧ (d = c ∨ d = ' ') ∧ (c = '\\' → d = c) := by
  have hcount : (c :: cs).count '"' % 2 = 0 ∨ '"' ∉ rest := by
    cases state with
    | inside => exact absurd rfl hstate
    | outside | closed => exact h
  have hother : c ≠ '"' → QuoteState.outside.Settles cs rest := by
    intro hc
    rwa [List.count_cons_of_ne hc] at hcount
  rw [blankStringsFrom]
  · split
    · next hflag =>
        obtain ⟨-, rfl⟩ := hflag
        exact ⟨' ', .outside, rfl, hother (by decide), .inr rfl, by decide⟩
    · split
      · next hquote =>
          obtain ⟨rfl, hmem⟩ := hquote
          refine ⟨' ', .inside, rfl, ?_, .inr rfl, by decide⟩
          rw [List.count_cons_self] at hcount
          have hleft : '"' ∈ cs := by
            rcases hcount with hodd | hnone
            · exact List.count_pos_iff.mp (by omega)
            · exact (List.mem_append.mp hmem).resolve_right hnone
          exact ⟨hleft, hcount.imp_left fun h => by omega⟩
      · next hquote =>
          refine ⟨c, .outside, rfl, ?_, .inl rfl, fun _ => rfl⟩
          by_cases hc : c = '"'
          · subst hc
            refine .inr fun hmem => hquote ⟨rfl, List.mem_append_right cs hmem⟩
          · exact hother hc
  · intro hinside
    exact absurd hinside hstate

theorem blankStringsFrom_step {state : QuoteState} {c : Char} {cs rest : Text}
    (h : state.Settles (c :: cs) rest) :
    ∃ (d : Char) (next : QuoteState),
      blankStringsFrom state (c :: (cs ++ rest)) =
        d :: blankStringsFrom next (cs ++ rest) ∧
      next.Settles cs rest ∧ (d = c ∨ d = ' ') := by
  by_cases hstate : state = .inside
  · subst hstate
    obtain ⟨next, hstep, hsettles, -⟩ := blankStringsFrom_inside_step h
    exact ⟨' ', next, hstep, hsettles, .inr rfl⟩
  · obtain ⟨d, next, hstep, hsettles, hd, -⟩ :=
      blankStringsFrom_outer_step hstate h
    exact ⟨d, next, hstep, hsettles, hd⟩

theorem isQuotable_cons {c : Char} {cs : Text} (hslash : c ≠ '/')
    (hback : c ≠ '\\') (hcs : isQuotable '/' cs = true) :
    isQuotable '/' (c :: cs) = true := by
  rw [isQuotable]
  · simp [hslash, hback, hcs]
  · intro d ds h
    exact absurd h hback

theorem blankStringsFrom_quotable {state : QuoteState} {inner rest : Text}
    (hquotable : isQuotable '/' inner = true)
    (hsettles : state.Settles inner rest) (hrest : rest.head? ≠ some 'i') :
    ∃ kept, blankStringsFrom state (inner ++ rest) =
      kept ++ blankStringsFrom .outside rest ∧
      Dims kept inner ∧ isQuotable '/' kept = true := by
  fun_induction isQuotable '/' inner generalizing state with
  | case1 =>
      refine ⟨[], ?_, .nil, rfl⟩
      cases state with
      | outside => rfl
      | inside => cases hsettles.1
      | closed => exact blankStringsFrom_closed hrest
  | case2 c cs ih =>
      by_cases hstate : state = .inside
      · subst hstate
        obtain ⟨_, hfirst, hsettles, hnext⟩ :=
          blankStringsFrom_inside_step hsettles
        obtain rfl := hnext (by decide)
        obtain ⟨next, hsecond, hsettles, -⟩ :=
          blankStringsFrom_inside_step hsettles
        obtain ⟨kept, hkept, hdims, hquot⟩ := ih hquotable hsettles
        refine ⟨' ' :: ' ' :: kept, ?_,
          .cons (.inr rfl) (.cons (.inr rfl) hdims), ?_⟩
        · rw [List.cons_append, hfirst, List.cons_append, hsecond, hkept]
          rfl
        · exact isQuotable_cons (by decide) (by decide)
            (isQuotable_cons (by decide) (by decide) hquot)
      · obtain ⟨d, next, hfirst, hsettles, -, hback⟩ :=
          blankStringsFrom_outer_step hstate hsettles
        obtain rfl := hback rfl
        obtain ⟨e, last, hsecond, hsettles, he⟩ :=
          blankStringsFrom_step hsettles
        obtain ⟨kept, hkept, hdims, hquot⟩ := ih hquotable hsettles
        refine ⟨'\\' :: e :: kept, ?_, .cons (.inl rfl) (.cons he hdims), ?_⟩
        · rw [List.cons_append, hfirst, List.cons_append, hsecond, hkept]
          rfl
        · rw [isQuotable]
          exact hquot
  | case3 c cs _ ih =>
      simp only [Bool.and_eq_true, bne_iff_ne] at hquotable
      obtain ⟨⟨hslash, hback⟩, hcs⟩ := hquotable
      obtain ⟨d, next, hstep, hsettles, hd⟩ := blankStringsFrom_step hsettles
      obtain ⟨kept, hkept, hdims, hquot⟩ := ih hcs hsettles
      refine ⟨d :: kept, by rw [List.cons_append, hstep, hkept]; rfl,
        .cons hd hdims, ?_⟩
      rcases hd with rfl | rfl
      · exact isQuotable_cons hslash hback hquot
      · exact isQuotable_cons (by decide) (by decide) hquot

theorem cutTail_cons {c : Char} {cs : Text}
    (hslash : c = '/' → cs.head? ≠ some '/') (hdash : c = '-' →
      cs.head? ≠ some '>') : cutTail (c :: cs) = c :: cutTail cs := by
  rw [cutTail]
  · intro rest hc hcs
    exact hslash hc (by rw [hcs]; rfl)
  · intro rest hc hcs
    exact hdash hc (by rw [hcs]; rfl)

theorem cutTail_append {u rest : Text} (hu : ¬ HasCut u)
    (hslash : u.getLast? = some '/' → rest.head? ≠ some '/')
    (hdash : u.getLast? = some '-' → rest.head? ≠ some '>') :
    cutTail (u ++ rest) = u ++ cutTail rest := by
  induction u with
  | nil => rfl
  | cons c cs ih =>
      rw [HasCut, not_or] at hu
      have hcs : ¬ HasCut cs := by
        intro hcases
        rcases hcases with h | h
        · exact hu.1 (h.trans (List.suffix_cons c cs).isInfix)
        · exact hu.2 (h.trans (List.suffix_cons c cs).isInfix)
      cases cs with
      | nil =>
          refine cutTail_cons (fun hc => ?_) (fun hc => ?_)
          · exact hslash (congrArg some hc)
          · exact hdash (congrArg some hc)
      | cons d ds =>
          rw [List.getLast?_cons_cons] at hslash hdash
          rw [List.cons_append, cutTail_cons, ih hcs hslash hdash]
          · rfl
          · intro heq hd
            subst heq
            obtain rfl : d = '/' := Option.some.inj hd
            exact hu.1 ⟨[], ds, rfl⟩
          · intro heq hd
            subst heq
            obtain rfl : d = '>' := Option.some.inj hd
            exact hu.2 ⟨[], ds, rfl⟩

theorem head?_cutTail (text : Text) :
    (cutTail text).head? = none ∨ (cutTail text).head? = text.head? := by
  fun_cases cutTail text with
  | case1 => exact .inl rfl
  | case2 => exact .inl rfl
  | case3 c cs => exact .inr rfl
  | case4 => exact .inl rfl

theorem blankRegexpsFrom_bare {u : Text} (hu : '/' ∉ u) (rest : Text) :
    blankRegexpsFrom .outside (u ++ rest) =
      u ++ blankRegexpsFrom .outside rest := by
  induction u with
  | nil => rfl
  | cons c cs ih =>
      rw [List.mem_cons, not_or] at hu
      rw [List.cons_append, blankRegexpsFrom]
      · rw [if_neg (fun h => by cases h.1), if_neg (fun h => hu.1 h.1.symm),
          ih hu.2]
        rfl
      · intro h; cases h
      · intro h; cases h

theorem closesRegexp_of_isQuotable {inner : Text}
    (hquotable : isQuotable '/' inner = true) (hbreak : '\n' ∉ inner)
    (rest : Text) : closesRegexp (inner ++ '/' :: rest) = true := by
  fun_induction isQuotable '/' inner with
  | case1 => rfl
  | case2 d cs ih =>
      simp only [List.mem_cons, not_or] at hbreak
      rw [List.cons_append, List.cons_append, closesRegexp,
        ih hquotable hbreak.2.2]
      simpa using Ne.symm hbreak.2.1
  | case3 c cs _ ih =>
      simp only [Bool.and_eq_true, bne_iff_ne] at hquotable
      obtain ⟨⟨hslash, hback⟩, hcs⟩ := hquotable
      rw [List.mem_cons, not_or] at hbreak
      rw [List.cons_append, closesRegexp, ih hcs hbreak.2]
      · simpa using .inr hback
      · intro d ds hc
        exact absurd hc hback

theorem blankRegexpsFrom_inside {inner : Text}
    (hquotable : isQuotable '/' inner = true) (rest : Text) :
    blankRegexpsFrom .inside (inner ++ '/' :: rest) =
      List.replicate (inner.length + 1) ' ' ++
      blankRegexpsFrom .flags rest := by
  fun_induction isQuotable '/' inner with
  | case1 => rfl
  | case2 d cs ih =>
      have hstep : blankRegexpsFrom .inside ('\\' :: d :: (cs ++ '/' :: rest)) =
          ' ' :: ' ' :: blankRegexpsFrom .inside (cs ++ '/' :: rest) := by
        simp [blankRegexpsFrom]
      rw [List.cons_append, List.cons_append, hstep, ih hquotable]
      rfl
  | case3 c cs _ ih =>
      simp only [Bool.and_eq_true, bne_iff_ne] at hquotable
      obtain ⟨⟨hslash, hback⟩, hcs⟩ := hquotable
      rw [List.cons_append, blankRegexpsFrom, if_neg hslash,
        if_neg hback, ih hcs]
      rfl

theorem blankRegexpsFrom_flags {flags rest : Text}
    (hflags : ∀ c ∈ flags, isRegexpFlag c = true)
    (hrest : rest.head?.any isRegexpFlag = false) :
    blankRegexpsFrom .flags (flags ++ rest) =
      List.replicate flags.length ' ' ++ blankRegexpsFrom .outside rest := by
  induction flags with
  | nil =>
      cases rest with
      | nil => rfl
      | cons c cs =>
          have hc : isRegexpFlag c = false := hrest
          simp [blankRegexpsFrom, hc]
  | cons f fs ih =>
      have hf : isRegexpFlag f = true := hflags f List.mem_cons_self
      have hfs := ih fun c hc => hflags c (List.mem_cons_of_mem f hc)
      have hstep : blankRegexpsFrom .flags (f :: (fs ++ rest)) =
          ' ' :: blankRegexpsFrom .flags (fs ++ rest) := by
        simp [blankRegexpsFrom, hf]
      rw [List.cons_append, hstep, hfs]
      rfl

theorem blankRegexps_regexp {inner flags rest : Text}
    (hquotable : isQuotable '/' inner = true) (hbreak : '\n' ∉ inner)
    (hflags : ∀ c ∈ flags, isRegexpFlag c = true)
    (hrest : rest.head?.any isRegexpFlag = false) :
    blankRegexps ((Token.regexp inner flags).text ++ rest) =
      (Token.regexp inner flags).masked ++ blankRegexps rest := by
  have htext : (Token.regexp inner flags).text ++ rest =
      '/' :: (inner ++ '/' :: (flags ++ rest)) := by
    simp [Token.text]
  have hlen : (Token.regexp inner flags).text.length =
      inner.length + 2 + flags.length := by
    simp [Token.text]
    omega
  have hopen : blankRegexps ('/' :: (inner ++ '/' :: (flags ++ rest))) =
      ' ' :: blankRegexpsFrom .inside (inner ++ '/' :: (flags ++ rest)) := by
    simp [blankRegexps, blankRegexpsFrom,
      closesRegexp_of_isQuotable hquotable hbreak]
  have hsplit : List.replicate (inner.length + 2 + flags.length) ' ' =
      List.replicate (inner.length + 2) ' ' ++
      List.replicate flags.length ' ' :=
    List.replicate_add _ _ _
  rw [htext, hopen, blankRegexpsFrom_inside hquotable,
    blankRegexpsFrom_flags hflags hrest, Token.masked_literal rfl, hlen, hsplit,
    List.append_assoc]
  rfl

/-! ## All three passes

A token is masked on its own if what follows does not join it: no flag, no
quote, and no character that would complete a mark of a cut. -/

/-- No token is continued by what the text opens with. -/
def Apart (rest : Text) : Prop :=
  ∀ c ∈ rest.head?, isWord c = false ∧ c ≠ '"' ∧ c ≠ '>'

theorem head?_blankStrings {rest : Text} (hrest : Apart rest) :
    (blankStrings rest).head? = rest.head? := by
  cases rest with
  | nil => rfl
  | cons c cs =>
      have hc : c ≠ '"' := (hrest c rfl).2.1
      simp [blankStrings, blankStringsFrom, hc]

theorem not_hasCut {u : Text} (hslash : '/' ∉ u)
    (harrow : ¬ ['-', '>'] <:+: u) :
    ¬ HasCut u := by
  intro hcases
  rcases hcases with h | h
  · exact hslash (h.subset List.mem_cons_self)
  · exact harrow h

theorem cutTail_apart {u rest : Text} (hcut : ¬ HasCut u) (hrest : Apart rest)
    (hslash : u.getLast? = some '/' → rest.head? ≠ some '/') :
    cutTail (u ++ blankStrings rest) = u ++ cutTail (blankStrings rest) := by
  have hhead := head?_blankStrings hrest
  refine cutTail_append hcut (fun hlast => ?_) (fun _ h => ?_)
  · rw [hhead]
    exact hslash hlast
  · rw [hhead] at h
    exact (hrest '>' h).2.2 rfl

theorem mask_bare {u rest : Text} (hquote : '"' ∉ u) (hslash : '/' ∉ u)
    (harrow : ¬ ['-', '>'] <:+: u) (hrest : Apart rest) :
    mask (u ++ rest) = u ++ mask rest := by
  have hstrings : blankStrings (u ++ rest) = u ++ blankStrings rest :=
    blankStringsFrom_bare hquote rest
  rw [mask, hstrings, cutTail_apart (not_hasCut hslash harrow) hrest
    (fun hlast => absurd (List.mem_of_getLast? hlast) hslash), blankRegexps,
    blankRegexpsFrom_bare hslash]
  rfl

theorem mask_blanks (n : Nat) (rest : Text) :
    mask (List.replicate n ' ' ++ rest) =
      List.replicate n ' ' ++ mask rest := by
  induction n with
  | zero => rfl
  | succ n ih =>
      have hblank : ∀ text : Text, mask (' ' :: text) = ' ' :: mask text := by
        intro text
        simp [mask, blankStrings, blankStringsFrom, cutTail, blankRegexps,
          blankRegexpsFrom]
      rw [List.replicate_succ, List.cons_append, hblank, ih]
      rfl

theorem mask_string {inner rest : Text} (flagged : Bool) (hinner : '"' ∉ inner)
    (hflag : rest.head? ≠ some 'i') :
    mask ((Token.string inner flagged).text ++ rest) =
      (Token.string inner flagged).masked ++ mask rest := by
  have hslash : '/' ∉ (Token.string inner flagged).masked := by
    intro h
    exact absurd (List.eq_of_mem_replicate h) (by decide)
  have harrow : ¬ ['-', '>'] <:+: (Token.string inner flagged).masked := by
    intro h
    exact absurd (List.eq_of_mem_replicate (h.subset List.mem_cons_self))
      (by decide)
  have hlast : (Token.string inner flagged).masked.getLast? ≠ some '-' := by
    intro h
    exact absurd (List.eq_of_mem_replicate (List.mem_of_getLast? h)) (by decide)
  rw [mask, blankStrings_string flagged hinner hflag,
    cutTail_append (not_hasCut hslash harrow)
      (fun h => absurd (List.mem_of_getLast? h) hslash)
      (fun h => absurd h hlast),
    blankRegexps, blankRegexpsFrom_bare hslash]
  rfl

/-- What the pass over strings leaves of a regular expression is one again. -/
theorem blankStrings_regexp {inner flags rest : Text}
    (hquotable : isQuotable '/' inner = true)
    (hquotes : inner.count '"' % 2 = 0 ∨ '"' ∉ rest)
    (hflags : ∀ c ∈ flags, isRegexpFlag c = true) :
    ∃ kept, blankStrings ((Token.regexp inner flags).text ++ rest) =
        (Token.regexp kept flags).text ++ blankStrings rest ∧
      Dims kept inner ∧ isQuotable '/' kept = true := by
  have hfree : '"' ∉ '/' :: flags := by
    rw [List.mem_cons, not_or]
    exact ⟨by decide, fun h => absurd (hflags '"' h) (by decide)⟩
  have hsettles : QuoteState.outside.Settles inner (('/' :: flags) ++ rest) :=
    hquotes.imp_right fun h => by
      rw [List.mem_append, not_or]
      exact ⟨hfree, h⟩
  have hopen : (('/' :: flags) ++ rest).head? ≠ some 'i' :=
    fun h => absurd (Option.some.inj h) (by decide)
  obtain ⟨kept, hkept, hdims, hquot⟩ :=
    blankStringsFrom_quotable hquotable hsettles hopen
  refine ⟨kept, ?_, hdims, hquot⟩
  have htext : (Token.regexp inner flags).text ++ rest =
      ['/'] ++ (inner ++ (('/' :: flags) ++ rest)) := by
    simp [Token.text]
  rw [blankStrings, htext, blankStringsFrom_bare (by decide), hkept,
    blankStringsFrom_bare hfree, blankStrings]
  simp [Token.text]

/-- A regular expression is masked on its own if it holds no mark of a cut and
its quotes pair among themselves or have none behind them. -/
theorem mask_regexp {inner flags rest : Text}
    (hquotable : isQuotable '/' inner = true) (hbreak : '\n' ∉ inner)
    (hflags : ∀ c ∈ flags, isRegexpFlag c = true)
    (hcut : ¬ HasCut (Token.regexp inner flags).text)
    (hquotes : inner.count '"' % 2 = 0 ∨ '"' ∉ rest) (hrest : Apart rest)
    (hslash : (Token.regexp inner flags).text.getLast? = some '/' →
      rest.head? ≠ some '/') :
    mask ((Token.regexp inner flags).text ++ rest) =
      (Token.regexp inner flags).masked ++ mask rest := by
  obtain ⟨kept, hkept, hdims, hquot⟩ :=
    blankStrings_regexp hquotable hquotes hflags
  have hclose : Dims ('/' :: flags) ('/' :: flags) :=
    List.forall₂_same.mpr fun _ _ => .inl rfl
  have hwhole :
      Dims (Token.regexp kept flags).text (Token.regexp inner flags).text :=
    .cons (.inl rfl) (List.rel_append hdims hclose)
  have hlast : (Token.regexp kept flags).text.getLast? =
      (Token.regexp inner flags).text.getLast? := by
    simp [Token.text, List.getLast?_cons, List.getLast?_append]
  have hnext : (cutTail (blankStrings rest)).head?.any isRegexpFlag =
      false := by
    rw [← Bool.not_eq_true, Option.any_eq_true]
    intro hgiven
    obtain ⟨c, hc, hflag⟩ := hgiven
    rcases head?_cutTail (blankStrings rest) with h | h
    · rw [h] at hc
      cases hc
    · rw [h, head?_blankStrings hrest] at hc
      have hword := isWord_of_isRegexpFlag hflag
      rw [(hrest c hc).1] at hword
      cases hword
  have hmasked : (Token.regexp kept flags).masked =
      (Token.regexp inner flags).masked := by
    rw [Token.masked_literal rfl, Token.masked_literal rfl, hwhole.length_eq]
  rw [mask, hkept,
    cutTail_apart (fun h => hcut (hasCut_of_dims hwhole h)) hrest
      (by rwa [hlast]),
    blankRegexps_regexp hquot
      (fun h => hbreak (mem_of_dims hdims (by decide) h)) hflags hnext,
    hmasked]
  rfl

/-- A plain token that is no literal has no quote, no slash and no arrow. -/
theorem Token.Plain.bare {t : Token} (ht : t.Plain)
    (hliteral : t.isLiteral = false) :
    '"' ∉ t.text ∧ '/' ∉ t.text ∧ ¬ ['-', '>'] <:+: t.text := by
  cases t with
  | name n priority =>
      have hchar : ∀ c ∈ n ++ priority, isWord c = true ∨ c = '.' := by
        intro c hc
        rcases List.mem_append.mp hc with hc | hc
        · have hrun := SymbolKind.isRun_of_ofName? (ofName?_of_spelled ht.1)
          exact .inl (hrun.inside c hc)
        · rcases mem_priority ht.2 hc with h | h
          · exact .inl (isWord_of_isDigit h)
          · exact .inr h
      refine ⟨fun h => ?_, fun h => ?_, fun h => ?_⟩
      · exact absurd (hchar _ h) (by decide)
      · exact absurd (hchar _ h) (by decide)
      · exact absurd (hchar _ (h.subset List.mem_cons_self)) (by decide)
  | number digits =>
      refine ⟨fun h => ?_, fun h => ?_, fun h => ?_⟩
      · exact absurd (ht _ h) (by decide)
      · exact absurd (ht _ h) (by decide)
      · exact absurd (ht '>'
            (h.subset (List.mem_cons_of_mem _ List.mem_cons_self)))
          (by decide)
  | operator symbol =>
      refine ⟨fun h => ?_, fun h => ?_, ht.2⟩
      · exact absurd (ht.1 _ h).2 (by decide)
      · exact absurd (ht.1 _ h).2 (by decide)
  | string | regexp => cases hliteral

/-- A plain token is masked as it should be, whatever follows it apart. Only a
slash must not follow a slash. -/
theorem mask_token {t : Token} {rest : Text} (ht : t.Plain) (hrest : Apart rest)
    (hslash : t.text.getLast? = some '/' → rest.head? ≠ some '/') :
    mask (t.text ++ rest) = t.masked ++ mask rest := by
  cases hliteral : t.isLiteral with
  | false =>
      obtain ⟨hquote, hslash, harrow⟩ := ht.bare hliteral
      rw [mask_bare hquote hslash harrow hrest, Token.masked_bare hliteral]
  | true =>
      cases t with
      | name | number | operator => cases hliteral
      | string inner flagged =>
          exact mask_string flagged ht fun h => absurd (hrest 'i' h).1
            (by decide)
      | regexp inner flags =>
          obtain ⟨hquotable, hquote, hbreak, hflags, hcut⟩ := ht
          have hnone : inner.count '"' % 2 = 0 := by
            rw [List.count_eq_zero_of_not_mem hquote]
          exact mask_regexp hquotable hbreak hflags hcut
            (.inl hnone) hrest hslash

/-- A token with the number of blanks in front of it. -/
structure Spaced where
  gap : Nat
  token : Token
  deriving DecidableEq, Repr

namespace Spaced

/-- The blanks and the token as they are written. -/
def text (s : Spaced) : Text := List.replicate s.gap ' ' ++ s.token.text

/-- The blanks and what masking should leave of the token. -/
def masked (s : Spaced) : Text := List.replicate s.gap ' ' ++ s.token.masked

end Spaced

/-- A body as it is written. -/
def render (ts : List Spaced) : Text := ts.flatMap Spaced.text

/-- Between two tokens stands at least one blank. -/
def Separated (ts : List Spaced) : Prop := ∀ s ∈ ts.tail, 0 < s.gap

instance (ts : List Spaced) : Decidable (Separated ts) :=
  inferInstanceAs (Decidable (∀ s ∈ ts.tail, _))

theorem apart_blank (rest : Text) : Apart (' ' :: rest) := by
  intro c hc
  obtain rfl : ' ' = c := Option.some.inj hc
  decide

theorem render_cons (s : Spaced) (ts : List Spaced) :
    render (s :: ts) = s.text ++ render ts :=
  List.flatMap_cons

theorem render_append (ts us : List Spaced) :
    render (ts ++ us) = render ts ++ render us :=
  List.flatMap_append

theorem render_cons_append (s : Spaced) (ts : List Spaced) (rest : Text) :
    render (s :: ts) ++ rest =
      List.replicate s.gap ' ' ++ (s.token.text ++ (render ts ++ rest)) := by
  rw [render_cons, Spaced.text]
  simp only [List.append_assoc]

/-- Where blanks keep a token apart, its body opens with one. -/
theorem render_of_gap {s : Spaced} {ts : List Spaced} (h : 0 < s.gap) :
    ∃ more, render (s :: ts) = ' ' :: more := by
  obtain ⟨n, hn⟩ := Nat.exists_eq_succ_of_ne_zero (Nat.ne_of_gt h)
  refine ⟨List.replicate n ' ' ++ (s.token.text ++ render ts), ?_⟩
  rw [render_cons, Spaced.text, hn, List.append_assoc]
  rfl

/-- Masking acts token by token on a body of plain tokens and goes on behind
it. A comment must not follow a closing slash without a blank. -/
theorem mask_render {ts : List Spaced} {rest : Text}
    (hplain : ∀ s ∈ ts, s.token.Plain) (hsep : Separated ts)
    (hrest : Apart rest) (hslash : ∀ s ∈ ts.getLast?,
      s.token.text.getLast? = some '/' → rest.head? ≠ some '/') :
    mask (render ts ++ rest) = ts.flatMap Spaced.masked ++ mask rest := by
  induction ts with
  | nil => rfl
  | cons s ts ih =>
      have hs : s.token.Plain := hplain s List.mem_cons_self
      rw [render_cons_append, mask_blanks, List.flatMap_cons, Spaced.masked,
        List.append_assoc, List.append_assoc]
      congr 1
      cases ts with
      | nil => exact mask_token hs hrest (hslash s rfl)
      | cons s' ts =>
          obtain ⟨more, hmore⟩ : ∃ more, render (s' :: ts) = ' ' :: more :=
            render_of_gap (hsep s' List.mem_cons_self)
          have hnext := ih (fun q hq => hplain q (List.mem_cons_of_mem s hq))
            (fun q hq => hsep q (List.mem_cons_of_mem s' hq))
            (fun q hq => hslash q (by rwa [List.getLast?_cons_cons]))
          rw [← hnext, hmore]
          refine mask_token hs (apart_blank _) (fun _ h => ?_)
          exact absurd (Option.some.inj h) (by decide)

end GrammarLint.Body
