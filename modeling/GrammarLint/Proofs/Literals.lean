import GrammarLint.Proofs.TokenLines

/-!
# Errors inside literals

No word of a literal is a reference, and masking is there to see to it. On the
tokens of the grammar language it does so with four exceptions, and this file
says which.

A string may hold a quote behind a backslash. The pass over strings does not
know of backslashes and takes that quote for the end, so what follows is read
as if it stood outside. A regular expression may hold a quote. Two of them pair
with each other and do no harm, but an odd one pairs with the next quote of the
line and takes the closing slash along. A regular expression may hold `//` or
`->`, at which the body is cut before anyone looks for the closing slash; a `\/`
at its end is enough. And a comment right behind its closing slash takes that
slash along.

If an error lies inside a literal, then that literal or a token before it is of
one of these kinds, which is what `misled_of_liesIn` says. The tokens are taken
off from the left, each by `mask_legal`: it is masked on its own, or it holds
the arrow of an alias and nothing behind it is left to look at. That the first
kind does do harm is `wordAt_escaped`: the name behind the first escaped quote
of a string always comes out as a word.
-/

namespace GrammarLint

open Text (IsRun isWord WordAt)

namespace Body

/-- A token that the grammar language allows. In a string a quote stands behind
a backslash, in a regular expression a slash does. The arrow of an alias is an
operator like any other. -/
def Token.Legal : Token → Prop
  | name n priority =>
    (isTerminalName n || isRuleName n) = true ∧ isPriority priority = true
  | number digits => ∀ c ∈ digits, c.isDigit = true ∨ c ∈ ['.', '+', '-']
  | operator symbol => ∀ c ∈ symbol, isWord c = false ∧ c ∉ [' ', '"', '/']
  | string inner _ => isQuotable '"' inner = true
  | regexp inner flags =>
    isQuotable '/' inner = true ∧ '\n' ∉ inner ∧
    ∀ c ∈ flags, isRegexpFlag c = true

/-- A literal that the passes mistake, in front of the rest of its line: a
string that holds a quote, or a regular expression that holds the mark of a cut,
or an odd number of quotes when the line has another one behind it, or that ends
with its slash when another slash follows at once. -/
def Token.Misleads (rest : Text) : Token → Prop
  | string inner _ => '"' ∈ inner
  | regexp inner flags =>
    HasCut (text (regexp inner flags)) ∨
      inner.count '"' % 2 = 1 ∧ '"' ∈ rest ∨
      flags = [] ∧ rest.head? = some '/'
  | _ => False

instance : (t : Token) → Decidable t.Legal
  | .name _ _ => inferInstanceAs (Decidable (_ ∧ _))
  | .number digits => List.decidableBAll _ digits
  | .operator symbol => List.decidableBAll _ symbol
  | .string _ _ => inferInstanceAs (Decidable (_ = true))
  | .regexp _ flags =>
    have : Decidable (∀ c ∈ flags, isRegexpFlag c = true) :=
      List.decidableBAll _ flags
    inferInstanceAs (Decidable (_ ∧ _ ∧ _))

theorem length_cutTail_cons_le (c : Char) (cs : Text) :
    (cutTail (c :: cs)).length ≤ (cutTail cs).length + 1 := by
  rw [cutTail.eq_def]
  split
  · exact Nat.zero_le _
  · exact Nat.zero_le _
  · next heq =>
      obtain ⟨-, rfl⟩ := List.cons.inj heq
      exact Nat.le_refl _
  · next heq => cases heq

theorem length_cutTail_append_le {u : Text} (hu : HasCut u) (rest : Text) :
    (cutTail (u ++ rest)).length ≤ u.length := by
  induction u with
  | nil => rcases hu with h | h <;> cases List.infix_nil.mp h
  | cons c cs ih =>
      have hlater : HasCut cs →
          (cutTail ((c :: cs) ++ rest)).length ≤ (c :: cs).length :=
        fun h => (length_cutTail_cons_le c (cs ++ rest)).trans
          (Nat.succ_le_succ (ih h))
      rcases hu with h | h
      · rcases List.infix_cons_iff.mp h with ⟨more, hmore⟩ | h
        · rw [← hmore]
          exact Nat.zero_le _
        · exact hlater (.inl h)
      · rcases List.infix_cons_iff.mp h with ⟨more, hmore⟩ | h
        · rw [← hmore]
          exact Nat.zero_le _
        · exact hlater (.inr h)

theorem Covers.length_le {e : Edge} {masked text : Text}
    (h : Covers e masked text) :
    masked.length ≤ text.length := by
  induction h with
  | done => exact Nat.le_refl _
  | cut => exact Nat.zero_le _
  | keep _ _ ih => exact Nat.succ_le_succ ih
  | blank _ _ ih => exact Nat.succ_le_succ ih

/-- Nothing is left behind a text that is cut. -/
theorem length_mask_append_le {u : Text} (hquote : '"' ∉ u) (hcut : HasCut u)
    (rest : Text) :
    (mask (u ++ rest)).length ≤ u.length := by
  have hstrings : blankStrings (u ++ rest) = u ++ blankStrings rest :=
    blankStringsFrom_bare hquote rest
  have hregexps :
      Covers (.kept none) (mask (u ++ rest))
        (cutTail (blankStrings (u ++ rest))) :=
    blankRegexpsFrom_covers ⟨none, rfl⟩
  refine hregexps.length_le.trans ?_
  rw [hstrings]
  exact length_cutTail_append_le hcut _

/-- Nothing can join a plain token that is no regular expression. -/
theorem mask_token_of_ne {t : Token} {rest : Text} (ht : t.Plain)
    (hne : ∀ inner, t ≠ .regexp inner []) (hrest : Apart rest) :
    mask (t.text ++ rest) = t.masked ++ mask rest := by
  refine mask_token ht hrest fun hlast => ?_
  obtain ⟨inner, hinner⟩ := ht.eq_regexp hlast
  exact absurd hinner (hne inner)

/-- A legal token that does not mislead is masked on its own, or the line ends
with it. The second is for operators with the arrow of an alias. -/
theorem mask_legal {t : Token} {rest : Text} (ht : t.Legal)
    (hmislead : ¬ t.Misleads rest) (hrest : Apart rest) :
    mask (t.text ++ rest) = t.masked ++ mask rest ∨
      t.isLiteral = false ∧ (mask (t.text ++ rest)).length ≤ t.text.length := by
  cases t with
  | name n priority =>
      exact .inl (mask_token_of_ne (t := .name n priority) ht
        (fun _ h => by cases h) hrest)
  | number digits =>
      exact .inl (mask_token_of_ne (t := .number digits) ht
        (fun _ h => by cases h) hrest)
  | operator symbol =>
      by_cases harrow : ['-', '>'] <:+: symbol
      · refine .inr ⟨rfl, length_mask_append_le (fun h => ?_)
          (.inr harrow) rest⟩
        exact absurd (ht _ h).2 (by decide)
      · exact .inl (mask_token_of_ne (t := .operator symbol) ⟨ht, harrow⟩
          (fun _ h => by cases h) hrest)
  | string inner flagged =>
      exact .inl (mask_token_of_ne (t := .string inner flagged) hmislead
        (fun _ h => by cases h) hrest)
  | regexp inner flags =>
      obtain ⟨hquotable, hbreak, hflags⟩ := ht
      rw [Token.Misleads, not_or, not_or, not_and, not_and] at hmislead
      obtain ⟨hcut, hodd, hslash⟩ := hmislead
      have hquotes : inner.count '"' % 2 = 0 ∨ '"' ∉ rest := by
        rcases Nat.mod_two_eq_zero_or_one (inner.count '"') with h | h
        · exact .inl h
        · exact .inr (hodd h)
      exact .inl (mask_regexp hquotable hbreak hflags hcut hquotes hrest
        fun hlast => hslash (flags_eq_nil hflags hlast))

/-- Masking leaves blanks or nothing where a literal stood, if no token up to
the literal misleads. -/
theorem mask_blank_at {before : List Spaced} {s : Spaced} {rest : Text}
    (hlegal : ∀ q ∈ before ++ [s], q.token.Legal)
    (hsep : Separated (before ++ [s])) (hliteral : s.token.isLiteral = true)
    (hrest : Apart rest)
    (hclear : ∀ pre q post, before ++ [s] = pre ++ q :: post →
      ¬ q.token.Misleads (render post ++ rest))
    {j : Nat} (hfrom : (render before).length + s.gap ≤ j)
    (hto : j < (render before).length + s.gap + s.token.text.length) :
    ∀ c ∈ (mask (render (before ++ [s]) ++ rest))[j]?, c = ' ' := by
  induction before generalizing j with
  | nil =>
      intro c hc
      have hmask : mask (s.token.text ++ rest) = s.token.masked ++ mask rest :=
        (mask_legal (hlegal s List.mem_cons_self) (hclear [] s [] rfl)
          hrest).resolve_right (fun h => by rw [hliteral] at h; cases h.1)
      have htext : render ([] ++ [s]) ++ rest =
          List.replicate s.gap ' ' ++ (s.token.text ++ rest) :=
        render_cons_append s [] rest
      simp only [render, List.flatMap_nil, List.length_nil,
        Nat.zero_add] at hfrom hto
      rw [htext, mask_blanks, hmask, Token.masked_literal hliteral,
        ← List.append_assoc, ← List.replicate_add,
        List.getElem?_append_left (by simpa using hto)] at hc
      exact List.eq_of_mem_replicate (List.mem_of_getElem? hc)
  | cons q qs ih =>
      intro c hc
      obtain ⟨s', ss, hss⟩ : ∃ s' ss, qs ++ [s] = s' :: ss :=
        List.exists_cons_of_ne_nil (by simp)
      obtain ⟨more, hmore⟩ : ∃ more, render (qs ++ [s]) = ' ' :: more := by
        rw [hss]
        refine render_of_gap (hsep s' ?_)
        rw [List.cons_append, List.tail_cons, hss]
        exact List.mem_cons_self
      have hlen : (render (q :: qs)).length =
          q.gap + (q.token.text.length + (render qs).length) := by
        rw [render_cons, Spaced.text, List.length_append, List.length_append,
          List.length_replicate, Nat.add_assoc]
      rw [hlen] at hfrom hto
      rw [List.cons_append, render_cons_append, mask_blanks,
        List.getElem?_append_right (by rw [List.length_replicate]; omega),
        List.length_replicate] at hc
      have hnext : Apart (render (qs ++ [s]) ++ rest) := by
        rw [hmore]
        exact apart_blank _
      rcases mask_legal (hlegal q List.mem_cons_self)
          (hclear [] q (qs ++ [s]) rfl) hnext with hmask | ⟨-, hcut⟩
      · rw [hmask,
          List.getElem?_append_right (by rw [Token.length_masked]; omega),
          Token.length_masked] at hc
        refine ih (fun p hp => hlegal p (List.mem_cons_of_mem q hp))
          (fun p hp => hsep p (List.mem_of_mem_tail hp))
          (fun pre p post hsplit => ?_)
          (by omega) (by omega) c hc
        exact hclear (q :: pre) p post (by rw [List.cons_append, hsplit]; rfl)
      · rw [List.getElem?_eq_none (by omega)] at hc
        cases hc

/-! ## Behind an escaped quote

The first escaped quote of a string closes it for the pass over strings, and
what follows is masked as if it stood outside. A name right there is left as it
is. -/

theorem mask_run {u : Text} (hu : ∀ c ∈ u, isWord c = true) (rest : Text) :
    mask (u ++ rest) = u ++ mask rest := by
  have hfree : ∀ c, isWord c = false → c ∉ u := by
    intro c hc hmem
    rw [hu c hmem] at hc
    cases hc
  have hstrings : blankStrings (u ++ rest) = u ++ blankStrings rest :=
    blankStringsFrom_bare (hfree '"' (by decide)) rest
  have hcut : ¬ HasCut u :=
    not_hasCut (hfree '/' (by decide)) fun h => hfree '-' (by decide)
      (h.subset List.mem_cons_self)
  rw [mask, hstrings, cutTail_append hcut
    (fun h => absurd (List.mem_of_getLast? h) (hfree '/' (by decide)))
    (fun h => absurd (List.mem_of_getLast? h) (hfree '-' (by decide))),
    blankRegexps,
    blankRegexpsFrom_bare (hfree '/' (by decide))]
  rfl

theorem Covers.head?_any {p : Option Char} {masked text : Text}
    (h : Covers (.kept p) masked text) (htext : text.head?.any isWord = false) :
    masked.head?.any isWord = false := by
  cases h with
  | done => rfl
  | cut => rfl
  | keep => exact htext
  | blank => rfl

/-- An escaped quote is read as the end of its string. -/
theorem mask_escaped {u name : Text} (hu : '"' ∉ u)
    (hname : isTerminalName name = true) (more : Text) :
    mask ('"' :: (u ++ '\\' :: '"' :: (name ++ more))) =
      List.replicate (u.length + 3) ' ' ++ (name ++ mask more) := by
  have hrun : IsRun name := SymbolKind.isRun_of_spells hname
  have htext : '"' :: (u ++ '\\' :: '"' :: (name ++ more)) =
      (Token.string (u ++ ['\\']) false).text ++ (name ++ more) := by
    simp [Token.text]
  have hlen : (Token.string (u ++ ['\\']) false).text.length =
      u.length + 3 := by
    simp [Token.text]
  have hinner : '"' ∉ u ++ ['\\'] := by
    rw [List.mem_append, not_or]
    exact ⟨hu, by decide⟩
  have hflag : (name ++ more).head? ≠ some 'i' := by
    obtain ⟨c, cs, rfl⟩ := List.exists_cons_of_ne_nil hrun.nonempty
    intro h
    obtain rfl : c = 'i' := Option.some.inj h
    rw [isTerminalName, SymbolKind.spells, Bool.and_eq_true] at hname
    exact absurd hname.1 (by decide)
  rw [htext, mask_string false hinner hflag, Token.masked_literal rfl, hlen,
    mask_run hrun.inside]

/-- The name behind the first escaped quote of a string is a word of the masked
body. -/
theorem wordAt_escaped {before : List Spaced} {s : Spaced} {u name v : Text}
    {flagged : Bool} (hplain : ∀ q ∈ before, q.token.Plain)
    (hsep : Separated (before ++ [s]))
    (hs : s.token = .string (u ++ '\\' :: '"' :: (name ++ v)) flagged)
    (hu : '"' ∉ u) (hname : isTerminalName name = true)
    (hv : v.head?.any isWord = false) (rest : Text) :
    WordAt (mask (render (before ++ [s]) ++ rest))
      ((render before).length + s.gap + (u.length + 3)) name := by
  let more : Text := v ++ '"' :: ((if flagged then ['i'] else []) ++ rest)
  let shown : Text :=
    List.replicate s.gap ' ' ++ '"' :: (u ++ '\\' :: '"' :: (name ++ more))
  have htext : render (before ++ [s]) ++ rest = render before ++ shown := by
    simp [render, Spaced.text, hs, Token.text, shown, more]
  have hbefore : mask (render before ++ shown) =
      before.flatMap Spaced.masked ++ mask shown := by
    cases before with
    | nil => rfl
    | cons q qs =>
        obtain ⟨n, hn⟩ :=
          Nat.exists_eq_succ_of_ne_zero (Nat.ne_of_gt (hsep s (by simp)))
        have hblank : shown = ' ' :: (List.replicate n ' ' ++
            '"' :: (u ++ '\\' :: '"' :: (name ++ more))) := by
          simp only [shown, hn]
          rfl
        rw [hblank]
        refine mask_render hplain (fun p hp => hsep p ?_) (apart_blank _)
          fun _ _ _ h => ?_
        · exact List.mem_append_left _ hp
        · exact absurd (Option.some.inj h) (by decide)
  have hmore : more.head?.any isWord = false := by
    cases v with
    | nil => rfl
    | cons c cs => exact hv
  rw [htext, hbefore, mask_blanks, mask_escaped hu hname]
  refine ⟨before.flatMap Spaced.masked ++ (List.replicate s.gap ' ' ++
    List.replicate (u.length + 3) ' '),
    mask more, by simp only [List.append_assoc], ?_, ?_, ?_,
    (mask_covers none more).head?_any hmore⟩
  · rw [List.length_append, length_flatMap_masked, List.length_append,
      List.length_replicate, List.length_replicate]
    omega
  · exact SymbolKind.isRun_of_spells hname
  · rw [List.getLast?_append, List.getLast?_append, List.getLast?_replicate]
    rfl

end Body

theorem terminal_mem_wordErrors {table : SymbolTable} {offset column : Nat}
    {masked name : Text} (h : WordAt masked column name)
    (hname : isTerminalName name = true) (hbound : table.has name = false)
    (line : Nat) :
    .undefined line (offset + column) name .terminal ∈
      wordErrors table line offset masked := by
  refine List.mem_append_left _ (List.mem_map.mpr ⟨(column, name), ?_, rfl⟩)
  refine List.mem_filter.mpr ⟨Text.mem_words.mpr h, ?_⟩
  show (isTerminalName name && !table.has name) = true
  rw [hname, hbound]
  rfl

theorem Text.WordAt.getElem? {text word : Text} {column : Nat}
    (h : WordAt text column word) :
    ∃ c, text[column]? = some c ∧ isWord c = true := by
  obtain ⟨before, after, rfl, rfl, hrun, -⟩ := h
  obtain ⟨c, cs, rfl⟩ := List.exists_cons_of_ne_nil hrun.nonempty
  exact ⟨c, by simp, hrun.inside c List.mem_cons_self⟩

/-- The diagnostic is about the line and lies inside the text that starts there
at the column. -/
def Diagnostic.LiesIn (line column : Nat) (text : Text)
    (d : Diagnostic) : Prop :=
  d.span.line = line ∧ column ≤ d.span.start ∧
    d.span.stop ≤ column + text.length

namespace TokenLine

variable {l : TokenLine} {before after : List Body.Spaced} {s : Body.Spaced}

/-- The column of a token behind others. -/
def column (l : TokenLine) (before : List Body.Spaced)
    (s : Body.Spaced) : Nat :=
  l.bodyStart + ((Body.render before).length + s.gap)

/-- What stands behind some of the tokens. -/
def following (l : TokenLine) (after : List Body.Spaced) : Text :=
  Body.render after ++ l.closing

theorem body_split (h : l.tokens = before ++ s :: after) :
    l.body = Body.render (before ++ [s]) ++ l.following after := by
  rw [body, following, h, ← List.append_assoc, ← Body.render_append,
    List.append_assoc]
  rfl

theorem following_apart (h : l.tokens = before ++ s :: after) :
    Body.Apart (l.following after) := by
  cases after with
  | nil => exact l.apart_closing
  | cons q qs =>
      have hq : q ∈ l.tokens.tail := by
        rw [h]
        cases before <;> simp
      obtain ⟨more, hmore⟩ := Body.render_of_gap (l.separated q hq)
      rw [following, hmore]
      exact Body.apart_blank _

theorem separated_split (h : l.tokens = before ++ s :: after) :
    Body.Separated (before ++ [s]) := by
  intro q hq
  refine l.separated q ?_
  rw [h]
  cases before with
  | nil => cases hq
  | cons p ps =>
      simp only [List.cons_append, List.tail_cons, List.mem_append,
        List.mem_cons, List.not_mem_nil, or_false] at hq ⊢
      tauto

end TokenLine

/-- An error lies inside a literal only if that literal or a token before it
misleads. -/
theorem misled_of_liesIn {table : SymbolTable} {lines : List Text} {i : Nat}
    {l : TokenLine} (hline : lines[i]? = some l.text)
    (hlegal : ∀ s ∈ l.tokens, s.token.Legal) {before after : List Body.Spaced}
    {s : Body.Spaced} (htokens : l.tokens = before ++ s :: after)
    (hliteral : s.token.isLiteral = true) {d : Diagnostic}
    (hd : d ∈ findErrors table lines)
      (hin : d.LiesIn i (l.column before s) s.token.text) :
    ∃ pre q post, l.tokens = pre ++ q :: post ∧ pre.length ≤ before.length ∧
      q.token.Misleads (l.following post) := by
  by_contra hnone
  have hhere : d ∈ lineErrors table i l.text := by
    rw [← filter_findErrors hline]
    exact List.mem_filter.mpr ⟨hd, by rw [hin.1, beq_self_eq_true]⟩
  rw [l.lineErrors_text, TokenLine.body_split htokens] at hhere
  obtain ⟨k, name, kind, hword, rfl⟩ := mem_wordErrors hhere
  obtain ⟨c, hc, hcword⟩ := hword.getElem?
  have hpos : 0 < name.length := List.length_pos_iff.mpr hword.run.nonempty
  obtain ⟨-, hstart, hstop⟩ := hin
  rw [Diagnostic.span_undefined] at hstart hstop
  simp only [TokenLine.column] at hstart hstop
  have hapart := TokenLine.following_apart htokens
  have hupto : ∀ q ∈ before ++ [s], q.token.Legal := by
    intro q hq
    refine hlegal q ?_
    rw [htokens, ← List.singleton_append, ← List.append_assoc]
    exact List.mem_append_left after hq
  have hclear : ∀ pre q post, before ++ [s] = pre ++ q :: post →
      ¬ q.token.Misleads (Body.render post ++ l.following after) := by
    intro pre q post hsplit hmislead
    refine hnone ⟨pre, q, post ++ after, ?_, ?_, ?_⟩
    · rw [htokens, ← List.singleton_append, ← List.append_assoc, hsplit]
      simp
    · have := congrArg List.length hsplit
      simp only [List.length_append, List.length_cons, List.length_nil] at this
      omega
    · rwa [TokenLine.following, Body.render_append, List.append_assoc]
  have hblank :=
    Body.mask_blank_at hupto (TokenLine.separated_split htokens) hliteral hapart
    hclear (j := k) (by omega) (by omega) c hc
  rw [hblank] at hcword
  exact absurd hcword (by decide)

/-- The name behind the first escaped quote of a string is reported, inside the
string. -/
theorem liesIn_of_escaped {table : SymbolTable} {lines : List Text} {i : Nat}
    {l : TokenLine} (hline : lines[i]? = some l.text)
    {before after : List Body.Spaced} {s : Body.Spaced}
    (htokens : l.tokens = before ++ s :: after)
    (hplain : ∀ q ∈ before, q.token.Plain) {u name v : Text} {flagged : Bool}
    (hs : s.token = .string (u ++ '\\' :: '"' :: (name ++ v)) flagged)
    (hu : '"' ∉ u) (hname : isTerminalName name = true)
    (hv : v.head?.any isWord = false) (hbound : table.has name = false) :
    ∃ d ∈ findErrors table lines, d.LiesIn i (l.column before s) s.token.text ∧
      d = .undefined i (l.column before s + (u.length + 3)) name .terminal := by
  refine ⟨_, ?_, ⟨?_, ?_, ?_⟩, rfl⟩
  · have hword :=
      Body.wordAt_escaped hplain (TokenLine.separated_split htokens) hs
        hu hname hv
      (l.following after)
    have hhere :
        .undefined i (l.column before s + (u.length + 3)) name .terminal ∈
          lineErrors table i l.text := by
      rw [l.lineErrors_text, TokenLine.body_split htokens, TokenLine.column,
        Nat.add_assoc]
      exact terminal_mem_wordErrors hword hname hbound i
    rw [← filter_findErrors hline] at hhere
    exact (List.mem_filter.mp hhere).1
  · rw [Diagnostic.span_undefined]
  · rw [Diagnostic.span_undefined]
    exact Nat.le_add_right _ _
  · have hlen : u.length + 3 + name.length ≤ s.token.text.length := by
      rw [hs, Body.Token.text]
      simp only [List.length_cons, List.length_append]
      omega
    rw [Diagnostic.span_undefined]
    simp only []
    omega

/-- On a definition line in tokens of the grammar language, an error lies inside
a literal only if that literal or a token before it misleads. A string with an
escaped quote does mislead: behind plain tokens, a terminal name that follows
the first escaped quote is reported unless the table has it. -/
theorem errors_in_literals (table : SymbolTable) {lines : List Text} {i : Nat}
    {l : TokenLine} (hline : lines[i]? = some l.text)
    (hlegal : ∀ s ∈ l.tokens, s.token.Legal) {before after : List Body.Spaced}
    {s : Body.Spaced} (htokens : l.tokens = before ++ s :: after)
    (hliteral : s.token.isLiteral = true) :
    (∀ d ∈ findErrors table lines, d.LiesIn i (l.column before s) s.token.text →
      ∃ pre q post, l.tokens = pre ++ q :: post ∧ pre.length ≤ before.length ∧
        q.token.Misleads (l.following post)) ∧
    (∀ u name v flagged,
        s.token = .string (u ++ '\\' :: '"' :: (name ++ v)) flagged →
      '"' ∉ u → isTerminalName name = true → v.head?.any isWord = false →
      table.has name = false → (∀ q ∈ before, q.token.Plain) →
      ∃ d ∈ findErrors table lines,
        d.LiesIn i (l.column before s) s.token.text ∧
        d = .undefined i (l.column before s + (u.length + 3)) name
          .terminal) := by
  constructor
  · intro d hd hin
    exact misled_of_liesIn hline hlegal htokens hliteral hd hin
  · intro u name v flagged hs hu hname hv hbound hplain
    exact liesIn_of_escaped hline htokens hplain hs hu hname hv hbound

theorem errors_in_literals_escaped_quote :
    let line : Text :=
      ['s', 't', 'a', 'r', 't', ':', ' ', '"', 'a', '\\', '"', 'F',
        'O', 'O', '"']
    let t : Body.Token := .string ['a', '\\', '"', 'F', 'O', 'O'] false
    t.Legal ∧ validate [line] = [.undefined 0 11 ['F', 'O', 'O'] .terminal] ∧
      (∃ d ∈ findErrors .empty [line], d.LiesIn 0 7 t.text) ∧
        t.Misleads [] := by
  intro line t
  let l : TokenLine :=
    { head := ⟨[], [], ['s', 't', 'a', 'r', 't'], [], [], rfl, by decide,
      rfl, rfl, rfl⟩
      tokens := [⟨1, t⟩]
      gap := 0
      tail := .none
      separated := by decide }
  have hline : [line][0]? = some l.text := rfl
  have hlegal : ∀ s ∈ l.tokens, s.token.Legal := by decide
  have htokens : l.tokens = [] ++ ⟨1, t⟩ :: [] := rfl
  obtain ⟨hmisled, hescaped⟩ :=
    errors_in_literals .empty hline hlegal htokens rfl
  obtain ⟨d, hd, hin, -⟩ :=
    hescaped ['a'] ['F', 'O', 'O'] [] false rfl (by decide) rfl rfl rfl
      (List.forall_mem_nil _)
  obtain ⟨pre, q, post, hsplit, hpre, hq⟩ := hmisled d hd hin
  obtain rfl : pre = [] := List.eq_nil_of_length_eq_zero (Nat.le_zero.mp hpre)
  obtain ⟨rfl, rfl⟩ := List.cons.inj hsplit
  have hvalidate : validate [line] =
      [.undefined 0 11 ['F', 'O', 'O'] .terminal] := by
    decide +kernel
  have hcolumn : l.column [] ⟨1, t⟩ = 7 := rfl
  rw [hcolumn] at hin
  exact ⟨by decide, hvalidate, ⟨d, hd, hin⟩, hq⟩

-- A regular expression with an arrow, and one with a quote before another
-- quote.
example :
    validate [['s', 't', 'a', 'r', 't', ':', ' ', '/', 'a', '-', '>',
      'b', '/']] =
    [.undefined 0 8 ['a'] .rule] := rfl

example : validate [['s', 't', 'a', 'r', 't', ':', ' ', '/', 'a', '"', '/', ' ',
      '"', 'b', '"']] =
    [.undefined 0 8 ['a'] .rule, .undefined 0 13 ['b'] .rule] := rfl

end GrammarLint
