import GrammarLint.Proofs.MaskedText
import GrammarLint.Proofs.UndefinedReport

/-!
# The errors of a line that is written in tokens

A definition line that is written as a head, a colon and plain tokens with
blanks between them has one error for every name among its tokens that needs a
binding and has none, at the column of that token. An alias or a comment may
close the line, with any text in it.

Masking leaves the names and numbers and operators of such a line
(`mask_render`). What remains is to see which words the rest has. Blanks keep
the tokens apart, so the words of the line are the words of its tokens; a name
is one word, and the words of a priority or a number open with a digit and are
no names.

There is one exception. A comment that starts right behind a regular expression
without flags is read together with its closing slash: the cut falls on that
slash, the pattern is left open, and nothing blanks it (`mask_openRegexp`). The
words of the pattern are then taken for references, and their errors come on
top of those of the names.
-/

namespace GrammarLint

open Text (IsRun isWord words wordsFrom lastOr)

namespace Body

/-- The name of a token that starts at the column, if it is one. -/
def Token.namesAt (column : Nat) : Token → List (Nat × Text)
  | .name n _ => [(column, n)]
  | _ => []

/-- The names among the tokens of a body that starts at the column, each with
its own column. -/
def namesFrom : Nat → List Spaced → List (Nat × Text)
  | _, [] => []
  | column, s :: ts =>
    s.token.namesAt (column + s.gap) ++ namesFrom (column + s.text.length) ts

theorem namesFrom_append (column : Nat) (ts us : List Spaced) :
    namesFrom column (ts ++ us) =
      namesFrom column ts ++ namesFrom (column + (render ts).length) us := by
  induction ts generalizing column with
  | nil => rfl
  | cons s ts ih =>
      rw [List.cons_append, namesFrom, namesFrom, ih, render_cons,
        List.length_append, List.append_assoc, Nat.add_assoc]

/-- The words of the pattern of a regular expression without flags that starts
at the column. -/
def Token.patternAt (column : Nat) : Token → List (Nat × Text)
  | .regexp inner [] => wordsFrom none (column + 1) inner
  | _ => []

/-- The words of the pattern that the tokens end with, if the last one is a
regular expression without flags. -/
def patternFrom (column : Nat) (ts : List Spaced) : List (Nat × Text) :=
  match ts.getLast? with
  | some s => s.token.patternAt (column + (render ts.dropLast).length + s.gap)
  | none => []

theorem patternFrom_concat (column : Nat) (ts : List Spaced) (s : Spaced) :
    patternFrom column (ts ++ [s]) =
      s.token.patternAt (column + (render ts).length + s.gap) := by
  rw [patternFrom, List.getLast?_concat, List.dropLast_concat]

theorem Token.length_masked (t : Token) : t.masked.length = t.text.length := by
  rw [masked]
  split
  · exact List.length_replicate
  · rfl

theorem Spaced.length_masked (s : Spaced) :
    s.masked.length = s.text.length := by
  rw [masked, text, List.length_append, List.length_append, Token.length_masked]

theorem length_flatMap_masked (ts : List Spaced) :
    (ts.flatMap Spaced.masked).length = (render ts).length := by
  simp only [render, List.length_flatMap, Spaced.length_masked]

section

variable {p : Text → Bool} {edge : Option Char} {column : Nat}
variable (hp : ∀ c cs, c.isDigit = true → p (c :: cs) = false)

include hp

/-- A text whose word characters are digits has no word that a name could be. -/
theorem filter_words_digits {t : Text}
    (ht : ∀ c ∈ t, isWord c = true → c.isDigit = true) :
    (wordsFrom edge column t).filter (fun w => p w.2) = [] := by
  rw [List.filter_eq_nil_iff]
  intro pair hmem
  obtain ⟨k, word⟩ := pair
  obtain ⟨before, after, rfl, -, hrun, -⟩ := Text.mem_wordsFrom.mp hmem
  obtain ⟨c, cs, rfl⟩ := List.exists_cons_of_ne_nil hrun.nonempty
  have hword : isWord c = true := hrun.inside c List.mem_cons_self
  have hdigit : c.isDigit = true := ht c (by simp) hword
  rw [hp c cs hdigit]
  exact Bool.false_ne_true

theorem filter_words_blanks (n : Nat) :
    (wordsFrom edge column (List.replicate n ' ')).filter (fun w => p w.2) =
      [] := by
  refine filter_words_digits hp fun c hc hword => ?_
  rw [List.eq_of_mem_replicate hc] at hword
  exact absurd hword (by decide)

/-- A masked token has its own name as a word, and no other name. -/
theorem filter_words_token {t : Token} (ht : t.Plain)
    (hedge : edge.any isWord = false) :
    (wordsFrom edge column t.masked).filter (fun w => p w.2) =
      (t.namesAt column).filter (fun w => p w.2) := by
  cases t with
  | name n priority =>
      have hrun : IsRun n :=
        SymbolKind.isRun_of_ofName? (ofName?_of_spelled ht.1)
      have hstop : (priority ++ []).head?.any isWord = false :=
        head?_priority_append ht.2 rfl
      rw [List.append_nil] at hstop
      have hpriority : ∀ c ∈ priority, isWord c = true → c.isDigit = true := by
        intro c hc hword
        rcases mem_priority ht.2 hc with h | rfl
        · exact h
        · exact absurd hword (by decide)
      rw [Token.masked_bare rfl, Token.text, Text.wordsFrom_append (.inr hstop),
        Text.wordsFrom_run hrun hedge, List.filter_append,
        filter_words_digits hp hpriority, List.append_nil]
      rfl
  | number digits =>
      refine filter_words_digits hp fun c hc hword => ?_
      rcases ht c hc with h | h
      · exact h
      · simp only [List.mem_cons, List.not_mem_nil, or_false] at h
        rcases h with rfl | rfl | rfl <;> exact absurd hword (by decide)
  | operator symbol =>
      refine filter_words_digits hp fun c hc hword => ?_
      rw [(ht.1 c hc).1] at hword
      cases hword
  | string | regexp =>
      rw [Token.masked_literal rfl]
      exact filter_words_blanks hp _

theorem filter_words_spaced {s : Spaced} (hs : s.token.Plain)
    (hedge : edge.any isWord = false ∨ 0 < s.gap) :
    (wordsFrom edge column s.masked).filter (fun w => p w.2) =
      (s.token.namesAt (column + s.gap)).filter (fun w => p w.2) := by
  have hblank : (List.replicate s.gap ' ').getLast?.any isWord = false := by
    rw [← Bool.not_eq_true, Option.any_eq_true]
    intro h
    obtain ⟨c, hc, hword⟩ := h
    rw [List.eq_of_mem_replicate (List.mem_of_getLast? hc)] at hword
    exact absurd hword (by decide)
  have hnext : (lastOr edge (List.replicate s.gap ' ')).any isWord = false := by
    rcases Nat.eq_zero_or_pos s.gap with hzero | hpos
    · rw [hzero]
      simpa using hedge.resolve_right (by omega)
    · rw [lastOr]
      cases hlast : (List.replicate s.gap ' ').getLast? with
      | none =>
          rw [List.getLast?_eq_none_iff, List.replicate_eq_nil_iff] at hlast
          omega
      | some c =>
          rw [hlast] at hblank
          exact hblank
  rw [Spaced.masked, Text.wordsFrom_append (.inl hblank), List.filter_append,
    filter_words_blanks hp, List.nil_append, List.length_replicate,
    filter_words_token hp hs hnext]

/-- The names among the words of a masked body are its name tokens. -/
theorem filter_words_render {ts : List Spaced}
    (hplain : ∀ s ∈ ts, s.token.Plain) (hsep : Separated ts)
    (hedge : edge.any isWord = false ∨ ∀ s ∈ ts.head?, 0 < s.gap) :
    (wordsFrom edge column (ts.flatMap Spaced.masked)).filter (fun w => p w.2) =
      (namesFrom column ts).filter (fun w => p w.2) := by
  induction ts generalizing edge column with
  | nil => rfl
  | cons s ts ih =>
      have hs := hplain s List.mem_cons_self
      have hgaps : ∀ q ∈ ts.head?, 0 < q.gap :=
        fun q hq => hsep q (List.mem_of_head? hq)
      have hstop : (ts.flatMap Spaced.masked).head?.any isWord = false := by
        cases ts with
        | nil => rfl
        | cons q qs =>
            obtain ⟨n, hn⟩ :=
              Nat.exists_eq_succ_of_ne_zero (Nat.ne_of_gt (hgaps q rfl))
            rw [List.flatMap_cons, Spaced.masked, hn]
            rfl
      rw [List.flatMap_cons, Text.wordsFrom_append (.inr hstop),
        List.filter_append,
        filter_words_spaced hp hs (hedge.imp_right fun h => h s rfl), namesFrom,
        List.filter_append, Spaced.length_masked,
        ih (fun q hq => hplain q (List.mem_cons_of_mem s hq))
          (fun q hq => hsep q (List.mem_of_mem_tail hq)) (.inr hgaps)]

/-- The names among the words of a masked body that ends in an open pattern are
its name tokens and the words of the pattern. -/
theorem filter_words_open {ts : List Spaced} (gap : Nat) (inner : Text)
    (hplain : ∀ s ∈ ts, s.token.Plain) (hsep : Separated ts)
    (hedge : edge.any isWord = false) :
    (wordsFrom edge column (ts.flatMap Spaced.masked ++
        (List.replicate gap ' ' ++ '/' :: inner))).filter (fun w => p w.2) =
      (namesFrom column ts).filter (fun w => p w.2) ++
        (wordsFrom none (column + (render ts).length + gap + 1) inner).filter
          (fun w => p w.2) := by
  have hfree : ∀ c ∈ List.replicate gap ' ' ++ ['/'], isWord c = false := by
    intro c hc
    rcases List.mem_append.mp hc with hc | hc
    · rw [List.eq_of_mem_replicate hc]
      decide
    · rw [List.mem_singleton.mp hc]
      decide
  have hstop : (List.replicate gap ' ' ++ ['/'] ++ inner).head?.any isWord =
      false := by
    cases gap <;> rfl
  have hlast : (List.replicate gap ' ' ++ ['/']).getLast?.any isWord =
      false := by
    rw [List.getLast?_concat]
    rfl
  have hslash : ∀ e : Option Char,
      (lastOr e (List.replicate gap ' ' ++ ['/'])).any isWord = false := by
    intro e
    rw [lastOr, List.getLast?_concat]
    rfl
  have htext : List.replicate gap ' ' ++ '/' :: inner =
      List.replicate gap ' ' ++ ['/'] ++ inner := by
    simp
  have hlen : (List.replicate gap ' ' ++ ['/']).length = gap + 1 := by simp
  rw [htext, Text.wordsFrom_append (.inr hstop), List.filter_append,
    filter_words_render hp hplain hsep (.inl hedge),
    Text.wordsFrom_append (.inl hlast), Text.wordsFrom_eq_nil hfree,
    List.nil_append, Text.wordsFrom_edge (hslash _), length_flatMap_masked,
    hlen, Nat.add_assoc (column + (render ts).length)]

end

/-- What may close a line: nothing, an alias behind its arrow, or a comment. -/
inductive Tail where
  | none
  | arrow (text : Text)
  | comment (text : Text)

def Tail.text : Tail → Text
  | .none => []
  | .arrow text => '-' :: '>' :: text
  | .comment text => '/' :: '/' :: text

theorem mask_tail (tail : Tail) : mask tail.text = [] := by
  cases tail with
  | none => rfl
  | arrow text =>
      simp [Tail.text, mask, blankStrings, blankStringsFrom, cutTail,
        blankRegexps, blankRegexpsFrom]
  | comment text =>
      simp [Tail.text, mask, blankStrings, blankStringsFrom, cutTail,
      blankRegexps, blankRegexpsFrom]

theorem apart_tail (gap : Nat) (tail : Tail) :
    Apart (List.replicate gap ' ' ++ tail.text) := by
  cases gap with
  | zero =>
      cases tail with
      | none => intro c hc; cases hc
      | arrow text =>
          intro c hc; obtain rfl : '-' = c := Option.some.inj hc; decide
      | comment text =>
          intro c hc; obtain rfl : '/' = c := Option.some.inj hc; decide
  | succ n => exact apart_blank _

theorem flags_eq_nil {inner flags : Text}
    (hflags : ∀ c ∈ flags, isRegexpFlag c = true)
    (hlast : (Token.regexp inner flags).text.getLast? = some '/') :
    flags = [] := by
  cases flags with
  | nil => rfl
  | cons f fs =>
      have hflag : isRegexpFlag '/' = true := by
        refine hflags '/' (List.mem_of_getLast? ?_)
        simpa [Token.text, List.getLast?_cons] using hlast
      exact absurd hflag (by decide)

/-- Only a regular expression without flags ends with a slash. -/
theorem Token.Plain.eq_regexp {t : Token} (ht : t.Plain)
    (hlast : t.text.getLast? = some '/') : ∃ inner, t = .regexp inner [] := by
  cases hliteral : t.isLiteral with
  | false =>
      exact absurd (List.mem_of_getLast? hlast) (ht.bare hliteral).2.1
  | true =>
      cases t with
      | name | number | operator => cases hliteral
      | string inner flagged =>
          cases flagged <;> simp [text, List.getLast?_cons] at hlast
      | regexp inner flags =>
          exact ⟨inner, by rw [flags_eq_nil ht.2.2.2.1 hlast]⟩

theorem Token.patternAt_of_getLast {t : Token}
    (h : t.text.getLast? ≠ some '/') (column : Nat) :
    t.patternAt column = [] := by
  cases t with
  | name | number | operator | string => rfl
  | regexp inner flags =>
      cases flags with
      | nil => exact absurd (by simp [text, List.getLast?_cons]) h
      | cons f fs => rfl

theorem closesRegexp_of_quotable {inner : Text}
    (h : isQuotable '/' inner = true) : closesRegexp inner = false := by
  fun_induction isQuotable '/' inner with
  | case1 => rfl
  | case2 d cs ih => rw [closesRegexp, ih h, Bool.and_false]
  | case3 c cs _ ih =>
      simp only [Bool.and_eq_true, bne_iff_ne] at h
      obtain ⟨⟨hslash, hback⟩, hcs⟩ := h
      rw [closesRegexp]
      · simp [hslash, ih hcs]
      · intro d ds hc
        exact absurd hc hback

/-- No slash of a pattern is closed inside it. -/
theorem closesRegexp_of_suffix {inner cs : Text}
    (h : isQuotable '/' inner = true) (hcs : '/' :: cs <:+ inner) :
    closesRegexp cs = false := by
  fun_induction isQuotable '/' inner with
  | case1 => cases List.suffix_nil.mp hcs
  | case2 d ds ih =>
      rcases List.suffix_cons_iff.mp hcs with heq | hcs
      · cases heq
      · rcases List.suffix_cons_iff.mp hcs with heq | hcs
        · rw [(List.cons.inj heq).2]
          exact closesRegexp_of_quotable h
        · exact ih h hcs
  | case3 c ds _ ih =>
      simp only [Bool.and_eq_true, bne_iff_ne] at h
      rcases List.suffix_cons_iff.mp hcs with heq | hcs
      · exact absurd (List.cons.inj heq).1.symm h.1.1
      · exact ih h.2 hcs

/-- A comment right behind a regular expression takes the closing slash along,
and the pattern is left as it is written. -/
theorem mask_openRegexp {inner text : Text}
    (h : (Token.regexp inner []).Plain) :
    mask ((Token.regexp inner []).text ++ '/' :: '/' :: text) =
      '/' :: inner := by
  obtain ⟨hquotable, hquote, -, -, hcut⟩ := h
  have htext : (Token.regexp inner []).text = ('/' :: inner) ++ ['/'] := rfl
  rw [htext] at hcut
  have hfree : '"' ∉ '/' :: inner := by
    rw [List.mem_cons, not_or]
    exact ⟨by decide, hquote⟩
  have hstrings : blankStrings (('/' :: inner) ++ ('/' :: '/' :: '/' :: text)) =
      ('/' :: inner) ++ ('/' :: '/' :: '/' :: blankStrings text) := by
    rw [blankStrings, blankStringsFrom_bare hfree]
    rfl
  have hinside : ¬ HasCut ('/' :: inner) := by
    intro hcuts
    have hwhole : '/' :: inner <:+: ('/' :: inner) ++ ['/'] :=
      (List.prefix_append _ _).isInfix
    exact hcut (hcuts.imp (·.trans hwhole) (·.trans hwhole))
  have hlast : ('/' :: inner).getLast? ≠ some '/' := by
    intro hlast
    obtain ⟨front, hfront⟩ := List.getLast?_eq_some_iff.mp hlast
    refine hcut (.inl ⟨front, [], ?_⟩)
    rw [hfront]
    simp
  have hcutTail : cutTail (('/' :: inner) ++
      ('/' :: '/' :: '/' :: blankStrings text)) = '/' :: inner := by
    rw [cutTail_append hinside (fun h => absurd h hlast) (fun _ => by simp),
      cutTail, List.append_nil]
  have hopen : ∀ cs, '/' :: cs <:+ '/' :: inner → closesRegexp cs = false := by
    intro cs hcs
    rcases List.suffix_cons_iff.mp hcs with heq | hcs
    · rw [(List.cons.inj heq).2]
      exact closesRegexp_of_quotable hquotable
    · exact closesRegexp_of_suffix hquotable hcs
  have happend : (Token.regexp inner []).text ++ '/' :: '/' :: text =
      ('/' :: inner) ++ ('/' :: '/' :: '/' :: text) := by
    rw [htext, List.append_assoc]
    rfl
  rw [happend, mask, hstrings, hcutTail, blankRegexps_of_open hopen]

/-- A body whose last regular expression runs into a comment. -/
theorem mask_render_open {ts : List Spaced} {s : Spaced} {inner text : Text}
    (hplain : ∀ q ∈ ts ++ [s], q.token.Plain) (hsep : Separated (ts ++ [s]))
    (hs : s.token = .regexp inner []) :
    mask (render (ts ++ [s]) ++ '/' :: '/' :: text) =
      ts.flatMap Spaced.masked ++
      (List.replicate s.gap ' ' ++ '/' :: inner) := by
  have hregexp : (Token.regexp inner []).Plain := hs ▸ hplain s (by simp)
  have htext : render (ts ++ [s]) ++ '/' :: '/' :: text = render ts ++
      (List.replicate s.gap ' ' ++ (s.token.text ++ '/' :: '/' :: text)) := by
    rw [render_append, List.append_assoc, render_cons_append]
    rfl
  have hmask : mask (List.replicate s.gap ' ' ++
      (s.token.text ++ '/' :: '/' :: text)) =
        List.replicate s.gap ' ' ++ '/' :: inner := by
    rw [mask_blanks, hs, mask_openRegexp hregexp]
  rw [htext, ← hmask]
  cases ts with
  | nil => rfl
  | cons q qs =>
      obtain ⟨n, hn⟩ := Nat.exists_eq_succ_of_ne_zero
        (Nat.ne_of_gt (hsep s (by simp)))
      rw [hn]
      refine mask_render (fun p hp => hplain p (List.mem_append_left _ hp))
        (fun p hp => hsep p (List.mem_append_left _ hp)) (apart_blank _)
        fun _ _ _ h => ?_
      exact absurd (Option.some.inj h) (by decide)

end Body

/-! ## Lines in tokens

A line is put together from a head, tokens and what closes it. Its errors are
those of the words that masking leaves of its body. -/

/-- A definition line that is written in tokens, with blanks between them. -/
structure TokenLine where
  head : HeadText
  tokens : List Body.Spaced
  gap : Nat
  tail : Body.Tail
  separated : Body.Separated tokens

namespace TokenLine

variable (l : TokenLine)

/-- The column of the body, just past the colon. -/
def bodyStart : Nat := l.head.text.length + 1

/-- What stands behind the tokens. -/
def closing : Text := List.replicate l.gap ' ' ++ l.tail.text

/-- Everything behind the colon. -/
def body : Text := Body.render l.tokens ++ l.closing

/-- The line as it is written. -/
def text : Text := l.head.text ++ ':' :: l.body

theorem apart_closing : Body.Apart l.closing := Body.apart_tail l.gap l.tail

theorem mask_closing : Body.mask l.closing = List.replicate l.gap ' ' := by
  rw [closing, Body.mask_blanks, Body.mask_tail, List.append_nil]

/-- The words of the pattern that a comment leaves open: it starts at once
behind a regular expression without flags, and the cut falls on the closing
slash. -/
def exposed : List (Nat × Text) :=
  match l.gap, l.tail with
  | 0, .comment _ => Body.patternFrom l.bodyStart l.tokens
  | _, _ => []

theorem lineErrors_text (table : SymbolTable) (line : Nat) :
    lineErrors table line l.text =
      wordErrors table line l.bodyStart (Body.mask l.body) := by
  have hbody : l.text.drop l.head.head.bodyStart = l.body := by
    rw [text, ← List.singleton_append, ← List.append_assoc]
    exact List.drop_left' (by simp [HeadText.head])
  rw [lineErrors, text, l.head.classify_text, ← text]
  show undefinedIn table line l.head.head.bodyStart (l.text.drop _) = _
  rw [hbody, undefinedIn_eq_wordErrors]
  rfl

end TokenLine

theorem line_of_mem_lineErrors {table : SymbolTable} {line : Nat} {text : Text}
    {d : Diagnostic} (h : d ∈ lineErrors table line text) :
    d.span.line = line := by
  rcases mem_lineErrors h with ⟨start, head, rfl⟩ | ⟨start, name, kind, rfl⟩
  · rfl
  · rw [Diagnostic.span_undefined]

/-- The errors that stand on a line are those found on it. -/
theorem filter_findErrors {table : SymbolTable} {lines : List Text} {i : Nat}
    {text : Text} (hline : lines[i]? = some text) :
    (findErrors table lines).filter (fun d => d.span.line == i) =
      lineErrors table i text := by
  obtain ⟨hlt, rfl⟩ := List.getElem?_eq_some_iff.mp hline
  have hsplit : lines = lines.take i ++ lines[i] :: lines.drop (i + 1) := by
    rw [List.getElem_cons_drop, List.take_append_drop]
  have hlen : (lines.take i).length = i := by
    rw [List.length_take]
    omega
  have helsewhere : ∀ entries : List (Text × Nat),
    (∀ entry ∈ entries, entry.2 ≠ i) →
      (entries.flatMap fun entry => lineErrors table entry.2 entry.1).filter
        (fun d => d.span.line == i) = [] := by
    intro entries hentries
    rw [List.filter_eq_nil_iff]
    intro d hd
    obtain ⟨entry, hmem, hd⟩ := List.mem_flatMap.mp hd
    rw [line_of_mem_lineErrors hd, beq_iff_eq]
    exact hentries entry hmem
  have hhere :
      (lineErrors table i lines[i]).filter (fun d => d.span.line == i) =
        lineErrors table i lines[i] := by
    rw [List.filter_eq_self]
    intro d hd
    rw [line_of_mem_lineErrors hd, beq_self_eq_true]
  have hnumbered : lines.zipIdx = (lines.take i).zipIdx ++
      (lines[i], i) :: (lines.drop (i + 1)).zipIdx (i + 1) := by
    conv_lhs => rw [hsplit]
    rw [List.zipIdx_append, List.zipIdx_cons, hlen, Nat.zero_add]
  show (lines.zipIdx.flatMap
    fun entry => lineErrors table entry.2 entry.1).filter _ = _
  rw [hnumbered, List.flatMap_append, List.flatMap_cons, List.filter_append,
    List.filter_append, helsewhere, helsewhere, hhere, List.nil_append,
    List.append_nil]
  · intro entry hentry
    have := List.le_snd_of_mem_zipIdx hentry
    omega
  · intro entry hentry
    have := List.snd_lt_of_mem_zipIdx hentry
    omega

/-- The errors that a list of names deserves, each with its column: one for
each terminal name without a binding, then one for each rule name without one,
the start symbol left out. -/
def nameErrors (table : SymbolTable) (line : Nat) (names : List (Nat × Text)) :
    List Diagnostic :=
  (names.filter fun w => isTerminalName w.2 && !table.has w.2).map
      (fun w => .undefined line w.1 w.2 .terminal) ++
    (names.filter fun w =>
        isRuleName w.2 && w.2 != startSymbol && !table.has w.2).map
      (fun w => .undefined line w.1 w.2 .rule)

theorem wordErrors_eq_nameErrors (table : SymbolTable) (line offset : Nat)
    (masked : Text) :
    wordErrors table line offset masked =
      nameErrors table line ((words masked).map
        fun w => (offset + w.1, w.2)) := by
  rw [wordErrors, nameErrors, List.filter_map, List.filter_map, List.map_map,
    List.map_map]
  rfl

/-- Errors depend on the words that may be names, and on nothing else. -/
theorem nameErrors_congr {names others : List (Nat × Text)}
    (table : SymbolTable) (line : Nat)
    (h : ∀ p : Text → Bool, (∀ c cs, c.isDigit = true → p (c :: cs) = false) →
      names.filter (fun w => p w.2) = others.filter (fun w => p w.2)) :
    nameErrors table line names = nameErrors table line others := by
  have hdigit : ∀ (kind : SymbolKind) (c : Char) (cs : Text),
      c.isDigit = true → kind.spells (c :: cs) = false :=
    fun _ _ _ => SymbolKind.not_spells_of_isDigit
  rw [nameErrors, nameErrors, h fun n => isTerminalName n && !table.has n,
    h fun n => isRuleName n && n != startSymbol && !table.has n]
  · intro c cs hc
    rw [isRuleName, hdigit _ c cs hc, Bool.false_and, Bool.false_and]
  · intro c cs hc
    rw [isTerminalName, hdigit _ c cs hc, Bool.false_and]

namespace TokenLine

variable (l : TokenLine)

/-- Unless its last regular expression runs into a comment, a line is masked
token by token. -/
theorem mask_body (hplain : ∀ s ∈ l.tokens, s.token.Plain)
    (hclear : ∀ s ∈ l.tokens.getLast?, s.token.text.getLast? = some '/' →
      l.closing.head? ≠ some '/') :
    Body.mask l.body =
      l.tokens.flatMap Body.Spaced.masked ++ List.replicate l.gap ' ' := by
  rw [body, Body.mask_render hplain l.separated l.apart_closing hclear,
    mask_closing]

/-- Either the closing slash of the last token is its own, or a comment takes it
and leaves the pattern open. -/
theorem clear_or_open (hplain : ∀ s ∈ l.tokens, s.token.Plain) :
    (l.exposed = [] ∧
        ∀ s ∈ l.tokens.getLast?, s.token.text.getLast? = some '/' →
      l.closing.head? ≠ some '/') ∨
    ∃ ts s inner text, l.tokens = ts ++ [s] ∧ s.token = .regexp inner [] ∧
      l.closing = '/' :: '/' :: text ∧
      l.exposed = Body.patternFrom l.bodyStart (ts ++ [s]) := by
  cases hgap : l.gap with
  | succ n =>
      refine .inl ⟨by simp [exposed, hgap], fun _ _ _ hhead => ?_⟩
      rw [closing, hgap] at hhead
      exact absurd (Option.some.inj hhead) (by decide)
  | zero =>
      cases htail : l.tail with
      | none =>
          refine .inl ⟨by simp [exposed, hgap, htail], fun _ _ _ hhead => ?_⟩
          rw [closing, hgap, htail] at hhead
          cases hhead
      | arrow text =>
          refine .inl ⟨by simp [exposed, hgap, htail], fun _ _ _ hhead => ?_⟩
          rw [closing, hgap, htail] at hhead
          exact absurd (Option.some.inj hhead) (by decide)
      | comment text =>
          have hexposed :
              l.exposed = Body.patternFrom l.bodyStart l.tokens := by
            simp [exposed, hgap, htail]
          have hclosing : l.closing = '/' :: '/' :: text := by
            rw [closing, hgap, htail]
            rfl
          rcases List.eq_nil_or_concat' l.tokens with hnil | ⟨ts, s, hconcat⟩
          · refine .inl ⟨by rw [hexposed, hnil]; rfl, fun s hs => ?_⟩
            rw [hnil] at hs
            cases hs
          · rw [hconcat] at hplain hexposed
            by_cases hlast : s.token.text.getLast? = some '/'
            · obtain ⟨inner, hs⟩ := (hplain s (by simp)).eq_regexp hlast
              exact .inr ⟨ts, s, inner, text, hconcat, hs, hclosing, hexposed⟩
            · refine .inl ⟨?_, fun q hq hslash => ?_⟩
              · rw [hexposed, Body.patternFrom_concat]
                exact Body.Token.patternAt_of_getLast hlast _
              · rw [hconcat, List.getLast?_concat] at hq
                obtain rfl : s = q := Option.some.inj hq
                exact absurd hslash hlast

/-- The names among the words of a masked line are its name tokens and the words
of the pattern that a comment leaves open. -/
theorem filter_words_body (hplain : ∀ s ∈ l.tokens, s.token.Plain)
    {p : Text → Bool} (hp : ∀ c cs, c.isDigit = true → p (c :: cs) = false) :
    (wordsFrom none l.bodyStart (Body.mask l.body)).filter (fun w => p w.2) =
      (Body.namesFrom l.bodyStart l.tokens ++ l.exposed).filter
        (fun w => p w.2) := by
  rcases l.clear_or_open hplain with ⟨hexposed, hclear⟩ | hopen
  · have hstop : (List.replicate l.gap ' ').head?.any isWord = false := by
      cases l.gap <;> rfl
    rw [l.mask_body hplain hclear, Text.wordsFrom_append (.inr hstop),
      List.filter_append, Body.filter_words_render hp hplain l.separated
        (.inl rfl),
      Body.filter_words_blanks hp, List.append_nil, hexposed, List.append_nil]
  · obtain ⟨ts, s, inner, text, hconcat, hs, hclosing, hexposed⟩ := hopen
    have hsep := l.separated
    rw [hconcat] at hplain hsep
    have hfront : Body.Separated ts := fun q hq => hsep q (by
      cases ts with
      | nil => cases hq
      | cons a as => exact List.mem_append_left _ hq)
    rw [body, hclosing, hconcat, Body.mask_render_open hplain hsep hs,
      Body.filter_words_open hp s.gap inner
        (fun q hq => hplain q (List.mem_append_left _ hq)) hfront rfl,
      hexposed, Body.patternFrom_concat, hs, Body.namesFrom_append,
      Body.namesFrom, hs, List.filter_append, List.filter_append]
    simp [Body.Token.namesAt, Body.namesFrom, Body.Token.patternAt]

end TokenLine

theorem nameErrors_append_eq_iff {table : SymbolTable} {line : Nat}
    {names more : List (Nat × Text)} :
    nameErrors table line (names ++ more) = nameErrors table line names ↔
      nameErrors table line more = [] := by
  simp only [nameErrors, List.filter_append, List.map_append]
  constructor
  · intro h
    have hlen := congrArg List.length h
    simp only [List.length_append] at hlen
    rw [List.append_eq_nil_iff, ← List.length_eq_zero_iff,
      ← List.length_eq_zero_iff]
    omega
  · intro h
    obtain ⟨hterminals, hrules⟩ := List.append_eq_nil_iff.mp h
    rw [hterminals, hrules, List.append_nil, List.append_nil]

/-- Whatever the table, a definition line that is written in plain tokens has
the errors of its name tokens: first the terminal names without a binding, then
the rule names without one other than the start symbol, in order and each at the
column of its token. The line may close with an alias or with a comment that
hold any text. Where the comment stands right behind a regular expression
without flags, the words of that pattern count as names too; so the errors are
those of the name tokens alone exactly if no word of such a pattern is a name
that needs a binding and has none. -/
theorem token_line_errors_exact (table : SymbolTable) {lines : List Text}
    {i : Nat} {l : TokenLine} (hline : lines[i]? = some l.text)
    (hplain : ∀ s ∈ l.tokens, s.token.Plain) :
    (findErrors table lines).filter (fun d => d.span.line == i) =
        nameErrors table i (Body.namesFrom l.bodyStart l.tokens ++ l.exposed) ∧
      ((findErrors table lines).filter (fun d => d.span.line == i) =
          nameErrors table i (Body.namesFrom l.bodyStart l.tokens) ↔
        nameErrors table i l.exposed = []) := by
  have hexact : (findErrors table lines).filter (fun d => d.span.line == i) =
      nameErrors table i
        (Body.namesFrom l.bodyStart l.tokens ++ l.exposed) := by
    have hmoved := Text.wordsFrom_shift none 0 l.bodyStart (Body.mask l.body)
    simp only [Nat.add_comm _ l.bodyStart] at hmoved
    rw [filter_findErrors hline, l.lineErrors_text, wordErrors_eq_nameErrors,
      words, ← hmoved]
    exact nameErrors_congr table i fun p => l.filter_words_body hplain
  refine ⟨hexact, ?_⟩
  rw [hexact]
  exact nameErrors_append_eq_iff

/-- The string holds both marks of a cut and a name, the first regular
expression an escaped slash and a name, and the comment a lone quote. The
comment leaves the pattern of the second regular expression open. -/
theorem token_line_errors_exact_comment :
    let line : Text :=
      ['?', 'i', 't', 'e', 'm', '.', '1', ' ', ':', ' ', 'A', '.', '2', ' ',
        '"', '/', '/', 'B', '-', '>', '"', 'i', ' ',
        '/', '\\', '/', 'c', '/', 'i', 'm', ' ', '|', ' ',
        's', 't', 'a', 'r', 't', ' ', 'x', ' ',
        '/', 'a', '/', '/', '/', ' ', '"', 'D']
    (findErrors .empty [line]).filter (fun d => d.span.line == 0) =
        [.undefined 0 10 ['A'] .terminal, .undefined 0 39 ['x'] .rule,
          .undefined 0 42 ['a'] .rule] ∧
      validate [['s', 't', 'a', 'r', 't', ':', ' ', '/', 'a', '/', '/', '/',
        ' ', 'c']] = [.undefined 0 8 ['a'] .rule] := by
  intro line
  let ts : List Body.Spaced :=
    [⟨1, .name ['A'] ['.', '2']⟩, ⟨1, .string ['/', '/', 'B', '-', '>'] true⟩,
      ⟨1, .regexp ['\\', '/', 'c'] ['i', 'm']⟩, ⟨1, .operator ['|']⟩,
      ⟨1, .name ['s', 't', 'a', 'r', 't'] []⟩, ⟨1, .name ['x'] []⟩,
      ⟨1, .regexp ['a'] []⟩]
  let head : HeadText :=
    ⟨[], ['?'], ['i', 't', 'e', 'm'], ['.', '1'], [' '], rfl, by decide, rfl,
      rfl, rfl⟩
  let l : TokenLine :=
    { head
      tokens := ts
      gap := 0
      tail := .comment [' ', '"', 'D']
      separated := by decide }
  have hline : [line][0]? = some l.text := rfl
  have hplain : ∀ s ∈ l.tokens, s.token.Plain := by decide
  exact ⟨(token_line_errors_exact .empty hline hplain).1, rfl⟩

example : ∀ t ∈ ['|', '(', ')', '[', ']', '*', '+', '?', '~'].map
    fun c => .operator [c], Body.Token.Plain t := by decide

end GrammarLint
