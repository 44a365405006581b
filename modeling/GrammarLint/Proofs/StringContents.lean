import GrammarLint.Proofs.ReferenceUse
import GrammarLint.Proofs.Tokens

/-!
# What stands inside a string has no say in the references of a line

Two lines that differ only between the quotes of one string have the same
undefined references. A reader takes that for granted, yet a line is looked at
four times before its references are known, and each look could see the
contents: the first characters decide whether the line is searched at all, the
head decides where its body starts, the quotes in front decide whether the
string is a string, and the two passes behind the one over strings cut and
blank at signs that a string may hold as well.

The first two looks end at the quote. No part of a definition head has a quote
in it, so a head that is read at all is read from what stands in front
(`Head.read?_append_quote`). The other looks see the contents only through the
pass over strings. With another quote ahead that pass is a plain automaton, its
state behind a text is settled by the number of quotes in it, and an even
number leaves it outside a string, where the next quote opens one.
-/

namespace GrammarLint

open Text (isBlank isSpace isWord)

namespace Text

theorem dropWhile_append_cons {p : Char → Bool} {c : Char} (hc : p c = false)
    (u r : Text) :
    (u ++ c :: r).dropWhile p = u.dropWhile p ++ c :: r := by
  rw [List.dropWhile_append]
  split
  · next h => rw [List.isEmpty_iff.mp h,
      List.dropWhile_cons_of_neg (by simp [hc]), List.nil_append]
  · rfl

theorem takeWhile_append_cons {p : Char → Bool} {c : Char} (hc : p c = false)
    (u r : Text) :
    (u ++ c :: r).takeWhile p = u.takeWhile p := by
  rw [List.takeWhile_append]
  split
  · next h =>
      rw [List.takeWhile_cons_of_neg (by simp [hc]), List.append_nil]
      exact ((List.takeWhile_prefix p).eq_of_length h).symm
  · rfl

end Text

namespace Head

theorem skipMarker_append_quote (u r : Text) :
    skipMarker (u ++ '"' :: r) = skipMarker u ++ '"' :: r := by
  cases u with
  | nil => rfl
  | cons c cs =>
      by_cases hask : c = '?'
      · subst hask; rfl
      · by_cases hbang : c = '!'
        · subst hbang; rfl
        · simp [skipMarker, hask, hbang]

theorem skipPriority_append_quote (u r : Text) :
    skipPriority (u ++ '"' :: r) = skipPriority u ++ '"' :: r := by
  cases u with
  | nil => rfl
  | cons c cs =>
      by_cases hdot : c = '.'
      · subst hdot
        have hhead : (cs ++ '"' :: r).head?.any Char.isDigit =
            cs.head?.any Char.isDigit := by
          cases cs <;> rfl
        rw [List.cons_append, skipPriority, skipPriority, hhead]
        split
        · exact Text.dropWhile_append_cons (by decide) cs r
        · rfl
      · simp [skipPriority, hdot]

/-- The head of a definition is read from what stands in front of a quote. -/
theorem read?_append_quote (u r : Text) : read? (u ++ '"' :: r) = read? u := by
  have hquote : isBlank '"' = false ∧ isWord '"' = false := by decide
  simp only [read?, Text.dropWhile_append_cons hquote.1,
    skipMarker_append_quote, Text.dropWhile_append_cons hquote.2,
    Text.takeWhile_append_cons hquote.2, skipPriority_append_quote]
  generalize skipMarker (u.dropWhile isBlank) = marked
  generalize (skipPriority (marked.dropWhile isWord)).dropWhile isBlank = tail
  cases SymbolKind.ofName? (marked.takeWhile isWord) with
  | none => rfl
  | some kind =>
      cases tail with
      | nil => rfl
      | cons c cs =>
          by_cases hcolon : c = ':'
          · subst hcolon
            simp only [List.cons_append, List.length_append,
              Nat.add_sub_add_right]
          · simp [hcolon]

theorem bodyStart_le {text : Text} {head : Head} (h : read? text = some head) :
    head.bodyStart ≤ text.length := by
  simp only [read?] at h
  split at h
  · cases h
  · split at h
    · injection h with h
      subst h
      exact Nat.sub_le _ _
    · cases h

end Head

/-- A line that goes on like this behind its blanks is a directive or a
comment. -/
def opensSkipped (trimmed : Text) : Bool :=
  ['%'].isPrefixOf trimmed || ['/', '/'].isPrefixOf trimmed

/-- The line has a body that is searched for references. -/
def LineClass.isSearched : LineClass → Bool
  | .directive _ => false
  | .skipped _ => false
  | _ => true

theorem opensSkipped_append_quote (u r : Text) :
    opensSkipped (u ++ '"' :: r) = opensSkipped u := by
  match u with
  | [] => rfl
  | [c] => simp [opensSkipped, List.isPrefixOf]
  | c :: d :: cs => rfl

/-- What the class of a line says about the search for references. -/
theorem classify_search (text : Text) :
    (classify text).isSearched = !opensSkipped (text.dropWhile isSpace) ∧
      (classify text).bodyStart =
        if opensSkipped (text.dropWhile isSpace) then 0
        else ((Head.read? text).map Head.bodyStart).getD 0 := by
  rw [classify]
  split
  · next cs htrim =>
      rw [htrim]
      split
      · exact ⟨rfl, rfl⟩
      · exact ⟨rfl, rfl⟩
  · next cs htrim =>
      rw [htrim]
      exact ⟨rfl, rfl⟩
  · next hdirective hcomment =>
      have hopen : opensSkipped (text.dropWhile isSpace) = false := by
        rw [opensSkipped, Bool.or_eq_false_iff]
        constructor
        · rw [← Bool.not_eq_true, List.isPrefixOf_iff_prefix]
          intro h
          obtain ⟨cs, hcs⟩ := h
          exact hdirective cs hcs.symm
        · rw [← Bool.not_eq_true, List.isPrefixOf_iff_prefix]
          intro h
          obtain ⟨cs, hcs⟩ := h
          exact hcomment cs hcs.symm
      rw [hopen]
      split
      · next head hhead => exact ⟨rfl, by rw [hhead]; rfl⟩
      · next hnone =>
          rw [hnone]
          split
          · exact ⟨rfl, rfl⟩
          · exact ⟨rfl, rfl⟩

/-- Whether a line is searched, and from which column on, is settled by what
stands in front of a quote. -/
theorem classify_append_quote (u r : Text) :
    (classify (u ++ '"' :: r)).isSearched = (classify u).isSearched ∧
      (classify (u ++ '"' :: r)).bodyStart = (classify u).bodyStart := by
  have htrim : (u ++ '"' :: r).dropWhile isSpace =
      u.dropWhile isSpace ++ '"' :: r :=
    Text.dropWhile_append_cons (by decide) u r
  simp only [classify_search, htrim, opensSkipped_append_quote,
    Head.read?_append_quote, and_self]

theorem bodyStart_classify_le (text : Text) :
    (classify text).bodyStart ≤ text.length := by
  have hread := classify_readFrom text
  cases hclass : classify text with
  | definition head =>
      rw [hclass] at hread
      exact Head.bodyStart_le hread
  | directive | skipped | invalidHead | body => exact Nat.zero_le _

/-- There is no quote in front of a body: a head would end before it. -/
theorem quote_notMem_front (text : Text) :
    '"' ∉ text.take (classify text).bodyStart := by
  intro hmem
  obtain ⟨u, v, hsplit⟩ := List.append_of_mem hmem
  have htext :
      text = u ++ '"' :: (v ++ text.drop (classify text).bodyStart) := by
    rw [← List.cons_append, ← List.append_assoc, ← hsplit,
      List.take_append_drop]
  have hstart : (classify text).bodyStart ≤ u.length := by
    rw [htext, (classify_append_quote u _).2]
    exact bodyStart_classify_le u
  have hlen := congrArg List.length hsplit
  simp only [List.length_take, List.length_append, List.length_cons] at hlen
  omega

namespace Body

/-- How many quotes are open in a state. -/
def QuoteState.openQuotes : QuoteState → Nat
  | .inside => 1
  | _ => 0

theorem QuoteState.openQuotes_of_ne {state : QuoteState} (h : state ≠ .inside) :
    state.openQuotes = 0 := by
  cases state with
  | inside => exact absurd rfl h
  | outside | closed => rfl

/-- One step of the pass, whatever follows, as long as a quote does. -/
theorem blankStringsFrom_cons_ahead (state : QuoteState) (c : Char) :
    ∃ (d : Char) (next : QuoteState),
      (state.openQuotes + [c].count '"') % 2 = next.openQuotes ∧
      ∀ rest, '"' ∈ rest →
        blankStringsFrom state (c :: rest) =
          d :: blankStringsFrom next rest := by
  by_cases hstate : state = .inside
  · subst hstate
    by_cases hc : c = '"'
    · subst hc
      exact ⟨' ', .closed, by decide, fun rest _ => rfl⟩
    · refine ⟨' ', .inside, by simp [hc, QuoteState.openQuotes],
        fun rest _ => ?_⟩
      rw [blankStringsFrom, if_neg hc]
  · have hopen := QuoteState.openQuotes_of_ne hstate
    by_cases hflag : state = .closed ∧ c = 'i'
    · obtain ⟨rfl, rfl⟩ := hflag
      exact ⟨' ', .outside, by decide, fun rest _ => rfl⟩
    · by_cases hc : c = '"'
      · subst hc
        refine ⟨' ', .inside, by rw [hopen]; decide, fun rest hrest => ?_⟩
        rw [blankStringsFrom_outer hstate, if_neg hflag, if_pos ⟨rfl, hrest⟩]
      · refine ⟨c, .outside, by rw [hopen]; simp [hc, QuoteState.openQuotes],
          fun rest _ => ?_⟩
        rw [blankStringsFrom_outer hstate, if_neg hflag, if_neg fun h => hc h.1]

/-- With a quote ahead the pass makes the same of a text whatever follows, and
the number of quotes tells in which state it leaves the text. -/
theorem blankStringsFrom_append_ahead (state : QuoteState) (u : Text) :
    ∃ (kept : Text) (next : QuoteState),
      (state.openQuotes + u.count '"') % 2 = next.openQuotes ∧
      ∀ rest, '"' ∈ rest →
        blankStringsFrom state (u ++ rest) =
          kept ++ blankStringsFrom next rest := by
  induction u generalizing state with
  | nil =>
      refine ⟨[], state, ?_, fun rest _ => rfl⟩
      cases state <;> rfl
  | cons c cs ih =>
      obtain ⟨d, middle, hfirst, hstep⟩ := blankStringsFrom_cons_ahead state c
      obtain ⟨kept, next, hcount, hkept⟩ := ih middle
      refine ⟨d :: kept, next, ?_, fun rest hrest => ?_⟩
      · rw [← List.singleton_append, List.count_append]
        omega
      · rw [List.cons_append, hstep _ (List.mem_append_right cs hrest),
          hkept rest hrest]
        rfl

/-- Behind an even number of quotes only the length of a string counts. -/
theorem mask_contents {u s₁ s₂ : Text} (hu : u.count '"' % 2 = 0)
    (h₁ : '"' ∉ s₁) (h₂ : '"' ∉ s₂) (hlen : s₁.length = s₂.length)
    (rest : Text) :
    mask (u ++ '"' :: (s₁ ++ '"' :: rest)) =
      mask (u ++ '"' :: (s₂ ++ '"' :: rest)) := by
  obtain ⟨kept, next, hcount, hkept⟩ := blankStringsFrom_append_ahead .outside u
  have hnext : next ≠ .inside := by
    intro h
    rw [h] at hcount
    simp only [QuoteState.openQuotes] at hcount
    omega
  have hstrings : ∀ s : Text, '"' ∉ s →
    blankStrings (u ++ '"' :: (s ++ '"' :: rest)) =
      kept ++ (List.replicate (s.length + 2) ' ' ++
        blankStringsFrom .closed rest) := by
    intro s hs
    rw [blankStrings, hkept _ List.mem_cons_self,
      blankStringsFrom_literal hnext hs]
  rw [mask, mask, hstrings s₁ h₁, hstrings s₂ h₂, hlen]

end Body

/-- The diagnostic is about a terminal or a rule that nothing binds. -/
def Diagnostic.isUndefined (d : Diagnostic) : Bool :=
  d.code == .undefinedTerminal || d.code == .undefinedRule

theorem isUndefined_of_mem_undefinedIn {table : SymbolTable} {line offset : Nat}
    {body : Text} {d : Diagnostic}
    (h : d ∈ undefinedIn table line offset body) : d.isUndefined = true := by
  obtain ⟨r, -, rfl⟩ := List.mem_map.mp h
  cases r.kind <;> rfl

/-- The undefined references of a line are those of its body, if it is
searched. -/
theorem filter_isUndefined_lineErrors (table : SymbolTable) (line : Nat)
    (text : Text) :
    (lineErrors table line text).filter Diagnostic.isUndefined =
      if (classify text).isSearched then
        undefinedIn table line (classify text).bodyStart
          (text.drop (classify text).bodyStart)
      else [] := by
  have hall : ∀ (offset : Nat) (body : Text),
      (undefinedIn table line offset body).filter Diagnostic.isUndefined =
        undefinedIn table line offset body :=
    fun offset body =>
      List.filter_eq_self.mpr fun _ => isUndefined_of_mem_undefinedIn
  rw [lineErrors]
  cases classify text with
  | definition head => exact hall ..
  | directive | skipped => rfl
  | invalidHead | body => exact hall ..

theorem lineErrors_contents (table : SymbolTable) (line : Nat) {p s₁ s₂ : Text}
    (hp : p.count '"' % 2 = 0) (h₁ : '"' ∉ s₁) (h₂ : '"' ∉ s₂)
    (hlen : s₁.length = s₂.length) (q : Text) :
    (lineErrors table line (p ++ '"' :: (s₁ ++ '"' :: q))).filter
      Diagnostic.isUndefined =
        (lineErrors table line (p ++ '"' :: (s₂ ++ '"' :: q))).filter
          Diagnostic.isUndefined := by
  have hle := bodyStart_classify_le p
  have heven : (p.drop (classify p).bodyStart).count '"' % 2 = 0 := by
    have hfront := List.count_eq_zero.mpr (quote_notMem_front p)
    have hsplit : p.count '"' = (p.take (classify p).bodyStart).count '"' +
        (p.drop (classify p).bodyStart).count '"' := by
      rw [← List.count_append, List.take_append_drop]
    omega
  rw [filter_isUndefined_lineErrors, filter_isUndefined_lineErrors]
  simp only [classify_append_quote, List.drop_append_of_le_length hle,
    undefinedIn]
  rw [Body.mask_contents heven h₁ h₂ hlen]

/-- Two grammars that differ only in the contents of one string have the
same undefined references. The string is one because the number of
quotes in front of it on its line is even; its contents have no quote
and the same length in both. -/
theorem undefined_blind_to_contents (table : SymbolTable)
    (above below : List Text) {p s₁ s₂ q : Text} (hp : p.count '"' % 2 = 0)
    (h₁ : '"' ∉ s₁) (h₂ : '"' ∉ s₂) (hlen : s₁.length = s₂.length) :
    (findErrors table
        (above ++ [p ++ ['"'] ++ s₁ ++ ['"'] ++ q] ++ below)).filter
          Diagnostic.isUndefined =
      (findErrors table
        (above ++ [p ++ ['"'] ++ s₂ ++ ['"'] ++ q] ++ below)).filter
          Diagnostic.isUndefined := by
  have hline := lineErrors_contents table above.length hp h₁ h₂ hlen q
  simp [findErrors, List.zipIdx_append, hline]

/-- The first string hides a comment and a name, the second an alias and a
colon; the name behind them is reported all the same. -/
theorem undefined_blind_to_contents_comment :
    let p : Text := ['a', ':', ' ', '"', 'x', '"', 'i', ' ']
    let s₁ : Text := ['/', '/', 'B']
    let s₂ : Text := ['-', '>', ':']
    let q : Text := ['/', 'd', '"', '/', ' ', 'C']
    let errors (s : Text) : List Diagnostic :=
      (findErrors .empty ([['a']] ++ [p ++ ['"'] ++ s ++ ['"'] ++ q] ++
          [])).filter
        Diagnostic.isUndefined
    (p.count '"' % 2 = 0 ∧ '"' ∉ s₁ ∧ '"' ∉ s₂ ∧ s₁.length = s₂.length) ∧
      errors s₁ = errors s₂ ∧
      errors s₂ = [.undefined 0 0 ['a'] .rule,
        .undefined 1 18 ['C'] .terminal] := by
  refine ⟨by decide, ?_, by decide⟩
  exact undefined_blind_to_contents .empty [['a']] [] (by decide) (by decide)
    (by decide) rfl

end GrammarLint
