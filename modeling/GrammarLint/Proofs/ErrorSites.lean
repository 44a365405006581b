import GrammarLint.Proofs.QuotedText
import GrammarLint.Proofs.StringContents
import GrammarLint.Proofs.TokenLines
import Mathlib.Data.List.Nodup

/-!
# How many errors an unbound reference gets

A body is swept once for terminals and once for rules, and each sweep reports
what it finds. A name with a letter in it is found by one of the two at most,
since a letter has a case. A name of underscores and digits alone is spelled
both ways, is found by both, and nothing takes the second find back: such a
reference gets two errors at one place, as a terminal and as a rule, and the
second is of the wrong kind.

So a grammar has one error for each unbound reference, of the kind that its name
is spelled in, exactly if it refers to no letterless name without a binding. The
errors at one place are those of one word, because the words of a body start at
different columns and the errors of other lines point elsewhere.
-/

namespace GrammarLint

open Text (WordAt words)

/-- A name without letters: an underscore, and behind it underscores and
digits. -/
def isLetterless : Text → Bool
  | [] => false
  | c :: cs => c == '_' && cs.all fun d => d == '_' || d.isDigit

/-- A letter has a case, so only an underscore opens names of both kinds. -/
theorem opens_both_iff {c : Char} :
    SymbolKind.terminal.opens c = true ∧ SymbolKind.rule.opens c = true ↔
      c = '_' := by
  simp only [SymbolKind.opens, Bool.or_eq_true, beq_iff_eq]
  constructor
  · intro hgiven
    rcases hgiven with ⟨hupper | h, hlower | h'⟩
    · have := toNat_of_isUpper hupper
      have := toNat_of_isLower hlower
      omega
    · exact h'
    · exact h
    · exact h
  · intro h
    exact ⟨.inr h, .inr h⟩

theorem continues_both_iff {c : Char} :
    SymbolKind.terminal.continues c = true ∧
    SymbolKind.rule.continues c = true ↔
      c = '_' ∨ c.isDigit = true := by
  simp only [SymbolKind.continues, Bool.or_eq_true]
  rw [← and_or_right, opens_both_iff]

/-- The letterless names are the names of both kinds. -/
theorem isLetterless_iff {name : Text} :
    isLetterless name = true ↔ isTerminalName name = true ∧
    isRuleName name = true := by
  cases name with
  | nil => simp [isLetterless, isTerminalName, SymbolKind.spells]
  | cons c cs =>
      simp only [isLetterless, isTerminalName, isRuleName, SymbolKind.spells,
        Bool.and_eq_true, List.all_eq_true, Bool.or_eq_true, beq_iff_eq,
        ← opens_both_iff (c := c), ← continues_both_iff]
      constructor
      · intro h
        obtain ⟨⟨hterminal, hrule⟩, hrest⟩ := h
        exact ⟨⟨hterminal, fun d hd => (hrest d hd).1⟩, hrule,
          fun d hd => (hrest d hd).2⟩
      · intro h
        obtain ⟨⟨hterminal, hrest⟩, hrule, hrest'⟩ := h
        exact ⟨⟨hterminal, hrule⟩, fun d hd => ⟨hrest d hd, hrest' d hd⟩⟩

/-- The errors that an unbound reference gets at a place: one of the kind that
the name is spelled in, and two if it is spelled both ways. -/
def referenceErrors (line start : Nat) (name : Text) : List Diagnostic :=
  if isLetterless name then
    [.undefined line start name .terminal, .undefined line start name .rule]
  else [.undefined line start name (SymbolKind.ofName name)]

/-- A name that needs a binding: it is spelled as a symbol and is not the start
symbol. -/
structure NeedsBinding (name : Text) : Prop where
  spelled : (isTerminalName name || isRuleName name) = true
  notStart : name ≠ startSymbol

theorem nameErrors_single {table : SymbolTable} {name : Text} (line start : Nat)
    (hneeds : NeedsBinding name) (hunbound : table.has name = false) :
    nameErrors table line [(start, name)] =
      referenceErrors line start name := by
  have hstart : (name != startSymbol) = true := by simpa using hneeds.notStart
  have hspelled := hneeds.spelled
  have hboth : isLetterless name = true ↔ _ := isLetterless_iff
  simp only [nameErrors, referenceErrors, SymbolKind.ofName, List.filter_cons,
    List.filter_nil, hunbound, hstart, Bool.not_false, Bool.and_true]
  cases hterminal : isTerminalName name <;> cases hrule : isRuleName name <;>
    simp_all

theorem mem_nameErrors {table : SymbolTable} {line : Nat}
    {names : List (Nat × Text)} {d : Diagnostic}
    (h : d ∈ nameErrors table line names) :
    ∃ w ∈ names, NeedsBinding w.2 ∧ table.has w.2 = false ∧
      ∃ kind, d = .undefined line w.1 w.2 kind := by
  rcases List.mem_append.mp h with h | h
  · obtain ⟨w, hw, rfl⟩ := List.mem_map.mp h
    simp only [List.mem_filter, Bool.and_eq_true, Bool.not_eq_true'] at hw
    obtain ⟨hw, hterminal, hunbound⟩ := hw
    refine ⟨w, hw, ⟨by rw [hterminal, Bool.true_or], fun hstart => ?_⟩,
      hunbound, _, rfl⟩
    rw [hstart] at hterminal
    exact absurd hterminal (by decide)
  · obtain ⟨w, hw, rfl⟩ := List.mem_map.mp h
    simp only [List.mem_filter, Bool.and_eq_true, Bool.not_eq_true',
      bne_iff_ne] at hw
    obtain ⟨hw, ⟨hrule, hstart⟩, hunbound⟩ := hw
    exact ⟨w, hw, ⟨by rw [hrule, Bool.or_true], hstart⟩, hunbound, _, rfl⟩

/-- The errors at a column are those of the names at that column. -/
theorem filter_nameErrors (table : SymbolTable) (line start : Nat)
    (names : List (Nat × Text)) :
    (nameErrors table line names).filter (fun d => d.span.start == start) =
      nameErrors table line (names.filter fun w => w.1 == start) := by
  have hcolumn : ∀ (kind : SymbolKind) (p : Nat × Text → Bool),
      ((names.filter p).map fun w => Diagnostic.undefined line w.1 w.2
        kind).filter
          (fun d => d.span.start == start) =
        ((names.filter fun w => w.1 == start).filter p).map
          fun w => Diagnostic.undefined line w.1 w.2 kind := by
    intro kind p
    rw [List.filter_map, List.filter_filter, List.filter_filter]
    refine congrArg (List.map _) (List.filter_congr fun w _ => ?_)
    rw [Function.comp_apply, Diagnostic.span_undefined, Bool.and_comm]
  rw [nameErrors, nameErrors, List.filter_append, hcolumn, hcolumn]

/-- Two words do not start at one column. -/
theorem filter_words_column {masked word : Text} {column : Nat}
    (h : WordAt masked column word) :
    (words masked).filter (fun w => w.1 == column) = [(column, word)] := by
  obtain ⟨before, after, hsplit⟩ := List.append_of_mem (Text.mem_words.mpr h)
  have hordered := Text.words_ordered masked
  rw [hsplit] at hordered ⊢
  obtain ⟨-, hafter, hbefore⟩ := List.pairwise_append.mp hordered
  have hleft : before.filter (fun w => w.1 == column) = [] := by
    rw [List.filter_eq_nil_iff]
    intro w hw
    have : w.1 < column := hbefore w hw _ List.mem_cons_self
    simp only [beq_iff_eq]
    omega
  have hright : after.filter (fun w => w.1 == column) = [] := by
    rw [List.filter_eq_nil_iff]
    intro w hw
    have : column < w.1 := (List.pairwise_cons.mp hafter).1 w hw
    simp only [beq_iff_eq]
    omega
  rw [List.filter_append, List.filter_cons_of_pos (by simp), hleft, hright,
    List.nil_append]

/-- The errors of a body at a column where a word starts are those of the
word. -/
theorem filter_wordErrors {masked word : Text} {column : Nat}
    (table : SymbolTable) (line offset : Nat) (h : WordAt masked column word) :
    (wordErrors table line offset masked).filter
      (fun d => d.span.start == offset + column) =
        nameErrors table line [(offset + column, word)] := by
  have hword : ((words masked).map fun w => (offset + w.1, w.2)).filter
      (fun w => w.1 == offset + column) = [(offset + column, word)] := by
    rw [List.filter_map,
      ← List.map_singleton (f := fun w : Nat × Text => (offset + w.1, w.2))
        (a := (column, word)), ← filter_words_column h]
    refine congrArg (List.map _) (List.filter_congr fun w _ => ?_)
    rw [Function.comp_apply, Bool.eq_iff_iff, beq_iff_eq, beq_iff_eq]
    omega
  rw [wordErrors_eq_nameErrors, filter_nameErrors, hword]

/-- The place a diagnostic points to. -/
def Diagnostic.site (d : Diagnostic) : Site := ⟨d.span.line, d.span.start⟩

/-- The errors of a grammar about symbols that nothing binds. -/
def undefinedErrors (lines : List Text) : List Diagnostic :=
  (validate lines).filter Diagnostic.isUndefined

/-- The grammar refers to the name at the place, and binds it nowhere: the line
has a body that is searched, the masked body has the name as a word there, and
the name needs a binding. -/
structure UnboundAt (lines : List Text) (p : Site) (name : Text) : Prop where
  referred : ∃ text column, lines[p.line]? = some text ∧
    (classify text).isSearched = true ∧
    WordAt (Body.mask (text.drop (classify text).bodyStart)) column name ∧
    p.column = (classify text).bodyStart + column
  needs : NeedsBinding name
  unbound : ∀ q, ¬ BoundAt lines name q

theorem has_markedTable_iff {lines : List Text} {name : Text} :
    (markedTable lines).has name = true ↔ ∃ p, BoundAt lines name p := by
  rw [SymbolTable.has_iff, markedTable, SymbolTable.markUses_names,
    ofLines_eq_defineAll, SymbolTable.mem_names_defineAll]
  constructor
  · intro h
    obtain ⟨r, hr, hname⟩ := h
    exact ⟨r.site, boundAt_iff.mpr ⟨r, hr, hname, rfl⟩⟩
  · intro h
    obtain ⟨p, hp⟩ := h
    obtain ⟨r, hr, hname, -⟩ := boundAt_iff.mp hp
    exact ⟨r, hr, hname⟩

theorem undefinedErrors_eq (lines : List Text) :
    undefinedErrors lines =
      (findErrors (markedTable lines) lines).filter Diagnostic.isUndefined := by
  have hwarnings : ((markedTable lines).unused.map Record.warningHere).filter
      Diagnostic.isUndefined = [] := by
    rw [List.filter_eq_nil_iff]
    intro d hd
    obtain ⟨r, -, rfl⟩ := List.mem_map.mp hd
    exact Bool.false_ne_true
  rw [undefinedErrors, validate_eq, List.filter_append, hwarnings,
    List.append_nil]

/-- An error about an unbound symbol stands where an unbound name is referred
to. -/
theorem unboundAt_of_mem {lines : List Text} {d : Diagnostic}
    (h : d ∈ undefinedErrors lines) :
    ∃ name kind, UnboundAt lines d.site name ∧
      d = .undefined d.span.line d.span.start name kind := by
  rw [undefinedErrors_eq, List.mem_filter] at h
  obtain ⟨hmem, hundefined⟩ := h
  obtain ⟨⟨text, line⟩, hline, hd⟩ := List.mem_flatMap.mp hmem
  rw [List.mk_mem_zipIdx_iff_getElem?] at hline
  have hfilter := List.mem_filter.mpr ⟨hd, hundefined⟩
  rw [filter_isUndefined_lineErrors] at hfilter
  split at hfilter
  · next hsearched =>
      rw [undefinedIn_eq_wordErrors, wordErrors_eq_nameErrors] at hfilter
      obtain ⟨w, hw, hneeds, hunbound, kind, rfl⟩ := mem_nameErrors hfilter
      obtain ⟨w, hword, rfl⟩ := List.mem_map.mp hw
      refine ⟨w.2, kind,
        ⟨⟨text, w.1, ?_, hsearched, Text.mem_words.mp hword, ?_⟩, hneeds, ?_⟩,
        ?_⟩
      · rw [Diagnostic.site, Diagnostic.span_undefined]
        exact hline
      · rw [Diagnostic.site, Diagnostic.span_undefined]
      · intro q hq
        rw [has_markedTable_iff.mpr ⟨q, hq⟩] at hunbound
        cases hunbound
      · rw [Diagnostic.span_undefined]
  · cases hfilter

theorem filter_site (lines : List Text) (p : Site) :
    (undefinedErrors lines).filter (fun d => d.site == p) =
      (((findErrors (markedTable lines) lines).filter fun d =>
          d.span.line == p.line).filter
        Diagnostic.isUndefined).filter fun d => d.span.start == p.column := by
  rw [undefinedErrors_eq, List.filter_filter, List.filter_filter,
    List.filter_filter]
  refine List.filter_congr fun d _ => ?_
  rw [Bool.eq_iff_iff]
  simp only [Diagnostic.site, Bool.and_eq_true, beq_iff_eq, Site.eq_iff]
  tauto

/-- Where an unbound name is referred to stand the errors of this
reference and no others. -/
theorem errors_of_unboundAt {lines : List Text} {p : Site} {name : Text}
    (h : UnboundAt lines p name) :
    (undefinedErrors lines).filter (fun d => d.site == p) =
      referenceErrors p.line p.column name := by
  obtain ⟨text, column, hline, hsearched, hword, hcolumn⟩ := h.referred
  have hunbound : (markedTable lines).has name = false := by
    rw [← Bool.not_eq_true, has_markedTable_iff]
    intro hgiven
    obtain ⟨q, hq⟩ := hgiven
    exact h.unbound q hq
  rw [filter_site, filter_findErrors hline, filter_isUndefined_lineErrors,
    if_pos hsearched, undefinedIn_eq_wordErrors, hcolumn,
    filter_wordErrors _ _ _ hword, nameErrors_single _ _ h.needs hunbound]

theorem count_site (lines : List Text) (p : Site) :
    ((undefinedErrors lines).map Diagnostic.site).count p =
      ((undefinedErrors lines).filter fun d => d.site == p).length := by
  rw [List.count_eq_countP, List.countP_map, List.countP_eq_length_filter]
  rfl

theorem referenceErrors_lettered {name : Text} (line start : Nat)
    (h : isLetterless name = false) :
    referenceErrors line start name =
      [.undefined line start name (SymbolKind.ofName name)] := by
  rw [referenceErrors, h]
  rfl

theorem nodup_sites {lines : List Text}
    (h : ∀ p name, UnboundAt lines p name → isLetterless name = false) :
    ((undefinedErrors lines).map Diagnostic.site).Nodup := by
  rw [List.nodup_iff_count_le_one]
  intro p
  rw [count_site]
  cases hfilter : (undefinedErrors lines).filter fun d => d.site == p with
  | nil => exact Nat.zero_le 1
  | cons d ds =>
      have hd : d ∈ (undefinedErrors lines).filter fun d => d.site == p := by
        rw [hfilter]
        exact List.mem_cons_self
      obtain ⟨hmem, hsite⟩ := List.mem_filter.mp hd
      rw [beq_iff_eq] at hsite
      obtain ⟨name, -, hunbound, -⟩ := unboundAt_of_mem hmem
      rw [hsite] at hunbound
      rw [← hfilter, errors_of_unboundAt hunbound,
        referenceErrors_lettered _ _ (h p name hunbound)]
      exact Nat.le_refl 1

/-- The message of the diagnostic quotes the name. -/
def Diagnostic.Quotes (d : Diagnostic) (name : Text) : Prop :=
  d.message = quoting d.code.phrase name

theorem undefined_code_iff (line start : Nat) (name : Text)
    (kind : SymbolKind) :
    (Diagnostic.undefined line start name kind).code = .undefinedTerminal ↔
      kind = .terminal := by
  cases kind <;> simp [Diagnostic.undefined]

theorem eq_of_quotes_undefined {line start : Nat} {name quoted : Text}
    {kind : SymbolKind}
    (h : (Diagnostic.undefined line start name kind).Quotes quoted) :
    name = quoted := by
  cases kind with
  | terminal => exact quoting_injective h
  | rule => exact quoting_injective h

/-- The error about a name with letters is of the kind the name is spelled
in. -/
theorem code_of_lettered {lines : List Text} {d : Diagnostic} {quoted : Text}
    (h : ∀ p name, UnboundAt lines p name → isLetterless name = false)
    (hd : d ∈ undefinedErrors lines) (hquoted : d.Quotes quoted) :
    d.code = .undefinedTerminal ↔ SymbolKind.ofName quoted = .terminal := by
  obtain ⟨name, -, hunbound, -⟩ := unboundAt_of_mem hd
  have hfilter : d ∈ (undefinedErrors lines).filter fun e => e.site == d.site :=
    List.mem_filter.mpr ⟨hd, beq_self_eq_true _⟩
  rw [errors_of_unboundAt hunbound,
    referenceErrors_lettered _ _ (h _ _ hunbound),
    List.mem_singleton] at hfilter
  rw [hfilter] at hquoted ⊢
  rw [undefined_code_iff, eq_of_quotes_undefined hquoted]

/-- Every reference to a name that nothing binds gets its errors at its
own place: one, of the kind that the name is spelled in, or two if the
name is letterless. No other place has such errors. So the errors stand at
different places and are of the right kind exactly if no unbound name that
is referred to is letterless. -/
theorem one_error_per_reference (lines : List Text) :
    (∀ p name, UnboundAt lines p name →
      (undefinedErrors lines).filter (fun d => d.site == p) =
        referenceErrors p.line p.column name) ∧
    (∀ d ∈ undefinedErrors lines, ∃ name, UnboundAt lines d.site name) ∧
    (((undefinedErrors lines).map Diagnostic.site).Nodup ∧
        (∀ d ∈ undefinedErrors lines, ∀ name, d.Quotes name →
          (d.code = .undefinedTerminal ↔ SymbolKind.ofName name = .terminal)) ↔
      ∀ p name, UnboundAt lines p name → isLetterless name = false) := by
  refine ⟨fun p name => errors_of_unboundAt, fun d hd => ?_, ?_, fun h => ?_⟩
  · obtain ⟨name, -, hunbound, -⟩ := unboundAt_of_mem hd
    exact ⟨name, hunbound⟩
  · intro hgiven p name hunbound
    obtain ⟨hnodup, -⟩ := hgiven
    rw [← Bool.not_eq_true]
    intro hletterless
    have hcount := List.nodup_iff_count_le_one.mp hnodup p
    rw [count_site, errors_of_unboundAt hunbound, referenceErrors,
      if_pos hletterless] at hcount
    simp at hcount
  · exact ⟨nodup_sites h, fun d hd name => code_of_lettered h hd⟩

/-- In `start: _ a` the underscore is reported as a terminal and as a rule, at
one place, and `a` once. -/
theorem one_error_per_reference_underscore :
    let lines : List Text :=
      [['s', 't', 'a', 'r', 't', ':', ' ', '_', ' ', 'a']]
    validate lines = [.undefined 0 7 ['_'] .terminal,
      .undefined 0 7 ['_'] .rule, .undefined 0 9 ['a'] .rule] ∧
    UnboundAt lines ⟨0, 7⟩ ['_'] ∧
    ¬ (((undefinedErrors lines).map Diagnostic.site).Nodup ∧
      ∀ d ∈ undefinedErrors lines, ∀ name, d.Quotes name →
        (d.code = .undefinedTerminal ↔
          SymbolKind.ofName name = .terminal)) := by
  intro lines
  have hunbound : UnboundAt lines ⟨0, 7⟩ ['_'] := by
    refine ⟨⟨_, 1, rfl, rfl, by decide, rfl⟩, ⟨rfl, by decide⟩, fun q hq => ?_⟩
    have hbound : (markedTable lines).has ['_'] = true :=
      has_markedTable_iff.mpr ⟨q, hq⟩
    exact absurd hbound (by decide)
  refine ⟨rfl, hunbound, fun h => ?_⟩
  exact absurd ((one_error_per_reference lines).2.2.mp h _ _ hunbound)
    (by decide)

end GrammarLint
