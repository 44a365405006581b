import GrammarLint.Check.Validate
import GrammarLint.Proofs.Bindings

/-!
# The undefined report reads whole words

References are found by a sweep that reads a name, tests the boundary behind
it, and takes a priority such as `.2` along when a boundary follows that too.
On the face of it the sweep could stop inside a word, pick up half of a word in
mixed case, or let a priority swallow what comes next.

It does none of these. At every place the reader answers exactly when a word
starts there and the whole word is spelled as a name of the kind. What the
priority takes along beyond the word is a dot and a run of digits: a word may
start in there, but it opens with a digit and is no name. So the sweep skips
nothing that it should have found, and its finds are the words of the body
that are spelled as names, which is what `referencesOf_eq` says.
-/

namespace GrammarLint

open Text (IsRun isWord words wordsFrom lastOr sweepFrom)

theorem SymbolKind.not_opens_of_isDigit {kind : SymbolKind} {c : Char}
    (h : c.isDigit = true) : kind.opens c = false := by
  have hdigit := toNat_of_isDigit h
  rw [← Bool.not_eq_true]
  intro hopen
  cases kind with
  | terminal =>
      simp only [opens, Bool.or_eq_true, beq_iff_eq] at hopen
      rcases hopen with hupper | rfl
      · have := toNat_of_isUpper hupper
        omega
      · exact absurd hdigit (by decide)
  | rule =>
      simp only [opens, Bool.or_eq_true, beq_iff_eq] at hopen
      rcases hopen with hlower | rfl
      · have := toNat_of_isLower hlower
        omega
      · exact absurd hdigit (by decide)

theorem SymbolKind.not_spells_of_isDigit {kind : SymbolKind} {c : Char}
    {cs : Text} (h : c.isDigit = true) : kind.spells (c :: cs) = false := by
  simp [spells, not_opens_of_isDigit h]

namespace Body

variable {kind : SymbolKind} {edge : Option Char}

/-- A priority that is taken along is a dot and digits. -/
theorem prioritySize_cases (rest : Text) :
    prioritySize rest = 0 ∨
      ∃ digits tail, rest = '.' :: (digits ++ tail) ∧
        prioritySize rest = digits.length + 1 ∧
        ∀ d ∈ digits, d.isDigit = true := by
  unfold prioritySize
  split
  · next cs =>
      simp only []
      split
      · exact .inl rfl
      · refine .inr ⟨cs.takeWhile Char.isDigit, cs.dropWhile Char.isDigit,
          ?_, rfl, ?_⟩
        · rw [List.takeWhile_append_dropWhile]
        · exact fun d hd => List.mem_takeWhile_imp hd
  · exact .inl rfl

/-! ## One reading

The reader goes on as long as the kind allows and then asks for a boundary.
Reading the whole word first and asking for its spelling is the same: if the
word is a name the two stop at one place, and if not, the reader has stopped
inside the word or never started. -/

theorem name_eq_word {c : Char} {cs : Text} (hopen : kind.opens c = true)
    (hstop : (cs.dropWhile kind.continues).head?.any isWord = false) :
    (c :: cs).takeWhile isWord = c :: cs.takeWhile kind.continues := by
  have hin : ∀ d ∈ c :: cs.takeWhile kind.continues, isWord d = true := by
    intro d hd
    rcases List.mem_cons.mp hd with rfl | hmem
    · exact SymbolKind.isWord_of_opens hopen
    · exact SymbolKind.isWord_of_continues (List.mem_takeWhile_imp hmem)
  have hsplit : c :: cs =
      (c :: cs.takeWhile kind.continues) ++ cs.dropWhile kind.continues := by
    rw [List.cons_append, List.takeWhile_append_dropWhile]
  rw [hsplit, Text.takeWhile_append_of_stop hin hstop]

theorem continues_stops_with_word {cs : Text}
    (h : ∀ d ∈ cs.takeWhile isWord, kind.continues d = true) :
    cs.takeWhile kind.continues = cs.takeWhile isWord ∧
      cs.dropWhile kind.continues = cs.dropWhile isWord := by
  have hstop : (cs.dropWhile isWord).head?.any kind.continues = false := by
    have hword := Text.head?_dropWhile_any isWord cs
    cases hd : (cs.dropWhile isWord).head? with
    | none => rfl
    | some d =>
        rw [hd, Option.any_some] at hword
        rw [Option.any_some, ← Bool.not_eq_true]
        intro hcont
        rw [SymbolKind.isWord_of_continues hcont] at hword
        cases hword
  have hsplit : cs.takeWhile isWord ++ cs.dropWhile isWord = cs :=
    List.takeWhile_append_dropWhile
  constructor
  · rw [← Text.takeWhile_append_of_stop h hstop, hsplit]
  · rw [← Text.dropWhile_append_of_stop h hstop, hsplit]

/-- The reader answers exactly where a word starts that is spelled as a name of
the kind, and its answer is the whole word. -/
theorem readReference?_eq (c : Char) (cs : Text) :
    readReference? kind edge (c :: cs) =
      if (isWord c && !edge.any isWord) && kind.spells ((c :: cs).takeWhile
          isWord) then
        some ((c :: cs).takeWhile isWord, ((c :: cs).takeWhile isWord).length +
          prioritySize ((c :: cs).dropWhile isWord))
      else none := by
  simp only [readReference?]
  split
  · next hread =>
      simp only [Bool.and_eq_true, Bool.not_eq_true'] at hread
      obtain ⟨⟨hedge, hopen⟩, hstop⟩ := hread
      have hword := name_eq_word hopen hstop
      have hc : isWord c = true := SymbolKind.isWord_of_opens hopen
      have hspells : kind.spells ((c :: cs).takeWhile isWord) = true := by
        rw [hword, SymbolKind.spells, hopen, Bool.true_and, List.all_takeWhile]
      have hrest : (c :: cs).dropWhile isWord =
          cs.dropWhile kind.continues := by
        have h := List.takeWhile_append_dropWhile (p := isWord) (l := c :: cs)
        rw [hword, List.cons_append, List.cons.injEq] at h
        have hboth : cs.takeWhile kind.continues ++ (c :: cs).dropWhile isWord =
            cs.takeWhile kind.continues ++ cs.dropWhile kind.continues := by
          rw [h.2, List.takeWhile_append_dropWhile]
        exact List.append_cancel_left hboth
      rw [if_pos (by rw [hc, hedge, hspells]; rfl), hword, hrest]
  · next hread =>
      rw [if_neg]
      intro hword
      apply hread
      simp only [Bool.and_eq_true, Bool.not_eq_true'] at hword
      obtain ⟨⟨hc, hedge⟩, hspells⟩ := hword
      rw [List.takeWhile_cons_of_pos hc, SymbolKind.spells, Bool.and_eq_true,
        List.all_eq_true] at hspells
      rw [(continues_stops_with_word hspells.2).2,
        Text.head?_dropWhile_any, hedge, hspells.1]
      rfl

/-- What a reading takes along hides no name: a word that starts behind the
first character of a reading and inside of it opens with a digit. Behind the
name it starts inside the priority, and inside the name a word character stands
before it. -/
theorem not_spells_of_covered {c : Char} {cs : Text} {column k : Nat}
    {word : Text} (hmem : (k, word) ∈ wordsFrom (some c) (column + 1) cs)
    (hlt : k < column + (((c :: cs).takeWhile isWord).length +
      prioritySize ((c :: cs).dropWhile isWord))) :
    kind.spells word = false := by
  obtain ⟨before, after, hsplit, hk, hrun, hleft, -⟩ :=
    Text.mem_wordsFrom.mp hmem
  have htext : (c :: cs).takeWhile isWord ++ (c :: cs).dropWhile isWord =
      (c :: before) ++ (word ++ after) := by
    rw [List.takeWhile_append_dropWhile, hsplit, List.cons_append,
      List.append_assoc]
  rcases List.append_eq_append_iff.mp htext with ⟨gap, hbefore,
    hrest⟩ | ⟨gap, hname, -⟩
  · have hlen := congrArg List.length hbefore
    rw [List.length_cons, List.length_append] at hlen
    rcases prioritySize_cases ((c :: cs).dropWhile isWord) with
      hzero | ⟨digits, tail, hprio, hsize, hdigits⟩
    · omega
    · obtain ⟨w, ws, rfl⟩ := List.exists_cons_of_ne_nil hrun.nonempty
      have hw : isWord w = true := hrun.inside w List.mem_cons_self
      cases gap with
      | nil =>
          rw [hprio, List.nil_append, List.cons_append,
            List.cons.injEq] at hrest
          rw [← hrest.1] at hw
          exact absurd hw (by decide)
      | cons dot gap =>
          rw [hprio, List.cons_append, List.cons.injEq] at hrest
          have hgap : gap.length < digits.length := by
            rw [List.length_cons] at hlen
            omega
          have hget : (digits ++ tail)[gap.length]? = some w := by
            rw [hrest.2, List.getElem?_append_right (Nat.le_refl _),
              Nat.sub_self]
            rfl
          rw [List.getElem?_append_left hgap] at hget
          exact SymbolKind.not_spells_of_isDigit
            (hdigits w (List.mem_of_getElem? hget))
  · exfalso
    have hlast : ∀ d ∈ lastOr (some c) before, isWord d = true := by
      intro d hd
      rw [← Text.lastOr_cons none, Text.lastOr_none] at hd
      have hmem : d ∈ (c :: cs).takeWhile isWord := by
        rw [hname]
        exact List.mem_append_left _ (List.mem_of_getLast? hd)
      exact List.mem_takeWhile_imp hmem
    cases hd : lastOr (some c) before with
    | none =>
        rw [← Text.lastOr_cons none, Text.lastOr_none,
          List.getLast?_eq_none_iff] at hd
        cases hd
    | some d =>
        rw [hd, Option.any_some, hlast d hd] at hleft
        cases hleft

/-- The sweep finds the words that are spelled as names, as long as no such
word starts in the part that it still has to skip. -/
theorem sweepFrom_eq_words {skip column : Nat} {text : Text}
    (hskip : ∀ k word, (k, word) ∈ wordsFrom edge column text →
      k < column + skip → kind.spells word = false) :
    sweepFrom (readReference? kind) skip column edge text =
      (wordsFrom edge column text).filter fun w => kind.spells w.2 := by
  induction text generalizing skip column edge with
  | nil => simp [sweepFrom, wordsFrom]
  | cons c cs ih =>
      have hrest : ∀ w, w ∈ wordsFrom (some c) (column + 1) cs →
          w ∈ wordsFrom edge column (c :: cs) := by
        intro w hw
        rw [wordsFrom]
        split
        · exact List.mem_cons_of_mem _ hw
        · exact hw
      cases skip with
      | succ skip =>
          rw [sweepFrom, ih fun k word hmem hlt =>
            hskip k word (hrest _ hmem) (by omega)]
          rw [wordsFrom] at hskip ⊢
          split at hskip
          · next hstart =>
              have hhead := hskip column _ List.mem_cons_self (by omega)
              rw [if_pos hstart, List.filter_cons_of_neg (by simpa using hhead)]
          · next hstart => rw [if_neg hstart]
      | zero =>
          rw [sweepFrom, readReference?_eq, wordsFrom]
          by_cases hstart : (isWord c && !edge.any isWord) = true
          · rw [if_pos hstart, hstart, Bool.true_and]
            by_cases hspells : kind.spells ((c :: cs).takeWhile isWord) = true
            · rw [if_pos hspells,
                List.filter_cons_of_pos
                  (p := fun w : Nat × Text => kind.spells w.2) hspells]
              have hc : isWord c = true := (Bool.and_eq_true _ _ ▸ hstart).1
              refine congrArg _ (ih fun k word hmem hlt => ?_)
              refine not_spells_of_covered hmem ?_
              have hpos : 0 < ((c :: cs).takeWhile isWord).length :=
                List.length_pos_iff.mpr (Text.isRun_takeWhile hc).nonempty
              omega
            · rw [if_neg hspells,
                List.filter_cons_of_neg
                  (p := fun w : Nat × Text => kind.spells w.2) hspells]
              exact ih fun k word hmem hlt => absurd hlt (by
                obtain ⟨before, _, _, hk, _⟩ := Text.mem_wordsFrom.mp hmem
                omega)
          · rw [if_neg hstart, if_neg (by
              rw [Bool.and_eq_true]
              exact fun h => hstart h.1)]
            exact ih fun k word hmem hlt => absurd hlt (by
              obtain ⟨before, _, _, hk, _⟩ := Text.mem_wordsFrom.mp hmem
              omega)

/-- The references of a kind are the words that are spelled as names of it. -/
theorem referencesOf_eq (kind : SymbolKind) (body : Text) :
    referencesOf kind body =
      ((words body).filter fun w => kind.spells w.2).map fun w =>
        ⟨w.2, kind, w.1⟩ := by
  rw [referencesOf, Text.sweep, words, sweepFrom_eq_words]
  intro k word hmem hlt
  omega

end Body

/-- The errors that a masked body deserves, read off its words: one for each
word that is a terminal name without a binding, then one for each that is the
name of a rule without a binding, the start symbol left out. The body starts at
column `offset`. -/
def wordErrors (table : SymbolTable) (line offset : Nat) (masked : Text) :
    List Diagnostic :=
  ((words masked).filter fun w => isTerminalName w.2 && !table.has w.2).map
      (fun w => .undefined line (offset + w.1) w.2 .terminal) ++
    ((words masked).filter fun w =>
        isRuleName w.2 && w.2 != startSymbol && !table.has w.2).map
      (fun w => .undefined line (offset + w.1) w.2 .rule)

theorem needsBinding_terminal (name : Text) (column : Nat) :
    Body.Reference.needsBinding ⟨name, .terminal, column⟩ = true := rfl

theorem needsBinding_rule (name : Text) (column : Nat) :
    Body.Reference.needsBinding ⟨name, .rule, column⟩ = (name != startSymbol) :=
  rfl

theorem undefinedIn_eq_wordErrors (table : SymbolTable) (line offset : Nat)
    (body : Text) :
    undefinedIn table line offset body =
      wordErrors table line offset (Body.mask body) := by
  rw [undefinedIn, Body.references, Body.referencesOf_eq, Body.referencesOf_eq,
    List.filter_append, List.map_append, wordErrors]
  congr 1
  · rw [List.filter_map, List.filter_filter, List.map_map]
    refine congrArg (List.map _) (List.filter_congr fun w _ => ?_)
    simp only [Function.comp_apply, needsBinding_terminal, isTerminalName,
      Bool.true_and]
    rw [Bool.and_comm]
  · rw [List.filter_map, List.filter_filter, List.map_map]
    refine congrArg (List.map _) (List.filter_congr fun w _ => ?_)
    simp only [Function.comp_apply, needsBinding_rule, isRuleName]
    rw [Bool.and_comm, ← Bool.and_assoc]

theorem Diagnostic.span_undefined (line start : Nat) (name : Text)
    (kind : SymbolKind) :
    (Diagnostic.undefined line start name kind).span =
      ⟨line, start, start + name.length⟩ := by
  cases kind <;> rfl

/-- An error among the words of a body stands at a word. -/
theorem mem_wordErrors {table : SymbolTable} {line offset : Nat} {masked : Text}
    {d : Diagnostic} (h : d ∈ wordErrors table line offset masked) :
    ∃ column name kind, Text.WordAt masked column name ∧
      d = .undefined line (offset + column) name kind := by
  rcases List.mem_append.mp h with h | h
  · obtain ⟨w, hw, rfl⟩ := List.mem_map.mp h
    exact ⟨w.1, w.2, .terminal, Text.mem_words.mp (List.mem_filter.mp hw).1,
      rfl⟩
  · obtain ⟨w, hw, rfl⟩ := List.mem_map.mp h
    exact ⟨w.1, w.2, .rule, Text.mem_words.mp (List.mem_filter.mp hw).1, rfl⟩

/-- An error is an invalid head or an undefined name, on the line it was
found. -/
theorem mem_lineErrors {table : SymbolTable} {line : Nat} {text : Text}
    {d : Diagnostic} (h : d ∈ lineErrors table line text) :
    (∃ start head, d = .invalidHead line start head) ∨
      ∃ start name kind, d = .undefined line start name kind := by
  have hundefined : ∀ {offset : Nat} {body : Text},
    d ∈ undefinedIn table line offset body →
      ∃ start name kind, d = .undefined line start name kind := by
    intro offset body h
    obtain ⟨r, -, rfl⟩ := List.mem_map.mp h
    exact ⟨_, _, _, rfl⟩
  rw [lineErrors] at h
  split at h
  · exact .inr (hundefined h)
  · cases h
  · cases h
  · rcases List.mem_cons.mp h with rfl | h
    · exact .inl ⟨_, _, rfl⟩
    · exact .inr (hundefined h)
  · exact .inr (hundefined h)

/-- The errors of a grammar against any table, line by line: a line that binds
names without a body or is skipped has none, an invalid head comes first on its
line, and then come the words of the masked body that are names without a
binding, at their own columns. The search starts behind the head of a
definition, and at the start of any other line. The words are the maximal runs
of word characters, from left to right. -/
theorem undefined_report_exact (table : SymbolTable) (lines : List Text) :
    (findErrors table lines =
      lines.zipIdx.flatMap fun (text, line) =>
        match classify text with
        | .directive _ => []
        | .skipped _ => []
        | .definition head =>
          wordErrors table line head.bodyStart
            (Body.mask (text.drop head.bodyStart))
        | .invalidHead head start =>
          .invalidHead line start head ::
            wordErrors table line 0 (Body.mask text)
        | .body => wordErrors table line 0 (Body.mask text)) ∧
    ∀ masked : Text,
      (words masked).Pairwise (fun v w => v.1 < w.1) ∧
      ∀ column word, (column, word) ∈ words masked ↔
        Text.WordAt masked column word := by
  refine ⟨?_, fun masked => ⟨Text.words_ordered masked,
    fun _ _ => Text.mem_words⟩⟩
  rw [findErrors]
  refine congrArg (lines.zipIdx.flatMap ·) (funext fun ⟨text, line⟩ => ?_)
  dsimp only
  rw [lineErrors]
  cases classify text with
  | definition head => exact undefinedIn_eq_wordErrors ..
  | directive => rfl
  | skipped => rfl
  | invalidHead head start => exact congrArg _ (undefinedIn_eq_wordErrors ..)
  | body => exact undefinedIn_eq_wordErrors ..

end GrammarLint
