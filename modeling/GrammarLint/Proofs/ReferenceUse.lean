import GrammarLint.Proofs.Masking
import GrammarLint.Proofs.UndefinedReport
import GrammarLint.Proofs.UnusedReport

/-!
# References and uses

A grammar is searched for names twice. The search for references reads masked
bodies, where literals are gone with their flags; the search for uses reads raw
lines, where a flag is a letter like any other. The second is meant to be the
looser one, and nearly is: a word of a masked body starts and ends in the raw
line as well, unless the flag of a literal stands right in front of it. In
`"a"iFOO` the masked body has the word `FOO` and the raw line the word `iFOO`,
so the reference to `FOO` is no use of it.

That is the only way in which a name can be referred to on another line and
still be reported as unused, and the last theorem says exactly when it happens.
-/

namespace GrammarLint

open Text (IsRun WordAt isWord lastOr)

/-- The column at which the body of a line starts: behind the head of a
definition, and at the front of any other line. -/
def LineClass.bodyStart : LineClass → Nat
  | .definition head => head.bodyStart
  | _ => 0

theorem Head.skipPriority_suffix (t : Text) : skipPriority t <:+ t := by
  unfold skipPriority
  split
  · next cs =>
      split
      · exact (List.dropWhile_suffix _).trans (List.suffix_cons _ _)
      · exact List.suffix_refl _
  · exact List.suffix_refl _

/-- The head of a definition ends with its colon. -/
theorem Head.take_bodyStart {text : Text} {head : Head}
    (h : Head.read? text = some head) :
    ∃ front, text.take head.bodyStart = front ++ [':'] := by
  simp only [Head.read?] at h
  split at h
  · cases h
  · split at h
    · next body hbody =>
        injection h with h
        subst h
        have hsuf : ':' :: body <:+ text := by
          rw [← hbody]
          exact (List.dropWhile_suffix _).trans ((skipPriority_suffix _).trans
            ((List.dropWhile_suffix _).trans ((skipMarker_suffix _).trans
              (List.dropWhile_suffix _))))
        obtain ⟨front, hfront⟩ := hsuf
        refine ⟨front, ?_⟩
        show text.take (text.length - body.length) = front ++ [':']
        have hsplit : text = (front ++ [':']) ++ body := by
          rw [← hfront, List.append_assoc]
          rfl
        have hlen : text.length - body.length = (front ++ [':']).length := by
          rw [hsplit, List.length_append]
          omega
        rw [hlen, hsplit, List.take_left]
    · cases h

/-- No word character stands in front of a body. -/
theorem edge_of_body (text : Text) :
    (text.take (classify text).bodyStart).getLast?.any isWord = false := by
  have hread := classify_readFrom text
  cases hclass : classify text with
  | definition head =>
      rw [hclass] at hread
      obtain ⟨front, hfront⟩ := Head.take_bodyStart hread
      rw [LineClass.bodyStart, hfront, List.getLast?_concat]
      rfl
  | directive | skipped | invalidHead | body => rfl

/-- The line is not skipped, and its masked body has a reference to the name at
this column of the line. -/
def ReferredAt (lines : List Text) (name : Text) (line column : Nat) : Prop :=
  ∃ text, lines[line]? = some text ∧
    (∀ reason, classify text ≠ .skipped reason) ∧
    ∃ r ∈ Body.references (Body.mask (text.drop (classify text).bodyStart)),
      r.name = name ∧ (classify text).bodyStart + r.column = column

/-- A letter that may be the flag of a literal stands in front of the column. -/
def FlagBefore (text : Text) (column : Nat) : Prop :=
  (text.take column).getLast?.any Body.isRegexpFlag = true

theorem Body.wordAt_of_mem_references {body : Text} {r : Body.Reference}
    (h : r ∈ Body.references body) : WordAt body r.column r.name := by
  rw [Body.references, Body.referencesOf_eq, Body.referencesOf_eq,
    List.mem_append] at h
  rcases h with h | h <;>
    (obtain ⟨w, hw, rfl⟩ := List.mem_map.mp h
     exact Text.mem_words.mp (List.mem_of_mem_filter hw))

/-- On the raw line a reference ends like a word, and starts like one unless a
flag stands before it. -/
theorem split_of_reference {text : Text} {r : Body.Reference}
    (h : r ∈ Body.references
      (Body.mask (text.drop (classify text).bodyStart))) :
    ∃ before after, text = before ++ r.name ++ after ∧
      before.length = (classify text).bodyStart + r.column ∧ IsRun r.name ∧
      (∀ c ∈ before.getLast?, isWord c = true → Body.isRegexpFlag c = true) ∧
      after.head?.any isWord = false := by
  have hword := Body.wordAt_of_mem_references h
  have hrun : IsRun r.name := hword.run
  obtain ⟨before, after, hsplit, hlen, hflag, hright⟩ :=
    Body.word_of_mask hword (edge_of_body text)
  have hpos : 0 < r.name.length := List.length_pos_iff.mpr hrun.nonempty
  have hdrop := congrArg List.length hsplit
  simp only [List.length_drop, List.length_append] at hdrop
  refine ⟨text.take (classify text).bodyStart ++ before, after, ?_, ?_, hrun,
    ?_, hright⟩
  · rw [List.append_assoc (text.take _), List.append_assoc (text.take _),
      ← hsplit, List.take_append_drop]
  · rw [List.length_append, List.length_take]
    omega
  · rw [← Text.lastOr_none, Text.lastOr_append, Text.lastOr_none]
    exact hflag

/-- A reference is a word of the raw line exactly when no flag stands before
it. -/
theorem wordAt_iff_of_reference {text : Text} {r : Body.Reference}
    (h : r ∈ Body.references
      (Body.mask (text.drop (classify text).bodyStart))) :
    WordAt text ((classify text).bodyStart + r.column) r.name ↔
      ¬ FlagBefore text ((classify text).bodyStart + r.column) := by
  constructor
  · intro h hflag
    obtain ⟨before, after, hsplit, hlen, -, hleft, -⟩ := h
    rw [FlagBefore, ← hlen, hsplit, List.append_assoc, List.take_left] at hflag
    cases hlast : before.getLast? with
    | none => rw [hlast] at hflag; cases hflag
    | some c =>
        rw [hlast, Option.any_some] at hflag hleft
        rw [Body.isWord_of_isRegexpFlag hflag] at hleft
        cases hleft
  · intro hfree
    obtain ⟨before, after, hsplit, hlen, hrun, hflag, hright⟩ :=
      split_of_reference h
    refine ⟨before, after, hsplit, hlen, hrun, ?_, hright⟩
    rw [FlagBefore, ← hlen] at hfree
    nth_rewrite 1 [hsplit] at hfree
    rw [List.append_assoc, List.take_left] at hfree
    cases hlast : before.getLast? with
    | none => rfl
    | some c =>
        rw [Option.any_some, ← Bool.not_eq_true]
        intro hword
        rw [hlast, Option.any_some] at hfree
        exact hfree (hflag c hlast hword)

theorem wordAt_iff_of_referredAt {lines : List Text} {name text : Text}
    {line column : Nat} (hline : lines[line]? = some text)
    (href : ReferredAt lines name line column) :
    WordAt text column name ↔ ¬ FlagBefore text column := by
  obtain ⟨text', hline', -, r, hmem, rfl, rfl⟩ := href
  obtain rfl : text = text' := Option.some.inj (hline.symm.trans hline')
  exact wordAt_iff_of_reference hmem

/-- A reference from another line than the record's, with no flag before it,
keeps a name from being reported as unused. The report of a name is exactly
this: the name is not the start symbol, every reference to it from another line
has a flag before it, and no other line has it as a word. -/
theorem unused_iff_flagged {lines : List Text} {r : Record}
    (hr : r ∈ (SymbolTable.ofLines lines).records) :
    ((∃ i text column, lines[i]? = some text ∧ i ≠ r.line ∧
        ReferredAt lines r.name i column ∧ ¬ FlagBefore text column) →
      ¬ ∃ d ∈ validate lines, d.IsUnused r.name) ∧
    ((∃ d ∈ validate lines, d.IsUnused r.name) ↔
      r.name ≠ startSymbol ∧
      (∀ i text column, lines[i]? = some text → i ≠ r.line →
        ReferredAt lines r.name i column → FlagBefore text column) ∧
      (∀ i text column, lines[i]? = some text → i ≠ r.line →
        ¬ WordAt text column r.name)) := by
  have hlast : LastBound lines r.name r.site :=
    lastBound_iff.mpr ⟨r, hr, rfl, rfl⟩
  have hunused : (∃ p, UnusedAt lines r.name p) →
      ∀ i text column, lines[i]? = some text → i ≠ r.line →
        ¬ WordAt text column r.name := by
    intro h i text column hline hne hword
    obtain ⟨p, hp, -, halone⟩ := h
    obtain rfl : p = r.site := hp.unique hlast
    exact hne (halone i text hline ⟨column, hword⟩)
  have hflagged : (∃ p, UnusedAt lines r.name p) →
      ∀ i text column, lines[i]? = some text → i ≠ r.line →
        ReferredAt lines r.name i column → FlagBefore text column := by
    intro hp i text column hline hne href
    by_contra hfree
    exact hunused hp i text column hline hne
      ((wordAt_iff_of_referredAt hline href).mpr hfree)
  rw [exists_isUnused_iff]
  refine ⟨?_, fun hp => ⟨?_, hflagged hp, hunused hp⟩, ?_⟩
  · intro h hp
    obtain ⟨i, text, column, hline, hne, href, hfree⟩ := h
    exact hfree (hflagged hp i text column hline hne href)
  · obtain ⟨p, hp⟩ := hp
    exact hp.notStart
  · intro h
    obtain ⟨hstart, -, halone⟩ := h
    refine ⟨r.site, hlast, hstart, fun i text hline hword => ?_⟩
    by_contra hne
    obtain ⟨column, hword⟩ := hword
    exact halone i text column hline hne hword

/-- The terminal `FOO` is referred to in `start: "a"iFOO`, right behind the flag
of a string, and is reported as unused. -/
theorem unused_iff_flagged_string :
    let lines : List Text :=
      [['s', 't', 'a', 'r', 't', ':', ' ', '"', 'a', '"', 'i', 'F', 'O', 'O'],
        ['F', 'O', 'O', ':', ' ', '"', 'x', '"']]
    let r : Record := ⟨['F', 'O', 'O'], .terminal, 1, 0, false⟩
    r ∈ (SymbolTable.ofLines lines).records ∧ ReferredAt lines r.name 0 11 ∧
      validate lines = [.unused 1 0 r.name] ∧
      ∀ i text column, lines[i]? = some text → i ≠ r.line →
        ReferredAt lines r.name i column → FlagBefore text column := by
  intro lines r
  have hr : r ∈ (SymbolTable.ofLines lines).records := by decide
  have href : ReferredAt lines r.name 0 11 := by
    refine ⟨_, rfl, fun reason h => ?_, ⟨r.name, .terminal, 5⟩, by decide, rfl,
      rfl⟩
    cases h
  have hvalidate : validate lines = [.unused 1 0 r.name] := rfl
  have hunused : ∃ d ∈ validate lines, d.IsUnused r.name :=
    ⟨.unused 1 0 r.name, by rw [hvalidate]; exact List.mem_cons_self, rfl, rfl⟩
  exact ⟨hr, href, hvalidate, ((unused_iff_flagged hr).2.mp hunused).2.1⟩

end GrammarLint
