import GrammarLint.Proofs.HeadText

/-!
# Lists of names

The names of a list are found by a sweep that reads an identifier wherever one
can start. Nothing asks what stands in front of that place, and a digit is a
word character that no identifier starts with. So the sweep reads every word of
the list from its first character that is no digit: a word that opens with
digits gives the rest of itself, and a word of digits alone gives nothing.

`namesIn_eq` says this of every list. Behind a word the sweep is where the next
word may start, so an induction that takes off one word, or one character
outside of words, at a time goes through.
-/

namespace GrammarLint

open Text (IsRun isIdentStart isWord lastOr sweepFrom words wordsFrom)

/-- A letter or an underscore, and behind it word characters. -/
def isIdentifier : Text → Bool
  | [] => false
  | c :: cs => isIdentStart c && cs.all isWord

theorem isRun_of_isIdentifier {name : Text} (h : isIdentifier name = true) :
    IsRun name := by
  cases name with
  | nil => cases h
  | cons c cs =>
      simp only [isIdentifier, Bool.and_eq_true, List.all_eq_true] at h
      refine ⟨List.cons_ne_nil c cs, fun d hd => ?_⟩
      rcases List.mem_cons.mp hd with rfl | hd
      · exact isWord_of_isIdentStart h.1
      · exact h.2 d hd

/-- The word characters are the characters that open identifiers, and the
digits. -/
theorem isIdentStart_eq {c : Char} (h : isWord c = true) :
    isIdentStart c = !c.isDigit := by
  have hstart : isIdentStart c = true ↔ c.isUpper = true ∨ c.isLower = true ∨
      c = '_' := by
    show ((c.isUpper || c.isLower) || c == '_') = true ↔ _
    simp only [Bool.or_eq_true, beq_iff_eq, or_assoc]
  cases hdigit : c.isDigit with
  | false =>
      rw [Bool.not_false, hstart]
      rcases isWord_iff.mp h with h | h | h | h
      · exact .inl h
      · exact .inr (.inl h)
      · rw [hdigit] at h
        cases h
      · exact .inr (.inr h)
  | true =>
      have hrange := toNat_of_isDigit hdigit
      rw [Bool.not_true, ← Bool.not_eq_true, hstart]
      intro hcases
      rcases hcases with hupper | hlower | rfl
      · have := toNat_of_isUpper hupper
        omega
      · have := toNat_of_isLower hlower
        omega
      · cases hdigit

theorem not_isIdentStart_of_not_isWord {c : Char} (h : isWord c = false) :
    isIdentStart c = false := by
  rw [← Bool.not_eq_true]
  intro hstart
  rw [isWord_of_isIdentStart hstart] at h
  cases h

/-- The identifiers are the runs of word characters that no digit opens. -/
theorem isIdentifier_iff {name : Text} :
    isIdentifier name = true ↔
      IsRun name ∧ name.head?.any Char.isDigit = false := by
  constructor
  · intro h
    refine ⟨isRun_of_isIdentifier h, ?_⟩
    cases name with
    | nil => rfl
    | cons c cs =>
        rw [isIdentifier, Bool.and_eq_true] at h
        have hopen := h.1
        rw [isIdentStart_eq (isWord_of_isIdentStart hopen),
          Bool.not_eq_true'] at hopen
        exact hopen
  · intro hgiven
    obtain ⟨hrun, hopen⟩ := hgiven
    cases name with
    | nil => exact absurd rfl hrun.nonempty
    | cons c cs =>
        have hdigit : c.isDigit = false := hopen
        rw [isIdentifier, isIdentStart_eq (hrun.inside c List.mem_cons_self),
          hdigit, Bool.not_false, Bool.true_and, List.all_eq_true]
        exact fun d hd => hrun.inside d (List.mem_cons_of_mem c hd)

namespace Directive

theorem readIdentifier?_cons (c : Char) (cs : Text) :
    readIdentifier? (c :: cs) =
      if isIdentStart c then some ((c :: cs).takeWhile isWord) else none := by
  rw [readIdentifier?]
  split
  · next hc => rw [List.takeWhile_cons_of_pos (isWord_of_isIdentStart hc)]
  · rfl

/-- An identifier is read whole if no word character follows it. -/
theorem readIdentifier?_append {name rest : Text}
    (hname : isIdentifier name = true) (hstop : rest.head?.any isWord = false) :
    readIdentifier? (name ++ rest) = some name := by
  have hrun := isRun_of_isIdentifier hname
  have htake := Text.takeWhile_append_of_stop hrun.inside hstop
  cases name with
  | nil => cases hname
  | cons c cs =>
      simp only [isIdentifier, Bool.and_eq_true] at hname
      rw [List.cons_append] at htake ⊢
      rw [readIdentifier?_cons, if_pos hname.1, htake]

/-- The reader that a list is swept with. -/
def readName (_ : Option Char) (rest : Text) : Option (Text × Nat) :=
  (readIdentifier? rest).map fun name => (name, name.length)

section

variable {column : Nat} {edge : Option Char}

theorem sweepFrom_skip {skipped : Text}
    (h : ∀ c ∈ skipped, isIdentStart c = false) (rest : Text) :
    sweepFrom readName 0 column edge (skipped ++ rest) =
      sweepFrom readName 0 (column + skipped.length)
        (lastOr edge skipped) rest := by
  induction skipped generalizing column edge with
  | nil => rw [Text.lastOr_nil, List.nil_append, List.length_nil, Nat.add_zero]
  | cons c cs ih =>
      have hnone : readName edge (c :: (cs ++ rest)) = none := by
        rw [readName, readIdentifier?_cons, h c List.mem_cons_self]
        rfl
      rw [List.cons_append, sweepFrom, hnone]
      dsimp only
      rw [ih fun d hd => h d (List.mem_cons_of_mem c hd), Text.lastOr_cons,
        List.length_cons, Nat.add_assoc, Nat.add_comm 1]

theorem sweepFrom_name {name rest : Text} (hname : isIdentifier name = true)
    (hstop : rest.head?.any isWord = false) :
    sweepFrom readName 0 column edge (name ++ rest) =
      (column, name) ::
        sweepFrom readName 0 (column + name.length)
          (lastOr edge name) rest := by
  have hread : readName edge (name ++ rest) = some (name, name.length) := by
    rw [readName, readIdentifier?_append hname hstop, Option.map_some]
  cases name with
  | nil => cases hname
  | cons c cs =>
      rw [List.cons_append] at hread ⊢
      rw [sweepFrom, hread]
      dsimp only
      rw [List.length_cons, Nat.add_sub_cancel, Text.sweepFrom_covered,
        Text.lastOr_cons, Nat.add_assoc, Nat.add_comm 1]

/-- The identifier that a word of a list gives: the word without its leading
digits. -/
def identifierIn (w : Nat × Text) : Option (Nat × Text) :=
  if (w.2.dropWhile Char.isDigit).isEmpty then none
  else some (w.1 + (w.2.takeWhile Char.isDigit).length,
    w.2.dropWhile Char.isDigit)

theorem isIdentifier_dropWhile {word : Text}
    (hword : ∀ c ∈ word, isWord c = true)
    (hne : word.dropWhile Char.isDigit ≠ []) :
    isIdentifier (word.dropWhile Char.isDigit) = true := by
  have hsub := (List.dropWhile_sublist (l := word) Char.isDigit).subset
  exact isIdentifier_iff.mpr
    ⟨⟨hne, fun c hc => hword c (hsub hc)⟩,
      Text.head?_dropWhile_any Char.isDigit word⟩

/-- One word of a list. -/
theorem sweepFrom_word {word rest : Text} (hword : ∀ c ∈ word, isWord c = true)
    (hstop : rest.head?.any isWord = false) :
    sweepFrom readName 0 column edge (word ++ rest) =
      (identifierIn (column, word)).toList ++
        sweepFrom readName 0 (column + word.length)
          (lastOr edge word) rest := by
  have hdigits : ∀ c ∈ word.takeWhile Char.isDigit, isIdentStart c = false := by
    intro c hc
    have hdigit : c.isDigit = true := List.mem_takeWhile_imp hc
    rw [isIdentStart_eq (isWord_of_isDigit hdigit), hdigit]
    rfl
  have hsplit : word.takeWhile Char.isDigit ++ word.dropWhile Char.isDigit =
      word :=
    List.takeWhile_append_dropWhile
  have hlength := congrArg List.length hsplit
  have hlast := congrArg (lastOr edge) hsplit
  rw [List.length_append] at hlength
  rw [Text.lastOr_append] at hlast
  have htext : word ++ rest =
      word.takeWhile Char.isDigit ++ (word.dropWhile Char.isDigit ++ rest) := by
    rw [← List.append_assoc, hsplit]
  rw [htext, sweepFrom_skip hdigits, identifierIn]
  cases hname : word.dropWhile Char.isDigit with
  | nil =>
      rw [hname, List.length_nil, Nat.add_zero] at hlength
      rw [hname, Text.lastOr_nil] at hlast
      rw [List.nil_append, hlength, hlast]
      rfl
  | cons c cs =>
      have hidentifier :=
        isIdentifier_dropWhile hword
          (by rw [hname]; exact List.cons_ne_nil c cs)
      rw [hname] at hidentifier hlength hlast
      rw [sweepFrom_name hidentifier hstop, hlast, Nat.add_assoc, hlength]
      rfl

/-- The sweep of a list takes every word from its first character that is no
digit. By induction on the length, because a word is taken off at once. -/
theorem sweepFrom_eq_identifiers {text : Text}
    (h : edge.any isWord = false ∨ text.head?.any isWord = false) :
    sweepFrom readName 0 column edge text =
      (wordsFrom edge column text).filterMap identifierIn := by
  induction hsize : text.length using Nat.strong_induction_on generalizing text
    column edge with
  | _ size ih =>
      cases text with
      | nil => rfl
      | cons c cs =>
          rw [List.length_cons] at hsize
          cases hc : isWord c with
          | false =>
              have hskip : ∀ d ∈ [c], isIdentStart d = false := by
                simpa using not_isIdentStart_of_not_isWord hc
              rw [← List.singleton_append, sweepFrom_skip hskip,
                List.singleton_append, wordsFrom, hc]
              exact ih cs.length (by omega) (.inl hc) rfl
          | true =>
              have hedge : edge.any isWord = false :=
                h.resolve_right (by simp [hc])
              have hrun : IsRun ((c :: cs).takeWhile isWord) :=
                Text.isRun_takeWhile hc
              have hstop := Text.head?_dropWhile_any isWord (c :: cs)
              have hsplit :
                  (c :: cs).takeWhile isWord ++ (c :: cs).dropWhile isWord =
                    c :: cs :=
                List.takeWhile_append_dropWhile
              have hlength := congrArg List.length hsplit
              have hpos := List.length_pos_iff.mpr hrun.nonempty
              rw [List.length_append, List.length_cons] at hlength
              rw [← hsplit, sweepFrom_word hrun.inside hstop,
                Text.wordsFrom_append (.inr hstop),
                Text.wordsFrom_run hrun hedge, List.filterMap_append,
                ih _ (by omega) (.inr hstop) rfl, List.filterMap_cons]
              cases identifierIn (column, (c :: cs).takeWhile isWord) <;> rfl

end

/-- The names of a list are its words without their leading digits, up to a
comment. -/
theorem namesIn_eq (offset : Nat) (list : Text) :
    namesIn offset list =
      ((words (Text.beforeComment list)).filterMap identifierIn).map
      fun found => ⟨found.2, offset + found.1⟩ := by
  rw [words, ← sweepFrom_eq_identifiers (.inl rfl)]
  rfl

end Directive

end GrammarLint
