import GrammarLint.Text.Basic
import Mathlib.Data.List.TakeWhile

/-!
# The words of a text

The checks speak of words in two voices. The search for uses asks whether a
name stands between two word boundaries, a test made anew at every column; a
reader of the grammar sees the text fall into words, each as long as it can
be. Here the second voice gets a definition of its own, and the first is shown
to say the same of every name that is itself a run of word characters.

Everything goes through `wordsFrom`, which carries the character in front of
the text it walks: whether a word starts at a column is decided by that
character and the one at the column, and by nothing further away.
-/

namespace GrammarLint.Text

/-! ## Taking and dropping a run

Cutting off a run at the front is exact as soon as the run ends where the
characters of the class end. -/

theorem takeWhile_append_of_stop {p : Char → Bool} {run rest : Text}
    (hin : ∀ c ∈ run, p c = true) (hstop : rest.head?.any p = false) :
    (run ++ rest).takeWhile p = run := by
  rw [List.takeWhile_append_of_pos hin]
  cases rest with
  | nil => simp
  | cons c cs =>
      have hc : ¬ p c = true := by simpa using hstop
      rw [List.takeWhile_cons_of_neg hc, List.append_nil]

theorem dropWhile_append_of_stop {p : Char → Bool} {run rest : Text}
    (hin : ∀ c ∈ run, p c = true) (hstop : rest.head?.any p = false) :
    (run ++ rest).dropWhile p = rest := by
  rw [List.dropWhile_append_of_pos hin]
  cases rest with
  | nil => rfl
  | cons c cs =>
      have hc : ¬ p c = true := by simpa using hstop
      rw [List.dropWhile_cons_of_neg hc]

theorem head?_dropWhile_any (p : Char → Bool) (t : Text) :
    (t.dropWhile p).head?.any p = false := by
  have h := List.head?_dropWhile_not p t
  cases hd : (t.dropWhile p).head? with
  | none => rfl
  | some c =>
      rw [hd] at h
      simpa using h

/-- A text that is all word characters, and not empty. -/
structure IsRun (t : Text) : Prop where
  nonempty : t ≠ []
  inside : ∀ c ∈ t, isWord c = true

/-- The word is a maximal run of word characters of the text and starts at the
column: no word character stands on either side of it. -/
def WordAt (text : Text) (column : Nat) (word : Text) : Prop :=
  ∃ before after, text = before ++ word ++ after ∧ before.length = column ∧
    IsRun word ∧ before.getLast?.any isWord = false ∧
    after.head?.any isWord = false

theorem WordAt.run {text word : Text} {column : Nat}
    (h : WordAt text column word) :
    IsRun word := by
  obtain ⟨_, _, _, _, hrun, _⟩ := h
  exact hrun

/-- The text has the word at some column. -/
def HasWord (text word : Text) : Prop := ∃ column, WordAt text column word

/-- The words of a text that follows `edge`, left to right, each with its
column. A word starts at every word character that has none in front of it. -/
def wordsFrom : Option Char → Nat → Text → List (Nat × Text)
  | _, _, [] => []
  | edge, column, c :: cs =>
    if isWord c && !edge.any isWord then
      (column, (c :: cs).takeWhile isWord) :: wordsFrom (some c) (column + 1) cs
    else wordsFrom (some c) (column + 1) cs

/-- The words of a text, left to right, each with its column. -/
def words (text : Text) : List (Nat × Text) := wordsFrom none 0 text

@[simp] theorem lastOr_nil (edge : Option Char) : lastOr edge [] = edge := by
  simp [lastOr]

@[simp] theorem lastOr_none (t : Text) : lastOr none t = t.getLast? := by
  simp [lastOr]

@[simp] theorem lastOr_cons (edge : Option Char) (c : Char) (t : Text) :
    lastOr edge (c :: t) = lastOr (some c) t := by
  cases t with
  | nil => rfl
  | cons d ds =>
      rw [lastOr, lastOr, List.getLast?_cons_cons,
        List.getLast?_eq_some_getLast (List.cons_ne_nil d ds), Option.some_or,
        Option.some_or]

theorem lastOr_append (edge : Option Char) (s t : Text) :
    lastOr edge (s ++ t) = lastOr (lastOr edge s) t := by
  induction s generalizing edge with
  | nil => simp
  | cons c cs ih => rw [List.cons_append, lastOr_cons, lastOr_cons, ih]

theorem isRun_takeWhile {c : Char} {cs : Text} (hc : isWord c = true) :
    IsRun ((c :: cs).takeWhile isWord) where
  nonempty := by simp [List.takeWhile_cons_of_pos hc]
  inside := fun _ hd => List.mem_takeWhile_imp hd

theorem mem_wordsFrom {edge : Option Char} {column k : Nat} {text word : Text} :
    (k, word) ∈ wordsFrom edge column text ↔
      ∃ before after, text = before ++ word ++ after ∧
        k = column + before.length ∧ IsRun word ∧
        (lastOr edge before).any isWord = false ∧
        after.head?.any isWord = false := by
  induction text generalizing edge column with
  | nil =>
      simp only [wordsFrom, List.not_mem_nil, false_iff]
      intro h
      obtain ⟨before, after, hsplit, -, hrun, -⟩ := h
      have hnil : word = [] := by
        have := congrArg List.length hsplit
        simp only [List.length_nil, List.length_append] at this
        exact List.eq_nil_of_length_eq_zero (by omega)
      exact hrun.nonempty hnil
  | cons c cs ih =>
      have htail : (∃ before after, cs = before ++ word ++ after ∧
            k = column + 1 + before.length ∧ IsRun word ∧
            (lastOr (some c) before).any isWord = false ∧
            after.head?.any isWord = false) ↔
          (∃ before after, c :: cs = (c :: before) ++ word ++ after ∧
            k = column + (c :: before).length ∧ IsRun word ∧
            (lastOr edge (c :: before)).any isWord = false ∧
            after.head?.any isWord = false) := by
        simp only [List.cons_append, List.cons.injEq, true_and, lastOr_cons,
          List.length_cons]
        refine exists_congr fun before => exists_congr fun after =>
          and_congr_right fun _ => and_congr_left fun _ => ?_
        omega
      rw [wordsFrom]
      split
      · next hstart =>
          rw [Bool.and_eq_true, Bool.not_eq_true'] at hstart
          obtain ⟨hc, hedge⟩ := hstart
          rw [List.mem_cons, ih, htail]
          constructor
          · intro h
            rcases h with hhead | ⟨before, after, h⟩
            · injection hhead with hk hword
              subst hk hword
              exact ⟨[], (c :: cs).dropWhile isWord, by simp, by simp,
                isRun_takeWhile hc, by simpa using hedge,
                head?_dropWhile_any isWord _⟩
            · exact ⟨c :: before, after, h⟩
          · intro h
            obtain ⟨before, after, hsplit, hk, hrun, hleft, hright⟩ := h
            cases before with
            | nil =>
                left
                rw [List.nil_append] at hsplit
                rw [hk, hsplit, takeWhile_append_of_stop hrun.inside hright]
                rfl
            | cons d ds =>
                right
                obtain rfl : c = d := (List.cons.inj hsplit).1
                exact ⟨ds, after, hsplit, hk, hrun, hleft, hright⟩
      · next hstart =>
          rw [ih, htail]
          constructor
          · intro h
            obtain ⟨before, after, h⟩ := h
            exact ⟨c :: before, after, h⟩
          · intro h
            obtain ⟨before, after, hsplit, hk, hrun, hleft, hright⟩ := h
            cases before with
            | nil =>
                exfalso
                apply hstart
                rw [List.nil_append] at hsplit
                have hc : isWord c = true := by
                  cases word with
                  | nil => exact absurd rfl hrun.nonempty
                  | cons d ds =>
                      obtain rfl : c = d := (List.cons.inj hsplit).1
                      exact hrun.inside c (List.mem_cons_self)
                rw [lastOr_nil] at hleft
                rw [hc, hleft]
                rfl
            | cons d ds =>
                obtain rfl : c = d := (List.cons.inj hsplit).1
                exact ⟨ds, after, hsplit, hk, hrun, hleft, hright⟩

theorem wordsFrom_ordered (edge : Option Char) (column : Nat) (text : Text) :
    (wordsFrom edge column text).Pairwise fun v w => v.1 < w.1 := by
  induction text generalizing edge column with
  | nil => exact List.Pairwise.nil
  | cons c cs ih =>
      rw [wordsFrom]
      split
      · refine List.pairwise_cons.mpr ⟨?_, ih (some c) (column + 1)⟩
        intro h hmem
        obtain ⟨k, word⟩ := h
        obtain ⟨before, _, _, hk, _⟩ := mem_wordsFrom.mp hmem
        show column < k
        omega
      · exact ih (some c) (column + 1)

/-- The list of words goes from left to right. -/
theorem words_ordered (text : Text) :
    (words text).Pairwise fun v w => v.1 < w.1 :=
  wordsFrom_ordered none 0 text

/-- The list of words holds the maximal runs and nothing else. -/
theorem mem_words {text word : Text} {column : Nat} :
    (column, word) ∈ words text ↔ WordAt text column word := by
  rw [words, mem_wordsFrom]
  simp only [Nat.zero_add, lastOr_none, WordAt, eq_comm (a := column)]

instance (text : Text) (column : Nat) (word : Text) :
    Decidable (WordAt text column word) :=
  decidable_of_iff _ mem_words

theorem hasWord_iff {text word : Text} :
    HasWord text word ↔ word ∈ (words text).map Prod.snd := by
  simp only [HasWord, ← mem_words, List.mem_map, Prod.exists, exists_eq_right]

instance (text word : Text) : Decidable (HasWord text word) :=
  decidable_of_iff _ hasWord_iff.symm

theorem wordsFrom_append {edge : Option Char} {column : Nat} {s t : Text}
    (h : s.getLast?.any isWord = false ∨ t.head?.any isWord = false) :
    wordsFrom edge column (s ++ t) =
      wordsFrom edge column s ++
      wordsFrom (lastOr edge s) (column + s.length) t := by
  induction s generalizing edge column with
  | nil => simp [wordsFrom]
  | cons c cs ih =>
      have hcs : cs.getLast?.any isWord = false ∨
          t.head?.any isWord = false := by
        refine h.imp_left fun hlast => ?_
        cases cs with
        | nil => rfl
        | cons d ds => rwa [List.getLast?_cons_cons] at hlast
      have htake : ((c :: cs) ++ t).takeWhile isWord =
          (c :: cs).takeWhile isWord := by
        rw [List.takeWhile_append]
        split
        · next hall =>
            have hword : (c :: cs).takeWhile isWord = c :: cs :=
              (List.takeWhile_prefix isWord).eq_of_length hall
            have hstop : t.takeWhile isWord = [] := by
              rcases h with hlast | hhead
              · exfalso
                have hmem : (c :: cs).getLast (List.cons_ne_nil c cs) ∈
                    (c :: cs).takeWhile isWord := by
                  rw [hword]
                  exact List.getLast_mem _
                rw [List.getLast?_eq_some_getLast (List.cons_ne_nil c cs),
                  Option.any_some, List.mem_takeWhile_imp hmem] at hlast
                cases hlast
              · simpa using takeWhile_append_of_stop (p := isWord)
                  (List.forall_mem_nil _) hhead
            rw [hstop, hword, List.append_nil]
        · rfl
      rw [List.cons_append, wordsFrom, wordsFrom, ← List.cons_append,
        htake, ih hcs, lastOr_cons, List.length_cons, Nat.add_assoc column 1,
        Nat.add_comm 1]
      split <;> rfl

theorem wordsFrom_shift (edge : Option Char) (column n : Nat) (text : Text) :
    wordsFrom edge (column + n) text =
      (wordsFrom edge column text).map fun word => (word.1 + n, word.2) := by
  induction text generalizing edge column with
  | nil => rfl
  | cons c cs ih =>
      rw [wordsFrom, wordsFrom, Nat.add_right_comm, ih]
      split <;> rfl

/-- Of what stands in front of a text only a word character matters to its
words. -/
theorem wordsFrom_edge {edge : Option Char} (h : edge.any isWord = false)
    (column : Nat) (text : Text) :
    wordsFrom edge column text = wordsFrom none column text := by
  cases text with
  | nil => rfl
  | cons c cs => rw [wordsFrom, wordsFrom, h, Option.any_none]

theorem wordsFrom_eq_nil {edge : Option Char} {column : Nat} {text : Text}
    (h : ∀ c ∈ text, isWord c = false) : wordsFrom edge column text = [] := by
  induction text generalizing edge column with
  | nil => rfl
  | cons c cs ih =>
      rw [List.forall_mem_cons] at h
      rw [wordsFrom, h.1, Bool.false_and, if_neg Bool.false_ne_true, ih h.2]

theorem wordsFrom_inside {edge : Option Char} {column : Nat} {t : Text}
    (hedge : edge.any isWord = true) (ht : ∀ c ∈ t, isWord c = true) :
    wordsFrom edge column t = [] := by
  induction t generalizing edge column with
  | nil => rfl
  | cons c cs ih =>
      rw [wordsFrom, hedge, if_neg (by simp)]
      refine ih ?_ fun d hd => ht d (List.mem_cons_of_mem c hd)
      exact ht c List.mem_cons_self

theorem wordsFrom_run {edge : Option Char} {column : Nat} {run : Text}
    (hrun : IsRun run) (hedge : edge.any isWord = false) :
    wordsFrom edge column run = [(column, run)] := by
  obtain ⟨c, cs, rfl⟩ := List.exists_cons_of_ne_nil hrun.nonempty
  have hc : isWord c = true := hrun.inside c List.mem_cons_self
  have hcs : ∀ d ∈ cs, isWord d = true :=
    fun d hd => hrun.inside d (List.mem_cons_of_mem c hd)
  have htake : (c :: cs).takeWhile isWord = c :: cs :=
    List.takeWhile_eq_self_iff.mpr hrun.inside
  have hinside : wordsFrom (some c) (column + 1) cs = [] :=
    wordsFrom_inside hc hcs
  rw [wordsFrom, hc, hedge, htake, hinside]
  rfl

/-! ## Standing between word boundaries

For a run of word characters the two boundaries say that its neighbours are
none. For other texts they say something else: a boundary at a blank asks for
a word character beside it. -/

theorem standsAt_iff {name rest : Text} {edge : Option Char}
    (hname : IsRun name) :
    standsAt name edge rest = true ↔
      ∃ after, rest = name ++ after ∧ edge.any isWord = false ∧
        after.head?.any isWord = false := by
  obtain ⟨c, cs, rfl⟩ := List.exists_cons_of_ne_nil hname.nonempty
  have hfirst : isWord c = true := hname.inside c List.mem_cons_self
  have hlast : (lastOr edge (c :: cs)).any isWord = true := by
    rw [lastOr, List.getLast?_eq_some_getLast (List.cons_ne_nil c cs),
      Option.some_or, Option.any_some]
    exact hname.inside _ (List.getLast_mem _)
  have hboth : ∀ after : Text,
      (atBoundary edge ((c :: cs) ++ after).head? = true ∧
        atBoundary (lastOr edge (c :: cs)) after.head? = true) ↔
      (edge.any isWord = false ∧ after.head?.any isWord = false) := by
    intro after
    simp only [atBoundary, hlast, List.cons_append, List.head?_cons,
      Option.any_some, hfirst, bne_iff_ne, ne_eq, Bool.not_eq_true,
      eq_comm (a := true)]
  simp only [standsAt, Bool.and_eq_true, List.isPrefixOf_iff_prefix]
  constructor
  · intro h
    obtain ⟨⟨⟨after, rfl⟩, hl⟩, hr⟩ := h
    rw [List.drop_left] at hr
    exact ⟨after, rfl, (hboth after).mp ⟨hl, hr⟩⟩
  · intro h
    obtain ⟨after, rfl, h⟩ := h
    obtain ⟨hl, hr⟩ := (hboth after).mpr h
    rw [List.drop_left]
    exact ⟨⟨List.prefix_append _ _, hl⟩, hr⟩

theorem occursFrom_split {name text : Text} {edge : Option Char} :
    occursFrom name edge text = true ↔
      ∃ before rest, text = before ++ rest ∧
        standsAt name (lastOr edge before) rest = true := by
  induction text generalizing edge with
  | nil =>
      rw [occursFrom]
      constructor
      · intro h
        exact ⟨[], [], rfl, by simpa using h⟩
      · intro h
        obtain ⟨before, rest, hsplit, hstands⟩ := h
        obtain ⟨rfl, rfl⟩ := List.append_eq_nil_iff.mp hsplit.symm
        simpa using hstands
  | cons c cs ih =>
      rw [occursFrom, Bool.or_eq_true, ih]
      constructor
      · intro h
        rcases h with hhere | ⟨before, rest, hsplit, hstands⟩
        · exact ⟨[], c :: cs, rfl, by simpa using hhere⟩
        · exact ⟨c :: before, rest, by rw [hsplit]; rfl, by simpa using hstands⟩
      · intro h
        obtain ⟨before, rest, hsplit, hstands⟩ := h
        cases before with
        | nil =>
            rw [List.nil_append] at hsplit
            rw [hsplit]
            exact .inl (by simpa using hstands)
        | cons d ds =>
            obtain ⟨rfl, hcs⟩ := List.cons.inj hsplit
            exact .inr ⟨ds, rest, hcs, by simpa using hstands⟩

theorem occursFrom_iff {name text : Text} {edge : Option Char}
    (hname : IsRun name) :
    occursFrom name edge text = true ↔
      ∃ before after, text = before ++ name ++ after ∧
        (lastOr edge before).any isWord = false ∧
        after.head?.any isWord = false := by
  rw [occursFrom_split]
  constructor
  · intro h
    obtain ⟨before, rest, rfl, hstands⟩ := h
    obtain ⟨after, rfl, hl, hr⟩ := (standsAt_iff hname).mp hstands
    exact ⟨before, after, (List.append_assoc _ _ _).symm, hl, hr⟩
  · intro h
    obtain ⟨before, after, rfl, hl, hr⟩ := h
    exact ⟨before, name ++ after, List.append_assoc _ _ _,
      (standsAt_iff hname).mpr ⟨after, rfl, hl, hr⟩⟩

/-- The search between word boundaries finds a name exactly where it is a word
of the text. -/
theorem occursAsWord_iff {name text : Text} (hname : IsRun name) :
    occursAsWord name text = true ↔ HasWord text name := by
  rw [occursAsWord, occursFrom_iff hname]
  constructor
  · intro h
    obtain ⟨before, after, hsplit, hl, hr⟩ := h
    exact ⟨before.length, before, after, hsplit, rfl,
      hname, by simpa using hl, hr⟩
  · intro h
    obtain ⟨_, before, after, hsplit, -, -, hl, hr⟩ := h
    exact ⟨before, after, hsplit, by simpa using hl, hr⟩

/-! ## Names of any spelling

A table takes whatever name it is given, and a name may open or close with a
character of no word. What the search finds is then said by the two boundaries
alone. -/

/-- Between the two parts of a text a word begins or ends: one of the two
neighbours is a word character and the other is not, or is not there. -/
def Boundary (left right : Text) : Prop :=
  left.getLast?.any isWord ≠ right.head?.any isWord

/-- The text shows the name, with a word boundary at both ends of it. -/
def StandsIn (name text : Text) : Prop :=
  ∃ before after, text = before ++ name ++ after ∧
    Boundary before (name ++ after) ∧ Boundary (before ++ name) after

theorem occursAsWord_iff_standsIn {name text : Text} :
    occursAsWord name text = true ↔ StandsIn name text := by
  rw [occursAsWord, occursFrom_split]
  simp only [standsAt, Bool.and_eq_true, List.isPrefixOf_iff_prefix, atBoundary,
    bne_iff_ne]
  constructor
  · intro h
    obtain ⟨before, _, rfl, ⟨⟨after, rfl⟩, hl⟩, hr⟩ := h
    rw [lastOr_none] at hl
    rw [List.drop_left, ← lastOr_append, lastOr_none] at hr
    exact ⟨before, after, (List.append_assoc _ _ _).symm, hl, hr⟩
  · intro h
    obtain ⟨before, after, rfl, hl, hr⟩ := h
    refine ⟨before, name ++ after, List.append_assoc _ _ _,
      ⟨List.prefix_append _ _, ?_⟩, ?_⟩
    · rw [lastOr_none]
      exact hl
    · rw [List.drop_left, ← lastOr_append, lastOr_none]
      exact hr

instance (name text : Text) : Decidable (StandsIn name text) :=
  decidable_of_iff _ occursAsWord_iff_standsIn

end GrammarLint.Text
