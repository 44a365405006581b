import GrammarLint.Proofs.Words

/-!
# What stands at a column

A column is worth something only if the text shows there what is claimed to
stand there. Three functions hand out columns: a part that is tested at a given
column, a part that is searched for, and a sweep that reads its way through a
text. Each of them is traced back to a split of the text here, with the column
as the length of what comes first, so that later files speak of splits and
never of the recursions behind them.
-/

namespace GrammarLint.Text

theorem hasAt_iff {part text : Text} {column : Nat} :
    hasAt part text column = true ↔
      ∃ before after, text = before ++ part ++ after ∧
        before.length = column := by
  simp only [hasAt, Bool.and_eq_true, decide_eq_true_eq,
    List.isPrefixOf_iff_prefix]
  constructor
  · intro h
    obtain ⟨hle, after, hafter⟩ := h
    refine ⟨text.take column, after, ?_, by rw [List.length_take]; omega⟩
    rw [List.append_assoc, hafter, List.take_append_drop]
  · intro h
    obtain ⟨before, after, rfl, rfl⟩ := h
    constructor
    · simp only [List.length_append]; omega
    · rw [List.append_assoc, List.drop_left]
      exact List.prefix_append part after

/-- What opens the end of a text stands at the column where that end starts. -/
theorem hasAt_of_suffix {part rest text : Text} (hsuf : rest <:+ text)
    (hpre : part <+: rest) :
    hasAt part text (text.length - rest.length) = true := by
  obtain ⟨before, rfl⟩ := hsuf
  obtain ⟨after, rfl⟩ := hpre
  rw [hasAt_iff]
  exact ⟨before, after, by rw [List.append_assoc], by simp⟩

/-- What stands in the end of a text stands in the text. -/
theorem hasAt_of_drop {part text : Text} {offset column : Nat} (hne : part ≠ [])
    (h : hasAt part (text.drop offset) column = true) :
    hasAt part text (offset + column) = true := by
  obtain ⟨before, after, hsplit, rfl⟩ := hasAt_iff.mp h
  have hlen := congrArg List.length hsplit
  have hpos : 0 < part.length := List.length_pos_iff.mpr hne
  simp only [List.length_drop, List.length_append] at hlen
  refine hasAt_iff.mpr ⟨text.take offset ++ before, after, ?_, ?_⟩
  · rw [List.append_assoc (text.take offset),
      List.append_assoc (text.take offset), ← hsplit, List.take_append_drop]
  · rw [List.length_append, List.length_take]
    omega

/-- A part that stands at a column fits the line and is what is cut out. -/
theorem extract_of_hasAt {part text : Text} {column : Nat}
    (h : hasAt part text column = true) :
    column + part.length ≤ text.length ∧
      text.extract column (column + part.length) = part := by
  obtain ⟨before, after, rfl, rfl⟩ := hasAt_iff.mp h
  constructor
  · simp only [List.length_append]; omega
  · rw [List.extract_eq_take_drop, List.append_assoc, List.drop_left,
      Nat.add_sub_cancel_left, List.take_left]

theorem findFrom_sound {part text : Text} {column k : Nat}
    (h : findFrom part column text = some k) :
    ∃ before after, text = before ++ part ++ after ∧
      k = column + before.length := by
  induction text generalizing column with
  | nil =>
      rw [findFrom] at h
      split at h
      · next hnil =>
          obtain rfl : column = k := by simpa using h
          exact ⟨[], [], by simpa using hnil, rfl⟩
      · cases h
  | cons c cs ih =>
      rw [findFrom] at h
      split at h
      · next hpre =>
          obtain rfl : column = k := by simpa using h
          obtain ⟨after, hafter⟩ := List.isPrefixOf_iff_prefix.mp hpre
          exact ⟨[], after, hafter.symm, rfl⟩
      · obtain ⟨before, after, hcs, hk⟩ := ih h
        refine ⟨c :: before, after, by rw [hcs]; rfl, ?_⟩
        rw [hk, List.length_cons]
        omega

theorem hasAt_of_columnOf? {part text : Text} {k : Nat}
    (h : columnOf? part text = some k) : hasAt part text k = true := by
  obtain ⟨before, after, hsplit, hk⟩ := findFrom_sound h
  exact hasAt_iff.mpr ⟨before, after, hsplit, by omega⟩

/-! ## Sweeps

A find of a sweep is a place where the text splits and the reader answers on
what follows. The sweep only ever moves right, so the columns increase. -/

section Sweep

variable {α : Type} {read : Option Char → Text → Option (α × Nat)}

theorem mem_sweepFrom {skip column k : Nat} {edge : Option Char} {text : Text}
    {a : α} (h : (k, a) ∈ sweepFrom read skip column edge text) :
    ∃ before rest size, text = before ++ rest ∧ k = column + before.length ∧
      read (lastOr edge before) rest = some (a, size) := by
  induction text generalizing skip column edge with
  | nil => simp [sweepFrom] at h
  | cons c cs ih =>
      have hlater : ∀ {skip' : Nat},
          (k, a) ∈ sweepFrom read skip' (column + 1) (some c) cs →
          ∃ before rest size, c :: cs = before ++ rest ∧
            k = column + before.length ∧
            read (lastOr edge before) rest = some (a, size) := by
        intro skip' h'
        obtain ⟨before, rest, size, hcs, hk, hread⟩ := ih h'
        refine ⟨c :: before, rest, size, by rw [hcs]; rfl, ?_, ?_⟩
        · rw [hk, List.length_cons]; omega
        · rw [lastOr_cons]; exact hread
      cases skip with
      | succ skip =>
          rw [sweepFrom] at h
          exact hlater h
      | zero =>
          rw [sweepFrom] at h
          split at h
          · next b size hread =>
              rcases List.mem_cons.mp h with heq | hmem
              · injection heq with hk hab
                subst hk hab
                exact ⟨[], c :: cs, size, rfl, rfl, hread⟩
              · exact hlater hmem
          · exact hlater h

theorem sweepFrom_columns {skip column : Nat} {edge : Option Char}
    {text : Text} :
    (sweepFrom read skip column edge text).Pairwise fun x y => x.1 < y.1 := by
  induction text generalizing skip column edge with
  | nil => simp [sweepFrom]
  | cons c cs ih =>
      cases skip with
      | succ skip => rw [sweepFrom]; exact ih
      | zero =>
          rw [sweepFrom]
          split
          · next a size _ =>
              refine List.pairwise_cons.mpr ⟨?_, ih⟩
              intro h hmem
              obtain ⟨k, b⟩ := h
              obtain ⟨before, _, _, _, hk, _⟩ := mem_sweepFrom hmem
              show column < k
              omega
          · exact ih

/-- What a find covers is passed over. -/
theorem sweepFrom_covered {column : Nat} {edge : Option Char}
    (covered rest : Text) :
    sweepFrom read covered.length column edge (covered ++ rest) =
      sweepFrom read 0 (column + covered.length)
        (lastOr edge covered) rest := by
  induction covered generalizing column edge with
  | nil => rw [lastOr_nil, List.nil_append, List.length_nil, Nat.add_zero]
  | cons c cs ih =>
      rw [List.cons_append, List.length_cons, sweepFrom, ih, lastOr_cons,
        Nat.add_assoc, Nat.add_comm 1]

end Sweep

end GrammarLint.Text
