import GrammarLint.Check.Validate
import GrammarLint.Proofs.Columns
import Mathlib.Data.List.Forall2

/-!
# The warnings of a table

The report asks every record that counts as unused for its warning and stops
at the first record whose line is missing. It makes no assumption about the
table: a record may name a line that the grammar does not have, a column at
which the name does not stand, or a name that the line does not show at all.

Two facts cover what is needed of it. Whatever table the report is given, each
of its warnings comes from an unused record and sits where the line shows the
name of that record. And a table whose unused records all stand at their own
columns gets exactly one warning for each of them, there.
-/

namespace GrammarLint

open Text (hasAt)

theorem mapM_eq_ok_iff {α β ε : Type} {f : α → Except ε β} {as : List α}
    {bs : List β} :
    as.mapM f = .ok bs ↔ List.Forall₂ (fun a b => f a = .ok b) as bs := by
  induction as generalizing bs with
  | nil =>
      rw [List.mapM_nil, List.forall₂_nil_left_iff]
      constructor
      · intro h; cases h; rfl
      · intro heq
        subst heq
        rfl
  | cons a as ih =>
      rw [List.mapM_cons, List.forall₂_cons_left_iff]
      cases ha : f a with
      | error e =>
          constructor
          · intro h; cases h
          · intro hgiven
            obtain ⟨b, _, hb, -⟩ := hgiven
            cases hb
      | ok b =>
          cases has : as.mapM f with
          | error e =>
              constructor
              · intro h; cases h
              · intro h
                obtain ⟨_, rest, -, hrest, -⟩ := h
                rw [← ih, has] at hrest
                cases hrest
          | ok rest =>
              constructor
              · intro h
                cases h
                exact ⟨b, rest, rfl, ih.mp has, rfl⟩
              · intro h
                obtain ⟨b', rest', hb, hrest, rfl⟩ := h
                rw [← ih, has] at hrest
                cases hb
                cases hrest
                rfl

theorem map_eq_error_iff {α β ε : Type} {x : Except ε α} {f : α → β} {e : ε} :
    x.map f = .error e ↔ x = .error e := by
  cases x <;> simp [Except.map]

/-- A list of steps fails where the first of them does. -/
theorem mapM_eq_error_iff {α β ε : Type} {f : α → Except ε β}
    {as : List α} {e : ε} :
    as.mapM f = .error e ↔ ∃ a, as.find? (fun a => !(f a).isOk) = some a ∧
    f a = .error e := by
  induction as with
  | nil =>
      rw [List.mapM_nil]
      constructor
      · intro h; cases h
      · intro hgiven
        obtain ⟨_, h, -⟩ := hgiven
        cases h
  | cons a as ih =>
      rw [List.mapM_cons, List.find?_cons]
      cases ha : f a with
      | error e' =>
          constructor
          · intro h; cases h; exact ⟨a, rfl, ha⟩
          · intro hgiven
            obtain ⟨_, h, herror⟩ := hgiven
            cases h
            rw [ha] at herror
            cases herror
            rfl
      | ok b =>
          change (as.mapM f).map (b :: ·) = _ ↔ ∃ a, as.find? _ = some a ∧ _
          rw [map_eq_error_iff]
          exact ih

theorem exists_of_mapM_eq_ok {α β ε : Type} {f : α → Except ε β} {as : List α}
    {bs : List β} {b : β} (h : as.mapM f = .ok bs) (hb : b ∈ bs) :
    ∃ a ∈ as, f a = .ok b := by
  have hall := mapM_eq_ok_iff.mp h
  clear h
  induction hall with
  | nil => cases hb
  | @cons a b' as bs ha _ ih =>
      rcases List.mem_cons.mp hb with rfl | hb
      · exact ⟨a, List.mem_cons_self, ha⟩
      · obtain ⟨a', ha', hf⟩ := ih hb
        exact ⟨a', List.mem_cons_of_mem a ha', hf⟩

theorem Record.hasAt_of_columnIn {r : Record} {text : Text} {column : Nat}
    (h : r.columnIn text = some column) : hasAt r.name text column = true := by
  rw [Record.columnIn] at h
  split at h
  · next hshown =>
      injection h with h
      rw [← h]
      exact hshown
  · exact Text.hasAt_of_columnOf? h

/-- A warning about a record sits where the record's line shows its name. -/
theorem Record.warning?_shows {r : Record} {lines : List Text} {d : Diagnostic}
    (h : r.warning? lines = .ok (some d)) :
    ∃ text column, lines[r.line]? = some text ∧
      hasAt r.name text column = true ∧
      d = .unused r.line column r.name := by
  rw [Record.warning?] at h
  split at h
  · cases h
  · next text hline =>
      injection h with h
      obtain ⟨column, hcolumn, rfl⟩ := Option.map_eq_some_iff.mp h
      exact ⟨text, column, hline, Record.hasAt_of_columnIn hcolumn, rfl⟩

theorem SymbolTable.mem_warnings {table : SymbolTable} {lines : List Text}
    {ds : List Diagnostic} {d : Diagnostic} (h : table.warnings lines = .ok ds)
    (hd : d ∈ ds) : ∃ r ∈ table.unused, r.warning? lines = .ok (some d) := by
  rw [SymbolTable.warnings] at h
  cases hall : table.unused.mapM (Record.warning? lines) with
  | error e => rw [hall] at h; cases h
  | ok found =>
      rw [hall] at h
      injection h with h
      rw [← h] at hd
      obtain ⟨o, ho, hod⟩ := List.mem_filterMap.mp hd
      obtain rfl : o = some d := hod
      exact exists_of_mapM_eq_ok hall ho

/-- The warning that a record gets at its own column. -/
def Record.warningHere (r : Record) : Diagnostic :=
  .unused r.line r.column r.name

theorem Record.warning?_of_shown {r : Record} {lines : List Text} {text : Text}
    (hline : lines[r.line]? = some text)
    (hshown : hasAt r.name text r.column = true) :
    r.warning? lines = .ok (some r.warningHere) := by
  rw [Record.warning?, hline]
  simp only [Record.columnIn, if_pos hshown, Option.map_some,
    Record.warningHere]

theorem SymbolTable.warnings_of_shown {table : SymbolTable} {lines : List Text}
    (h : ∀ r ∈ table.unused, ∃ text, lines[r.line]? = some text ∧
      hasAt r.name text r.column = true) :
    table.warnings lines = .ok (table.unused.map Record.warningHere) := by
  have hall : table.unused.mapM (Record.warning? lines) =
      .ok (table.unused.map fun r => some r.warningHere) := by
    rw [mapM_eq_ok_iff, List.forall₂_map_right_iff, List.forall₂_same]
    intro r hr
    obtain ⟨text, hline, hshown⟩ := h r hr
    exact Record.warning?_of_shown hline hshown
  rw [SymbolTable.warnings, hall]
  show Except.ok (List.filterMap id (table.unused.map _)) = _
  rw [List.filterMap_map, ← List.filterMap_eq_map]
  rfl

end GrammarLint
