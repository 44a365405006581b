import GrammarLint.Proofs.TableRuns

/-!
# A scan leaves nothing for a second one to do

A scan works on the table it is given: it marks the records that the lines
use and reports against the marked table. A second scan of the same lines
starts from what the first one left, which is another table. It still says
the same, because the sweep asks a record only for its name and its line,
and marks change neither. So one sweep finds all there is to find
(`markUses_markUses`), the second scan reports against the same table as the
first, and the table stays as it is.

This holds of every table, also of one that the lines do not fit. Such a
scan has no answer if a record that stays unused points past the last
line. Which record that is, and that there is no other way to fail, is
said by `scan_eq_error_iff`.
-/

namespace GrammarLint

/-- The record has no mark and the lines do not give it one. The start symbol is
never missed. -/
def Record.StaysUnused (lines : List Text) (r : Record) : Prop :=
  r.used = false ∧ ¬ UsedElsewhere lines r.name r.line ∧ r.name ≠ startSymbol

instance (lines : List Text) (r : Record) : Decidable (r.StaysUnused lines) :=
  inferInstanceAs (Decidable (_ ∧ _ ∧ _))

namespace SymbolTable

variable (table : SymbolTable) (lines : List Text)

theorem markUses_markUses :
    (table.markUses lines).markUses lines = table.markUses lines := by
  rw [markUses, markUses, mk.injEq, List.map_map]
  refine List.map_congr_left fun r _ => ?_
  have huse : (r.markIn lines).usedIn lines = r.usedIn lines := rfl
  show { r.markIn lines with
    used := (r.markIn lines).used || (r.markIn lines).usedIn lines } =
      r.markIn lines
  rw [huse]
  simp [Record.markIn]

theorem isOk_warning? (r : Record) :
    (r.warning? lines).isOk = decide (r.line < lines.length) := by
  rw [Record.warning?]
  split
  · next h => simp [Except.isOk, Except.toBool, List.getElem?_eq_none_iff.mp h]
  · next h =>
      obtain ⟨hlt, -⟩ := List.getElem?_eq_some_iff.mp h
      simp [Except.isOk, Except.toBool, hlt]

variable {table lines}

theorem warnings_eq_error_iff {line : Nat} :
    table.warnings lines = .error ⟨line⟩ ↔
      ∃ r,
        table.unused.find? (fun r => decide (lines.length ≤ r.line)) = some r ∧
        r.line = line := by
  have hfind : (fun r : Record => !(r.warning? lines).isOk) =
      fun r => decide (lines.length ≤ r.line) := by
    funext r
    rw [Bool.eq_iff_iff]
    simp [isOk_warning?]
  rw [warnings, map_eq_error_iff, mapM_eq_error_iff, hfind]
  refine exists_congr fun r => and_congr_right fun hr => ?_
  have hpast : lines[r.line]? = none := by
    rw [List.getElem?_eq_none_iff]
    simpa using List.find?_some hr
  rw [Record.warning?, hpast]
  simp

theorem unused_markUses_find? (p : Record → Bool)
    (hp : ∀ r mark, p (r.marked mark) = p r) :
    (table.markUses lines).unused.find? p =
      (table.records.find? fun r => decide (r.StaysUnused lines) && p r).map
        (Record.markIn lines) := by
  rw [unused, List.find?_filter, markUses, List.find?_map]
  congr 2
  funext r
  rw [Function.comp_apply, Record.markIn_eq, hp, Bool.eq_iff_iff,
    decide_eq_true_iff, Bool.and_eq_true (decide _), decide_eq_true_iff]
  refine and_congr_left fun _ => ?_
  simp [Record.marked, Record.StaysUnused, and_assoc]

/-- A scan fails at the first record of the table that stays unused and
points past the last line. -/
theorem scan_eq_error_iff {line : Nat} :
    (table.scan lines).2 = .error ⟨line⟩ ↔
      ∃ r, table.records.find? (fun r =>
          decide (r.StaysUnused lines) &&
            decide (lines.length ≤ r.line)) = some r ∧
        r.line = line := by
  change Except.map _ ((table.markUses lines).warnings lines) = _ ↔ _
  rw [map_eq_error_iff, warnings_eq_error_iff, unused_markUses_find? _
    fun _ _ => rfl]
  constructor
  · intro h
    obtain ⟨_, hmarked, rfl⟩ := h
    obtain ⟨r, hr, rfl⟩ := Option.map_eq_some_iff.mp hmarked
    exact ⟨r, hr, rfl⟩
  · intro h
    obtain ⟨r, hr, rfl⟩ := h
    exact ⟨r.markIn lines, by rw [hr]; rfl, rfl⟩

end SymbolTable

/-- Whatever the table, a second scan of the same lines gives the answer of the
first, be it diagnostics or a failure, and leaves the table that the first one
left: the given records with a mark on each that the lines use. A scan fails
exactly if a record that stays unused points past the last line, and the first
such record is the one it fails at. -/
theorem scan_again_same (table : SymbolTable) (lines : List Text) :
    (table.scan lines).1.scan lines = table.scan lines ∧
    (table.scan lines).1.records = table.records.map (fun r =>
      { r with used := r.used || decide (UsedElsewhere lines r.name r.line) }) ∧
    ∀ line, (table.scan lines).2 = .error ⟨line⟩ ↔
      ∃ r, table.records.find? (fun r =>
          decide (r.StaysUnused lines) &&
            decide (lines.length ≤ r.line)) = some r ∧
        r.line = line := by
  refine ⟨?_, ?_, fun line => SymbolTable.scan_eq_error_iff⟩
  · change (table.markUses lines).scan lines = _
    rw [SymbolTable.scan, SymbolTable.scan, SymbolTable.markUses_markUses]
  · exact List.map_congr_left fun r _ => Record.markIn_eq lines r

end GrammarLint
