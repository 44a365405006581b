import GrammarLint.Proofs.Relocation

/-!
# What a comment changes

A line that is skipped binds nothing and has no errors. It does take part in
one thing, the search for uses, where every line counts: a name that a comment
mentions is used. So putting such a line into a grammar moves the lines behind
it down by one, and takes away the unused warnings of the names it mentions.

Both sides are compared as lists, in order. The lines in front of the new one
keep their numbers and those behind it move up by one, which keeps their order,
so the table of the longer grammar is the old table, record by record, with
other line numbers.
-/

namespace GrammarLint

open Text (HasWord)

/-- The number of a line once a line has been put in at `k`. -/
def shifted (k i : Nat) : Nat := if k ≤ i then i + 1 else i

/-- The diagnostic says that a name is unused, and the line has that name as a
word. -/
def Diagnostic.RefutedBy (text : Text) (d : Diagnostic) : Prop :=
  ∃ name, HasWord text name ∧ d.IsUnused name

instance (name : Text) (d : Diagnostic) : Decidable (d.IsUnused name) :=
  inferInstanceAs (Decidable (_ ∧ _))

theorem Diagnostic.refutedBy_iff {text : Text} {d : Diagnostic} :
    d.RefutedBy text ↔ ∃ w ∈ Text.words text, d.IsUnused w.2 := by
  simp only [RefutedBy, Text.hasWord_iff, List.mem_map,
    exists_exists_and_eq_and]

instance (text : Text) (d : Diagnostic) : Decidable (d.RefutedBy text) :=
  decidable_of_iff _ Diagnostic.refutedBy_iff.symm

theorem shifted_injective (k : Nat) : Function.Injective (shifted k) := by
  intro i j h
  unfold shifted at h
  split at h <;> split at h <;> omega

theorem shifted_ne (k i : Nat) : shifted k i ≠ k := by
  unfold shifted
  split <;> omega

theorem insertIdx_append (front back : List Text) (c : Text) :
    (front ++ back).insertIdx front.length c = front ++ c :: back := by
  induction front with
  | nil => rfl
  | cons text front ih =>
      rw [List.cons_append, List.length_cons, List.insertIdx_succ_cons, ih]
      rfl

/-- The numbered lines are the old ones under their new numbers, with the new
line somewhere among them. -/
theorem zipIdx_insertIdx {lines : List Text} {k : Nat} (c : Text)
    (hk : k ≤ lines.length) :
    ∃ before after, lines.zipIdx.map (renumber (shifted k)) = before ++ after ∧
      (lines.insertIdx k c).zipIdx = before ++ (c, k) :: after := by
  obtain ⟨front, back, rfl, rfl⟩ : ∃ front back, lines = front ++ back ∧
    k = front.length := by
    refine ⟨lines.take k, lines.drop k, (List.take_append_drop k lines).symm,
      ?_⟩
    rw [List.length_take]
    omega
  refine ⟨front.zipIdx, back.zipIdx (front.length + 1), ?_, ?_⟩
  · rw [List.zipIdx_append, List.map_append, Nat.zero_add]
    congr 1
    · refine (List.map_congr_left fun entry hentry => ?_).trans (List.map_id _)
      have hlt := List.snd_lt_of_mem_zipIdx hentry
      exact Prod.ext rfl (if_neg (by omega))
    · rw [List.zipIdx_succ]
      refine List.map_congr_left fun entry hentry => ?_
      have hle := List.le_snd_of_mem_zipIdx hentry
      exact Prod.ext rfl (if_pos hle)
  · rw [insertIdx_append, List.zipIdx_append, List.zipIdx_cons, Nat.zero_add]

section

variable {lines : List Text} {k : Nat} {c : Text} {reason : SkipReason}

/-- A walk that finds nothing on the new line finds what it would find on the
renumbered lines. -/
theorem flatMap_insertIdx {α : Type} (hk : k ≤ lines.length)
    {f : Text × Nat → List α} (hf : f (c, k) = []) :
    (lines.insertIdx k c).zipIdx.flatMap f =
      (lines.zipIdx.map (renumber (shifted k))).flatMap f := by
  obtain ⟨before, after, hold, hnew⟩ := zipIdx_insertIdx c hk
  rw [hold, hnew, List.flatMap_append, List.flatMap_append,
    List.flatMap_cons, hf, List.nil_append]

theorem bindingRecords_insertIdx (hk : k ≤ lines.length)
    (hc : classify c = .skipped reason) :
    bindingRecords (lines.insertIdx k c) =
      (bindingRecords lines).map (Record.relocate (shifted k)) := by
  rw [← flatMap_bindings_renumber]
  refine flatMap_insertIdx hk ?_
  show (classify c).bindings.map _ = []
  rw [hc]
  rfl

theorem define_relocate {σ : Nat → Nat} (table : SymbolTable) (r : Record) :
    SymbolTable.define ⟨table.records.map (Record.relocate σ)⟩ (r.relocate σ) =
      ⟨(table.define r).records.map (Record.relocate σ)⟩ := by
  have hhas : SymbolTable.has ⟨table.records.map (Record.relocate σ)⟩ r.name =
      table.has r.name := by
    rw [SymbolTable.has, List.any_map]
    rfl
  show (if SymbolTable.has ⟨table.records.map (Record.relocate σ)⟩ r.name then _
    else _) = _
  rw [hhas, SymbolTable.define]
  split
  · simp only [SymbolTable.update, List.map_map]
    congr 1
    refine List.map_congr_left fun q _ => ?_
    show (if q.name == r.name then _ else _) =
      Record.relocate σ (if _ then _ else _)
    split <;> rfl
  · simp only [List.map_append, List.map_cons, List.map_nil]

theorem defineAll_relocate {σ : Nat → Nat} (rs : List Record) :
    SymbolTable.defineAll (rs.map (Record.relocate σ)) =
      ⟨(SymbolTable.defineAll rs).records.map (Record.relocate σ)⟩ := by
  induction rs using List.reverseRecOn with
  | nil => rfl
  | append_singleton rs last ih =>
      rw [List.map_append, List.map_singleton, SymbolTable.defineAll_concat, ih,
        define_relocate, SymbolTable.defineAll_concat]

theorem ofLines_insertIdx (hk : k ≤ lines.length)
    (hc : classify c = .skipped reason) :
    SymbolTable.ofLines (lines.insertIdx k c) =
      ⟨(SymbolTable.ofLines lines).records.map
        (Record.relocate (shifted k))⟩ := by
  rw [ofLines_eq_defineAll, ofLines_eq_defineAll,
    bindingRecords_insertIdx hk hc, defineAll_relocate]

theorem usedIn_insertIdx (hk : k ≤ lines.length) (r : Record) :
    (r.relocate (shifted k)).usedIn (lines.insertIdx k c) =
      (r.usedIn lines || Text.occursAsWord r.name c) := by
  rw [← any_uses_renumber (shifted_injective k) r lines, Record.usedIn]
  obtain ⟨before, after, hold, hnew⟩ := zipIdx_insertIdx c hk
  rw [hold, hnew, List.any_append, List.any_append, List.any_cons]
  have hne : (k != (r.relocate (shifted k)).line) = true :=
    bne_iff_ne.mpr (shifted_ne k r.line).symm
  simp only [hne, Bool.true_and]
  show (_ || (Text.occursAsWord r.name c || _)) = _
  rw [Bool.or_comm (Text.occursAsWord r.name c), Bool.or_assoc]

/-- The records that stay unused are those that the new line does not
mention. -/
theorem unused_insertIdx (hk : k ≤ lines.length)
    (hc : classify c = .skipped reason) :
    (markedTable (lines.insertIdx k c)).unused =
      ((markedTable lines).unused.filter
          fun r => !Text.occursAsWord r.name c).map
        (Record.relocate (shifted k)) := by
  have hused : ∀ r : Record,
    ((r.relocate (shifted k)).markIn (lines.insertIdx k c)).used =
      ((r.markIn lines).used || Text.occursAsWord r.name c) := by
    intro r
    show (r.used || (r.relocate (shifted k)).usedIn (lines.insertIdx k c)) = _
    rw [usedIn_insertIdx hk, ← Bool.or_assoc]
    rfl
  have hkeep : ∀ r : Record,
      (!((r.relocate (shifted k)).markIn (lines.insertIdx k c)).used &&
        r.name != startSymbol) =
      (!Text.occursAsWord r.name c &&
        (!(r.markIn lines).used && r.name != startSymbol)) := by
    intro r
    rw [hused, Bool.not_or, Bool.and_comm (!(r.markIn lines).used),
      Bool.and_assoc]
  rw [markedTable, ofLines_insertIdx hk hc, markedTable]
  simp only [SymbolTable.unused, SymbolTable.markUses, List.filter_filter,
    List.filter_map, List.map_map]
  refine (congrArg (List.map _) (List.filter_congr fun r _ => hkeep r)).trans ?_
  refine List.map_congr_left fun r hr => ?_
  have hnot : Text.occursAsWord r.name c = false := by
    have hr := (List.mem_filter.mp hr).2
    simp only [Bool.and_eq_true, Bool.not_eq_true'] at hr
    exact hr.1
  show { r.relocate (shifted k) with
    used := ((r.relocate (shifted k)).markIn (lines.insertIdx k c)).used } = _
  rw [hused, hnot, Bool.or_false]
  rfl

theorem refutedBy_warningHere {r : Record} (hrun : Text.IsRun r.name) :
    r.warningHere.RefutedBy c ↔ Text.occursAsWord r.name c = true := by
  rw [Text.occursAsWord_iff hrun]
  constructor
  · intro h
    obtain ⟨name, hword, -, hmessage⟩ := h
    rwa [quoting_injective hmessage]
  · exact fun h => ⟨r.name, h, rfl, rfl⟩

theorem isRun_of_mem_unused {r : Record} (hr : r ∈ (markedTable lines).unused) :
    Text.IsRun r.name := by
  obtain ⟨q, hq, rfl⟩ := List.mem_map.mp (List.mem_of_mem_filter hr)
  obtain ⟨-, text, -, hnamed⟩ := ofLines_record hq
  exact hnamed.run

theorem findErrors_insertIdx (hk : k ≤ lines.length)
    (hc : classify c = .skipped reason) :
    findErrors (markedTable (lines.insertIdx k c)) (lines.insertIdx k c) =
      (findErrors (markedTable lines) lines).map
        (Diagnostic.relocate (shifted k)) := by
  have hnames : (markedTable (lines.insertIdx k c)).names =
      (markedTable lines).names := by
    rw [markedTable, SymbolTable.markUses_names, markedTable,
      SymbolTable.markUses_names, ofLines_insertIdx hk hc]
    exact names_map_relocate _
  rw [← flatMap_lineErrors_renumber fun name => by rw [hnames]]
  refine flatMap_insertIdx hk ?_
  show lineErrors _ k c = []
  rw [lineErrors, hc]

end

theorem isError_of_mem_findErrors {table : SymbolTable} {lines : List Text}
    {d : Diagnostic} (h : d ∈ findErrors table lines) : d.isError = true := by
  obtain ⟨⟨text, line⟩, -, hd⟩ := List.mem_flatMap.mp h
  rcases mem_lineErrors hd with ⟨start, head, rfl⟩ | ⟨start, name, kind, rfl⟩
  · rfl
  · cases kind <;> rfl

/-- The errors of a check are what the search for errors found, and the
warnings are none. -/
theorem validate_errors (lines : List Text) :
    (validate lines).filter Diagnostic.isError =
      findErrors (markedTable lines) lines := by
  have hwarnings : ((markedTable lines).unused.map Record.warningHere).filter
      Diagnostic.isError = [] := by
    rw [List.filter_eq_nil_iff]
    intro d hd
    obtain ⟨r, -, rfl⟩ := List.mem_map.mp hd
    exact Bool.false_ne_true
  rw [validate_eq, List.filter_append, hwarnings, List.append_nil,
    List.filter_eq_self]
  exact fun d hd => isError_of_mem_findErrors hd

/-- Putting a comment, or a directive that binds nothing, into a grammar at `k`
moves the diagnostics from line `k` on down by one and removes the unused
warnings of the names that the new line has as words. Nothing is added, the
order stays, and the errors are the same. -/
theorem validate_insertIdx_skipped {lines : List Text} {k : Nat} {c : Text}
    {reason : SkipReason} (hk : k ≤ lines.length)
    (hc : classify c = .skipped reason) :
    validate (lines.insertIdx k c) =
        ((validate lines).filter fun d => ¬ d.RefutedBy c).map
          (Diagnostic.relocate (shifted k)) ∧
      (validate (lines.insertIdx k c)).filter Diagnostic.isError =
        ((validate lines).filter Diagnostic.isError).map
          (Diagnostic.relocate (shifted k)) := by
  have herrors : (findErrors (markedTable lines) lines).filter
    (fun d => ¬ d.RefutedBy c) =
      findErrors (markedTable lines) lines := by
    rw [List.filter_eq_self]
    intro d hd
    rw [decide_eq_true_eq]
    intro h
    obtain ⟨name, -, hcode, -⟩ := h
    exact code_of_mem_findErrors hd hcode
  have hwarnings : ((markedTable lines).unused.map Record.warningHere).filter
        (fun d => ¬ d.RefutedBy c) =
      ((markedTable lines).unused.filter
          fun r => !Text.occursAsWord r.name c).map
        Record.warningHere := by
    rw [List.filter_map]
    refine congrArg (List.map _) (List.filter_congr fun r hr => ?_)
    show decide (¬ r.warningHere.RefutedBy c) = _
    rw [Bool.eq_iff_iff, decide_eq_true_eq, Bool.not_eq_true',
      ← Bool.not_eq_true, refutedBy_warningHere (isRun_of_mem_unused hr)]
  constructor
  · rw [validate_eq, validate_eq, List.filter_append, List.map_append,
      findErrors_insertIdx hk hc, herrors, hwarnings, unused_insertIdx hk hc,
      map_warningHere_relocate]
  · rw [validate_errors, validate_errors, findErrors_insertIdx hk hc]

/-- A comment that mentions `FOO` is put in between two definitions: the warning
about `FOO` goes, and the warning and the error behind the comment move. -/
theorem validate_insertIdx_skipped_comment :
    let lines : List Text :=
      [['s', 't', 'a', 'r', 't', ':', ' ', 'B'],
        ['F', 'O', 'O', ':', ' ', '"', 'f', '"'],
        ['B', 'A', 'R', ':', ' ', 'x']]
    let c : Text := [' ', '/', '/', ' ', 'F', 'O', 'O', '-', 'B']
    classify c = .skipped .comment ∧
      validate lines = [.undefined 0 7 ['B'] .terminal,
        .undefined 2 5 ['x'] .rule, .unused 1 0 ['F', 'O', 'O'],
        .unused 2 0 ['B', 'A', 'R']] ∧
      validate (lines.insertIdx 1 c) = [.undefined 0 7 ['B'] .terminal,
        .undefined 3 5 ['x'] .rule, .unused 3 0 ['B', 'A', 'R']] := by
  intro lines c
  have hc : classify c = .skipped .comment := rfl
  have hk : 1 ≤ lines.length := by decide
  exact ⟨hc, rfl, (validate_insertIdx_skipped hk hc).1⟩

end GrammarLint
