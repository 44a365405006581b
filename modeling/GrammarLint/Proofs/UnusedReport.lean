import GrammarLint.Proofs.TableBuild
import GrammarLint.Proofs.UndefinedReport
import GrammarLint.Proofs.Warnings

/-!
# The unused report names exactly the names without a use

Three passes stand between a grammar and its unused warnings: the table keeps
one record for each name, the sweep for uses marks some of them, and the report
looks up where the rest stand. Every pass could lose a warning without a sound.
A record could point to the wrong one of two bindings, the sweep could stop at
a longer word, and the report drops a record whose line does not show its name.

None of that happens on a table made from the same lines. The records are the
last bindings (`TableBuild`), the sweep asks for a word of the text (`Words`),
and every record stands at its own column (`Bindings`), so the report never
searches for one and never misses one. What is left is the list of names in
the order of their first bindings, each pointed to its last.
-/

namespace GrammarLint

open Text (IsRun HasWord hasAt)

/-- The record before any use of it was seen. -/
def Record.fresh (r : Record) : Record := { r with used := false }

/-- A run of word characters is used exactly when a line other than the
record's own has it as a word. -/
theorem Record.usedIn_iff {r : Record} {lines : List Text}
    (hrun : IsRun r.name) :
    r.usedIn lines = true ↔
      ∃ i text, lines[i]? = some text ∧ HasWord text r.name ∧ i ≠ r.line := by
  simp only [Record.usedIn, List.any_eq_true, Prod.exists,
    List.mk_mem_zipIdx_iff_getElem?, Bool.and_eq_true, bne_iff_ne, ne_eq,
    Text.occursAsWord_iff hrun]
  constructor
  · intro h
    obtain ⟨text, i, hline, hne, hword⟩ := h
    exact ⟨i, text, hline, hword, hne⟩
  · intro h
    obtain ⟨i, text, hline, hword, hne⟩ := h
    exact ⟨text, i, hline, hne, hword⟩

theorem SymbolTable.markUses_fresh (table : SymbolTable) (lines : List Text) :
    (table.markUses lines).records.map Record.fresh =
      table.records.map Record.fresh := by
  rw [SymbolTable.markUses, List.map_map]
  rfl

theorem SymbolTable.markUses_names (table : SymbolTable) (lines : List Text) :
    (table.markUses lines).names = table.names := by
  rw [SymbolTable.names, SymbolTable.markUses, List.map_map]
  rfl

/-- The records of a table that differs from the grammar's own by marks alone
still stand where they say. -/
theorem warnings_of_fresh {lines : List Text} {table : SymbolTable}
    (h : table.records.map Record.fresh = (SymbolTable.ofLines lines).records) :
    table.warnings lines = .ok (table.unused.map Record.warningHere) := by
  refine SymbolTable.warnings_of_shown fun r hr => ?_
  have hfresh : r.fresh ∈ (SymbolTable.ofLines lines).records := by
    rw [← h]
    exact List.mem_map_of_mem (List.mem_of_mem_filter hr)
  obtain ⟨-, text, hline, hnamed⟩ := ofLines_record hfresh
  exact ⟨text, hline, hnamed.shown⟩

theorem ofLines_fresh (lines : List Text) :
    (SymbolTable.ofLines lines).records.map Record.fresh =
      (SymbolTable.ofLines lines).records := by
  refine (List.map_congr_left fun r hr => ?_).trans (List.map_id _)
  show { r with used := false } = r
  rw [← (ofLines_record hr).1]

/-- The table of a grammar after the sweep for uses. -/
def markedTable (lines : List Text) : SymbolTable :=
  (SymbolTable.ofLines lines).markUses lines

theorem markedTable_warnings (lines : List Text) :
    (markedTable lines).warnings lines =
      .ok ((markedTable lines).unused.map Record.warningHere) :=
  warnings_of_fresh
    (by rw [markedTable, SymbolTable.markUses_fresh, ofLines_fresh])

/-- The scan of a grammar against its own table answers, and the answer is the
errors followed by one warning for each unused record. -/
theorem scan_ofLines (lines : List Text) :
    ((SymbolTable.ofLines lines).scan lines).2 =
      .ok (findErrors (markedTable lines) lines ++
        (markedTable lines).unused.map Record.warningHere) := by
  show Except.map _ ((markedTable lines).warnings lines) = _
  rw [markedTable_warnings]
  rfl

theorem validate_eq (lines : List Text) :
    validate lines = findErrors (markedTable lines) lines ++
      (markedTable lines).unused.map Record.warningHere := by
  rw [validate, scan_ofLines]

theorem code_of_mem_findErrors {table : SymbolTable} {lines : List Text}
    {d : Diagnostic} (h : d ∈ findErrors table lines) :
    d.code ≠ .unusedSymbol := by
  obtain ⟨⟨text, line⟩, -, hd⟩ := List.mem_flatMap.mp h
  rcases mem_lineErrors hd with ⟨start, head, rfl⟩ | ⟨start, name, kind, rfl⟩
  · simp [Diagnostic.invalidHead]
  · cases kind <;> simp [Diagnostic.undefined]

theorem validate_unused (lines : List Text) :
    (validate lines).filter (fun d => d.code == .unusedSymbol) =
      (markedTable lines).unused.map Record.warningHere := by
  have herrors : (findErrors (markedTable lines) lines).filter
      (fun d => d.code == .unusedSymbol) = [] := by
    rw [List.filter_eq_nil_iff]
    intro d hd
    simpa using code_of_mem_findErrors hd
  have hwarnings : ((markedTable lines).unused.map Record.warningHere).filter
      (fun d => d.code == .unusedSymbol) =
        (markedTable lines).unused.map Record.warningHere := by
    rw [List.filter_eq_self]
    intro d hd
    obtain ⟨r, -, rfl⟩ := List.mem_map.mp hd
    rfl
  rw [validate_eq, List.filter_append, herrors, hwarnings, List.nil_append]

/-- The name is bound, last at this place; it is not the start symbol, and no
line but the one of its last binding has it as a word. -/
structure UnusedAt (lines : List Text) (name : Text) (p : Site) : Prop where
  last : LastBound lines name p
  notStart : name ≠ startSymbol
  alone : ∀ i text, lines[i]? = some text → HasWord text name → i = p.line

theorem mem_markedTable_unused {lines : List Text} {name : Text} {p : Site} :
    (∃ r ∈ (markedTable lines).unused, r.name = name ∧ r.site = p) ↔
      UnusedAt lines name p := by
  simp only [SymbolTable.unused, markedTable, SymbolTable.markUses,
    List.mem_filter, List.mem_map]
  constructor
  · intro h
    obtain ⟨_, ⟨⟨r, hr, rfl⟩, hunused⟩, rfl, rfl⟩ := h
    obtain ⟨hfresh, text, hline, hnamed⟩ := ofLines_record hr
    simp only [Record.markIn, hfresh, Bool.false_or, Bool.and_eq_true,
      Bool.not_eq_true', bne_iff_ne] at hunused
    refine ⟨lastBound_iff.mpr ⟨r, hr, rfl, rfl⟩, hunused.2,
      fun i line hi hword => ?_⟩
    by_contra hne
    have hused := (Record.usedIn_iff hnamed.run).mpr ⟨i, line, hi, hword, hne⟩
    rw [hused] at hunused
    exact Bool.noConfusion hunused.1
  · intro h
    obtain ⟨hlast, hstart, halone⟩ := h
    obtain ⟨r, hr, rfl, rfl⟩ := lastBound_iff.mp hlast
    obtain ⟨hfresh, text, hline, hnamed⟩ := ofLines_record hr
    have hunused : r.usedIn lines = false := by
      rw [← Bool.not_eq_true, Record.usedIn_iff hnamed.run]
      intro h
      obtain ⟨i, line, hi, hword, hne⟩ := h
      exact hne (halone i line hi hword)
    refine ⟨r.markIn lines, ⟨⟨r, hr, rfl⟩, ?_⟩, rfl, rfl⟩
    simp only [Record.markIn, hfresh, hunused, Bool.or_false, Bool.not_false,
      Bool.true_and, bne_iff_ne]
    exact hstart

theorem quoting_injective {phrase : String} {a b : Text}
    (h : Diagnostic.quoting phrase a = Diagnostic.quoting phrase b) : a =
      b := by
  have hlist := congrArg String.toList h
  simpa [Diagnostic.quoting] using hlist

/-- The diagnostic says of the name that it is unused. -/
def Diagnostic.IsUnused (name : Text) (d : Diagnostic) : Prop :=
  d.code = .unusedSymbol ∧ d.message = quoting "Unused grammar symbol" name

theorem exists_isUnused_iff {lines : List Text} {name : Text} :
    (∃ d ∈ validate lines, d.IsUnused name) ↔ ∃ p, UnusedAt lines name p := by
  constructor
  · intro h
    obtain ⟨d, hd, hcode, hmessage⟩ := h
    have hmem :
        d ∈ (validate lines).filter (fun d => d.code == .unusedSymbol) :=
      List.mem_filter.mpr ⟨hd, by simpa using hcode⟩
    rw [validate_unused] at hmem
    obtain ⟨r, hr, rfl⟩ := List.mem_map.mp hmem
    have hname : r.name = name := quoting_injective hmessage
    exact ⟨r.site, mem_markedTable_unused.mp ⟨r, hr, hname, rfl⟩⟩
  · intro h
    obtain ⟨p, hp⟩ := h
    obtain ⟨r, hr, rfl, -⟩ := mem_markedTable_unused.mpr hp
    refine ⟨r.warningHere, ?_, rfl, rfl⟩
    rw [validate_eq]
    exact List.mem_append_right _ (List.mem_map_of_mem hr)

theorem unused_names_sublist (lines : List Text) :
    ((markedTable lines).unused.map Record.name).Sublist
      (SymbolTable.ofLines lines).names := by
  rw [← SymbolTable.markUses_names (SymbolTable.ofLines lines) lines]
  exact List.filter_sublist.map Record.name

theorem unused_names_ordered (lines : List Text) :
    ((markedTable lines).unused.map Record.name).Pairwise fun m n =>
      ∃ p q, FirstBound lines m p ∧ FirstBound lines n q ∧ p.before q :=
  (ofLines_names_ordered lines).sublist (unused_names_sublist lines)

theorem FirstBound.ne_of_before {lines : List Text} {m n : Text} {p q : Site}
    (hp : FirstBound lines m p) (hq : FirstBound lines n q) (h : p.before q) :
    m ≠ n := by
  intro heq
  subst heq
  rcases hq.2 p hp.1 with rfl | hqp
  · exact Site.before_asymm h h
  · exact Site.before_asymm h hqp

/-- The unused warnings of a grammar, in order, are one for each name that is
bound, is not the start symbol and stands as a word on no line but that of its
last binding. They follow the first bindings of their names and point to the
last ones. The report always answers, and no table that differs from the
grammar's own by marks alone makes it fail or leave out a record. -/
theorem unused_report_exact (lines : List Text) :
    ∃ sites : List (Text × Site),
      (∀ name p, (name, p) ∈ sites ↔ UnusedAt lines name p) ∧
      (sites.map Prod.fst).Nodup ∧
      (sites.Pairwise fun s t =>
        ∃ p q, FirstBound lines s.1 p ∧ FirstBound lines t.1 q ∧ p.before q) ∧
      (validate lines).filter (fun d => d.code == .unusedSymbol) =
        sites.map (fun s => .unused s.2.line s.2.column s.1) ∧
      ((SymbolTable.ofLines lines).scan lines).2 = .ok (validate lines) ∧
      ∀ table : SymbolTable,
        table.records.map Record.fresh = (SymbolTable.ofLines lines).records →
        table.warnings lines =
          .ok (table.unused.map fun r => .unused r.line r.column r.name) := by
  have hordered := unused_names_ordered lines
  refine ⟨(markedTable lines).unused.map fun r => (r.name, r.site),
    fun name p => ?_, ?_, ?_, ?_, ?_, fun table h => warnings_of_fresh h⟩
  · rw [← mem_markedTable_unused, List.mem_map]
    simp only [Prod.mk.injEq]
  · rw [List.map_map]
    refine hordered.imp fun ⟨p, q, hp, hq, hbefore⟩ => ?_
    exact hp.ne_of_before hq hbefore
  · exact List.pairwise_map.mpr (List.pairwise_map.mp hordered)
  · rw [validate_unused, List.map_map]
    rfl
  · rw [scan_ofLines, validate_eq]

end GrammarLint
