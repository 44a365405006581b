import GrammarLint.Proofs.UnusedReport
import Mathlib.Data.List.Nodup

/-!
# What a table remembers of a run

A table is worked on in three ways: a name is defined, a name is touched, and
the lines of some grammar are swept for uses. This file takes any sequence of
these steps, on any names and lines, and says what the table holds at its end.

The answer is read off the sequence itself. The names come in the order in
which they were first defined. What a record says of kind, line and column is
what the last definition of its name said, and everything before that
definition is forgotten, marks included. The record is used exactly if a step
after that definition uses it: one that touches the name, or a sweep that meets
the name between word boundaries on a line other than the record's.

All of it follows from what one step does to one lookup. A definition answers
for its own name and leaves every other lookup alone; the other two steps can
only set the mark of a record (`get?_apply`). So a stretch of steps without a
definition of the name collects marks, and nothing else (`get?_foldl`).

The sweep is one pass over the records here. It may as well go from line to line
and from record to record in any order, looking each record up again and passing
over those that are used or that stand on the line, since a mark once set
changes nothing that a later visit asks (`foldl_visit`).
-/

namespace GrammarLint

open Text (StandsIn)

/-- A line other than this one shows the name between word boundaries. -/
def UsedElsewhere (lines : List Text) (name : Text) (line : Nat) : Prop :=
  ∃ i text, lines[i]? = some text ∧ i ≠ line ∧ StandsIn name text

theorem Record.usedIn_iff_usedElsewhere {r : Record} {lines : List Text} :
    r.usedIn lines = true ↔ UsedElsewhere lines r.name r.line := by
  simp only [Record.usedIn, List.any_eq_true, Prod.exists,
    List.mk_mem_zipIdx_iff_getElem?, Bool.and_eq_true, bne_iff_ne,
    Text.occursAsWord_iff_standsIn, UsedElsewhere]
  exact exists_comm

instance (lines : List Text) (name : Text) (line : Nat) :
    Decidable (UsedElsewhere lines name line) :=
  decidable_of_iff (Record.usedIn ⟨name, .rule, line, 0, false⟩ lines = true)
    Record.usedIn_iff_usedElsewhere

/-- The record with its mark set if `mark` holds; a mark is never taken back. -/
def Record.marked (r : Record) (mark : Bool) : Record :=
  { r with used := r.used || mark }

theorem Record.marked_false (r : Record) : r.marked false = r := by
  simp [Record.marked]

theorem Record.marked_of_used {r : Record} (h : r.used = true) (mark : Bool) :
    r.marked mark = r := by
  cases r
  simp_all [Record.marked]

theorem Record.marked_marked (r : Record) (a b : Bool) :
    (r.marked a).marked b = r.marked (a || b) := by
  simp [Record.marked, Bool.or_assoc]

theorem Record.markIn_eq (lines : List Text) (r : Record) :
    r.markIn lines = r.marked (decide (UsedElsewhere lines r.name r.line)) := by
  simp only [Record.markIn, Record.marked, ← Record.usedIn_iff_usedElsewhere,
    Bool.decide_eq_true]

namespace SymbolTable

variable {table : SymbolTable} {name : Text} {r : Record}

theorem name_of_get? (h : table.get? name = some r) : r.name = name := by
  simpa using List.find?_some h

theorem get?_eq_none_iff : table.get? name = none ↔ name ∉ table.names := by
  simp [get?, names]

/-- A lookup goes through a change of the records that keeps their names. -/
theorem get?_map {f : Record → Record} (hf : ∀ r, (f r).name = r.name) :
    (SymbolTable.mk (table.records.map f)).get? name =
      (table.get? name).map f := by
  rw [get?, get?, List.find?_map]
  congr 2
  funext r
  simp [hf]

theorem get?_define :
    (table.define r).get? name =
      if name = r.name then some r else table.get? name := by
  by_cases hname : name = r.name
  · subst hname
    rw [if_pos rfl, define]
    split
    · next hhas =>
        obtain ⟨s, hs⟩ : ∃ s, table.get? r.name = some s := by
          rw [← Option.ne_none_iff_exists', ne_eq, get?_eq_none_iff, not_not]
          exact has_iff.mp hhas
        rw [update, get?_map fun s => by split <;> simp_all]
        simp [hs, name_of_get? hs]
    · next hhas =>
        have hnone : table.records.find? (fun s => s.name == r.name) = none :=
          get?_eq_none_iff.mpr fun hmem => hhas (has_iff.mpr hmem)
        simp [get?, hnone]
  · have hother : r.name ≠ name := fun h => hname h.symm
    rw [if_neg hname, define]
    split
    · rw [update, get?_map fun s => by split <;> simp_all]
      cases hs : table.get? name with
      | none => rfl
      | some s => simp [name_of_get? hs, hname]
    · simp [get?, hother]

end SymbolTable

/-- The names after a step that may define one: a new name comes last. -/
def addName (names : List Text) : Option Text → List Text
  | none => names
  | some name => if names.contains name then names else names ++ [name]

theorem nodup_addName {names : List Text}
    (h : names.Nodup) (name? : Option Text) :
    (addName names name?).Nodup := by
  cases name? with
  | none => exact h
  | some name =>
      rw [addName]
      split
      · exact h
      · next hnew =>
          refine List.nodup_append.mpr ⟨h, List.pairwise_singleton _ _, ?_⟩
          intro a ha b hb heq
          rw [List.mem_singleton.mp hb] at heq
          exact hnew (List.contains_iff_mem.mpr (heq ▸ ha))

theorem addName_eraseDups (names : List Text) (name? : Option Text) :
    addName names.eraseDups name? = (names ++ name?.toList).eraseDups := by
  cases name? with
  | none => simp [addName]
  | some name =>
      rw [addName, Option.toList_some, List.eraseDups_append]
      simp only [List.contains_iff_mem, List.mem_eraseDups]
      split
      · next h => simp [List.removeAll, h]
      · next h => simp [List.removeAll, h, List.eraseDups_cons]

theorem SymbolTable.names_define_eq_addName (table : SymbolTable) (r : Record) :
    (table.define r).names = addName table.names (some r.name) := by
  rw [names_define, addName]
  simp only [List.contains_iff_mem]

/-- Steps that add their names one by one leave them in the order of their first
occurrences. -/
theorem SymbolTable.names_foldl {α : Type} {f : SymbolTable → α → SymbolTable}
    {defined? : α → Option Text}
    (hf : ∀ table a, (f table a).names = addName table.names (defined? a))
    (as : List α) :
    (as.foldl f SymbolTable.empty).names =
      (as.filterMap defined?).eraseDups := by
  induction as using List.reverseRecOn with
  | nil => rfl
  | append_singleton as last ih =>
      rw [List.foldl_append, List.foldl_cons, List.foldl_nil, hf, ih,
        addName_eraseDups, List.filterMap_append]
      cases hlast : defined? last <;> simp [hlast]

/-- A step of work on a table. -/
inductive TableStep where
  | define (name : Text) (kind : SymbolKind) (line column : Nat)
  | touch (name : Text)
  | mark (lines : List Text)

namespace TableStep

/-- The table after a step. A name without a record is not there to be
touched. -/
def apply (table : SymbolTable) : TableStep → SymbolTable
  | define name kind line column => table.define { name, kind, line, column }
  | touch name => table.touch name
  | mark lines => table.markUses lines

/-- The name that the step defines. -/
def defined? : TableStep → Option Text
  | define name _ _ _ => some name
  | _ => none

/-- The step uses the name, whose record points to this line. -/
def Uses (name : Text) (line : Nat) : TableStep → Prop
  | define _ _ _ _ => False
  | touch other => other = name
  | mark lines => UsedElsewhere lines name line

instance (name : Text) (line : Nat) :
    (step : TableStep) → Decidable (step.Uses name line)
  | define _ _ _ _ => isFalse id
  | touch other => inferInstanceAs (Decidable (other = name))
  | mark lines => inferInstanceAs (Decidable (UsedElsewhere lines name line))

variable {table : SymbolTable} {name : Text} {step : TableStep}

/-- A step that does not define a name can only mark its record. -/
theorem get?_apply (h : step.defined? ≠ some name) :
    (step.apply table).get? name =
      (table.get? name).map fun r =>
        r.marked (decide (step.Uses name r.line)) := by
  cases step with
  | define other kind line column =>
      have hne : name ≠ other := fun heq => h (by rw [heq]; rfl)
      rw [apply, SymbolTable.get?_define, if_neg hne]
      change table.get? name = (table.get? name).map fun r => r.marked false
      simp [Record.marked_false]
  | touch other =>
      rw [apply, SymbolTable.touch, SymbolTable.update,
        SymbolTable.get?_map fun r => by split <;> rfl]
      cases hr : table.get? name with
      | none => rfl
      | some r =>
          have hname := SymbolTable.name_of_get? hr
          rw [Option.map_some, Option.map_some, hname]
          by_cases heq : other = name
          · rw [decide_eq_true (p := Uses name r.line (touch other)) heq]
            simp [Record.marked, heq, hname]
          · have hother : name ≠ other := fun h' => heq h'.symm
            rw [decide_eq_false (p := Uses name r.line (touch other)) heq]
            simp [Record.marked_false, hother]
  | mark lines =>
      rw [apply, SymbolTable.markUses,
        SymbolTable.get?_map (f := Record.markIn lines) fun _ => rfl]
      cases hr : table.get? name with
      | none => rfl
      | some r =>
          rw [Option.map_some, Option.map_some, Record.markIn_eq,
            SymbolTable.name_of_get? hr]
          rfl

theorem names_apply :
    (step.apply table).names = addName table.names step.defined? := by
  cases step with
  | define name kind line column =>
      exact SymbolTable.names_define_eq_addName table _
  | touch name => exact SymbolTable.names_update name fun _ h => h
  | mark lines => exact SymbolTable.markUses_names table lines

end TableStep

/-- The table after a run of steps from the empty one. -/
def SymbolTable.run (steps : List TableStep) : SymbolTable :=
  steps.foldl TableStep.apply SymbolTable.empty

/-- A stretch of steps that does not define a name collects marks on its
record. -/
theorem TableStep.get?_foldl {steps : List TableStep} {table : SymbolTable}
    {name : Text} (h : ∀ step ∈ steps, step.defined? ≠ some name) :
    (steps.foldl TableStep.apply table).get? name =
      (table.get? name).map fun r =>
        r.marked (steps.any fun step => decide (step.Uses name r.line)) := by
  induction steps generalizing table with
  | nil => simp [Record.marked_false]
  | cons step steps ih =>
      rw [List.foldl_cons, ih fun s hs => h s (List.mem_cons_of_mem step hs),
        get?_apply (h step List.mem_cons_self), Option.map_map]
      congr 1
      funext r
      rw [Function.comp_apply, Record.marked_marked]
      rfl

/-- The last of the steps that define a name splits the run in two. -/
theorem TableStep.exists_last_definition {steps : List TableStep} {name : Text}
    (h : ∃ step ∈ steps, step.defined? = some name) :
    ∃ before kind line column after,
      steps = before ++ .define name kind line column :: after ∧
        ∀ step ∈ after, step.defined? ≠ some name := by
  induction steps using List.reverseRecOn with
  | nil => simp at h
  | append_singleton steps last ih =>
      by_cases hlast : last.defined? = some name
      · cases last with
        | define other kind line column =>
            obtain rfl : other = name := Option.some.inj hlast
            exact ⟨steps, kind, line, column, [], rfl, by simp⟩
        | touch other => cases hlast
        | mark lines => cases hlast
      · obtain ⟨step, hstep, hdefined⟩ := h
        have hmem : step ∈ steps := by
          rcases List.mem_append.mp hstep with hmem | hmem
          · exact hmem
          · rw [List.mem_singleton.mp hmem] at hdefined
            exact absurd hdefined hlast
        obtain ⟨before, kind, line, column, after, rfl, hafter⟩ :=
          ih ⟨step, hmem, hdefined⟩
        refine ⟨before, kind, line, column, after ++ [last], by simp, ?_⟩
        intro s hs
        rcases List.mem_append.mp hs with hs | hs
        · exact hafter s hs
        · rw [List.mem_singleton.mp hs]
          exact hlast

namespace SymbolTable

theorem run_concat (steps : List TableStep) (step : TableStep) :
    run (steps ++ [step]) = step.apply (run steps) := by
  simp only [run, List.foldl_append, List.foldl_cons, List.foldl_nil]

theorem run_append (steps more : List TableStep) :
    run (steps ++ more) = more.foldl TableStep.apply (run steps) := by
  rw [run, run, List.foldl_append]

theorem nodup_run (steps : List TableStep) : (run steps).names.Nodup := by
  induction steps using List.reverseRecOn with
  | nil => exact List.nodup_nil
  | append_singleton steps last ih =>
      rw [run_concat, TableStep.names_apply]
      exact nodup_addName ih _

theorem names_run (steps : List TableStep) :
    (run steps).names = (steps.filterMap TableStep.defined?).eraseDups :=
  names_foldl (f := TableStep.apply) (fun _ _ => TableStep.names_apply) steps

/-- What the last definition of a name says, and the marks since. -/
theorem get?_run_definition {before after : List TableStep} {name : Text}
    {kind : SymbolKind} {line column : Nat}
    (h : ∀ step ∈ after, step.defined? ≠ some name) :
    (run (before ++ .define name kind line column :: after)).get? name =
      some ⟨name, kind, line, column,
        after.any fun step => decide (step.Uses name line)⟩ := by
  rw [run_append, List.foldl_cons, TableStep.get?_foldl h, TableStep.apply,
    get?_define, if_pos rfl]
  simp [Record.marked]

theorem get?_run_iff {steps : List TableStep} {name : Text} {r : Record} :
    (run steps).get? name = some r ↔
      r.name = name ∧ ∃ before after,
        steps = before ++ .define name r.kind r.line r.column :: after ∧
        (∀ step ∈ after, step.defined? ≠ some name) ∧
        (r.used = true ↔ ∃ step ∈ after, step.Uses name r.line) := by
  constructor
  · intro h
    have hdefined : ∃ step ∈ steps, step.defined? = some name := by
      by_contra hnever
      simp only [not_exists, not_and] at hnever
      rw [run, TableStep.get?_foldl hnever] at h
      cases h
    obtain ⟨before, kind, line, column, after, rfl, hafter⟩ :=
      TableStep.exists_last_definition hdefined
    rw [get?_run_definition hafter] at h
    obtain rfl := Option.some.inj h
    exact ⟨rfl, before, after, rfl, hafter, by simp⟩
  · intro h
    obtain ⟨rfl, before, after, rfl, hafter, hused⟩ := h
    rw [get?_run_definition hafter]
    refine congrArg some ?_
    have hany : (after.any fun step => decide (step.Uses r.name r.line)) =
        r.used := by
      rw [Bool.eq_iff_iff, hused]
      simp
    rw [hany]

end SymbolTable

/-! ## The sweep, visit by visit

A sweep can be taken apart into visits, one for every line and name, each of
which looks the record up again. This makes no difference: what a visit may
change is the mark of one record, and no other visit asks for it. -/

/-- The sweep comes to a name on a line. -/
structure Visit where
  line : Nat
  text : Text
  name : Text

/-- The visit is to the record's name, on another line than its own, and
the line shows the name. -/
def Visit.marks (v : Visit) (r : Record) : Bool :=
  v.name == r.name && (v.line != r.line && Text.occursAsWord r.name v.text)

namespace SymbolTable

/-- The table after a visit. A record that is used already is passed over, and
so is one of the line itself. -/
def visit (table : SymbolTable) (v : Visit) : SymbolTable :=
  match table.get? v.name with
  | none => table
  | some r =>
    if r.used || r.line == v.line then table
    else if Text.occursAsWord v.name v.text then table.touch v.name
    else table

/-- The visits of a sweep: every name on every line. -/
def visits (lines names : List Text) : List Visit :=
  lines.zipIdx.flatMap fun entry => names.map fun name =>
    ⟨entry.2, entry.1, name⟩

variable {table : SymbolTable}

theorem mem_visits {lines names : List Text} {v : Visit} :
    v ∈ visits lines names ↔ lines[v.line]? = some v.text ∧ v.name ∈ names := by
  simp only [visits, List.mem_flatMap, Prod.exists,
    List.mk_mem_zipIdx_iff_getElem?, List.mem_map]
  constructor
  · intro h
    obtain ⟨text, line, hline, name, hname, rfl⟩ := h
    exact ⟨hline, hname⟩
  · intro h
    exact ⟨v.text, v.line, h.1, v.name, h.2, rfl⟩

theorem map_marked_eq_self {mark : Record → Bool}
    (h : ∀ r ∈ table.records, r.marked (mark r) = r) :
    SymbolTable.mk (table.records.map fun r => r.marked (mark r)) = table := by
  rw [List.map_congr_left h, List.map_id']

theorem visit_eq (h : table.names.Nodup) (v : Visit) :
    table.visit v = ⟨table.records.map fun r => r.marked (v.marks r)⟩ := by
  have hother : ∀ r : Record, r.name ≠ v.name → r.marked (v.marks r) = r := by
    intro r hne
    have hmarks : v.marks r = false := by simp [Visit.marks, Ne.symm hne]
    rw [hmarks, Record.marked_false]
  rw [visit]
  split
  · next hnone =>
      refine (map_marked_eq_self fun r hr => hother r fun hname => ?_).symm
      refine get?_eq_none_iff.mp hnone ?_
      rw [← hname]
      exact List.mem_map_of_mem hr
  · next s hs =>
      have hname := name_of_get? hs
      have hunique : ∀ r ∈ table.records, r.name = v.name → r = s :=
        fun r hr heq =>
        List.inj_on_of_nodup_map h hr (List.mem_of_find?_eq_some hs)
          (heq.trans hname.symm)
      have hkeep : s.marked (v.marks s) = s →
          table = ⟨table.records.map fun r => r.marked (v.marks r)⟩ := by
        intro hself
        refine (map_marked_eq_self fun r hr => ?_).symm
        by_cases heq : r.name = v.name
        · rw [hunique r hr heq, hself]
        · exact hother r heq
      split
      · next hskip =>
          refine hkeep ?_
          rcases Bool.or_eq_true_iff.mp hskip with hused | hline
          · exact Record.marked_of_used hused _
          · have hmarks : v.marks s = false := by simp_all [Visit.marks]
            rw [hmarks, Record.marked_false]
      · next hskip =>
          simp only [Bool.or_eq_true, beq_iff_eq, not_or] at hskip
          have hline : v.line ≠ s.line := fun heq => hskip.2 heq.symm
          split
          · next hshown =>
              rw [touch, update, mk.injEq]
              refine List.map_congr_left fun r hr => ?_
              by_cases heq : r.name = v.name
              · have hmarks : v.marks r = true := by
                  simp [Visit.marks, hunique r hr heq, hname, hline, hshown]
                simp [Record.marked, hmarks, heq]
              · simp [hother r heq, heq]
          · next hshown =>
              refine hkeep ?_
              have hmarks : v.marks s = false := by simp [Visit.marks,
                hname, hshown]
              rw [hmarks, Record.marked_false]

theorem foldl_visit (h : table.names.Nodup) (vs : List Visit) :
    vs.foldl visit table =
      ⟨table.records.map fun r => r.marked (vs.any fun v => v.marks r)⟩ := by
  induction vs generalizing table with
  | nil => simp [Record.marked_false]
  | cons v vs ih =>
      have hnames : (table.visit v).names = table.names := by
        rw [visit_eq h, names, List.map_map]
        rfl
      rw [List.foldl_cons, ih (by rw [hnames]; exact h), visit_eq h, mk.injEq,
        List.map_map]
      refine List.map_congr_left fun r _ => ?_
      rw [Function.comp_apply, Record.marked_marked]
      rfl

/-- Whatever the order of the visits, and however often they are made. -/
theorem foldl_visit_eq_markUses (h : table.names.Nodup) {lines : List Text}
    {vs : List Visit} (hvs : ∀ v, v ∈ vs ↔ v ∈ visits lines table.names) :
    vs.foldl visit table = table.markUses lines := by
  rw [foldl_visit h, markUses, mk.injEq]
  refine List.map_congr_left fun r hr => ?_
  have hany : (vs.any fun v => v.marks r) =
      decide (UsedElsewhere lines r.name r.line) := by
    rw [Bool.eq_iff_iff, decide_eq_true_iff]
    simp only [List.any_eq_true, hvs, mem_visits, Visit.marks, Bool.and_eq_true,
      beq_iff_eq, bne_iff_ne, Text.occursAsWord_iff_standsIn, UsedElsewhere]
    constructor
    · intro h'
      obtain ⟨v, ⟨hline, -⟩, -, hne, hshown⟩ := h'
      exact ⟨v.line, v.text, hline, hne, hshown⟩
    · intro h'
      obtain ⟨line, text, hline, hne, hshown⟩ := h'
      exact ⟨⟨line, text, r.name⟩, ⟨hline, List.mem_map_of_mem hr⟩, rfl,
        hne, hshown⟩
  rw [Record.markIn_eq, hany]

end SymbolTable

/-- After any run the names of a table are those that were defined, each
once and in the order of their first definitions. A record says what the
last definition of its name said, and it is used exactly if a step since
then uses it. A further step changes the record of the name it defines, and
of the others nothing but the mark of those it uses; a mark that is set
stays until the name is defined again. And a sweep marks the same records in
whatever order it goes. -/
theorem table_reflects_run (steps : List TableStep) :
    let table := SymbolTable.run steps
    table.names = (steps.filterMap TableStep.defined?).eraseDups ∧
    table.names.Nodup ∧
    (∀ name r, table.get? name = some r ↔
      r.name = name ∧ ∃ before after,
        steps = before ++ .define name r.kind r.line r.column :: after ∧
        (∀ step ∈ after, step.defined? ≠ some name) ∧
        (r.used = true ↔ ∃ step ∈ after, step.Uses name r.line)) ∧
    (∀ (step : TableStep) name, step.defined? ≠ some name →
      (table.get? name = none → (step.apply table).get? name = none) ∧
      ∀ r, table.get? name = some r →
        (step.Uses name r.line →
          (step.apply table).get? name = some { r with used := true }) ∧
        (¬ step.Uses name r.line → (step.apply table).get? name = some r)) ∧
    (∀ more name r, table.get? name = some r → r.used = true →
      (∀ step ∈ more, step.defined? ≠ some name) →
      (SymbolTable.run (steps ++ more)).get? name = some r) ∧
    ∀ lines (vs : List Visit),
      (∀ v, v ∈ vs ↔ v ∈ SymbolTable.visits lines table.names) →
      vs.foldl SymbolTable.visit table = table.markUses lines := by
  intro table
  refine ⟨SymbolTable.names_run steps, SymbolTable.nodup_run steps,
    fun name r => SymbolTable.get?_run_iff, ?_, ?_,
    fun lines vs => SymbolTable.foldl_visit_eq_markUses
      (SymbolTable.nodup_run steps)⟩
  · intro step name hstep
    have hlook : (step.apply table).get? name = (table.get? name).map fun r =>
        r.marked (decide (step.Uses name r.line)) := TableStep.get?_apply hstep
    refine ⟨fun hnone => by rw [hlook, hnone]; rfl, fun r hr => ?_⟩
    rw [hr, Option.map_some] at hlook
    constructor
    · intro huse
      rw [hlook, decide_eq_true huse]
      simp [Record.marked]
    · intro huse
      rw [hlook, decide_eq_false huse, Record.marked_false]
  · intro more name r hr hused hmore
    rw [SymbolTable.run_append, TableStep.get?_foldl hmore]
    change (table.get? name).map _ = some r
    rw [hr, Option.map_some, Record.marked_of_used hused]

example :
    (SymbolTable.run [.define ['A'] .terminal 0 0, .touch ['A'],
        .define ['b'] .rule 1 0, .define ['A'] .terminal 2 1,
        .mark [['A', 'b'], ['x', ':', ' ', 'b'], ['A']]]).records =
      [⟨['A'], .terminal, 2, 1, false⟩,
        ⟨['b'], .rule, 1, 0, false⟩] := by decide

end GrammarLint
