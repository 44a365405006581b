import GrammarLint.Check.Outline
import GrammarLint.Proofs.HeadGrammar
import GrammarLint.Proofs.TableRuns

/-!
# The outline and the table tell of the same bindings

An outline lists every binding of a grammar as it stands in the text. A table
keeps one record for each name and forgets all bindings of it but the last. Both
walk the lines on their own, so what one of them knows of a name has to be found
in the other: the names of the table are those of the outline without the
repetitions, and the record of a name is its last entry.

A binding also has a kind, and there are two places where it comes from. A
head is read with its kind, and a name that a directive binds is asked for
its kind afterwards. They give the same kind to the same name, which is not
plain for a name of underscores and digits alone: it is spelled like a
terminal and like a rule.
-/

namespace GrammarLint

open Text (hasAt)

/-- The record that a table keeps of an entry. -/
def OutlineEntry.record (entry : OutlineEntry) : Record where
  name := entry.name
  kind := entry.kind
  line := entry.line
  column := entry.nameStart

theorem bindingRecords_eq_outline (lines : List Text) :
    bindingRecords lines = (outline lines).map OutlineEntry.record := by
  simp only [bindingRecords, outline, outlineOfLine, List.map_flatMap,
    List.map_map]
  rfl

namespace SymbolTable

theorem names_defineAll (rs : List Record) :
    (defineAll rs).names = (rs.map Record.name).eraseDups := by
  rw [← List.filterMap_eq_map]
  exact names_foldl names_define_eq_addName rs

theorem get?_defineAll (rs : List Record) (name : Text) :
    (defineAll rs).get? name =
      (rs.filter fun r => r.name == name).getLast? := by
  induction rs using List.reverseRecOn with
  | nil => rfl
  | append_singleton rs last ih =>
      rw [defineAll_concat, get?_define, List.filter_append,
        List.getLast?_append, ih]
      by_cases hname : name = last.name
      · simp [hname]
      · have hother : last.name ≠ name := fun h => hname h.symm
        simp [hname, hother]

end SymbolTable

/-- However a name is bound, its kind is the one of its spelling. -/
theorem bindings_kind {text : Text} {b : Binding}
    (hb : b ∈ (classify text).bindings) :
    b.kind = SymbolKind.ofName b.name := by
  have hread := classify_readFrom text
  cases hclass : classify text with
  | definition head =>
      rw [hclass] at hb hread
      obtain rfl : b = ⟨head.name, head.kind, head.nameStart⟩ := by
        simpa [LineClass.bindings] using hb
      obtain ⟨written, rest, -, rfl⟩ := Head.exists_text hread
      rfl
  | directive d =>
      rw [hclass] at hb
      obtain ⟨bound, -, rfl⟩ := List.mem_map.mp hb
      rfl
  | skipped | invalidHead | body => simp [hclass, LineClass.bindings] at hb

theorem mem_outline {lines : List Text} {entry : OutlineEntry}
    (h : entry ∈ outline lines) :
    ∃ text, lines[entry.line]? = some text ∧ entry.lineLength = text.length ∧
      hasAt entry.name text entry.nameStart = true := by
  obtain ⟨⟨text, line⟩, hmem, hentry⟩ := List.mem_flatMap.mp h
  obtain ⟨b, hb, rfl⟩ := List.mem_map.mp hentry
  exact ⟨text, List.mk_mem_zipIdx_iff_getElem?.mp hmem, rfl,
    (bindings_namedAt hb).shown⟩

theorem kind_of_mem_outline {lines : List Text} {entry : OutlineEntry}
    (h : entry ∈ outline lines) :
    entry.kind = SymbolKind.ofName entry.name := by
  obtain ⟨⟨text, line⟩, -, hentry⟩ := List.mem_flatMap.mp h
  obtain ⟨b, hb, rfl⟩ := List.mem_map.mp hentry
  exact bindings_kind hb

/-- The table has the names of the outline without the repetitions, in the same
order, and looks a name up as its last entry. Every name has the kind of its
spelling, in the table as in the outline, and every entry fits its line, which
shows the name where the entry says. -/
theorem outline_agrees_with_table (lines : List Text) :
    (SymbolTable.ofLines lines).names =
      ((outline lines).map OutlineEntry.name).eraseDups ∧
    (∀ name, (SymbolTable.ofLines lines).get? name =
      ((outline lines).filter fun entry => entry.name == name).getLast?.map
        OutlineEntry.record) ∧
    (∀ r ∈ (SymbolTable.ofLines lines).records,
      r.kind = SymbolKind.ofName r.name) ∧
    ∀ entry ∈ outline lines, entry.kind = SymbolKind.ofName entry.name ∧
      entry.nameStart + entry.name.length ≤ entry.lineLength ∧
      ∃ text, lines[entry.nameSpan.line]? = some text ∧
        entry.lineLength = text.length ∧
        text.extract entry.nameSpan.start entry.nameSpan.stop = entry.name := by
  have htable : SymbolTable.ofLines lines =
      SymbolTable.defineAll ((outline lines).map OutlineEntry.record) := by
    rw [ofLines_eq_defineAll, bindingRecords_eq_outline]
  refine ⟨?_, fun name => ?_, fun r hr => ?_, fun entry hentry => ?_⟩
  · rw [htable, SymbolTable.names_defineAll, List.map_map]
    rfl
  · rw [htable, SymbolTable.get?_defineAll, List.filter_map, List.getLast?_map]
    rfl
  · have hmem := (mem_ofLines.mp hr).mem
    rw [bindingRecords_eq_outline] at hmem
    obtain ⟨entry, hentry, rfl⟩ := List.mem_map.mp hmem
    exact kind_of_mem_outline hentry
  · obtain ⟨text, hline, hlength, hshown⟩ := mem_outline hentry
    obtain ⟨hfits, hcut⟩ := Text.extract_of_hasAt hshown
    exact ⟨kind_of_mem_outline hentry, by omega, text, hline, hlength, hcut⟩

end GrammarLint
