import GrammarLint.Proofs.UnusedReport

/-!
# Renumbering the lines of a grammar

The checks read every line on its own and carry its number along. Nothing looks
at a number but the search for uses, and that only asks whether two numbers are
equal. So when lines get new numbers, and different lines different ones, every
part of the check gives what it gave before, on the new lines.

A grammar is its numbered lines here, `lines.zipIdx`, since that is the list
all passes walk. What a walk over the renumbered lines finds is compared with
what the walk over the lines themselves finds; later files only have to say how
the numbered lines of a changed grammar come from those of the old one.
-/

namespace GrammarLint

/-- The diagnostic on the line that its own line becomes. Columns, message,
severity and code stay. -/
def Diagnostic.relocate (σ : Nat → Nat) (d : Diagnostic) : Diagnostic :=
  { d with span := { d.span with line := σ d.span.line } }

/-- The record on the line that its own line becomes. -/
def Record.relocate (σ : Nat → Nat) (r : Record) : Record :=
  { r with line := σ r.line }

/-- A numbered line under its new number. -/
def renumber (σ : Nat → Nat) (entry : Text × Nat) : Text × Nat :=
  (entry.1, σ entry.2)

variable {σ : Nat → Nat}

theorem Diagnostic.relocate_undefined (line start : Nat) (name : Text)
    (kind : SymbolKind) :
    (undefined line start name kind).relocate σ =
      undefined (σ line) start name kind := by
  cases kind <;> rfl

theorem renumber_injective (hσ : Function.Injective σ) :
    Function.Injective (renumber σ) := by
  intro pair other h
  obtain ⟨text, line⟩ := pair
  obtain ⟨text', line'⟩ := other
  obtain ⟨htext, hline⟩ := Prod.mk.inj h
  exact Prod.ext htext (hσ hline)

theorem Record.relocate_injective (hσ : Function.Injective σ) :
    Function.Injective (Record.relocate σ) := by
  intro r q h
  obtain ⟨hname, hkind, hline, hcolumn, hused⟩ := Record.mk.inj h
  have hline : r.line = q.line := hσ hline
  cases r
  cases q
  simp_all

theorem undefinedIn_relocate (table : SymbolTable) (line offset : Nat)
    (body : Text) :
    undefinedIn table (σ line) offset body =
      (undefinedIn table line offset body).map (Diagnostic.relocate σ) := by
  rw [undefinedIn, undefinedIn, List.map_map]
  refine List.map_congr_left fun r _ => ?_
  exact (Diagnostic.relocate_undefined line _ r.name r.kind).symm

theorem lineErrors_relocate (table : SymbolTable) (line : Nat) (text : Text) :
    lineErrors table (σ line) text =
      (lineErrors table line text).map (Diagnostic.relocate σ) := by
  rw [lineErrors, lineErrors]
  cases classify text with
  | definition head => exact undefinedIn_relocate ..
  | directive => rfl
  | skipped => rfl
  | invalidHead head start =>
      show _ :: _ = _ :: _
      rw [undefinedIn_relocate]
      rfl
  | body => exact undefinedIn_relocate ..

/-- The errors of a line ask the table for its names and for nothing else. -/
theorem lineErrors_congr {table table' : SymbolTable}
    (h : ∀ name, name ∈ table.names ↔ name ∈ table'.names) (line : Nat)
    (text : Text) :
    lineErrors table line text = lineErrors table' line text := by
  have hhas : table.has = table'.has := by
    funext name
    rw [Bool.eq_iff_iff, SymbolTable.has_iff, SymbolTable.has_iff]
    exact h name
  simp only [lineErrors, undefinedIn, hhas]

/-- The errors found on renumbered lines. -/
theorem flatMap_lineErrors_renumber {table table' : SymbolTable}
    (h : ∀ name, name ∈ table'.names ↔ name ∈ table.names) (lines : List Text) :
    (lines.zipIdx.map (renumber σ)).flatMap
        (fun entry => lineErrors table' entry.2 entry.1) =
      (findErrors table lines).map (Diagnostic.relocate σ) := by
  rw [findErrors, List.flatMap_map, List.map_flatMap]
  refine congrArg (lines.zipIdx.flatMap ·) (funext fun entry => ?_)
  show lineErrors table' (σ entry.2) entry.1 = _
  rw [lineErrors_congr h, lineErrors_relocate]

/-- The bindings found on renumbered lines. -/
theorem flatMap_bindings_renumber (lines : List Text) :
    (lines.zipIdx.map (renumber σ)).flatMap
        (fun entry => (classify entry.1).bindings.map
          (Binding.record entry.2)) =
      (bindingRecords lines).map (Record.relocate σ) := by
  rw [bindingRecords, List.flatMap_map, List.map_flatMap]
  refine congrArg (lines.zipIdx.flatMap ·) (funext fun entry => ?_)
  show (classify entry.1).bindings.map (Binding.record (σ entry.2)) =
    List.map _ (List.map _ _)
  rw [List.map_map]
  rfl

/-- A relocated record has its uses on the renumbered lines. Its own line must
not fall together with another. -/
theorem any_uses_renumber (hσ : Function.Injective σ) (r : Record)
    (lines : List Text) :
    (lines.zipIdx.map (renumber σ)).any
        (fun entry => entry.2 != (r.relocate σ).line &&
          Text.occursAsWord (r.relocate σ).name entry.1) =
      r.usedIn lines := by
  rw [Record.usedIn, List.any_map]
  refine congrArg (lines.zipIdx.any ·) (funext fun entry => ?_)
  show (σ entry.2 != σ r.line && _) = (entry.2 != r.line && _)
  have hne : (σ entry.2 != σ r.line) = (entry.2 != r.line) := by
    rw [Bool.eq_iff_iff, bne_iff_ne, bne_iff_ne, hσ.ne_iff]
  rw [hne]
  rfl

theorem names_map_relocate (rs : List Record) :
    (rs.map (Record.relocate σ)).map Record.name = rs.map Record.name := by
  rw [List.map_map]
  rfl

theorem unused_map_relocate (rs : List Record) :
    SymbolTable.unused ⟨rs.map (Record.relocate σ)⟩ =
      (SymbolTable.unused ⟨rs⟩).map (Record.relocate σ) := by
  rw [SymbolTable.unused, SymbolTable.unused, List.filter_map]
  rfl

theorem map_warningHere_relocate (rs : List Record) :
    (rs.map (Record.relocate σ)).map Record.warningHere =
      (rs.map Record.warningHere).map (Diagnostic.relocate σ) := by
  rw [List.map_map, List.map_map]
  rfl

end GrammarLint
