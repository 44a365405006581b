import GrammarLint.Proofs.Relocation
import Mathlib.Data.List.Nodup
import Mathlib.Data.List.Perm.Basic
import Mathlib.Logic.Equiv.Fin.Rotate

/-!
# The order of the lines does not matter

A table is filled in document order and a name that is bound again is
overwritten, so the order of two lines that bind one name decides where its
record points. Nothing else in a check depends on order. When no two lines bind
the same name, the lines may be put in any order: the check says the same of
every line, wherever it went.

The argument follows the passes. The numbered lines of the reordered grammar
are those of the old one under new numbers, in another order; so are its
bindings. A record of the table is a binding behind which its name is not bound
again, and on one line that is decided by columns, which move with the line. So
the records correspond, then their uses, and then the warnings.
-/

namespace GrammarLint

/-- No two lines bind the same name. One line may bind it twice. -/
def BoundOnOneLine (lines : List Text) : Prop :=
  ∀ name p q, BoundAt lines name p → BoundAt lines name q → p.line = q.line

/-- The lines in another order: the line at `i` goes to `π i`. -/
def reorder (lines : List Text) (π : Equiv.Perm (Fin lines.length)) :
    List Text :=
  List.ofFn fun i => lines.get (π.symm i)

/-- Where a line number goes. Numbers beyond the grammar stay. -/
def movedTo {lines : List Text} (π : Equiv.Perm (Fin lines.length)) :
    Equiv.Perm Nat :=
  π.extendDomain Fin.equivSubtype

variable {lines : List Text} {π : Equiv.Perm (Fin lines.length)}

theorem movedTo_apply (i : Fin lines.length) : movedTo π i = π i :=
  π.extendDomain_apply_image Fin.equivSubtype i

theorem getElem?_reorder {j : Nat} {text : Text} :
    (reorder lines π)[j]? = some text ↔ ∃ i, lines[i]? = some text ∧
    movedTo π i = j := by
  rw [reorder, List.getElem?_ofFn]
  constructor
  · intro h
    split at h
    · next hj =>
        refine ⟨(π.symm ⟨j, hj⟩).val, ?_, ?_⟩
        · rw [← Option.some.inj h]
          exact List.getElem?_eq_getElem _
        · rw [movedTo_apply, Equiv.apply_symm_apply]
    · cases h
  · intro h
    obtain ⟨i, hi, rfl⟩ := h
    obtain ⟨hlt, rfl⟩ := List.getElem?_eq_some_iff.mp hi
    rw [show movedTo π i = π ⟨i, hlt⟩ from movedTo_apply ⟨i, hlt⟩,
      dif_pos (π ⟨i, hlt⟩).isLt]
    simp

theorem zipIdx_nodup (lines : List Text) : lines.zipIdx.Nodup :=
  (zipIdx_lines_ordered lines 0).imp fun h heq => by
    rw [heq] at h
    omega

theorem zipIdx_reorder :
    (reorder lines π).zipIdx.Perm
      (lines.zipIdx.map (renumber (movedTo π))) := by
  have hright : (lines.zipIdx.map (renumber (movedTo π))).Nodup :=
    (zipIdx_nodup lines).map (renumber_injective (movedTo π).injective)
  refine (List.perm_ext_iff_of_nodup (zipIdx_nodup _) hright).mpr ?_
  intro pair
  obtain ⟨text, j⟩ := pair
  rw [List.mk_mem_zipIdx_iff_getElem?, getElem?_reorder, List.mem_map]
  constructor
  · intro h
    obtain ⟨i, hi, rfl⟩ := h
    exact ⟨(text, i), List.mk_mem_zipIdx_iff_getElem?.mpr hi, rfl⟩
  · intro h
    obtain ⟨⟨text', i⟩, hi, heq⟩ := h
    obtain ⟨rfl, rfl⟩ := Prod.mk.inj heq
    exact ⟨i, List.mk_mem_zipIdx_iff_getElem?.mp hi, rfl⟩

theorem bindingRecords_reorder :
    (bindingRecords (reorder lines π)).Perm
      ((bindingRecords lines).map (Record.relocate (movedTo π))) := by
  rw [← flatMap_bindings_renumber]
  exact zipIdx_reorder.flatMap_right _

theorem mem_bindingRecords_reorder {r : Record} :
    r.relocate (movedTo π) ∈ bindingRecords (reorder lines π) ↔
      r ∈ bindingRecords lines := by
  rw [bindingRecords_reorder.mem_iff,
    List.mem_map_of_injective (Record.relocate_injective (movedTo π).injective)]

/-! ## The table

On which line a name is bound last is a matter of order, and here it is bound
on one line only. -/

/-- A record of the table is a binding, and every other binding of its name
comes before it. -/
theorem mem_ofLines_iff {r : Record} :
    r ∈ (SymbolTable.ofLines lines).records ↔
      r ∈ bindingRecords lines ∧
        ∀ q ∈ bindingRecords lines, q.name = r.name →
          q = r ∨ q.site.before r.site := by
  rw [mem_ofLines]
  have hord := bindingRecords_ordered lines
  constructor
  · intro h
    refine ⟨h.mem, fun q hq hname => ?_⟩
    obtain ⟨before, after, hsplit, hafter⟩ := h
    rw [hsplit] at hq hord
    obtain ⟨-, -, hbefore⟩ := List.pairwise_append.mp hord
    rcases List.mem_append.mp hq with hq | hq
    · exact .inr (hbefore q hq r List.mem_cons_self)
    · rcases List.mem_cons.mp hq with rfl | hq
      · exact .inl rfl
      · exact absurd hname (hafter q hq)
  · intro h
    obtain ⟨hr, hlast⟩ := h
    obtain ⟨before, after, hsplit⟩ := List.append_of_mem hr
    refine ⟨before, after, hsplit, fun q hq hname => ?_⟩
    rw [hsplit] at hord
    obtain ⟨-, hord, -⟩ := List.pairwise_append.mp hord
    have hrq : r.site.before q.site := (List.pairwise_cons.mp hord).1 q hq
    have hmem : q ∈ bindingRecords lines := by
      rw [hsplit]
      exact List.mem_append_right _ (List.mem_cons_of_mem r hq)
    rcases hlast q hmem hname with rfl | hqr
    · exact Site.before_asymm hrq hrq
    · exact Site.before_asymm hrq hqr

theorem boundOnOneLine_iff :
    BoundOnOneLine lines ↔
      ∀ r ∈ bindingRecords lines, ∀ q ∈ bindingRecords lines,
        q.name = r.name → q.line = r.line := by
  constructor
  · intro h r hr q hq hname
    exact h r.name q.site r.site (boundAt_iff.mpr ⟨q, hq, hname, rfl⟩)
      (boundAt_iff.mpr ⟨r, hr, rfl, rfl⟩)
  · intro h name p q hp hq
    obtain ⟨r, hr, rfl, rfl⟩ := boundAt_iff.mp hp
    obtain ⟨s, hs, hname, rfl⟩ := boundAt_iff.mp hq
    exact (h r hr s hs hname).symm

instance (lines : List Text) : Decidable (BoundOnOneLine lines) :=
  decidable_of_iff _ boundOnOneLine_iff.symm

theorem before_relocate {σ : Nat → Nat} {r q : Record}
    (hline : q.line = r.line) :
    (q.relocate σ).site.before (r.relocate σ).site ↔ q.site.before r.site := by
  have hσ : σ q.line = σ r.line := by rw [hline]
  simp only [Site.before, Record.site, Record.relocate]
  omega

theorem names_nodup (lines : List Text) :
    (SymbolTable.ofLines lines).names.Nodup :=
  (ofLines_names_ordered lines).imp fun ⟨_, _, hp, hq, hbefore⟩ =>
    hp.ne_of_before hq hbefore

theorem records_nodup (lines : List Text) :
    (SymbolTable.ofLines lines).records.Nodup :=
  List.Nodup.of_map Record.name (names_nodup lines)

theorem ofLines_reorder (h : BoundOnOneLine lines) :
    (SymbolTable.ofLines (reorder lines π)).records.Perm
      ((SymbolTable.ofLines lines).records.map
        (Record.relocate (movedTo π))) := by
  have hright : ((SymbolTable.ofLines lines).records.map
      (Record.relocate (movedTo π))).Nodup := by
    refine List.Nodup.of_map Record.name ?_
    rw [names_map_relocate]
    exact names_nodup lines
  refine (List.perm_ext_iff_of_nodup (records_nodup _) hright).mpr fun r' => ?_
  have hold : ∀ q' ∈ bindingRecords (reorder lines π),
      ∃ q ∈ bindingRecords lines, q.relocate (movedTo π) = q' := by
    intro q' hq'
    exact List.mem_map.mp (bindingRecords_reorder.mem_iff.mp hq')
  rw [mem_ofLines_iff, List.mem_map]
  constructor
  · intro hr'
    obtain ⟨hr', hlast⟩ := hr'
    obtain ⟨r, hr, rfl⟩ := hold r' hr'
    refine ⟨r, mem_ofLines_iff.mpr ⟨hr, fun q hq hname => ?_⟩, rfl⟩
    have hline := boundOnOneLine_iff.mp h r hr q hq hname
    rcases hlast _ (mem_bindingRecords_reorder.mpr hq) hname with heq | hbefore
    · exact .inl (Record.relocate_injective (movedTo π).injective heq)
    · exact .inr ((before_relocate hline).mp hbefore)
  · intro hr'
    obtain ⟨r, hr, rfl⟩ := hr'
    obtain ⟨hr, hlast⟩ := mem_ofLines_iff.mp hr
    refine ⟨mem_bindingRecords_reorder.mpr hr, fun q' hq' hname => ?_⟩
    obtain ⟨q, hq, rfl⟩ := hold q' hq'
    have hline := boundOnOneLine_iff.mp h r hr q hq hname
    rcases hlast q hq hname with rfl | hbefore
    · exact .inl rfl
    · exact .inr ((before_relocate hline).mpr hbefore)

theorem usedIn_reorder (r : Record) :
    (r.relocate (movedTo π)).usedIn (reorder lines π) = r.usedIn lines := by
  rw [← any_uses_renumber (movedTo π).injective r lines]
  exact zipIdx_reorder.any_eq

theorem markedTable_reorder (h : BoundOnOneLine lines) :
    (markedTable (reorder lines π)).records.Perm
      ((markedTable lines).records.map (Record.relocate (movedTo π))) := by
  have hmark :
      ((SymbolTable.ofLines lines).records.map
          (Record.relocate (movedTo π))).map
        (Record.markIn (reorder lines π)) =
      ((SymbolTable.ofLines lines).records.map (Record.markIn lines)).map
        (Record.relocate (movedTo π)) := by
    rw [List.map_map, List.map_map]
    refine List.map_congr_left fun r _ => ?_
    show { r.relocate (movedTo π) with
      used := r.used || (r.relocate (movedTo π)).usedIn (reorder lines π) } = _
    rw [usedIn_reorder]
    rfl
  show (List.map _ _).Perm (List.map _ (List.map _ _))
  rw [← hmark]
  exact (ofLines_reorder h).map _

theorem mem_names_reorder (h : BoundOnOneLine lines) (name : Text) :
    name ∈ (markedTable (reorder lines π)).names ↔
      name ∈ (markedTable lines).names := by
  have hnames := (markedTable_reorder (π := π) h).map Record.name
  rw [names_map_relocate] at hnames
  exact hnames.mem_iff

/-- When no two lines bind the same name, the lines may be put in any order: the
diagnostics are the same, each on the line that its line has become. -/
theorem validate_reorder (lines : List Text) (π : Equiv.Perm (Fin lines.length))
    (h : BoundOnOneLine lines) :
    (validate (reorder lines π)).Perm
      ((validate lines).map (Diagnostic.relocate (movedTo π))) := by
  rw [validate_eq, validate_eq, List.map_append]
  refine List.Perm.append ?_ ?_
  · rw [← flatMap_lineErrors_renumber (mem_names_reorder h)]
    exact zipIdx_reorder.flatMap_right _
  · have hunused := (markedTable_reorder (π := π) h).filter
      fun r => !r.used && r.name != startSymbol
    have hwarn := hunused.map Record.warningHere
    rw [← map_warningHere_relocate, ← unused_map_relocate]
    exact hwarn

/-- Four lines, the last of which comes to the front. One of them binds a name
twice; the two errors stay in order and the warning moves from the last line to
the first. -/
theorem validate_reorder_rotated :
    let lines : List Text :=
      [['s', 't', 'a', 'r', 't', ':', ' ', 'a', ' ', 'B', ' ', 'E'],
        ['%', 'd', 'e', 'c', 'l', 'a', 'r', 'e', ' ', 'B', ' ', 'B'],
        ['a', ':', ' ', 'c', ' ', '"', 'x', '"'],
        ['D', ':', ' ', '"', 'd', '"']]
    let π : Equiv.Perm (Fin lines.length) := finRotate 4
    BoundOnOneLine lines ∧
      validate lines = [.undefined 0 11 ['E'] .terminal,
        .undefined 2 3 ['c'] .rule, .unused 3 0 ['D']] ∧
      (validate (reorder lines π)).Perm [.undefined 1 11 ['E'] .terminal,
        .undefined 3 3 ['c'] .rule, .unused 0 0 ['D']] := by
  intro lines π
  have hbound : BoundOnOneLine lines := by decide
  exact ⟨hbound, rfl, validate_reorder lines π hbound⟩

end GrammarLint
