import GrammarLint.Line.Basic
import GrammarLint.Proofs.Columns
import Mathlib.Data.List.Pairwise

/-!
# The names a line binds stand on that line

A line can bind names in five ways: the head of a definition, the list of a
`%declare`, the list, the alias or the path of an `%import`, and the bare name
that an `%import` falls back on. Each reader walks down its own chain of
suffixes of the line and hands out a name with a column computed from lengths.

What the checks need of all five is the same and is said once, in `NamedAt`:
the line shows the name at the column, and the name is a run of word
characters. A directive that binds several names binds them from left to
right, which `BoundIn` adds. The readers differ only in the chain of suffixes,
so each proof below is that chain.
-/

namespace GrammarLint

open Text (IsRun hasAt hasAt_of_suffix lastOr)

/-- The line shows the name at the column, and the name is a run of word
characters. -/
structure NamedAt (text name : Text) (column : Nat) : Prop where
  shown : hasAt name text column = true
  run : IsRun name

/-- Each of the bound names stands on the line where it says, and they come
from left to right. -/
structure BoundIn (text : Text) (names : List BoundName) : Prop where
  named : ∀ b ∈ names, NamedAt text b.name b.start
  ordered : names.Pairwise fun a b => a.start < b.start

theorem boundIn_nil (text : Text) : BoundIn text [] :=
  ⟨by simp, List.Pairwise.nil⟩

theorem boundIn_singleton {text : Text} {b : BoundName}
    (h : NamedAt text b.name b.start) : BoundIn text [b] :=
  ⟨by simpa using h, List.pairwise_singleton _ b⟩

theorem isWord_iff {c : Char} :
    Text.isWord c = true ↔
      c.isUpper = true ∨ c.isLower = true ∨ c.isDigit = true ∨ c = '_' := by
  show (((c.isUpper || c.isLower) || c.isDigit) || c == '_') = true ↔ _
  simp only [Bool.or_eq_true, beq_iff_eq, or_assoc]

theorem toNat_of_isUpper {c : Char} (h : c.isUpper = true) :
    65 ≤ c.toNat ∧ c.toNat ≤ 90 := by
  have hrange : c.val ≥ 'A'.val ∧ c.val ≤ 'Z'.val := of_decide_eq_true h
  simp only [ge_iff_le, UInt32.le_iff_toNat_le] at hrange
  exact hrange

theorem toNat_of_isLower {c : Char} (h : c.isLower = true) :
    97 ≤ c.toNat ∧ c.toNat ≤ 122 := by
  change (decide (c.val ≥ 'a'.val) && decide (c.val ≤ 'z'.val)) = true at h
  simp only [Bool.and_eq_true, decide_eq_true_eq, ge_iff_le,
    UInt32.le_iff_toNat_le] at h
  exact h

theorem toNat_of_isDigit {c : Char} (h : c.isDigit = true) :
    48 ≤ c.toNat ∧ c.toNat ≤ 57 := by
  simpa [Char.isDigit, UInt32.le_iff_toNat_le] using h

theorem isWord_of_isIdentStart {c : Char} (h : Text.isIdentStart c = true) :
    Text.isWord c = true := by
  change ((c.isUpper || c.isLower) || c == '_') = true at h
  simp only [Bool.or_eq_true, beq_iff_eq] at h
  rcases h with (h | h) | h
  · exact isWord_iff.mpr (.inl h)
  · exact isWord_iff.mpr (.inr (.inl h))
  · exact isWord_iff.mpr (.inr (.inr (.inr h)))

theorem isWord_of_isBareName {c : Char} (h : Directive.isBareName c = true) :
    Text.isWord c = true := by
  simp only [Directive.isBareName, Bool.or_eq_true, beq_iff_eq] at h
  rcases h with (h | h) | h
  · exact isWord_iff.mpr (.inl h)
  · exact isWord_iff.mpr (.inr (.inr (.inl h)))
  · exact isWord_iff.mpr (.inr (.inr (.inr h)))

theorem SymbolKind.isWord_of_opens {kind : SymbolKind} {c : Char}
    (h : kind.opens c = true) : Text.isWord c = true := by
  cases kind with
  | terminal =>
      simp only [opens, Bool.or_eq_true, beq_iff_eq] at h
      rcases h with h | h
      · exact isWord_iff.mpr (.inl h)
      · exact isWord_iff.mpr (.inr (.inr (.inr h)))
  | rule =>
      simp only [opens, Bool.or_eq_true, beq_iff_eq] at h
      rcases h with h | h
      · exact isWord_iff.mpr (.inr (.inl h))
      · exact isWord_iff.mpr (.inr (.inr (.inr h)))

theorem SymbolKind.isWord_of_continues {kind : SymbolKind} {c : Char}
    (h : kind.continues c = true) : Text.isWord c = true := by
  simp only [continues, Bool.or_eq_true] at h
  rcases h with h | h
  · exact isWord_of_opens h
  · exact isWord_iff.mpr (.inr (.inr (.inl h)))

theorem SymbolKind.isRun_of_spells {kind : SymbolKind} {name : Text}
    (h : kind.spells name = true) : IsRun name := by
  cases name with
  | nil => simp [spells] at h
  | cons c cs =>
      simp only [spells, Bool.and_eq_true, List.all_eq_true] at h
      refine ⟨List.cons_ne_nil c cs, fun d hd => ?_⟩
      rcases List.mem_cons.mp hd with rfl | hmem
      · exact isWord_of_opens h.1
      · exact isWord_of_continues (h.2 d hmem)

theorem SymbolKind.isRun_of_ofName? {kind : SymbolKind} {name : Text}
    (h : ofName? name = some kind) : IsRun name := by
  rw [ofName?] at h
  split at h
  · next hterm => exact isRun_of_spells hterm
  · split at h
    · next hrule => exact isRun_of_spells hrule
    · cases h

theorem Head.skipMarker_suffix (t : Text) : skipMarker t <:+ t := by
  unfold skipMarker
  split
  · exact List.suffix_cons _ _
  · exact List.suffix_cons _ _
  · exact List.suffix_refl _

theorem Head.namedAt {text : Text} {head : Head}
    (h : Head.read? text = some head) :
    NamedAt text head.name head.nameStart := by
  simp only [Head.read?] at h
  split at h
  · cases h
  · next kind hkind =>
      split at h
      · injection h with h
        subst h
        have hmarked := (skipMarker_suffix (text.dropWhile Text.isBlank)).trans
          (List.dropWhile_suffix Text.isBlank)
        exact ⟨hasAt_of_suffix hmarked (List.takeWhile_prefix Text.isWord),
          SymbolKind.isRun_of_ofName? hkind⟩
      · cases h

/-! ## Lists of names

A list is swept inside a fragment that opens some suffix of the line; a comment
only shortens the fragment. -/

namespace Directive

theorem readIdentifier?_some {t name : Text}
    (h : readIdentifier? t = some name) :
    name <+: t ∧ IsRun name := by
  cases t with
  | nil => simp [readIdentifier?] at h
  | cons c cs =>
      rw [readIdentifier?] at h
      split at h
      · next hc =>
          injection h with h
          subst h
          refine ⟨?_, List.cons_ne_nil _ _, fun d hd => ?_⟩
          · exact List.cons_prefix_cons.mpr ⟨rfl,
              List.takeWhile_prefix Text.isWord⟩
          · rcases List.mem_cons.mp hd with rfl | hmem
            · exact isWord_of_isIdentStart hc
            · exact List.mem_takeWhile_imp hmem
      · cases h

theorem beforeComment_isPrefix (t : Text) : Text.beforeComment t <+: t := by
  fun_induction Text.beforeComment t with
  | case1 => exact List.nil_prefix
  | case2 c cs _ ih => exact List.cons_prefix_cons.mpr ⟨rfl, ih⟩
  | case3 => exact List.nil_prefix

theorem namesIn_boundIn {text rest fragment : Text} (hsuf : rest <:+ text)
    (hpre : fragment <+: rest) :
    BoundIn text (namesIn (text.length - rest.length) fragment) := by
  refine ⟨fun b hb => ?_, ?_⟩
  · obtain ⟨⟨column, name⟩, hmem, rfl⟩ := List.mem_map.mp hb
    obtain ⟨before, after, size, hsplit, hcolumn, hread⟩ :=
      Text.mem_sweepFrom hmem
    obtain ⟨name', hname', heq⟩ := Option.map_eq_some_iff.mp hread
    obtain ⟨rfl, -⟩ := Prod.mk.inj heq
    obtain ⟨⟨tail, htail⟩, hrun⟩ := readIdentifier?_some hname'
    obtain ⟨front, rfl⟩ := hsuf
    obtain ⟨back, hback⟩ := (beforeComment_isPrefix fragment).trans hpre
    refine ⟨Text.hasAt_iff.mpr ⟨front ++ before, tail ++ back, ?_, ?_⟩, hrun⟩
    · rw [← hback, hsplit, ← htail]
      simp only [List.append_assoc]
    · show (front ++ before).length = _ - _ + column
      simp only [List.length_append]
      omega
  · exact List.pairwise_map.mpr (Text.sweepFrom_columns.imp fun h => by
      show _ + _ < _ + _
      omega)

theorem suffix_of_isPrefixOf? {keyword t rest : Text}
    (h : keyword.isPrefixOf? t = some rest) : rest <:+ t :=
  ⟨keyword, List.isPrefixOf?_eq_some_iff_append_eq.mp h⟩

theorem readDeclare?_boundIn {text : Text} {names : List BoundName}
    (h : readDeclare? text = some names) : BoundIn text names := by
  rw [readDeclare?] at h
  split at h
  · cases h
  · next rest hrest =>
      have hsuf : rest <:+ text :=
        (suffix_of_isPrefixOf? hrest).trans (List.dropWhile_suffix Text.isBlank)
      have hnames := namesIn_boundIn hsuf (List.takeWhile_prefix (· != '\n'))
      split at h
      · cases h
      · simp only [] at h
        split at h
        · injection h with h; subst h; exact hnames
        · injection h with h; subst h; exact hnames
        · cases h

/-! ## Paths

A module path is word characters and dots, so what follows its last dot is word
characters alone. -/

theorem takeSegments_isPrefix (t : Text) : takeSegments t <+: t := by
  induction t with
  | nil => exact List.nil_prefix
  | cons c cs ih =>
      rw [takeSegments]
      split
      · exact List.cons_prefix_cons.mpr ⟨rfl, ih⟩
      · exact List.nil_prefix

theorem isWord_of_mem_takeSegments {t : Text} {c : Char}
    (h : c ∈ takeSegments t) (hdot : c ≠ '.') : Text.isWord c = true := by
  induction t with
  | nil => simp [takeSegments] at h
  | cons d ds ih =>
      rw [takeSegments] at h
      split at h
      · next hd =>
          rcases List.mem_cons.mp h with rfl | hmem
          · simpa [hdot] using hd
          · exact ih hmem
      · simp at h

theorem lastSegment_suffix (segments : Text) :
    lastSegment segments <:+ segments := by
  have h := List.takeWhile_prefix (l := segments.reverse) (· != '.')
  rw [← List.reverse_suffix, List.reverse_reverse] at h
  exact h

theorem ne_dot_of_mem_lastSegment {segments : Text} {c : Char}
    (h : c ∈ lastSegment segments) : c ≠ '.' := by
  have hmem := List.mem_takeWhile_imp (List.mem_reverse.mp h)
  simpa using hmem

theorem pathName_boundIn {text path after : Text}
    (hsuf : takeSegments path ++ after <:+ text) :
    BoundIn text
      (pathName (takeSegments path) (text.length - after.length)) := by
  unfold pathName
  simp only []
  split
  · next hcond =>
      rw [Bool.and_eq_true] at hcond
      apply boundIn_singleton
      obtain ⟨front, rfl⟩ := hsuf
      obtain ⟨init, hinit⟩ := lastSegment_suffix (takeSegments path)
      refine ⟨Text.hasAt_iff.mpr ⟨front ++ init, after, ?_, ?_⟩, ?_,
        fun c hc => ?_⟩
      · show _ = front ++ init ++ lastSegment (takeSegments path) ++ after
        rw [List.append_assoc front, hinit, List.append_assoc]
      · show (front ++ init).length = _
        have hlen := congrArg List.length hinit
        simp only [List.length_append] at hlen ⊢
        omega
      · intro hnil
        rw [show lastSegment (takeSegments path) = [] from hnil] at hcond
        simp at hcond
      · have hmem : c ∈ takeSegments path :=
          (lastSegment_suffix _).subset hc
        exact isWord_of_mem_takeSegments hmem (ne_dot_of_mem_lastSegment hc)
  · exact boundIn_nil text

theorem readClause?_boundIn {text t : Text} {names : List BoundName}
    (hsuf : t <:+ text) (h : readClause? text.length t = some names) :
    BoundIn text names := by
  unfold readClause? at h
  split at h
  · next cs =>
      simp only [] at h
      obtain ⟨name, hname, rfl⟩ := Option.map_eq_some_iff.mp h
      obtain ⟨hpre, hrun⟩ := readIdentifier?_some hname
      have hrest : cs.dropWhile Text.isBlank <:+ text :=
        (List.dropWhile_suffix Text.isBlank).trans
          (((List.suffix_cons _ _).trans (List.suffix_cons _ _)).trans hsuf)
      exact boundIn_singleton ⟨hasAt_of_suffix hrest hpre, hrun⟩
  · next cs =>
      split at h
      · injection h with h
        subst h
        exact namesIn_boundIn ((List.suffix_cons _ _).trans hsuf)
          (List.takeWhile_prefix (· != ')'))
      · cases h
  · cases h

theorem readImport?_boundIn {text : Text} {names : List BoundName}
    (h : readImport? text = some names) : BoundIn text names := by
  rw [readImport?] at h
  split at h
  · cases h
  · next rest hrest =>
      simp only [] at h
      split at h
      · have hdotless : (rest.dropWhile Text.isBlank).dropWhile (· == '.') <:+
            text :=
          (List.dropWhile_suffix _).trans ((List.dropWhile_suffix _).trans
            ((suffix_of_isPrefixOf? hrest).trans
              (List.dropWhile_suffix Text.isBlank)))
        split at h
        · next found hfound =>
            injection h with h
            subst h
            refine readClause?_boundIn ?_ hfound
            exact (List.dropWhile_suffix _).trans
              ((List.drop_suffix _ _).trans hdotless)
        · injection h with h
          subst h
          apply pathName_boundIn
          rw [List.prefix_iff_eq_append.mp (takeSegments_isPrefix _)]
          exact hdotless
      · cases h

theorem readBareImport?_namedAt {text : Text} {b : BoundName}
    (h : readBareImport? text = some b) : NamedAt text b.name b.start := by
  rw [readBareImport?] at h
  split at h
  · cases h
  · next rest hrest =>
      simp only [] at h
      split at h
      · cases h
      · next hne =>
          injection h with h
          subst h
          have hrun : rest.dropWhile (fun c => !isBareName c) <:+ text :=
            (List.dropWhile_suffix _).trans
              ((suffix_of_isPrefixOf? hrest).trans
                (List.dropWhile_suffix Text.isBlank))
          refine ⟨hasAt_of_suffix hrun (List.takeWhile_prefix isBareName), ?_,
            ?_⟩
          · intro hnil
            exact hne (List.isEmpty_iff.mpr hnil)
          · intro c hc
            exact isWord_of_isBareName (List.mem_takeWhile_imp hc)

theorem read?_boundIn {text : Text} {d : Directive}
    (h : Directive.read? text = some d) :
    BoundIn text d.names := by
  rw [Directive.read?] at h
  split at h
  · cases h
  · next names _ hdeclare =>
      injection h with h
      subst h
      exact readDeclare?_boundIn hdeclare
  · split at h
    · next name names himport =>
        injection h with h
        subst h
        exact readImport?_boundIn himport
    · obtain ⟨b, hb, rfl⟩ := Option.map_eq_some_iff.mp h
      exact boundIn_singleton (readBareImport?_namedAt hb)

end Directive

/-- What the class of a line says about the readers of heads and directives. -/
def LineClass.ReadFrom (text : Text) : LineClass → Prop
  | .definition head => Head.read? text = some head
  | .directive d => Directive.read? text = some d
  | .skipped _ => True
  | .invalidHead head start =>
    Head.read? text = none ∧ readInvalidHead? text = some (head, start)
  | .body => Head.read? text = none ∧ readInvalidHead? text = none

theorem classify_readFrom (text : Text) : (classify text).ReadFrom text := by
  unfold classify
  split
  · split
    · next d hd => exact hd
    · trivial
  · trivial
  · split
    · next head hhead => exact hhead
    · next hnone =>
        split
        · next head start hhead => exact ⟨hnone, hhead⟩
        · next hbody => exact ⟨hnone, hbody⟩

/-- Every name that a line binds stands on it, at the column of its binding. -/
theorem bindings_namedAt {text : Text} {b : Binding}
    (hb : b ∈ (classify text).bindings) : NamedAt text b.name b.column := by
  have hread := classify_readFrom text
  cases hclass : classify text with
  | definition head =>
      rw [hclass] at hb hread
      obtain rfl : b = ⟨head.name, head.kind, head.nameStart⟩ := by
        simpa [LineClass.bindings] using hb
      exact Head.namedAt hread
  | directive d =>
      rw [hclass] at hb hread
      obtain ⟨bound, hbound, rfl⟩ := List.mem_map.mp hb
      exact (Directive.read?_boundIn hread).named bound hbound
  | skipped | invalidHead | body => simp [hclass, LineClass.bindings] at hb

/-- A line binds its names from left to right. -/
theorem bindings_ordered (text : Text) :
    (classify text).bindings.Pairwise fun a b => a.column < b.column := by
  have hread := classify_readFrom text
  cases hclass : classify text with
  | definition head => exact List.pairwise_singleton _ _
  | directive d =>
      rw [hclass] at hread
      exact List.pairwise_map.mpr (Directive.read?_boundIn hread).ordered
  | skipped | invalidHead | body => exact List.Pairwise.nil

end GrammarLint
