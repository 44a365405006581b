import GrammarLint.Proofs.Bindings
import GrammarLint.Symbol.Table
import Mathlib.Data.List.Induction

/-!
# What the table of a grammar holds

Building a table is one long fold: every binding of every line defines its
name, and a name that is defined again is overwritten in place. Two things
survive the fold. A record is in the table exactly when no later binding has
its name, and the names keep the order of their first bindings.

Both are stated about the list of all bindings in reading order and proved from
what a single `define` does, by induction from the end of that list: the last
binding is the one that acts last. Reading order itself is an order on places,
line first and column second, and the list of bindings strictly increases in
it, so "the last binding of a name" is at once a position in the list and a
place in the text.
-/

namespace GrammarLint

namespace SymbolTable

variable {table : SymbolTable} {r q : Record}

theorem has_iff {name : Text} : table.has name = true ↔ name ∈ table.names := by
  simp only [has, names, List.any_eq_true, beq_iff_eq, List.mem_map]

theorem names_update (name : Text) {f : Record → Record}
    (hf : ∀ s, s.name = name → (f s).name = name) :
    (table.update name f).names = table.names := by
  simp only [names, update, List.map_map]
  refine List.map_congr_left fun s _ => ?_
  show (if s.name == name then f s else s).name = s.name
  split
  · next h =>
      have hs : s.name = name := by simpa using h
      rw [hf s hs, hs]
  · rfl

theorem names_define :
    (table.define r).names =
      if r.name ∈ table.names then table.names else table.names ++
      [r.name] := by
  rw [define]
  split
  · next h =>
      rw [if_pos (has_iff.mp h)]
      exact names_update r.name fun _ _ => rfl
  · next h =>
      rw [if_neg (fun hmem => h (has_iff.mpr hmem))]
      simp only [names, List.map_append, List.map_cons, List.map_nil]

theorem mem_names_define {name : Text} :
    name ∈ (table.define r).names ↔ name ∈ table.names ∨ name = r.name := by
  rw [names_define]
  split
  · next h =>
      refine ⟨.inl, ?_⟩
      intro h'
      rcases h' with hmem | rfl
      · exact hmem
      · exact h
  · rw [List.mem_append, List.mem_singleton]

theorem mem_define :
    q ∈ (table.define r).records ↔
      q = r ∨ (q ∈ table.records ∧ q.name ≠ r.name) := by
  rw [define]
  split
  · next h =>
      obtain ⟨s, hs, hname⟩ := List.mem_map.mp (has_iff.mp h)
      simp only [update, List.mem_map]
      constructor
      · intro h'
        obtain ⟨t, ht, rfl⟩ := h'
        split
        · exact .inl rfl
        · next hne => exact .inr ⟨ht, by simpa using hne⟩
      · intro h'
        rcases h' with rfl | ⟨hq, hne⟩
        · exact ⟨s, hs, by rw [if_pos (by simpa using hname)]⟩
        · exact ⟨q, hq, by rw [if_neg (by simpa using hne)]⟩
  · next h =>
      simp only [List.mem_append, List.mem_singleton]
      constructor
      · intro h'
        rcases h' with hq | rfl
        · refine .inr ⟨hq, fun heq => h (has_iff.mpr ?_)⟩
          rw [← heq]
          exact List.mem_map_of_mem hq
        · exact .inl rfl
      · intro h'
        rcases h' with rfl | ⟨hq, -⟩
        · exact .inr rfl
        · exact .inl hq

end SymbolTable

/-- The table after a run of definitions. -/
def SymbolTable.defineAll (rs : List Record) : SymbolTable :=
  rs.foldl SymbolTable.define SymbolTable.empty

/-- The record is in the run, and nothing before it has its name. -/
def FirstOf (rs : List Record) (r : Record) : Prop :=
  ∃ before after, rs = before ++ r :: after ∧ ∀ q ∈ before, q.name ≠ r.name

/-- The record is in the run, and nothing after it has its name. -/
def LastOf (rs : List Record) (r : Record) : Prop :=
  ∃ before after, rs = before ++ r :: after ∧ ∀ q ∈ after, q.name ≠ r.name

theorem FirstOf.mem {rs : List Record} {r : Record}
    (h : FirstOf rs r) : r ∈ rs := by
  obtain ⟨before, after, rfl, -⟩ := h
  simp

theorem LastOf.mem {rs : List Record} {r : Record}
    (h : LastOf rs r) : r ∈ rs := by
  obtain ⟨before, after, rfl, -⟩ := h
  simp

theorem FirstOf.append {rs : List Record} {r : Record} (h : FirstOf rs r)
    (more : List Record) : FirstOf (rs ++ more) r := by
  obtain ⟨before, after, rfl, hbefore⟩ := h
  exact ⟨before, after ++ more, by simp, hbefore⟩

theorem exists_firstOf {rs : List Record} {r : Record} (h : r ∈ rs) :
    ∃ p, FirstOf rs p ∧ p.name = r.name := by
  have hsome : (rs.find? fun q => q.name == r.name).isSome = true := by
    rw [List.find?_isSome]
    exact ⟨r, h, by simp⟩
  obtain ⟨p, hp⟩ := Option.isSome_iff_exists.mp hsome
  obtain ⟨hname, before, after, hsplit, hbefore⟩ :=
    List.find?_eq_some_iff_append.mp hp
  have hname : p.name = r.name := by simpa using hname
  refine ⟨p, ⟨before, after, hsplit, fun q hq => ?_⟩, hname⟩
  rw [hname]
  simpa using hbefore q hq

theorem lastOf_concat {rs : List Record} {r q : Record} :
    LastOf (rs ++ [r]) q ↔ q = r ∨ (LastOf rs q ∧ q.name ≠ r.name) := by
  constructor
  · intro h
    obtain ⟨before, after, hsplit, hafter⟩ := h
    rcases List.eq_nil_or_concat after with rfl | ⟨init, s, rfl⟩
    · left
      have hlast : rs = before ∧ [r] = [q] := List.append_inj' hsplit rfl
      simpa using hlast.2.symm
    · right
      rw [List.concat_eq_append, ← List.cons_append,
        ← List.append_assoc] at hsplit
      obtain ⟨hrs, hs⟩ := List.append_inj' hsplit rfl
      obtain rfl : r = s := by simpa using hs
      refine ⟨⟨before, init, hrs, fun t ht => hafter t (by simp [ht])⟩, ?_⟩
      exact (hafter r (by simp)).symm
  · intro h
    rcases h with rfl | ⟨⟨before, after, rfl, hafter⟩, hne⟩
    · exact ⟨rs, [], rfl, by simp⟩
    · refine ⟨before, after ++ [r], by simp, fun t ht => ?_⟩
      rcases List.mem_append.mp ht with ht | ht
      · exact hafter t ht
      · obtain rfl : t = r := by simpa using ht
        exact hne.symm

namespace SymbolTable

theorem defineAll_concat (rs : List Record) (r : Record) :
    defineAll (rs ++ [r]) = (defineAll rs).define r := by
  simp only [defineAll, List.foldl_append, List.foldl_cons, List.foldl_nil]

/-- After a run the table holds the last record of each name. -/
theorem mem_defineAll {rs : List Record} {r : Record} :
    r ∈ (defineAll rs).records ↔ LastOf rs r := by
  induction rs using List.reverseRecOn generalizing r with
  | nil =>
      refine ⟨fun h => by simp [defineAll, empty] at h, fun h => ?_⟩
      simpa using h.mem
  | append_singleton rs last ih =>
      rw [defineAll_concat, mem_define, lastOf_concat, ih]

theorem mem_names_defineAll {rs : List Record} {name : Text} :
    name ∈ (defineAll rs).names ↔ ∃ r ∈ rs, r.name = name := by
  induction rs using List.reverseRecOn with
  | nil => simp [defineAll, empty, names]
  | append_singleton rs last ih =>
      rw [defineAll_concat, mem_names_define, ih]
      simp only [List.mem_append, List.mem_singleton]
      constructor
      · intro h
        rcases h with ⟨r, hr, hname⟩ | rfl
        · exact ⟨r, .inl hr, hname⟩
        · exact ⟨last, .inr rfl, rfl⟩
      · intro h
        obtain ⟨r, hr | rfl, hname⟩ := h
        · exact .inl ⟨r, hr, hname⟩
        · exact .inr hname.symm

/-- The names of a table come in the order of their first records, whatever
order the run itself follows. -/
theorem names_defineAll_ordered {rs : List Record} {R : Record → Record → Prop}
    (hrs : rs.Pairwise R) :
    (defineAll rs).names.Pairwise fun m n =>
      ∃ p q, FirstOf rs p ∧ p.name = m ∧ FirstOf rs q ∧ q.name = n ∧ R p q := by
  induction rs using List.reverseRecOn with
  | nil => exact List.Pairwise.nil
  | append_singleton rs last ih =>
      obtain ⟨hrs, -, hlast⟩ := List.pairwise_append.mp hrs
      have hold := (ih hrs).imp fun {m n} h => by
        obtain ⟨p, q, hp, hm, hq, hn, hR⟩ := h
        exact (⟨p, q, hp.append [last], hm, hq.append [last], hn, hR⟩ :
          ∃ p q, FirstOf (rs ++ [last]) p ∧ p.name = m ∧
            FirstOf (rs ++ [last]) q ∧ q.name = n ∧ R p q)
      rw [defineAll_concat, names_define]
      split
      · exact hold
      · next hnew =>
          have hfirst : FirstOf (rs ++ [last]) last :=
            ⟨rs, [], rfl,
              fun q hq heq => hnew (mem_names_defineAll.mpr ⟨q, hq, heq⟩)⟩
          refine List.pairwise_append.mpr ⟨hold, List.pairwise_singleton _ _,
            ?_⟩
          intro m hm n hn
          obtain rfl : n = last.name := by simpa using hn
          obtain ⟨r, hr, rfl⟩ := mem_names_defineAll.mp hm
          obtain ⟨p, hp, hpname⟩ := exists_firstOf hr
          exact ⟨p, last, hp.append [last], hpname, hfirst, rfl,
            hlast p hp.mem last (by simp)⟩

end SymbolTable

/-- A column of a line. -/
structure Site where
  line : Nat
  column : Nat
  deriving DecidableEq, Repr

/-- Reading order: line by line, and on a line from left to right. -/
def Site.before (p q : Site) : Prop :=
  p.line < q.line ∨ (p.line = q.line ∧ p.column < q.column)

theorem Site.before_asymm {p q : Site} (h : p.before q) : ¬ q.before p := by
  unfold Site.before at *
  omega

theorem Site.eq_iff {p q : Site} :
    p = q ↔ p.line = q.line ∧ p.column = q.column := by
  cases p
  cases q
  simp

/-- The place a record points to. -/
def Record.site (r : Record) : Site := ⟨r.line, r.column⟩

/-- The line of the place binds the name at its column. -/
def BoundAt (lines : List Text) (name : Text) (p : Site) : Prop :=
  ∃ text, lines[p.line]? = some text ∧
    ∃ b ∈ (classify text).bindings, b.name = name ∧ b.column = p.column

/-- The first place in reading order that binds the name. -/
def FirstBound (lines : List Text) (name : Text) (p : Site) : Prop :=
  BoundAt lines name p ∧ ∀ q, BoundAt lines name q → q = p ∨ p.before q

/-- The last place in reading order that binds the name. -/
def LastBound (lines : List Text) (name : Text) (p : Site) : Prop :=
  BoundAt lines name p ∧ ∀ q, BoundAt lines name q → q = p ∨ q.before p

/-! ## The bindings of a grammar

The records of all bindings in reading order are the list that the fold runs
over, and their places strictly increase. -/

/-- The fresh record of a binding. -/
def Binding.record (line : Nat) (b : Binding) : Record :=
  { name := b.name, kind := b.kind, line, column := b.column }

/-- The fresh records of all bindings of a grammar, in reading order. -/
def bindingRecords (lines : List Text) : List Record :=
  lines.zipIdx.flatMap fun (text, line) =>
    (classify text).bindings.map (Binding.record line)

theorem ofLines_eq_defineAll (lines : List Text) :
    SymbolTable.ofLines lines =
      SymbolTable.defineAll (bindingRecords lines) := by
  simp only [SymbolTable.ofLines, SymbolTable.defineAll, bindingRecords,
    SymbolTable.defineLine, List.foldl_flatMap, List.foldl_map, Binding.record]

theorem mem_bindingRecords {lines : List Text} {r : Record} :
    r ∈ bindingRecords lines ↔
      ∃ text, lines[r.line]? = some text ∧
        ∃ b ∈ (classify text).bindings, b.record r.line = r := by
  simp only [bindingRecords, List.mem_flatMap, Prod.exists,
    List.mk_mem_zipIdx_iff_getElem?, List.mem_map]
  constructor
  · intro h
    obtain ⟨text, line, hline, b, hb, rfl⟩ := h
    exact ⟨text, hline, b, hb, rfl⟩
  · intro h
    obtain ⟨text, hline, b, hb, hr⟩ := h
    exact ⟨text, r.line, hline, b, hb, hr⟩

theorem boundAt_iff {lines : List Text} {name : Text} {p : Site} :
    BoundAt lines name p ↔ ∃ r ∈ bindingRecords lines, r.name = name ∧
    r.site = p := by
  constructor
  · intro h
    obtain ⟨text, hline, b, hb, hname, hcolumn⟩ := h
    refine ⟨b.record p.line, mem_bindingRecords.mpr ⟨text, hline, b, hb, rfl⟩,
      hname, ?_⟩
    exact Site.eq_iff.mpr ⟨rfl, hcolumn⟩
  · intro h
    obtain ⟨r, hr, rfl, rfl⟩ := h
    obtain ⟨text, hline, b, hb, hrecord⟩ := mem_bindingRecords.mp hr
    exact ⟨text, hline, b, hb, by rw [← hrecord]; rfl, by rw [← hrecord]; rfl⟩

theorem zipIdx_lines_ordered (lines : List Text) (k : Nat) :
    (lines.zipIdx k).Pairwise fun a b => a.2 < b.2 := by
  induction lines generalizing k with
  | nil => exact List.Pairwise.nil
  | cons text rest ih =>
      rw [List.zipIdx_cons]
      refine List.pairwise_cons.mpr ⟨fun b hb => ?_, ih (k + 1)⟩
      have := List.le_snd_of_mem_zipIdx hb
      show k < b.2
      omega

theorem bindingRecords_ordered (lines : List Text) :
    (bindingRecords lines).Pairwise fun r q => r.site.before q.site := by
  refine List.pairwise_flatMap.mpr ⟨?_, ?_⟩
  · intro pair _
    obtain ⟨text, line⟩ := pair
    exact List.pairwise_map.mpr ((bindings_ordered text).imp
      fun h => .inr ⟨rfl, h⟩)
  · refine (zipIdx_lines_ordered lines 0).imp ?_
    intro pair other hlt r hr q hq
    obtain ⟨text, line⟩ := pair
    obtain ⟨text', line'⟩ := other
    obtain ⟨b, -, rfl⟩ := List.mem_map.mp hr
    obtain ⟨b', -, rfl⟩ := List.mem_map.mp hq
    exact .inl hlt

theorem firstBound_of_firstOf {lines : List Text} {r : Record}
    (h : FirstOf (bindingRecords lines) r) :
    FirstBound lines r.name r.site := by
  refine ⟨boundAt_iff.mpr ⟨r, h.mem, rfl, rfl⟩, fun q hq => ?_⟩
  obtain ⟨s, hs, hname, rfl⟩ := boundAt_iff.mp hq
  obtain ⟨before, after, hsplit, hbefore⟩ := h
  have hord := bindingRecords_ordered lines
  rw [hsplit] at hs hord
  obtain ⟨-, hord, -⟩ := List.pairwise_append.mp hord
  rcases List.mem_append.mp hs with hs | hs
  · exact absurd hname (hbefore s hs)
  · rcases List.mem_cons.mp hs with rfl | hs
    · exact .inl rfl
    · exact .inr ((List.pairwise_cons.mp hord).1 s hs)

theorem lastBound_of_lastOf {lines : List Text} {r : Record}
    (h : LastOf (bindingRecords lines) r) : LastBound lines r.name r.site := by
  refine ⟨boundAt_iff.mpr ⟨r, h.mem, rfl, rfl⟩, fun q hq => ?_⟩
  obtain ⟨s, hs, hname, rfl⟩ := boundAt_iff.mp hq
  obtain ⟨before, after, hsplit, hafter⟩ := h
  have hord := bindingRecords_ordered lines
  rw [hsplit] at hs hord
  obtain ⟨-, -, hord⟩ := List.pairwise_append.mp hord
  rcases List.mem_append.mp hs with hs | hs
  · exact .inr (hord s hs r (by simp))
  · rcases List.mem_cons.mp hs with rfl | hs
    · exact .inl rfl
    · exact absurd hname (hafter s hs)

theorem LastBound.unique {lines : List Text} {name : Text} {p q : Site}
    (hp : LastBound lines name p) (hq : LastBound lines name q) : p = q := by
  rcases hp.2 q hq.1 with h | hqp
  · exact h.symm
  · rcases hq.2 p hp.1 with h | hpq
    · exact h
    · exact absurd hqp (Site.before_asymm hpq)

theorem mem_ofLines {lines : List Text} {r : Record} :
    r ∈ (SymbolTable.ofLines lines).records ↔
      LastOf (bindingRecords lines) r := by
  rw [ofLines_eq_defineAll, SymbolTable.mem_defineAll]

/-- The table points each of its names to the last place that binds it. -/
theorem lastBound_iff {lines : List Text} {name : Text} {p : Site} :
    LastBound lines name p ↔
      ∃ r ∈ (SymbolTable.ofLines lines).records, r.name = name ∧
        r.site = p := by
  constructor
  · intro h
    obtain ⟨s, hs, rfl, -⟩ := boundAt_iff.mp h.1
    have hname : s.name ∈ (SymbolTable.ofLines lines).names := by
      rw [ofLines_eq_defineAll]
      exact SymbolTable.mem_names_defineAll.mpr ⟨s, hs, rfl⟩
    obtain ⟨r, hr, hrname⟩ := List.mem_map.mp hname
    have hlast := lastBound_of_lastOf (mem_ofLines.mp hr)
    rw [hrname] at hlast
    exact ⟨r, hr, hrname, hlast.unique h⟩
  · intro h
    obtain ⟨r, hr, rfl, rfl⟩ := h
    exact lastBound_of_lastOf (mem_ofLines.mp hr)

theorem ofLines_names_ordered (lines : List Text) :
    (SymbolTable.ofLines lines).names.Pairwise fun m n =>
      ∃ p q, FirstBound lines m p ∧ FirstBound lines n q ∧ p.before q := by
  rw [ofLines_eq_defineAll]
  refine (SymbolTable.names_defineAll_ordered
    (bindingRecords_ordered lines)).imp ?_
  intro m n h
  obtain ⟨p, q, hp, rfl, hq, rfl, hbefore⟩ := h
  exact ⟨p.site, q.site, firstBound_of_firstOf hp,
    firstBound_of_firstOf hq, hbefore⟩

/-- Every record of a fresh table is unused and stands on its line. -/
theorem ofLines_record {lines : List Text} {r : Record}
    (h : r ∈ (SymbolTable.ofLines lines).records) :
    r.used = false ∧
      ∃ text, lines[r.line]? = some text ∧ NamedAt text r.name r.column := by
  obtain ⟨text, hline, b, hb, hrecord⟩ :=
    mem_bindingRecords.mp (mem_ofLines.mp h).mem
  have hnamed := bindings_namedAt hb
  rw [← hrecord]
  exact ⟨rfl, text, by rw [← hrecord] at hline; exact hline, hnamed⟩

end GrammarLint
