import GrammarLint.Proofs.ReportedFiles
import Mathlib.Data.List.Lex

/-!
# Which files are discovered

The grammar files of a project are listed once each, in the order of their
names. This file says which they are on a disk without links, and that only the
set of the paths in the settings counts.

* **The order.** Paths are compared name by name and names by their code points
  (`Path.Before`). A list in this order is determined by its members
  (`Path.eq_of_pairwise_before`).

* **What a path in the settings contributes** is `Config.Lists`: the file that
  it leads to, or what the pattern finds in the directory that it leads to and
  no pattern for exclusion covers.

* **When discovery breaks off** is `Config.EntryBreaks`. A path that leads
  nowhere is left out, but only if the file system can be asked about it: one
  with a name that is too long breaks discovery off, and so does a directory
  that is too far down to be listed.

* **Which paths do not matter.** One that leads nowhere adds nothing. Neither
  does a directory that is found below another one that is listed, and it does
  not break off either unless the other one does (`Config.LiesBelow.filesAt`).
-/

namespace GrammarLint

/-- The character comes first, by its code point. -/
def CharBefore (c d : Char) : Prop := c.toNat < d.toNat

/-- The text comes first, character by character. -/
def Text.Before : Text → Text → Prop := List.Lex CharBefore

/-- The path comes first, name by name. -/
def Path.Before (p q : Path) : Prop := List.Lex Text.Before p.names q.names

instance charBefore_isStrictTotalOrder :
    IsStrictTotalOrder Char CharBefore where
  irrefl _ h := Nat.lt_irrefl _ h
  trans _ _ _ := Nat.lt_trans
  trichotomous _ _ hcd hdc :=
    Char.toNat_inj.mp (Nat.le_antisymm (Nat.le_of_not_lt hdc)
      (Nat.le_of_not_lt hcd))

/-- Lists are ordered strictly and totally if what they consist of is. -/
instance lex_isStrictTotalOrder {α : Type} (r : α → α → Prop)
    [IsStrictTotalOrder α r] :
    IsStrictTotalOrder (List α) (List.Lex r) :=
  { (isStrictWeakOrder_of_isOrderConnected : IsStrictWeakOrder (List α)
    (List.Lex r)) with }

instance textBefore_isStrictTotalOrder : IsStrictTotalOrder Text Text.Before :=
  inferInstanceAs (IsStrictTotalOrder (List Char) (List.Lex CharBefore))

/-- A comparison that looks at the first difference tells the lexicographic
order. -/
theorem lex_of_first_difference {α : Type} {r : α → α → Prop} [Std.Irrefl r]
    {le : List α → List α → Bool} (hnil : ∀ bs, le [] bs = true)
    (hcons : ∀ a as, le (a :: as) [] = false)
    (hsame : ∀ a as bs, le (a :: as) (a :: bs) = le as bs)
    (hdiffer : ∀ a as b bs, a ≠ b → (le (a :: as) (b :: bs) = true ↔ r a b))
    (as bs : List α) :
    le as bs = true ↔ as = bs ∨ List.Lex r as bs := by
  induction as generalizing bs with
  | nil => cases bs with
    | nil => simp [hnil]
    | cons b bs => simp [hnil]
  | cons a as ih =>
      cases bs with
      | nil => simp [hcons]
      | cons b bs =>
          by_cases hab : a = b
          · subst hab
            rw [hsame, ih, List.lex_cons_iff, List.cons.injEq,
              eq_self_iff_true, true_and]
          · rw [hdiffer a as b bs hab]
            refine ⟨fun h => .inr (.rel h), fun h => ?_⟩
            rcases h with h | h
            · exact absurd (List.cons.inj h).1 hab
            · cases h with
              | rel h => exact h
              | cons h => exact absurd rfl hab

theorem Text.le_iff (a b : Text) :
    Text.le a b = true ↔ a = b ∨ Text.Before a b := by
  refine lex_of_first_difference (fun _ => by rw [le]) (fun _ _ => by rw [le])
    (fun _ _ _ => by rw [le, if_pos rfl]) (fun a as b bs hab => ?_) a b
  rw [le, if_neg hab, decide_eq_true_iff]
  rfl

theorem Path.namesLe_iff (as bs : List Text) :
    Path.namesLe as bs = true ↔ as = bs ∨ List.Lex Text.Before as bs := by
  refine lex_of_first_difference (fun _ => by rw [namesLe])
    (fun _ _ => by rw [namesLe])
    (fun _ _ _ => by rw [namesLe, if_pos rfl]) (fun a as b bs hab => ?_) as bs
  rw [namesLe, if_neg hab, Text.le_iff]
  exact ⟨fun h => h.resolve_left hab, .inr⟩

theorem Path.namesLe_trans (as bs cs : List Text)
    (hab : Path.namesLe as bs = true) (hbc : Path.namesLe bs cs = true) :
    Path.namesLe as cs = true := by
  rw [Path.namesLe_iff] at *
  rcases hab with rfl | hab
  · exact hbc
  · rcases hbc with rfl | hbc
    · exact .inr hab
    · exact .inr (trans_of (List.Lex Text.Before) hab hbc)

theorem Path.namesLe_total (as bs : List Text) :
    (Path.namesLe as bs || Path.namesLe bs as) = true := by
  rw [Bool.or_eq_true, Path.namesLe_iff, Path.namesLe_iff]
  rcases trichotomous_of (List.Lex Text.Before) as bs with h | h | h
  · exact .inl (.inr h)
  · exact .inl (.inl h)
  · exact .inr (.inr h)

/-- Different paths from the root are in strict order once they are sorted. -/
theorem Path.pairwise_before {files : List Path}
    (hroot : ∀ p ∈ files, p.anchor = .root) :
    (files.eraseDups.mergeSort fun a b => Path.namesLe a.names b.names).Pairwise
      Path.Before := by
  have hsorted :
      (files.eraseDups.mergeSort
        fun a b => Path.namesLe a.names b.names).Pairwise
      fun a b => Path.namesLe a.names b.names = true :=
    List.pairwise_mergeSort
      (fun a b c => Path.namesLe_trans a.names b.names c.names)
      (fun a b => Path.namesLe_total a.names b.names) files.eraseDups
  have hnodup :
      (files.eraseDups.mergeSort
        fun a b => Path.namesLe a.names b.names).Nodup :=
    (List.mergeSort_perm _ _).nodup_iff.mpr (nodup_eraseDups files)
  refine (hsorted.and hnodup).imp_of_mem fun {p q} hp hq h => ?_
  rw [List.mem_mergeSort, List.mem_eraseDups] at hp hq
  refine ((Path.namesLe_iff _ _).mp h.1).resolve_left fun hnames => h.2 ?_
  obtain ⟨pa, pn⟩ := p
  obtain ⟨qa, qn⟩ := q
  exact congrArg₂ Path.mk ((hroot _ hp).trans (hroot _ hq).symm) hnames

/-- A list in strict order is determined by its members. -/
theorem Path.eq_of_pairwise_before {files others : List Path}
    (hfiles : files.Pairwise Path.Before)
    (hothers : others.Pairwise Path.Before) (h : ∀ p, p ∈ files ↔ p ∈ others) :
    files = others := by
  have hirrefl : ∀ p : Path, ¬ p.Before p :=
    fun p => irrefl_of (List.Lex Text.Before) p.names
  have hne : ∀ {p q : Path}, p.Before q → p ≠ q :=
    fun hpq heq => hirrefl _ (heq ▸ hpq)
  refine List.Perm.eq_of_pairwise (fun p q _ _ hpq hqp => ?_) hfiles hothers
    ((List.perm_ext_iff_of_nodup (hfiles.imp hne) (hothers.imp hne)).mpr h)
  exact absurd hqp (asymm_of (List.Lex Text.Before) hpq)

theorem mem_of_mapM_eq_ok {α β ε : Type} {f : α → Except ε β} {as : List α}
    {bs : List β} {a : α} {b : β} (h : as.mapM f = .ok bs) (ha : a ∈ as)
    (hb : f a = .ok b) : b ∈ bs := by
  have hall := mapM_eq_ok_iff.mp h
  clear h
  induction hall with
  | nil => cases ha
  | cons hfirst _ ih =>
      rcases List.mem_cons.mp ha with rfl | ha
      · exact Except.ok.inj (hfirst.symm.trans hb) ▸ List.mem_cons_self
      · exact List.mem_cons_of_mem _ (ih ha)

/-- What a list of steps finds together. -/
theorem mem_flatten_of_mapM {α β ε : Type} {f : α → Except ε (List β)}
    {as : List α} {bs : List β} (h : (as.mapM f).map List.flatten = .ok bs) :
    (∀ a ∈ as, ∃ found, f a = .ok found) ∧
      ∀ b, b ∈ bs ↔ ∃ a ∈ as, ∃ found, f a = .ok found ∧ b ∈ found := by
  obtain ⟨lists, hlists, rfl⟩ := map_eq_ok_iff.mp h
  refine ⟨forall_of_mapM_eq_ok hlists, fun b => ?_⟩
  rw [List.mem_flatten]
  constructor
  · intro hb
    obtain ⟨found, hfound, hb⟩ := hb
    obtain ⟨a, ha, hf⟩ := exists_of_mapM_eq_ok hlists hfound
    exact ⟨a, ha, found, hf, hb⟩
  · intro hb
    obtain ⟨a, ha, found, hf, hb⟩ := hb
    exact ⟨found, mem_of_mapM_eq_ok hlists ha hf, hb⟩

theorem bind_eq_error_iff {α β ε : Type} {x : Except ε α}
    {f : α → Except ε β} {e : ε} :
    x.bind f = .error e ↔ x = .error e ∨ ∃ a, x = .ok a ∧ f a = .error e := by
  cases x <;> simp [Except.bind]

theorem mapError_eq_error_iff {α ε δ : Type} {x : Except ε α}
    {f : ε → δ} {d : δ} :
    x.mapError f = .error d ↔ ∃ e, x = .error e ∧ d = f e := by
  cases x <;> simp [Except.mapError, eq_comm]

namespace Config

/-- Where a path in the settings leads, seen from the root. -/
def base (config : Config) (disk : Disk) (entry : Text) :
    Except PathFault Path :=
  disk.resolve (config.root.join (Path.ofText entry))

/-- The text that patterns for exclusion are held against: the path from the
root, if its names start with those of the root, else the whole path. -/
inductive Sees (config : Config) (p : Path) : Text → Prop
  | below {rest : List Text} (hanchor : p.anchor = config.root.anchor)
      (hnames : p.names = config.root.names ++ rest) :
      Sees config p (Path.toText ⟨.here, rest⟩)
  | outside (h : p.anchor = config.root.anchor →
      ¬ config.root.names <+: p.names) :
      Sees config p p.toText

/-- No pattern for exclusion covers the path. -/
def Keeps (config : Config) (p : Path) : Prop :=
  ∀ seen, config.Sees p seen →
    ∀ pattern ∈ config.exclude, Glob.covers pattern seen = false

/-- The files that a path in the settings contributes. -/
inductive Lists (config : Config) (disk : Disk) (entry : Text) : Path → Prop
  | file {p : Path} (hbase : config.base disk entry = .ok p)
      (h : disk.isFile p = .ok true) :
      Lists config disk entry p
  | below {directory p : Path} {names : List PatternName}
      (hbase : config.base disk entry = .ok directory)
      (hdirectory : disk.isDirectory directory = .ok true)
      (hnames : readPattern disk.room.pattern config.pattern = .ok names)
      (hfinds : disk.Finds (.descend :: names) directory p)
      (hfile : disk.isFile p = .ok true)
      (hkeeps : config.Keeps p) : Lists config disk entry p

/-- What makes a path in the settings break off: where it leads cannot be
told, or cannot be asked about; or it leads to a directory, and the pattern is
refused, or the search by the pattern is stopped, or it finds a path that
cannot be asked about. -/
inductive EntryBreaks (config : Config) (disk : Disk) (entry : Text) :
    Failure → Prop
  | unresolved {fault : PathFault} (h : config.base disk entry = .error fault) :
      EntryBreaks config disk entry (.path fault)
  | unasked {p : Path} {fault : PathFault}
      (hbase : config.base disk entry = .ok p)
      (h : disk.look p = .error fault) :
      EntryBreaks config disk entry (.path fault)
  | refused {directory : Path} {fault : PatternFault}
      (hbase : config.base disk entry = .ok directory)
      (hdirectory : disk.isDirectory directory = .ok true)
      (h : readPattern disk.room.pattern config.pattern = .error fault) :
      EntryBreaks config disk entry (.pattern fault)
  | stopped {directory : Path} {names : List PatternName} {fault : PathFault}
      (hbase : config.base disk entry = .ok directory)
      (hdirectory : disk.isDirectory directory = .ok true)
      (hnames : readPattern disk.room.pattern config.pattern = .ok names)
      (h : disk.Breaks (.descend :: names) directory fault) :
      EntryBreaks config disk entry (.path fault)
  | lost {directory p : Path} {names : List PatternName} {fault : PathFault}
      (hbase : config.base disk entry = .ok directory)
      (hdirectory : disk.isDirectory directory = .ok true)
      (hnames : readPattern disk.room.pattern config.pattern = .ok names)
      (hfinds : disk.Finds (.descend :: names) directory p)
      (h : disk.look p = .error fault) :
      EntryBreaks config disk entry (.path fault)

theorem sees_iff {config : Config} {p : Path} {seen : Text} :
    config.Sees p seen ↔
      seen = ((p.relativeTo? config.root).getD p).toText := by
  constructor
  · intro h
    rw [Path.relativeTo?]
    cases h with
    | below hanchor hnames =>
        rw [if_pos hanchor,
          List.isPrefixOf?_eq_some_iff_append_eq.mpr hnames.symm]
        rfl
    | outside h =>
        split
        · next hanchor =>
            cases hrest : config.root.names.isPrefixOf? p.names with
            | none => rfl
            | some rest =>
                rw [List.isPrefixOf?_eq_some_iff_append_eq] at hrest
                exact absurd ⟨rest, hrest⟩ (h hanchor)
        · rfl
  · intro h
    rw [h, Path.relativeTo?]
    split
    · next hanchor =>
        cases hrest : config.root.names.isPrefixOf? p.names with
        | some rest =>
            rw [List.isPrefixOf?_eq_some_iff_append_eq] at hrest
            exact .below hanchor hrest.symm
        | none =>
            refine .outside fun _ ⟨rest, happend⟩ => ?_
            rw [List.isPrefixOf?_eq_some_iff_append_eq.mpr happend] at hrest
            cases hrest
    · next hanchor => exact .outside fun h => absurd h hanchor

theorem excludes_eq_false_iff {config : Config} {p : Path} :
    config.excludes p = false ↔ config.Keeps p := by
  simp [excludes, Keeps, sees_iff]

/-- What the pattern finds at or below a directory, without what is left out. -/
def filesBelow (config : Config) (disk : Disk) (directory : Path) :
    Except Failure (List Path) := do
  let names ← (readPattern disk.room.pattern config.pattern).mapError
    Failure.pattern
  let files ← (disk.filesBelow names directory).outcome.mapError Failure.path
  return files.filter fun file => !config.excludes file

theorem filesAt_eq (config : Config) (disk : Disk) (entry : Text) :
    config.filesAt disk entry =
      ((config.base disk entry).mapError Failure.path).bind fun base =>
        ((disk.look base).mapError Failure.path).bind fun
          | some (.file _) => .ok [base]
          | some .directory => config.filesBelow disk base
          | _ => .ok [] := by
  rw [filesAt, base]
  cases disk.resolve (config.root.join (Path.ofText entry)) with
  | error fault => rfl
  | ok base =>
      show ((disk.isFile base).mapError Failure.path).bind _ =
        ((disk.look base).mapError Failure.path).bind _
      rw [Disk.isFile, Disk.isDirectory]
      cases disk.look base with
      | error fault => rfl
      | ok found =>
          cases found with
          | none => rfl
          | some entry => cases entry <;> rfl

/-- What breaks off the search in a directory that settings name. -/
def SearchFails (disk : Disk) (names : List PatternName) (directory : Path)
    (fault : PathFault) : Prop :=
  disk.Breaks (.descend :: names) directory fault ∨
    ∃ p, disk.Finds (.descend :: names) directory p ∧ disk.look p = .error fault

theorem filesBelow_eq_ok {config : Config} {disk : Disk}
    (hlinks : disk.Linkless) {directory : Path} {files : List Path}
    (h : config.filesBelow disk directory = .ok files) :
    ∃ names, readPattern disk.room.pattern config.pattern = .ok names ∧
      (∀ p, p ∈ files ↔ disk.Finds (.descend :: names) directory p ∧
        disk.isFile p = .ok true ∧ config.Keeps p) ∧
      ∀ fault, ¬ SearchFails disk names directory fault := by
  obtain ⟨names, hnames, h⟩ := bind_eq_ok_iff.mp h
  obtain ⟨found, hfound, h⟩ := bind_eq_ok_iff.mp h
  obtain ⟨hfiles, hfree⟩ :=
    (Disk.filesBelow_meets hlinks names directory).outcome_eq_ok
    (mapError_eq_ok_iff.mp hfound)
  refine ⟨names, mapError_eq_ok_iff.mp hnames, fun p => ?_, hfree⟩
  rw [← Except.ok.inj h, List.mem_filter, hfiles, Bool.not_eq_true',
    excludes_eq_false_iff, and_assoc]

theorem filesBelow_eq_error {config : Config} {disk : Disk}
    (hlinks : disk.Linkless) {directory : Path} {failure : Failure}
    (h : config.filesBelow disk directory = .error failure) :
    (∃ fault, readPattern disk.room.pattern config.pattern = .error fault ∧
        failure = .pattern fault) ∨
      ∃ names fault, readPattern disk.room.pattern config.pattern = .ok names ∧
        SearchFails disk names directory fault ∧ failure = .path fault := by
  rcases bind_eq_error_iff.mp h with h | ⟨names, hnames, h⟩
  · exact .inl (mapError_eq_error_iff.mp h)
  rw [mapError_eq_ok_iff] at hnames
  rcases bind_eq_error_iff.mp h with h | ⟨files, -, h⟩
  · obtain ⟨fault, herror, rfl⟩ := mapError_eq_error_iff.mp h
    exact .inr ⟨names, fault, hnames,
      (Disk.filesBelow_meets hlinks names directory).outcome_eq_error herror,
      rfl⟩
  · cases h

theorem lists_iff {config : Config} {disk : Disk} {entry : Text} {base p : Path}
    (hbase : config.base disk entry = .ok base) :
    config.Lists disk entry p ↔
      p = base ∧ disk.isFile base = .ok true ∨
      disk.isDirectory base = .ok true ∧
      ∃ names, readPattern disk.room.pattern config.pattern = .ok names ∧
        disk.Finds (.descend :: names) base p ∧ disk.isFile p = .ok true ∧
        config.Keeps p := by
  constructor
  · intro h
    cases h with
    | file hother hfile =>
        obtain rfl := Except.ok.inj (hother.symm.trans hbase)
        exact .inl ⟨rfl, hfile⟩
    | below hother hdirectory hnames hfinds hfile hkeeps =>
        obtain rfl := Except.ok.inj (hother.symm.trans hbase)
        exact .inr ⟨hdirectory, _, hnames, hfinds, hfile, hkeeps⟩
  · intro h
    rcases h with ⟨rfl, hfile⟩ | ⟨hdirectory, names, hnames, hfinds,
      hfile, hkeeps⟩
    · exact .file hbase hfile
    · exact .below hbase hdirectory hnames hfinds hfile hkeeps

theorem entryBreaks_iff {config : Config} {disk : Disk} {entry : Text}
    {base : Path} {failure : Failure}
    (hbase : config.base disk entry = .ok base) :
    config.EntryBreaks disk entry failure ↔
      (∃ fault, disk.look base = .error fault ∧ failure = .path fault) ∨
      disk.isDirectory base = .ok true ∧
        ((∃ fault, readPattern disk.room.pattern config.pattern = .error fault ∧
            failure = .pattern fault) ∨
          ∃ names fault,
            readPattern disk.room.pattern config.pattern = .ok names ∧
            SearchFails disk names base fault ∧ failure = .path fault) := by
  constructor
  · intro h
    cases h with
    | unresolved h => cases hbase.symm.trans h
    | unasked hother h =>
        obtain rfl := Except.ok.inj (hother.symm.trans hbase)
        exact .inl ⟨_, h, rfl⟩
    | refused hother hdirectory h =>
        obtain rfl := Except.ok.inj (hother.symm.trans hbase)
        exact .inr ⟨hdirectory, .inl ⟨_, h, rfl⟩⟩
    | stopped hother hdirectory hnames h =>
        obtain rfl := Except.ok.inj (hother.symm.trans hbase)
        exact .inr ⟨hdirectory, .inr ⟨_, _, hnames, .inl h, rfl⟩⟩
    | lost hother hdirectory hnames hfinds h =>
        obtain rfl := Except.ok.inj (hother.symm.trans hbase)
        exact .inr ⟨hdirectory, .inr ⟨_, _, hnames, .inr ⟨_, hfinds, h⟩, rfl⟩⟩
  · intro h
    rcases h with ⟨fault, h, rfl⟩ | ⟨hdirectory, ⟨fault, h, rfl⟩ |
      ⟨names, fault, hnames, h | ⟨p, hfinds, h⟩, rfl⟩⟩
    · exact .unasked hbase h
    · exact .refused hbase hdirectory h
    · exact .stopped hbase hdirectory hnames h
    · exact .lost hbase hdirectory hnames hfinds h

/-- A path in the settings that breaks nothing off contributes exactly what it
lists. -/
theorem filesAt_eq_ok {config : Config} {disk : Disk} (hlinks : disk.Linkless)
    {entry : Text} {files : List Path}
    (h : config.filesAt disk entry = .ok files) :
    (∀ p, p ∈ files ↔ config.Lists disk entry p) ∧
      ∀ failure, ¬ config.EntryBreaks disk entry failure := by
  rw [filesAt_eq] at h
  obtain ⟨base, hbase, h⟩ := bind_eq_ok_iff.mp h
  obtain ⟨found, hlook, h⟩ := bind_eq_ok_iff.mp h
  rw [mapError_eq_ok_iff] at hbase hlook
  have hfile : disk.isFile base = .ok true ↔
      ∃ bytes, found = some (.file bytes) := by
    simp [Disk.isFile_eq_true_iff, hlook]
  have hdirectory : disk.isDirectory base = .ok true ↔
      found = some .directory := by
    simp [Disk.isDirectory_eq_true_iff, hlook]
  simp only [lists_iff hbase, entryBreaks_iff hbase, hfile, hdirectory, hlook]
  split at h
  · obtain rfl := Except.ok.inj h
    simp
  · obtain ⟨names, hnames, hfiles, hfree⟩ := filesBelow_eq_ok hlinks h
    refine ⟨fun p => by simp [hfiles, hnames], fun failure hbreaks => ?_⟩
    rcases hbreaks with ⟨fault, herror, -⟩ | ⟨-, ⟨fault, herror, -⟩ |
      ⟨others, fault, hothers, hfails, -⟩⟩
    · cases herror
    · cases hnames.symm.trans herror
    · obtain rfl := Except.ok.inj (hnames.symm.trans hothers)
      exact hfree fault hfails
  · next hnofile hnodirectory =>
      obtain rfl := Except.ok.inj h
      refine ⟨fun p => ⟨fun hp => ?_, fun hp => ?_⟩, fun failure hbreaks => ?_⟩
      · cases hp
      · rcases hp with ⟨-, bytes, hp⟩ | ⟨hp, -⟩
        · exact absurd hp (hnofile bytes)
        · exact absurd hp hnodirectory
      · rcases hbreaks with ⟨fault, herror, -⟩ | ⟨hp, -⟩
        · cases herror
        · exact absurd hp hnodirectory

theorem filesAt_eq_error {config : Config} {disk : Disk}
    (hlinks : disk.Linkless) {entry : Text} {failure : Failure}
    (h : config.filesAt disk entry = .error failure) :
    config.EntryBreaks disk entry failure := by
  rw [filesAt_eq] at h
  rcases bind_eq_error_iff.mp h with h | ⟨base, hbase, h⟩
  · obtain ⟨fault, herror, rfl⟩ := mapError_eq_error_iff.mp h
    exact .unresolved herror
  rw [mapError_eq_ok_iff] at hbase
  rw [entryBreaks_iff hbase]
  rcases bind_eq_error_iff.mp h with h | ⟨found, hlook, h⟩
  · exact .inl (mapError_eq_error_iff.mp h)
  rw [mapError_eq_ok_iff] at hlook
  split at h
  · cases h
  · exact .inr ⟨Disk.isDirectory_eq_true_iff.mpr hlook,
      filesBelow_eq_error hlinks h⟩
  · cases h

/-! ## Paths that do not matter

A directory is found below another one by listing the directories between them.
Where one of those may not be listed, a path of its own makes a difference. -/

/-- Nothing stands where the path in the settings leads. -/
def IsMissing (config : Config) (disk : Disk) (entry : Text) : Prop :=
  ∃ p, config.base disk entry = .ok p ∧ disk.exists? p = .ok false

/-- The path in the settings leads to a directory at or below one that another
path in them leads to, and the directories between them may be listed. -/
def LiesBelow (config : Config) (disk : Disk) (entry : Text) : Prop :=
  ∃ directory, config.base disk entry = .ok directory ∧
    disk.isDirectory directory = .ok true ∧
    ∃ other ∈ config.paths, ∃ above, config.base disk other = .ok above ∧
      disk.isDirectory above = .ok true ∧ above.names <+: directory.names ∧
      disk.OpensTo above.names directory.names

theorem IsMissing.filesAt {config : Config} {disk : Disk} {entry : Text}
    (h : config.IsMissing disk entry) : config.filesAt disk entry = .ok [] := by
  obtain ⟨p, hbase, hexists⟩ := h
  obtain ⟨found, hlook, hfound⟩ := map_eq_ok_iff.mp hexists
  obtain rfl : found = none := by simpa using hfound
  rw [filesAt_eq, hbase]
  show ((disk.look p).mapError Failure.path).bind _ = _
  rw [hlook]
  rfl

theorem LiesBelow.below {config : Config} {disk : Disk}
    (hdisk : disk.HasProperNames) (hlinks : disk.Linkless) {entry : Text}
    (h : config.LiesBelow disk entry) :
    ∃ directory, config.base disk entry = .ok directory ∧
      disk.isDirectory directory = .ok true ∧
      ∃ other ∈ config.paths, ∃ above, config.base disk other = .ok above ∧
        disk.isDirectory above = .ok true ∧ disk.Below above directory := by
  obtain ⟨directory, hbase, hdirectory, other, hother, above, habove, hisAbove,
    ⟨between, hbetween⟩, hopen⟩ := h
  refine ⟨directory, hbase, hdirectory, other, hother, above, habove,
    hisAbove, ?_⟩
  have hresolved := hdisk.isResolved hbase
  have hpath : directory = .absolute (above.names ++ between) :=
    hbetween ▸ hresolved.eq_absolute
  rw [(hdisk.isResolved habove).eq_absolute, hpath]
  rw [hpath] at hresolved hdirectory hopen
  exact Disk.below_of_opensTo hlinks hresolved hdirectory hopen

/-- From a directory below another one nothing new is found, and nothing new
breaks off. -/
theorem LiesBelow.filesAt {config : Config} {disk : Disk}
    (hdisk : disk.HasProperNames) (hlinks : disk.Linkless) {entry : Text}
    (h : config.LiesBelow disk entry) :
    ∃ other ∈ config.paths, ∀ found, config.filesAt disk other = .ok found →
      ∃ files, config.filesAt disk entry = .ok files ∧
        ∀ p ∈ files, p ∈ found := by
  obtain ⟨directory, hbase, hdirectory, other, hother, above, habove, hisAbove,
    hbelow⟩ := h.below hdisk hlinks
  refine ⟨other, hother, fun found hfound => ?_⟩
  obtain ⟨hmem, hfree⟩ := filesAt_eq_ok hlinks hfound
  cases hfiles : config.filesAt disk entry with
  | error failure =>
      refine absurd ?_ (hfree failure)
      rw [entryBreaks_iff habove]
      rcases (entryBreaks_iff hbase).mp (filesAt_eq_error hlinks hfiles) with
        ⟨fault, hlook, -⟩ | ⟨-, hrefused | ⟨names, fault, hnames, hfails,
          hfailure⟩⟩
      · rw [Disk.isDirectory_eq_true_iff] at hdirectory
        cases hdirectory.symm.trans hlook
      · exact .inr ⟨hisAbove, .inl hrefused⟩
      · refine .inr ⟨hisAbove, .inr ⟨names, fault, hnames, ?_, hfailure⟩⟩
        rcases hfails with hbreaks | ⟨p, hfinds, hlook⟩
        · exact .inl (hbreaks.of_below hbelow)
        · exact .inr ⟨p, hfinds.of_below hbelow, hlook⟩
  | ok files =>
      refine ⟨files, rfl, fun p hp => ?_⟩
      rw [hmem, lists_iff habove]
      rcases (lists_iff hbase).mp
        (((filesAt_eq_ok hlinks hfiles).1 p).mp hp) with
        ⟨-, hfile⟩ | ⟨-, names, hnames, hfinds, hfile⟩
      · obtain ⟨bytes, hlook⟩ := Disk.isFile_eq_true_iff.mp hfile
        rw [Disk.isDirectory_eq_true_iff] at hdirectory
        cases hdirectory.symm.trans hlook
      · exact .inr ⟨hisAbove, names, hnames, hfinds.of_below hbelow, hfile⟩

theorem anchor_of_lists {config : Config} {disk : Disk} {entry : Text}
    {p : Path} (h : config.Lists disk entry p) : p.anchor = .root := by
  cases h with
  | file hbase => exact Disk.anchor_of_resolve hbase
  | below hbase _ _ hfinds =>
      exact hfinds.anchor.trans (Disk.anchor_of_resolve hbase)

theorem discover_eq_ok {config : Config} {disk : Disk} (hlinks : disk.Linkless)
    {files : List Path} (h : config.discover disk = .ok files) :
    (∀ entry ∈ config.paths, ∃ found, config.filesAt disk entry = .ok found) ∧
      (∀ p, p ∈ files ↔ ∃ entry ∈ config.paths, ∃ found,
        config.filesAt disk entry = .ok found ∧ p ∈ found) ∧
      files.Pairwise Path.Before := by
  obtain ⟨lists, hlists, rfl⟩ := map_eq_ok_iff.mp h
  obtain ⟨hall, hmem⟩ :=
    mem_flatten_of_mapM (congrArg (Except.map List.flatten) hlists)
  refine ⟨hall, fun p => ?_, Path.pairwise_before fun p hp => ?_⟩
  · rw [List.mem_mergeSort, List.mem_eraseDups, hmem]
  · obtain ⟨entry, -, found, hfound, hp⟩ := (hmem p).mp hp
    exact anchor_of_lists (((filesAt_eq_ok hlinks hfound).1 p).mp hp)

theorem mem_discover_iff {config : Config} {disk : Disk}
    (hlinks : disk.Linkless) {files : List Path}
    (h : config.discover disk = .ok files) (p : Path) :
    p ∈ files ↔ ∃ entry ∈ config.paths, config.Lists disk entry p := by
  obtain ⟨hall, hmem, -⟩ := discover_eq_ok hlinks h
  rw [hmem]
  refine exists_congr fun entry => and_congr_right fun hentry => ?_
  obtain ⟨found, hfound⟩ := hall entry hentry
  rw [← (filesAt_eq_ok hlinks hfound).1 p, hfound]
  simp

theorem discover_eq_error {config : Config} {disk : Disk}
    (hlinks : disk.Linkless) {failure : Failure}
    (h : config.discover disk = .error failure) :
    ∃ entry ∈ config.paths, config.EntryBreaks disk entry failure := by
  obtain ⟨entry, hentry, herror⟩ :=
    exists_of_mapM_eq_error (map_eq_error_iff.mp h)
  exact ⟨entry, hentry, filesAt_eq_error hlinks herror⟩

theorem exists_discover_iff {config : Config} {disk : Disk}
    (hlinks : disk.Linkless) :
    (∃ files, config.discover disk = .ok files) ↔
      ∀ entry ∈ config.paths, ∀ failure,
        ¬ config.EntryBreaks disk entry failure := by
  constructor
  · intro h entry hentry
    obtain ⟨files, h⟩ := h
    obtain ⟨found, hfound⟩ := (discover_eq_ok hlinks h).1 entry hentry
    exact (filesAt_eq_ok hlinks hfound).2
  · intro hfree
    cases h : config.discover disk with
    | ok files => exact ⟨files, rfl⟩
    | error failure =>
        obtain ⟨entry, hentry, hbreaks⟩ := discover_eq_error hlinks h
        exact absurd hbreaks (hfree entry hentry failure)

/-- Paths that lead nowhere or to a directory below a listed one add nothing. -/
theorem discover_of_paths {config : Config} {disk : Disk}
    (hdisk : disk.HasProperNames) (hlinks : disk.Linkless) {files : List Path}
    (h : config.discover disk = .ok files) {paths : List Text}
    (hkept : ∀ entry ∈ config.paths, entry ∈ paths)
    (hmore : ∀ entry ∈ paths, entry ∈ config.paths ∨
      config.IsMissing disk entry ∨ config.LiesBelow disk entry) :
    { config with paths }.discover disk = .ok files := by
  obtain ⟨hall, hmem, hsorted⟩ := discover_eq_ok hlinks h
  have hentry : ∀ entry ∈ paths,
    ∃ found, config.filesAt disk entry = .ok found ∧
      ∀ p ∈ found, p ∈ files := by
    intro entry hentry
    rcases hmore entry hentry with hlisted | hmissing | hbelow
    · obtain ⟨found, hfound⟩ := hall entry hlisted
      exact ⟨found, hfound, fun p hp =>
        (hmem p).mpr ⟨entry, hlisted, found, hfound, hp⟩⟩
    · exact ⟨[], hmissing.filesAt, by simp⟩
    · obtain ⟨other, hother, hfiles⟩ := hbelow.filesAt hdisk hlinks
      obtain ⟨found, hfound⟩ := hall other hother
      obtain ⟨below, hbelow, hsubset⟩ := hfiles found hfound
      exact ⟨below, hbelow, fun p hp =>
        (hmem p).mpr ⟨other, hother, found, hfound, hsubset p hp⟩⟩
  cases hothers : { config with paths }.discover disk with
  | error failure =>
      obtain ⟨entry, hlisted, herror⟩ :=
        exists_of_mapM_eq_error (map_eq_error_iff.mp hothers)
      obtain ⟨found, hfound, -⟩ := hentry entry hlisted
      cases hfound.symm.trans herror
  | ok others =>
      obtain ⟨-, hmem', hsorted'⟩ := discover_eq_ok hlinks hothers
      refine congrArg Except.ok
        (Path.eq_of_pairwise_before hsorted' hsorted fun p => ?_)
      rw [hmem', hmem]
      constructor
      · intro hp
        obtain ⟨entry, hlisted, found, hfound, hp⟩ := hp
        obtain ⟨found', hfound', hsubset⟩ := hentry entry hlisted
        obtain rfl := Except.ok.inj (hfound.symm.trans hfound')
        exact (hmem p).mp (hsubset p hp)
      · intro hp
        obtain ⟨entry, hlisted, found, hfound, hp⟩ := hp
        exact ⟨entry, hkept entry hlisted, found, hfound, hp⟩

/-- With a pattern of one plain name, and if every directory may be listed, what
a path in the settings contributes can be told from the names of the files
alone. -/
theorem lists_plain_iff {config : Config} {disk : Disk}
    (hdisk : disk.HasProperNames) (hlinks : disk.Linkless)
    (hopen : disk.sealed = []) {first : PatternName}
    (hpattern : readPattern disk.room.pattern config.pattern = .ok [first])
    (hfirst : first.IsPlain) {entry : Text} {p : Path} :
    config.Lists disk entry p ↔ ∃ base, config.base disk entry = .ok base ∧
      disk.isFile p = .ok true ∧ (p = base ∨ disk.isDirectory base = .ok true ∧
        p.IsResolved ∧ base.names <+: p.names ∧ first.Fits p.name ∧
          config.Keeps p) := by
  have hway := Disk.opensTo_of_sealed_eq_nil hopen
  constructor
  · intro h
    cases h with
    | file hbase hfile => exact ⟨p, hbase, hfile, .inl rfl⟩
    | below hbase hdirectory hnames hfinds hfile hkeeps =>
        obtain rfl := Except.ok.inj (hpattern.symm.trans hnames)
        obtain ⟨hp, hinside, hfits⟩ := (Disk.finds_plain_iff hdisk hlinks hfirst
          (hdisk.isResolved hbase) hdirectory hfile (hway _ _)).mp hfinds
        exact ⟨_, hbase, hfile, .inr ⟨hdirectory, hp, hinside, hfits, hkeeps⟩⟩
  · intro h
    obtain ⟨base, hbase, hfile, h⟩ := h
    rcases h with rfl | ⟨hdirectory, hp, hinside, hfits, hkeeps⟩
    · exact .file hbase hfile
    · have hfinds :=
        (Disk.finds_plain_iff hdisk hlinks hfirst (hdisk.isResolved hbase)
        hdirectory hfile (hway _ _)).mpr ⟨hp, hinside, hfits⟩
      exact .below hbase hdirectory hpattern hfinds hfile hkeeps

end Config

/-- On a disk without links discovery succeeds exactly if no path in the
settings breaks it off. Then every file that one of them lists is there once, in
the order of names, and neither the order of the paths matters nor repetitions,
nor paths that lead nowhere or to directories below listed ones. With a pattern
of one plain name, a file is listed by its own path, or by that of a directory
above it if its last name fits and it is not left out. -/
theorem discovered_files {disk : Disk} (hdisk : disk.HasProperNames)
    (hlinks : disk.Linkless) (config : Config) :
    ((∃ files, config.discover disk = .ok files) ↔
      ∀ entry ∈ config.paths, ∀ failure,
        ¬ config.EntryBreaks disk entry failure) ∧
    (∀ failure, config.discover disk = .error failure →
      ∃ entry ∈ config.paths, config.EntryBreaks disk entry failure) ∧
    ∀ files, config.discover disk = .ok files →
      files.Pairwise Path.Before ∧
      (∀ p, p ∈ files ↔ ∃ entry ∈ config.paths, config.Lists disk entry p) ∧
      (disk.sealed = [] → ∀ first,
        readPattern disk.room.pattern config.pattern = .ok [first] →
        first.IsPlain → ∀ p, p ∈ files ↔ ∃ entry ∈ config.paths, ∃ base,
          config.base disk entry = .ok base ∧ disk.isFile p = .ok true ∧
          (p = base ∨ disk.isDirectory base = .ok true ∧ p.IsResolved ∧
            base.names <+: p.names ∧ first.Fits p.name ∧ config.Keeps p)) ∧
      ∀ paths, (∀ entry ∈ config.paths, entry ∈ paths) →
        (∀ entry ∈ paths, entry ∈ config.paths ∨ config.IsMissing disk entry ∨
          config.LiesBelow disk entry) →
        { config with paths }.discover disk = .ok files := by
  refine ⟨Config.exists_discover_iff hlinks,
    fun failure => Config.discover_eq_error hlinks, fun files h => ?_⟩
  refine ⟨(Config.discover_eq_ok hlinks h).2.2,
    Config.mem_discover_iff hlinks h, fun hopen first hpattern hfirst p => ?_,
    fun paths => Config.discover_of_paths hdisk hlinks h⟩
  rw [Config.mem_discover_iff hlinks h]
  exact exists_congr fun entry => and_congr_right fun _ =>
    Config.lists_plain_iff hdisk hlinks hopen hpattern hfirst

/-- A disk with one grammar in a directory and another in a directory below. -/
def nestedGrammarDisk : Disk where
  entries := [
    ([['g']], .directory),
    ([['g'], "a.lark".toList], .file []),
    ([['g'], ['v']], .directory),
    ([['g'], ['v'], "b.lark".toList], .file [])]

/-- Settings of a project in that directory. -/
def nestedSettings : Config where
  root := .absolute [['g']]

/-- The grammars on that disk. -/
def nestedGrammars : List Path :=
  [.absolute [['g'], "a.lark".toList],
    .absolute [['g'], ['v'], "b.lark".toList]]

theorem discovered_files_nested :
    { nestedSettings with paths := [['v'], ['m'], ['.'], ['.']] }.discover
        nestedGrammarDisk = .ok nestedGrammars ∧
      (¬ ∃ files, { nestedSettings with
        paths := [['.'], List.replicate 256 'n'] }.discover nestedGrammarDisk =
          .ok files) ∧
      ¬ ∃ files, nestedSettings.discover { nestedGrammarDisk with
        room := { directories := 1 } } = .ok files := by
  have hdisk : nestedGrammarDisk.HasProperNames := by
    refine ⟨?_, by simp [nestedGrammarDisk]⟩
    unfold IsProperName
    decide
  have hlinks : nestedGrammarDisk.Linkless := by
    intro entry hentry link
    simp only [nestedGrammarDisk, List.mem_cons, List.not_mem_nil,
      or_false] at hentry
    rcases hentry with rfl | rfl | rfl | rfl <;> exact fun h => by cases h
  refine ⟨?_, fun h => ?_, fun h => ?_⟩
  · have hlists : nestedSettings.paths.mapM
        (nestedSettings.filesAt nestedGrammarDisk) = .ok [nestedGrammars] := by
      decide +kernel
    have hsorted : nestedGrammars.mergeSort
        (fun a b => Path.namesLe a.names b.names) = nestedGrammars :=
      List.mergeSort_of_pairwise (by decide)
    have hfiles : nestedSettings.discover nestedGrammarDisk =
        .ok nestedGrammars := by
      rw [Config.discover, hlists]
      exact congrArg Except.ok hsorted
    have hmissing : nestedSettings.IsMissing nestedGrammarDisk ['m'] :=
      ⟨_, rfl, rfl⟩
    have hlisted : ['.'] ∈ nestedSettings.paths := List.mem_cons_self
    have hopen := Disk.opensTo_of_sealed_eq_nil
      (show nestedGrammarDisk.sealed = [] from rfl) [['g']] [['g'], ['v']]
    have hbelow : nestedSettings.LiesBelow nestedGrammarDisk ['v'] :=
      ⟨_, rfl, rfl, ['.'], hlisted, _, rfl, rfl, ⟨[['v']], rfl⟩, hopen⟩
    refine ((discovered_files hdisk hlinks nestedSettings).2.2 _ hfiles).2.2.2 _
      ?_ ?_
    · simp [nestedSettings]
    · simp [hmissing, hbelow, hlisted]
  · have hbase : Config.base { nestedSettings with
          paths := [['.'], List.replicate 256 'n'] } nestedGrammarDisk
        (List.replicate 256 'n') =
          .ok (.absolute [['g'], List.replicate 256 'n']) := by decide +kernel
    exact (discovered_files hdisk hlinks _).1.mp h (List.replicate 256 'n')
      (List.mem_cons_of_mem _ List.mem_cons_self) (.path .tooLong)
      (.unasked hbase (by decide +kernel))
  · have hshallow : Disk.HasProperNames { nestedGrammarDisk with
        room := { directories := 1 } } := ⟨hdisk.entries, hdisk.cwd⟩
    have hbelow :
        Disk.BelowBy { nestedGrammarDisk with room := { directories := 1 } }
        1 (.absolute [['g']]) (.absolute [['g'], ['v']]) :=
      .step rfl (by decide) .here
    exact (discovered_files hshallow hlinks nestedSettings).1.mp h ['.']
      List.mem_cons_self (.path .tooDeep)
        (.stopped rfl rfl rfl (.first (.depth hbelow)))

end GrammarLint
