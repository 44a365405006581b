import GrammarLint.Proofs.CheckOutcome
import Mathlib.Data.List.Infix

/-!
# Where paths lead

The same file can be reached under many paths. Its resolved path is the one that
starts at the root and has neither links nor double dots in it.

Whether the names of a path tell where it leads depends on links, so most of
this file is about disks that have none (`Disk.Linkless`). On such a disk a walk
ends where the names alone lead (`Disk.Linkless.eq_fold_of_walkFrom`) and
resolving a path is folding its names (`Disk.Linkless.resolve_eq`). Then a
resolved path is its own file (`Path.IsResolved.resolve`), and what stands under
it stands in directories all the way (`Disk.isDirectory_of_look`).
-/

namespace GrammarLint

/-- Nothing on the disk is a link. -/
def Disk.Linkless (disk : Disk) : Prop :=
  ∀ entry ∈ disk.entries, ∀ link, entry.2 ≠ .link link

/-- A name that a directory can hold. -/
def IsProperName (name : Text) : Prop := name ≠ Path.up ∧ '\x00' ∉ name

/-- The path starts at the root and has proper names only. -/
structure Path.IsResolved (path : Path) : Prop where
  anchor : path.anchor = .root
  names : ∀ name ∈ path.names, IsProperName name

/-- The names on the disk are proper. -/
structure Disk.HasProperNames (disk : Disk) : Prop where
  entries : ∀ entry ∈ disk.entries, ∀ name ∈ entry.1, IsProperName name
  cwd : ∀ name ∈ disk.cwd, IsProperName name

namespace Path

theorem hasNul_eq_false_iff {path : Path} :
    path.hasNul = false ↔ ∀ name ∈ path.names, '\x00' ∉ name := by
  simp [hasNul]

theorem fold_append (start names more : List Text) :
    fold start (names ++ more) = fold (fold start names) more :=
  List.foldl_append

theorem fold_singleton (start : List Text) (name : Text) :
    fold start [name] = if name = up then start.dropLast else start ++ [name] :=
  rfl

theorem fold_of_proper {start names : List Text}
    (h : ∀ name ∈ names, name ≠ up) : fold start names = start ++ names := by
  induction names generalizing start with
  | nil => exact (List.append_nil start).symm
  | cons name names ih =>
      have hname := h name List.mem_cons_self
      rw [fold, List.foldl_cons, if_neg hname, ← fold,
        ih fun other hother => h other (List.mem_cons_of_mem name hother),
        List.append_assoc]
      rfl

theorem mem_fold {start names : List Text} {name : Text}
    (h : name ∈ fold start names) : name ∈ start ∨ name ∈ names ∧
    name ≠ up := by
  induction names generalizing start with
  | nil => exact .inl h
  | cons first names ih =>
      rw [fold, List.foldl_cons, ← fold] at h
      rcases ih h with hstart | ⟨hnames, hup⟩
      · split at hstart
        · exact .inl (List.mem_of_mem_dropLast hstart)
        · next hup =>
            rcases List.mem_append.mp hstart with hstart | hfirst
            · exact .inl hstart
            · rw [List.mem_singleton] at hfirst
              exact .inr ⟨hfirst ▸ List.mem_cons_self, hfirst ▸ hup⟩
      · exact .inr ⟨List.mem_cons_of_mem first hnames, hup⟩

theorem IsResolved.append {path : Path} (h : path.IsResolved)
    {names : List Text} (hnames : ∀ name ∈ names, IsProperName name) :
    IsResolved { path with names := path.names ++ names } :=
  ⟨h.anchor, fun name hname =>
    (List.mem_append.mp hname).elim (h.names name) (hnames name)⟩

theorem IsResolved.child {path : Path} (h : path.IsResolved) {name : Text}
    (hname : IsProperName name) : (path.child name).IsResolved :=
  h.append (List.forall_mem_singleton.mpr hname)

theorem IsResolved.hasNul {path : Path} (h : path.IsResolved) :
    path.hasNul = false :=
  hasNul_eq_false_iff.mpr fun name hname => (h.names name hname).2

theorem IsResolved.isAbsolute {path : Path} (h : path.IsResolved) :
    path.isAbsolute = true := by
  rw [Path.isAbsolute, h.anchor]
  rfl

theorem IsResolved.fold {path : Path} (h : path.IsResolved) :
    Path.fold [] path.names = path.names :=
  fold_of_proper fun name hname => (h.names name hname).1

theorem IsResolved.eq_absolute {path : Path} (h : path.IsResolved) :
    path = .absolute path.names := by
  obtain ⟨anchor, names⟩ := path
  obtain rfl : anchor = .root := h.anchor
  rfl

end Path

namespace Disk

/-- A path is resolved from the root or from a working directory that stands. -/
theorem fromRoot_eq_ok {disk : Disk} {path file : Path}
    (h : disk.fromRoot path = .ok file) :
    ∃ start, file = .absolute (Path.fold start path.names) ∧
      (path.isAbsolute = true ∧ start = [] ∨
        path.isAbsolute = false ∧ disk.lost = none ∧ start = disk.cwd) := by
  rw [fromRoot] at h
  split at h
  · next habsolute =>
      rw [Path.resolve, if_pos habsolute] at h
      exact ⟨[], (Except.ok.inj h).symm, .inl ⟨habsolute, rfl⟩⟩
  · next habsolute =>
      obtain ⟨cwd, hcwd, rfl⟩ := map_eq_ok_iff.mp h
      rw [workingDirectory] at hcwd
      split at hcwd
      · cases hcwd
      · next hlost =>
          obtain rfl := Except.ok.inj hcwd
          rw [Path.resolve, if_neg habsolute]
          simp only [Bool.not_eq_true, Option.isSome_eq_false_iff,
            Option.isNone_iff_eq_none] at habsolute hlost
          exact ⟨disk.cwd, rfl, .inr ⟨habsolute, hlost, rfl⟩⟩

theorem fault_of_fromRoot {disk : Disk} {path : Path} {fault : PathFault}
    (h : disk.fromRoot path = .error fault) : fault = .noDirectory := by
  rw [fromRoot] at h
  split at h
  · cases h
  · have hcwd := map_eq_error_iff.mp h
    rw [workingDirectory] at hcwd
    split at hcwd
    · exact (Except.error.inj hcwd).symm
    · cases hcwd

/-- Whatever a path resolves to comes from names below the root, without null
characters. -/
theorem resolve_eq_ok {disk : Disk} {path file : Path}
    (h : disk.resolve path = .ok file) :
    (∃ trail, disk.fromRoot trail = .ok file) ∧ file.hasNul = false := by
  obtain ⟨trail, -, h⟩ := bind_eq_ok_iff.mp h
  obtain ⟨resolved, hresolved, h⟩ := bind_eq_ok_iff.mp h
  split at h
  · cases h
  · next hnul =>
      split at h
      · cases h
      · obtain rfl := Except.ok.inj h
        exact ⟨⟨trail.path, hresolved⟩, Bool.not_eq_true _ ▸ hnul⟩

theorem anchor_of_resolve {disk : Disk} {path file : Path}
    (h : disk.resolve path = .ok file) : file.anchor = .root := by
  obtain ⟨⟨trail, htrail⟩, -⟩ := resolve_eq_ok h
  obtain ⟨start, rfl, -⟩ := fromRoot_eq_ok htrail
  rfl

/-- Every path resolves to a resolved one. -/
theorem HasProperNames.isResolved {disk : Disk} (h : disk.HasProperNames)
    {path file : Path} (hfile : disk.resolve path = .ok file) :
    file.IsResolved := by
  obtain ⟨⟨trail, htrail⟩, hnul⟩ := resolve_eq_ok hfile
  obtain ⟨start, rfl, hstart⟩ := fromRoot_eq_ok htrail
  refine ⟨rfl, fun name hname =>
    ⟨?_, Path.hasNul_eq_false_iff.mp hnul name hname⟩⟩
  rcases Path.mem_fold hname with hname | ⟨-, hup⟩
  · rcases hstart with ⟨-, rfl⟩ | ⟨-, -, rfl⟩
    · cases hname
    · exact (h.cwd name hname).1
  · exact hup

theorem mem_entries {disk : Disk} {names : List Text} {entry : DiskEntry}
    (hnames : names ≠ []) (h : disk.entry? names = some entry) :
    (names, entry) ∈ disk.entries := by
  cases names with
  | nil => exact absurd rfl hnames
  | cons name names =>
      obtain ⟨before, after, hentries, -⟩ := List.lookup_eq_some_iff.mp h
      rw [hentries]
      simp

/-- Where the fault of a walk comes from. -/
theorem walk_eq_error {disk : Disk} {path : Path} {fault : FileFault}
    (h : disk.walk path = .error fault) :
    fault = .missing ∨ fault = .tooLong ∨
      ∃ here names, disk.walkFrom here names = .error fault := by
  have hlost : ∀ lost here names, disk.walkLost lost here names = .error fault →
      fault = .missing ∨ fault = .tooLong ∨
        ∃ here names, disk.walkFrom here names = .error fault := by
    intro lost here names hwalk
    induction names generalizing here with
    | nil => cases hwalk
    | cons name names ih =>
        rw [walkLost] at hwalk
        split at hwalk
        · exact .inr (.inr ⟨_, _, map_eq_error_iff.mp hwalk⟩)
        · split at hwalk
          · exact ih _ hwalk
          · split at hwalk
            · exact .inr (.inl (Except.error.inj hwalk).symm)
            · exact .inl (Except.error.inj hwalk).symm
  rw [walk] at h
  split at h
  · exact .inr (.inl (Except.error.inj h).symm)
  · split at h
    · next other hother =>
        obtain rfl := Except.error.inj h
        rw [follow] at hother
        split at hother
        · exact hlost _ _ _ hother
        · exact .inr (.inr ⟨_, _, map_eq_error_iff.mp hother⟩)
        · exact .inr (.inr ⟨_, _, map_eq_error_iff.mp hother⟩)
    · cases h
    · split at h
      · exact .inl (Except.error.inj h).symm
      · cases h

theorem walkOn_ne_denied {disk : Disk} (h : disk.barred = [])
    {enter : List Text → Link → List Text → Except FileFault (List Text)}
    (henter : ∀ here link names, enter here link names ≠ .error .denied)
    (here names : List Text) : disk.walkOn enter here names ≠
      .error .denied := by
  induction names generalizing here with
  | nil => exact fun hdenied => by cases hdenied
  | cons name names ih =>
      intro hdenied
      rw [walkOn, h] at hdenied
      split at hdenied
      · cases hdenied
      · cases hdenied
      · cases hdenied
      · split at hdenied
        · next hbarred => cases hbarred
        · split at hdenied
          · exact ih _ hdenied
          · split at hdenied
            · cases hdenied
            · split at hdenied
              · exact henter _ _ _ hdenied
              · exact ih _ hdenied

/-- Only a directory that may not be passed through denies anything. -/
theorem walkThrough_ne_denied {disk : Disk} (h : disk.barred = []) (links : Nat)
    (here names : List Text) :
    disk.walkThrough links here names ≠ .error .denied := by
  induction links generalizing here names with
  | zero =>
      exact walkOn_ne_denied h (fun _ _ _ hdenied => by cases hdenied)
        here names
  | succ links ih =>
      refine walkOn_ne_denied h (fun here link names hdenied => ?_) here names
      dsimp only at hdenied
      cases hwalk : disk.walkThrough links
          (if link.target.isAbsolute then [] else here)
          (link.target.names ++ names) with
      | error fault =>
          rw [hwalk] at hdenied
          exact ih _ _
            (hwalk.trans (congrArg Except.error (Except.error.inj hdenied)))
      | ok place =>
          rw [hwalk] at hdenied
          simp only [Except.bind] at hdenied
          split at hdenied
          · split at hdenied <;> cases hdenied
          · cases hdenied

theorem walk_ne_denied {disk : Disk} (h : disk.barred = []) (path : Path) :
    disk.walk path ≠ .error .denied := by
  intro hdenied
  rcases walk_eq_error hdenied with hfault | hfault | ⟨here, names, hfault⟩
  · cases hfault
  · cases hfault
  · exact walkThrough_ne_denied h _ here names hfault

namespace Linkless

variable {disk : Disk}

theorem entry?_ne (h : disk.Linkless) (names : List Text) (link : Link) :
    disk.entry? names ≠ some (.link link) := by
  intro hentry
  by_cases hnames : names = []
  · rw [hnames] at hentry
    cases hentry
  · exact h _ (mem_entries hnames hentry) link rfl

/-- Without links there is nothing to enter. -/
theorem walkOn_eq (h : disk.Linkless)
    (enter other : List Text → Link → List Text → Except FileFault (List Text))
    (here names : List Text) :
    disk.walkOn enter here names = disk.walkOn other here names := by
  induction names generalizing here with
  | nil => rfl
  | cons name names ih =>
      rw [walkOn, walkOn]
      simp only [ih]
      cases hentry : disk.entry? (here ++ [name]) with
      | none => rfl
      | some entry =>
          cases entry with
          | directory => rfl
          | file bytes => rfl
          | link link => exact absurd hentry (h.entry?_ne _ link)

theorem walkFrom_cons (h : disk.Linkless) (here names : List Text)
    (name : Text) :
    disk.walkFrom here (name :: names) =
      match disk.entry? here with
      | none => .error .missing
      | some .directory =>
        if disk.barred.contains here then .error .denied
        else if name = Path.up then disk.walkFrom here.dropLast names
        else if nameLimit < byteSize name then .error .tooLong
        else disk.walkFrom (here ++ [name]) names
      | some _ => .error .notDirectory := by
  have hwalk : ∀ here names, disk.walkFrom here names =
      disk.walkOn (fun _ _ _ => .error .loop) here names :=
    fun here names => h.walkOn_eq _ _ here names
  simp only [hwalk]
  rw [walkOn]
  cases disk.entry? here with
  | none => rfl
  | some entry =>
      cases entry with
      | file bytes => rfl
      | link link => rfl
      | directory =>
          cases hentry : disk.entry? (here ++ [name]) with
          | none => rfl
          | some entry =>
              cases entry with
              | directory => rfl
              | file bytes => rfl
              | link link => exact absurd hentry (h.entry?_ne _ link)

/-- What a step of a walk asks for, and where it goes. -/
theorem walkFrom_cons_eq_ok (h : disk.Linkless) {here there names : List Text}
    {name : Text} (hwalk : disk.walkFrom here (name :: names) = .ok there) :
    disk.entry? here = some .directory ∧ here ∉ disk.barred ∧
      disk.walkFrom (Path.fold here [name]) names = .ok there := by
  rw [h.walkFrom_cons] at hwalk
  split at hwalk
  · cases hwalk
  · next hentry =>
      split at hwalk
      · cases hwalk
      · next hbarred =>
          rw [List.contains_eq_mem, decide_eq_true_iff] at hbarred
          refine ⟨hentry, hbarred, ?_⟩
          rw [Path.fold_singleton]
          split at hwalk
          · next hup => rwa [if_pos hup]
          · next hup =>
              split at hwalk
              · cases hwalk
              · rwa [if_neg hup]
  · cases hwalk

/-- Walking goes where the names alone lead. -/
theorem eq_fold_of_walkFrom (h : disk.Linkless) {here there names : List Text}
    (hwalk : disk.walkFrom here names = .ok there) :
    there = Path.fold here names := by
  induction names generalizing here with
  | nil => exact (Except.ok.inj hwalk).symm
  | cons name names ih =>
      rw [ih (h.walkFrom_cons_eq_ok hwalk).2.2, ← Path.fold_append]
      rfl

theorem walkFrom_ne_loop (h : disk.Linkless) (here names : List Text) :
    disk.walkFrom here names ≠ .error .loop := by
  induction names generalizing here with
  | nil => exact fun hloop => by cases hloop
  | cons name names ih =>
      intro hloop
      rw [h.walkFrom_cons] at hloop
      split at hloop
      · cases hloop
      · split at hloop
        · cases hloop
        · split at hloop
          · exact ih _ hloop
          · split at hloop
            · cases hloop
            · exact ih _ hloop
      · cases hloop

theorem walkFrom_append (h : disk.Linkless) (here names more : List Text) :
    disk.walkFrom here (names ++ more) =
      (disk.walkFrom here names).bind fun there =>
        disk.walkFrom there more := by
  induction names generalizing here with
  | nil => rfl
  | cons name names ih =>
      rw [List.cons_append, h.walkFrom_cons, h.walkFrom_cons]
      split
      · rfl
      · split
        · rfl
        · split
          · exact ih _
          · split
            · rfl
            · exact ih _
      · rfl

theorem walk_ne_loop (h : disk.Linkless) (path : Path) :
    disk.walk path ≠ .error .loop := by
  intro hloop
  rcases walk_eq_error hloop with hfault | hfault | ⟨here, names, hfault⟩
  · cases hfault
  · cases hfault
  · exact h.walkFrom_ne_loop here names hfault

theorem linkAt?_eq (h : disk.Linkless) (path : Path) :
    disk.linkAt? path = if path.hasNul then .error .nul else .ok none := by
  rw [linkAt?]
  split
  · rfl
  · split
    · rfl
    · split
      · split
        · rfl
        · split
          · next hentry => exact absurd hentry (h.entry?_ne _ _)
          · rfl
      · rfl

end Linkless

end Disk

/-- The path after these names, as far as names can tell. -/
def Path.goAlong (path : Path) (names : List Text) : Path :=
  names.foldl (fun path name =>
    if name = Path.up then path.goUp else path.child name) path

namespace Path

theorem goAlong_cons (path : Path) (name : Text) (names : List Text) :
    path.goAlong (name :: names) =
      (if name = up then path.goUp else path.child name).goAlong names :=
  rfl

theorem isAbsolute_goUp (path : Path) :
    path.goUp.isAbsolute = path.isAbsolute := by
  rw [goUp]
  split <;> rfl

theorem hasNul_goUp {path : Path} (h : path.hasNul = false) :
    path.goUp.hasNul = false := by
  rw [hasNul_eq_false_iff] at h ⊢
  rw [goUp]
  split
  · exact fun name hname => h name (List.mem_of_mem_dropLast hname)
  · intro name hname
    rcases List.mem_append.mp hname with hname | hname
    · exact h name hname
    · rw [List.mem_singleton.mp hname]
      decide

/-- Double dots stand only in front of a path that names can tell no more
about, and never below a root. -/
def IsFolded (path : Path) : Prop := path.isAbsolute = true → up ∉ path.names

theorem IsFolded.goUp {path : Path} (h : path.IsFolded) :
    path.goUp.IsFolded := by
  intro habsolute hup
  rw [isAbsolute_goUp] at habsolute
  rw [Path.goUp, habsolute, Bool.true_or, if_pos rfl] at hup
  exact h habsolute (List.mem_of_mem_dropLast hup)

theorem IsFolded.child {path : Path} (h : path.IsFolded) {name : Text}
    (hname : name ≠ up) : (path.child name).IsFolded := by
  intro habsolute hup
  rcases List.mem_append.mp hup with hup | hup
  · exact h habsolute hup
  · exact hname (List.mem_singleton.mp hup).symm

/-- Going up takes one name back, wherever the path starts from. -/
theorem fold_goUp {path : Path} (h : path.IsFolded) {start : List Text}
    (hstart : path.isAbsolute = true → start = []) :
    fold start path.goUp.names = (fold start path.names).dropLast := by
  obtain ⟨anchor, names⟩ := path
  rcases List.eq_nil_or_concat names with rfl | ⟨before, last, rfl⟩
  · by_cases habsolute : Path.isAbsolute ⟨anchor, []⟩ = true
    · rw [goUp, habsolute, Bool.true_or, if_pos rfl, hstart habsolute]
      rfl
    · rw [Bool.not_eq_true] at habsolute
      rw [goUp, habsolute]
      rfl
  · rw [List.concat_eq_append] at h ⊢
    by_cases hlast : last = up
    · have hrelative : Path.isAbsolute ⟨anchor, before ++ [last]⟩ = false := by
        rw [Bool.eq_false_iff]
        exact fun habsolute => h habsolute (by simp [hlast])
      have hgo : goUp ⟨anchor, before ++ [last]⟩ =
          child ⟨anchor, before ++ [last]⟩ up := by
        rw [goUp, hrelative]
        simp [hlast]
      rw [hgo]
      exact fold_append start _ [up]
    · have hgo : (goUp ⟨anchor, before ++ [last]⟩).names = before := by
        simp [goUp, parent, hlast]
      rw [hgo, fold_append, fold_singleton, if_neg hlast, List.dropLast_concat]

theorem fold_goAlong {path : Path} (h : path.IsFolded) {start : List Text}
    (hstart : path.isAbsolute = true → start = []) (names : List Text) :
    fold start (path.goAlong names).names =
        fold (fold start path.names) names ∧
      (path.goAlong names).isAbsolute = path.isAbsolute := by
  induction names generalizing path with
  | nil => exact ⟨rfl, rfl⟩
  | cons name names ih =>
      rw [goAlong_cons]
      split
      · next hup =>
          obtain ⟨hfold, habsolute⟩ := ih h.goUp (isAbsolute_goUp path ▸ hstart)
          rw [hfold, habsolute, fold_goUp h hstart, isAbsolute_goUp]
          refine ⟨?_, rfl⟩
          rw [hup]
          rfl
      · next hup =>
          obtain ⟨hfold, habsolute⟩ := ih (h.child hup) hstart
          rw [hfold, habsolute, ← fold_append]
          refine ⟨?_, rfl⟩
          rw [← fold_append]
          exact congrArg (fold start) (List.append_assoc ..)

/-- From the root or from the working directory names lead to the same place
before and after they are folded. -/
theorem resolve_goAlong (path : Path) (cwd : List Text) :
    let start : Path := if path.isAbsolute then .absolute [] else {}
    (start.goAlong path.names).isAbsolute = path.isAbsolute ∧
      (start.goAlong path.names).resolve cwd = path.resolve cwd := by
  intro start
  have hstart : start.isAbsolute = path.isAbsolute ∧ start.names = [] := by
    unfold start
    cases path.isAbsolute with
    | true => exact ⟨rfl, rfl⟩
    | false => exact ⟨rfl, rfl⟩
  obtain ⟨hanchor, hnames⟩ := hstart
  have hfolded : start.IsFolded := fun _ => by simp [hnames]
  have hcwd : start.isAbsolute = true →
      (if path.isAbsolute then [] else cwd) = [] :=
      fun h => if_pos (hanchor ▸ h)
  obtain ⟨hfold, habsolute⟩ := fold_goAlong hfolded hcwd path.names
  rw [hnames] at hfold
  refine ⟨habsolute.trans hanchor, ?_⟩
  rw [resolve, resolve, habsolute, hanchor, hfold]
  rfl

end Path

namespace Disk

theorem fromRoot_congr (disk : Disk) {p q : Path}
    (habsolute : p.isAbsolute = q.isAbsolute)
    (h : ∀ cwd, p.resolve cwd = q.resolve cwd) :
    disk.fromRoot p = disk.fromRoot q := by
  have hresolve : p.resolve = q.resolve := funext h
  rw [fromRoot, fromRoot, habsolute, hresolve, h []]

namespace Linkless

variable {disk : Disk}

theorem resolveOn_eq (h : disk.Linkless)
    (enter : List (Path × Option Path) → Path → Path → Except PathFault Trail)
    (known : List (Path × Option Path)) {path : Path}
    (hpath : path.hasNul = false) (names : List Text) :
    disk.resolveOn enter known path names =
      if Path.hasNul { names := names } then .error .nul
      else .ok ⟨path.goAlong names, true, known⟩ := by
  induction names generalizing path with
  | nil => rfl
  | cons name names ih =>
      rw [resolveOn, Path.goAlong_cons]
      split
      · next hup =>
          have hnul : Path.hasNul { names := name :: names } =
              Path.hasNul { names := names } := by
            rw [hup]
            rfl
          rw [ih (Path.hasNul_goUp hpath), hnul]
      · have hchild : (path.child name).hasNul = name.elem '\x00' := by
          rw [Path.hasNul] at hpath ⊢
          simp only [Path.child, List.any_append, hpath, List.any_cons,
            List.any_nil, Bool.false_or, Bool.or_false]
        have hnul : Path.hasNul { names := name :: names } =
            (name.elem '\x00' || Path.hasNul { names := names }) := rfl
        rw [h.linkAt?_eq, hchild, hnul]
        cases hname : name.elem '\x00' with
        | true => rfl
        | false => exact ih (hchild.trans hname)

/-- Without links a path is resolved by its names alone. -/
theorem resolve_eq (h : disk.Linkless) (path : Path) :
    disk.resolve path =
      if path.hasNul then .error .nul
      else (disk.fromRoot path).bind fun file =>
        if file.hasNul then .error .nul else .ok file := by
  have hstart : Path.hasNul (if path.isAbsolute then .absolute [] else {}) =
      false := by
    split <;> rfl
  have hnames : Path.hasNul { names := path.names } = path.hasNul := rfl
  rw [resolve, h.resolveOn_eq _ _ hstart, hnames]
  split
  · rfl
  · have hroot := disk.fromRoot_congr (path.resolve_goAlong []).1
      fun cwd => (path.resolve_goAlong cwd).2
    change (disk.fromRoot _).bind _ = _
    rw [hroot]
    refine congrArg (disk.fromRoot path).bind (funext fun file => ?_)
    split
    · rfl
    · split
      · next hloop => exact absurd hloop (h.walk_ne_loop file)
      · rfl

theorem resolve_ne_nul (h : disk.Linkless) (hnames : disk.HasProperNames)
    {path : Path} (hnul : path.hasNul = false) :
    disk.resolve path ≠ .error .nul := by
  rw [h.resolve_eq, hnul, if_neg (by decide)]
  cases hroot : disk.fromRoot path with
  | error fault =>
      obtain rfl := fault_of_fromRoot hroot
      exact fun hfault => by cases hfault
  | ok file =>
      have hfile : file.hasNul = false := by
        obtain ⟨start, rfl, hstart⟩ := fromRoot_eq_ok hroot
        rw [Path.hasNul_eq_false_iff] at hnul ⊢
        intro name hname
        rcases Path.mem_fold hname with hname | ⟨hname, -⟩
        · rcases hstart with ⟨-, rfl⟩ | ⟨-, -, rfl⟩
          · cases hname
          · exact (hnames.cwd name hname).2
        · exact hnul name hname
      change (if file.hasNul then _ else _) ≠ _
      rw [hfile]
      exact fun hfault => by cases hfault

/-- Where a path is resolved from: the root, or a working directory that
stands. -/
theorem resolve_cases (h : disk.Linkless) {path file : Path}
    (hfile : disk.resolve path = .ok file) :
    ∃ start, file = .absolute (Path.fold start path.names) ∧
      (path.isAbsolute = true ∧ start = [] ∨
        path.isAbsolute = false ∧ disk.lost = none ∧ start = disk.cwd) := by
  rw [h.resolve_eq] at hfile
  split at hfile
  · cases hfile
  · obtain ⟨resolved, hresolved, hfile⟩ := bind_eq_ok_iff.mp hfile
    split at hfile
    · cases hfile
    · obtain rfl := Except.ok.inj hfile
      exact fromRoot_eq_ok hresolved

end Linkless

end Disk

/-- Without links a resolved path is its own file. -/
theorem Path.IsResolved.resolve {path : Path} (h : path.IsResolved)
    {disk : Disk} (hdisk : disk.Linkless) : disk.resolve path = .ok path := by
  have hroot : disk.fromRoot path = .ok path := by
    rw [Disk.fromRoot, if_pos h.isAbsolute, Path.resolve,
      if_pos h.isAbsolute, h.fold, ← h.eq_absolute]
  rw [hdisk.resolve_eq, h.hasNul, hroot]
  change (if path.hasNul then _ else _) = _
  rw [h.hasNul]
  rfl

theorem Path.IsResolved.eq_of_walkFrom {path : Path} (h : path.IsResolved)
    {disk : Disk} (hdisk : disk.Linkless) {there : List Text}
    (hwalk : disk.walkFrom [] path.names = .ok there) : there = path.names := by
  rw [hdisk.eq_fold_of_walkFrom hwalk, h.fold]

/-- Walking to a resolved path leads to its own names. -/
theorem Path.IsResolved.walk_eq {path : Path} (h : path.IsResolved)
    {disk : Disk} (hdisk : disk.Linkless) :
    disk.walk path =
      if Disk.pathLimit < Disk.byteSize path.toText then .error .tooLong
      else (disk.walkFrom [] path.names).bind fun _ =>
        match disk.entry? path.names with
        | none => .error .missing
        | some entry => .ok (some path.names, entry) := by
  rw [Disk.walk, Disk.follow, h.isAbsolute]
  cases hwalk : disk.walkFrom [] path.names with
  | error fault => rfl
  | ok there =>
      obtain rfl := h.eq_of_walkFrom hdisk hwalk
      rfl

namespace Disk

/-- Something stands only under a path without null characters. -/
theorem hasNul_of_look {disk : Disk} {path : Path} {entry : DiskEntry}
    (h : disk.look path = .ok (some entry)) : path.hasNul = false := by
  rw [look] at h
  split at h
  · cases h
  · next hnul => exact Bool.not_eq_true _ ▸ hnul

/-- A path cannot be asked about if it is too long, or if a directory on its way
may not be passed through. -/
theorem fault_of_look {disk : Disk} {path : Path} {fault : PathFault}
    (h : disk.look path = .error fault) : fault = .tooLong ∨
    fault = .denied := by
  rw [look] at h
  split at h
  · cases h
  · split at h
    · cases h
    · exact .inl (Except.error.inj h).symm
    · exact .inr (Except.error.inj h).symm
    · cases h

theorem barred_of_look {disk : Disk} {path : Path}
    (h : disk.look path = .error .denied) : disk.barred ≠ [] := by
  intro hbarred
  rw [look] at h
  split at h
  · cases h
  · split at h
    · cases h
    · cases h
    · next hdenied => exact walk_ne_denied hbarred path hdenied
    · cases h

theorem isDirectory_eq_true_iff {disk : Disk} {path : Path} :
    disk.isDirectory path = .ok true ↔
      disk.look path = .ok (some .directory) := by
  rw [isDirectory, map_eq_ok_iff]
  constructor
  · intro h
    obtain ⟨found, hlook, hfound⟩ := h
    split at hfound
    · exact hlook
    · cases hfound
  · intro hlook
    exact ⟨_, hlook, rfl⟩

theorem isFile_eq_true_iff {disk : Disk} {path : Path} :
    disk.isFile path = .ok true ↔
      ∃ bytes, disk.look path = .ok (some (.file bytes)) := by
  rw [isFile, map_eq_ok_iff]
  constructor
  · intro h
    obtain ⟨found, hlook, hfound⟩ := h
    split at hfound
    · exact ⟨_, hlook⟩
    · cases hfound
  · intro h
    obtain ⟨bytes, hlook⟩ := h
    exact ⟨_, hlook, rfl⟩

theorem hasNul_of_exists {disk : Disk} {path : Path}
    (h : disk.exists? path = .ok true) : path.hasNul = false := by
  obtain ⟨found, hlook, hfound⟩ := map_eq_ok_iff.mp h
  obtain ⟨entry, rfl⟩ := Option.isSome_iff_exists.mp hfound
  exact hasNul_of_look hlook

theorem hasNul_of_isDirectory {disk : Disk} {path : Path}
    (h : disk.isDirectory path = .ok true) : path.hasNul = false :=
  hasNul_of_look (isDirectory_eq_true_iff.mp h)

end Disk

theorem Path.IsResolved.look_eq_some_iff {path : Path} (h : path.IsResolved)
    {disk : Disk} (hdisk : disk.Linkless) {entry : DiskEntry} :
    disk.look path = .ok (some entry) ↔
      Disk.byteSize path.toText ≤ Disk.pathLimit ∧
        (∃ there, disk.walkFrom [] path.names = .ok there) ∧
        disk.entry? path.names = some entry := by
  rw [Disk.look, h.hasNul, if_neg (by decide), h.walk_eq hdisk]
  by_cases hlong : Disk.pathLimit < Disk.byteSize path.toText
  · rw [if_pos hlong]
    refine ⟨fun h => ?_, fun h => absurd h.1 (Nat.not_le.mpr hlong)⟩
    cases h
  · rw [if_neg hlong]
    cases disk.walkFrom [] path.names with
    | error fault => cases fault <;> simp [Except.bind]
    | ok there =>
        cases disk.entry? path.names with
        | none => simp [Except.bind]
        | some other => simp [Except.bind, Nat.le_of_not_lt hlong]

theorem Text.joinWith_isPrefix (separator : Text) (names more : List Text) :
    Text.joinWith separator names <+:
      Text.joinWith separator (names ++ more) := by
  induction names with
  | nil => exact List.nil_prefix
  | cons name names ih =>
      cases names with
      | nil =>
          cases more with
          | nil => exact List.prefix_rfl
          | cons other more =>
              exact (List.prefix_append _ _).trans (List.prefix_append _ _)
      | cons other names => exact (List.prefix_append_right_inj _).mpr ih

namespace Disk

theorem byteSize_toText_le (names more : List Text) :
    byteSize (Path.absolute names).toText ≤
      byteSize (Path.absolute (names ++ more)).toText := by
  obtain ⟨rest, hrest⟩ := Text.joinWith_isPrefix ['/'] names more
  have htext : (Path.absolute (names ++ more)).toText =
      (Path.absolute names).toText ++ rest := by
    show ['/'] ++ Text.joinWith ['/'] (names ++ more) =
      ['/'] ++ Text.joinWith ['/'] names ++ rest
    rw [← hrest, List.append_assoc]
  rw [htext, byteSize, byteSize, Utf8.encode, Utf8.encode, List.flatMap_append,
    List.length_append]
  omega

/-- What stands under a path stands in directories. -/
theorem isDirectory_of_look {disk : Disk} (hdisk : disk.Linkless)
    {names more : List Text} {entry : DiskEntry}
    (hresolved : (Path.absolute (names ++ more)).IsResolved) (hmore : more ≠ [])
    (h : disk.look (.absolute (names ++ more)) = .ok (some entry)) :
    disk.isDirectory (.absolute names) = .ok true := by
  have hnames : (Path.absolute names).IsResolved :=
    ⟨rfl, fun name hname => hresolved.names name
      (List.mem_append_left more hname)⟩
  obtain ⟨hsize, ⟨there, hwalk⟩, -⟩ := (hresolved.look_eq_some_iff hdisk).mp h
  change disk.walkFrom [] (names ++ more) = .ok there at hwalk
  rw [hdisk.walkFrom_append] at hwalk
  obtain ⟨middle, hmiddle, hlast⟩ := bind_eq_ok_iff.mp hwalk
  obtain rfl : middle = names := hnames.eq_of_walkFrom hdisk hmiddle
  obtain ⟨name, more, rfl⟩ := List.exists_cons_of_ne_nil hmore
  rw [isDirectory_eq_true_iff, hnames.look_eq_some_iff hdisk]
  exact ⟨(byteSize_toText_le middle _).trans hsize, ⟨middle, hmiddle⟩,
    (hdisk.walkFrom_cons_eq_ok hlast).1⟩

theorem walk_of_isDirectory {disk : Disk} (hdisk : disk.Linkless) {path : Path}
    (hpath : path.IsResolved) (h : disk.isDirectory path = .ok true) :
    disk.walk path = .ok (some path.names, .directory) := by
  obtain ⟨hsize, ⟨there, hwalk⟩, hentry⟩ :=
    (hpath.look_eq_some_iff hdisk).mp (isDirectory_eq_true_iff.mp h)
  rw [hpath.walk_eq hdisk, if_neg (by omega), hwalk, hentry]
  rfl

end Disk

end GrammarLint
