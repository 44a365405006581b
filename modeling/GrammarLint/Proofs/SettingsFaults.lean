import GrammarLint.Proofs.CheckOutcome
import GrammarLint.Server.Session

/-!
# How settings fail

Settings that cannot be used are an error for the user, with the file they stand
in. But reading settings can fail in other ways as well, and then it breaks off
whatever asked for them. This file says in which, for every disk.

`BreaksOff` specifies a step: it succeeds, or fails with a fault of the
settings, or breaks off with exactly the failures in a list. The lists are put
together the way the steps are: for a file (`FileBreaks`), for the table of
settings in it (`TableBreaks`), for loading it (`LoadBreaks`), for the search in
a directory (`DirectoryBreaks`) and from there to the root (`SearchBreaks`,
`FindBreaks`), and for all of it (`ResolveBreaks`).

Two of them are about the contents of a file. Bytes that are no UTF-8 break
reading off, and so does a description of a project in which something else than
a table stands under `tool` or under the name of the tool itself.

Whoever asked is affected in one of two ways. After a fault a session goes on
with the defaults and a check ends with 2; where reading broke off, a session
keeps the settings it had and fails, and a check ends with 1 and the failure.
-/

namespace GrammarLint

/-- A step that reads settings succeeds, fails with a fault of the settings, or
breaks off with exactly these failures, which are no errors for the user. -/
structure BreaksOff {α : Type} (x : Except Failure α)
    (breaks : Failure → Prop) : Prop where
  fault : ∀ failure, x = .error failure →
    breaks failure ∨ ∃ file fault, failure = .config file fault
  unshown : ∀ failure, breaks failure →
    x = .error failure ∧ failure.shown? = none

namespace BreaksOff

theorem ok {α : Type} (a : α) : BreaksOff (.ok a) fun _ => False :=
  ⟨by simp, by simp⟩

theorem inFile {α : Type} (file : Path) (x : Except ConfigFault α) :
    BreaksOff (Config.inFile file x) fun _ => False := by
  refine ⟨fun failure h => ?_, fun _ h => h.elim⟩
  cases x with
  | ok a => cases h
  | error fault => exact .inr ⟨file, fault, (Except.error.inj h).symm⟩

theorem path {α : Type} (x : Except PathFault α) :
    BreaksOff (x.mapError Failure.path) fun failure =>
      ∃ fault, x = .error fault ∧ failure = .path fault := by
  refine ⟨fun failure h => ?_, ?_⟩
  · cases x with
    | ok a => cases h
    | error fault => exact .inl ⟨fault, rfl, (Except.error.inj h).symm⟩
  · intro failure hgiven
    obtain ⟨fault, rfl, rfl⟩ := hgiven
    exact ⟨rfl, rfl⟩

theorem bind {α β : Type} {x : Except Failure α} {f : α → Except Failure β}
    {p : Failure → Prop} {q : α → Failure → Prop} (hx : BreaksOff x p)
    (hf : ∀ a, x = .ok a → BreaksOff (f a) (q a)) :
    BreaksOff (x >>= f) fun failure => p failure ∨ ∃ a, x = .ok a ∧
    q a failure := by
  cases x with
  | error other =>
      refine ⟨fun failure h => ?_, ?_⟩
      · obtain rfl := Except.error.inj h
        exact (hx.fault _ rfl).imp_left .inl
      · intro failure hcases
        rcases hcases with hfailure | ⟨a, ha, -⟩
        · obtain ⟨h, hshown⟩ := hx.unshown failure hfailure
          exact ⟨congrArg Except.error (Except.error.inj h), hshown⟩
        · cases ha
  | ok a =>
      have hfa := hf a rfl
      refine ⟨fun failure h => ?_, ?_⟩
      · exact (hfa.fault failure h).imp_left fun hfailure =>
          .inr ⟨a, rfl, hfailure⟩
      · intro failure hcases
        rcases hcases with hfailure | ⟨a', ha', hfailure⟩
        · cases (hx.unshown failure hfailure).1
        · obtain rfl := Except.ok.inj ha'
          exact hfa.unshown failure hfailure

theorem ite {α : Type} {x y : Except Failure α} {p q : Failure → Prop}
    (hx : BreaksOff x p) (hy : BreaksOff y q) (b : Bool) :
    BreaksOff (if b then x else y) fun failure =>
      if b then p failure else q failure := by
  cases b with
  | true => exact hx
  | false => exact hy

theorem congr {α : Type} {x : Except Failure α} {p q : Failure → Prop}
    (hx : BreaksOff x p) (h : ∀ failure, p failure ↔ q failure) :
    BreaksOff x q :=
  ⟨fun failure hfailure => (hx.fault failure hfailure).imp_left (h failure).mp,
    fun failure hfailure => hx.unshown failure ((h failure).mpr hfailure)⟩

end BreaksOff

theorem Disk.readText_cases (disk : Disk) (file : Path) :
    (file.hasNul = true ∧ disk.readText file = .error .nul) ∨
    (∃ fault, disk.readText file = .error (.file fault)) ∨
    (∃ bytes fault, file.hasNul = false ∧ disk.read file = .ok bytes ∧
      Utf8.decode bytes = .error fault ∧
      disk.readText file = .error (.encoding fault)) ∨
    ∃ text, disk.readText file = .ok text := by
  rw [Disk.readText]
  split
  · next hnul => exact .inl ⟨hnul, rfl⟩
  · next hnul =>
      rw [Bool.not_eq_true] at hnul
      split
      · next fault hread => exact .inr (.inl ⟨fault, rfl⟩)
      · next bytes hread =>
          split
          · next fault hdecode =>
              exact .inr (.inr (.inl ⟨bytes, fault, hnul, hread, hdecode, rfl⟩))
          · next text hdecode => exact .inr (.inr (.inr ⟨_, rfl⟩))

namespace Config

/-- The data in a file of settings. -/
def Holds (disk : Disk) (file : Path) (data : Toml.Table) : Prop :=
  ∃ text, disk.readText file = .ok text ∧
    Toml.read disk.room.values text = .ok data

/-- The value is a table. -/
def IsTable (value : Toml.Value) : Prop := ∃ entries, value = .table entries

/-- What makes reading a file break off: its path has a null character, its
bytes are no UTF-8, it has a number or a nesting that is not read, or it
describes a project and has something else than a table under `tool`. -/
inductive FileBreaks (disk : Disk) (file : Path) : Failure → Prop
  | nul (h : file.hasNul = true) : FileBreaks disk file (.path .nul)
  | encoding {bytes : List UInt8} {fault : Utf8.Fault}
      (hnul : file.hasNul = false)
      (hread : disk.read file = .ok bytes)
      (h : Utf8.decode bytes = .error fault) :
      FileBreaks disk file (.configEncoding fault)
  | number {text : Text} (htext : disk.readText file = .ok text)
      (h : Toml.read disk.room.values text = .error .longInteger) :
      FileBreaks disk file .longNumber
  | nesting {text : Text} (htext : disk.readText file = .ok text)
      (h : Toml.read disk.room.values text = .error .nesting) :
      FileBreaks disk file .deepNesting
  | tools {data : Toml.Table} {value : Toml.Value}
      (hname : file.name = projectFileName)
      (hdata : Holds disk file data)
      (hvalue : data.get? "tool".toList = some value)
      (h : ¬ IsTable value) : FileBreaks disk file .settingsNotTable

theorem ofProject?_of_not_isTable {data : Toml.Table} {value : Toml.Value}
    (hvalue : data.get? "tool".toList = some value) (h : ¬ IsTable value) :
    ofProject? data = .error .settingsNotTable := by
  rw [ofProject?, hvalue]
  cases value with
  | table entries => exact absurd ⟨entries, rfl⟩ h
  | text | scalar | array => rfl

theorem settingsIn_of_holds {disk : Disk} {file : Path} {data : Toml.Table}
    (h : Holds disk file data) :
    settingsIn disk file =
      if file.name = projectFileName then ofProject? data else .ok
        (some (.table data)) := by
  obtain ⟨text, htext, hdata⟩ := h
  rw [settingsIn, htext]
  dsimp only
  rw [hdata]

theorem breaksOff_settingsIn (disk : Disk) (file : Path) :
    BreaksOff (settingsIn disk file) (FileBreaks disk file) := by
  constructor
  · intro failure h
    rw [settingsIn] at h
    rcases disk.readText_cases file with ⟨hnul, htext⟩ | ⟨fault, htext⟩ |
        ⟨bytes, fault, hnul, hread, hdecode, htext⟩ | ⟨text, htext⟩
    · rw [htext] at h
      exact .inl (Except.error.inj h ▸ .nul hnul)
    · rw [htext] at h
      exact .inr ⟨file, .unreadable fault, (Except.error.inj h).symm⟩
    · rw [htext] at h
      exact .inl (Except.error.inj h ▸ .encoding hnul hread hdecode)
    · rw [htext] at h
      dsimp only at h
      split at h
      · next hnumber => exact .inl (Except.error.inj h ▸ .number htext hnumber)
      · next hnesting =>
          exact .inl (Except.error.inj h ▸ .nesting htext hnesting)
      · next fault _ _ _ => exact .inr ⟨file, .malformed fault,
          (Except.error.inj h).symm⟩
      · next data hdata =>
          split at h
          · next hname =>
              rw [ofProject?] at h
              split at h
              · cases h
              · cases h
              · next value htable hvalue =>
                  refine .inl (Except.error.inj h ▸ .tools hname ⟨text, htext,
                    hdata⟩ hvalue ?_)
                  intro hentries
                  obtain ⟨entries, rfl⟩ := hentries
                  exact htable entries rfl
          · cases h
  · intro failure h
    cases h with
    | nul h => exact ⟨by rw [settingsIn, Disk.readText, if_pos h], rfl⟩
    | encoding hnul hread h =>
        rw [settingsIn, Disk.readText, hnul, if_neg (by decide), hread]
        dsimp only
        rw [h]
        exact ⟨rfl, rfl⟩
    | number htext h =>
        rw [settingsIn, htext]; dsimp only; rw [h]; exact ⟨rfl, rfl⟩
    | nesting htext h =>
        rw [settingsIn, htext]; dsimp only; rw [h]; exact ⟨rfl, rfl⟩
    | tools hname hdata hvalue h =>
        rw [settingsIn_of_holds hdata, if_pos hname,
          ofProject?_of_not_isTable hvalue h]
        exact ⟨rfl, rfl⟩

/-- The table of settings in a file; empty if a project has none for the
tool. -/
def tableIn (disk : Disk) (file : Path) : Except Failure Toml.Table :=
  (settingsIn disk file).bind fun
    | none => .ok []
    | some (.table settings) => .ok settings
    | some _ => .error .settingsNotTable

/-- What makes finding the table break off: reading the file does, or a project
has something else than a table for the tool. -/
inductive TableBreaks (disk : Disk) (file : Path) : Failure → Prop
  | file {failure : Failure} (h : FileBreaks disk file failure) :
      TableBreaks disk file failure
  | settings {data tools : Toml.Table} {value : Toml.Value}
      (hname : file.name = projectFileName)
      (hdata : Holds disk file data)
      (htools : data.get? "tool".toList = some (.table tools))
      (hvalue : tools.get? toolName.toList = some value) (h : ¬ IsTable value) :
      TableBreaks disk file .settingsNotTable

/-- The settings of a file are no table only if the file describes a project. -/
theorem exists_of_settingsIn {disk : Disk} {file : Path} {value : Toml.Value}
    (hvalue : settingsIn disk file = .ok (some value)) (h : ¬ IsTable value) :
    file.name = projectFileName ∧ ∃ data tools, Holds disk file data ∧
      data.get? "tool".toList = some (.table tools) ∧
        Toml.Table.get? tools toolName.toList = some value := by
  rw [settingsIn] at hvalue
  split at hvalue
  · cases hvalue
  · cases hvalue
  · cases hvalue
  · next text htext =>
      split at hvalue
      · cases hvalue
      · cases hvalue
      · cases hvalue
      · next data hdata =>
          split at hvalue
          · next hname =>
              rw [ofProject?] at hvalue
              split at hvalue
              · cases hvalue
              · next tools htools =>
                  exact ⟨hname, data, tools, ⟨text, htext, hdata⟩, htools,
                    Except.ok.inj hvalue⟩
              · cases hvalue
          · exact absurd ⟨data, (Option.some.inj (Except.ok.inj hvalue)).symm⟩ h

theorem tableIn_of_not_isTable {disk : Disk} {file : Path} {value : Toml.Value}
    (hvalue : settingsIn disk file = .ok (some value)) (h : ¬ IsTable value) :
    tableIn disk file = .error .settingsNotTable := by
  rw [tableIn, hvalue]
  cases value with
  | table entries => exact absurd ⟨entries, rfl⟩ h
  | text | scalar | array => rfl

theorem breaksOff_tableIn (disk : Disk) (file : Path) :
    BreaksOff (tableIn disk file) (TableBreaks disk file) := by
  have hsettings := breaksOff_settingsIn disk file
  constructor
  · intro failure h
    cases hvalue : settingsIn disk file with
    | error other =>
        rw [tableIn, hvalue] at h
        obtain rfl := Except.error.inj h
        exact (hsettings.fault _ hvalue).imp_left .file
    | ok value =>
        cases value with
        | none => rw [tableIn, hvalue] at h; cases h
        | some value =>
            by_cases htable : IsTable value
            · obtain ⟨entries, rfl⟩ := htable
              rw [tableIn, hvalue] at h
              cases h
            · rw [tableIn_of_not_isTable hvalue htable] at h
              obtain rfl := Except.error.inj h
              obtain ⟨hname, data, tools, hdata, htools, hvalue⟩ :=
                exists_of_settingsIn hvalue htable
              exact .inl (.settings hname hdata htools hvalue htable)
  · intro failure h
    cases h with
    | file h =>
        obtain ⟨herror, hshown⟩ := hsettings.unshown failure h
        exact ⟨by rw [tableIn, herror]; rfl, hshown⟩
    | settings hname hdata htools hvalue h =>
        refine ⟨tableIn_of_not_isTable ?_ h, rfl⟩
        rw [settingsIn_of_holds hdata, if_pos hname, ofProject?, htools]
        exact congrArg Except.ok hvalue

/-- What makes loading a file of settings break off: finding their table does,
or the root cannot be resolved, because the working directory has been removed
or links on the way lead in a circle. -/
inductive LoadBreaks (disk : Disk) (file : Path) : Failure → Prop
  | table {failure : Failure} (h : TableBreaks disk file failure) :
      LoadBreaks disk file failure
  | root {settings : Toml.Table} {pattern : Text} {fault : PathFault}
      (hsettings : tableIn disk file = .ok settings)
      (hpattern : patternOf settings ({} : Config).pattern = .ok pattern)
      (h : disk.resolve file.parent = .error fault) :
      LoadBreaks disk file (.path fault)

theorem load_eq (disk : Disk) (file : Path) :
    load disk file = tableIn disk file >>= fun settings =>
      inFile file (patternOf settings ({} : Config).pattern) >>= fun pattern =>
        (disk.resolve file.parent).mapError Failure.path >>= fun root =>
          inFile file
            (readLists { root, pattern, file := some file } settings) := by
  rw [load, tableIn]
  cases settingsIn disk file with
  | error failure => rfl
  | ok value =>
      cases value with
      | none => rfl
      | some value => cases value <;> rfl

theorem breaksOff_load (disk : Disk) (file : Path) :
    BreaksOff (load disk file) (LoadBreaks disk file) := by
  have hload := (breaksOff_tableIn disk file).bind fun settings _ =>
    (BreaksOff.inFile file (patternOf settings ({} : Config).pattern)).bind
      fun pattern _ =>
      (BreaksOff.path (disk.resolve file.parent)).bind fun root _ =>
        BreaksOff.inFile file
          (readLists { root, pattern, file := some file } settings)
  rw [← load_eq] at hload
  refine hload.congr fun failure => ⟨?_, fun h => ?_⟩
  · intro hcases
    rcases hcases with htable | ⟨settings, hsettings,
      hfalse | ⟨pattern, hpattern, hroot | ⟨-, -, hfalse⟩⟩⟩
    · exact .table htable
    · exact hfalse.elim
    · obtain ⟨fault, hfault, rfl⟩ := hroot
      exact .root hsettings (mapError_eq_ok_iff.mp hpattern) hfault
    · exact hfalse.elim
  · cases h with
    | table h => exact .inl h
    | root hsettings hpattern hfault =>
        exact .inr ⟨_, hsettings, .inr ⟨_, mapError_eq_ok_iff.mpr hpattern,
          .inl ⟨_, hfault, rfl⟩⟩⟩

/-! ## Searches

A search asks for two files in a directory and goes up as long as there is
neither. What breaks it off is what breaks it off in the first directory that
does not let it pass. -/

/-- What makes the search in a directory break off: a path is too long to ask
about, or may not be asked about, or there is only a description of a project,
and reading that one breaks off. -/
inductive DirectoryBreaks (disk : Disk) (directory : Path) : Failure → Prop
  | own {fault : PathFault}
      (h : disk.isFile (directory.child fileName) = .error fault) :
      DirectoryBreaks disk directory (.path fault)
  | project {fault : PathFault}
      (hown : disk.isFile (directory.child fileName) = .ok false)
      (h : disk.isFile (directory.child projectFileName) = .error fault) :
      DirectoryBreaks disk directory (.path fault)
  | file {failure : Failure}
      (hown : disk.isFile (directory.child fileName) = .ok false)
      (hproject : disk.isFile (directory.child projectFileName) = .ok true)
      (h : FileBreaks disk (directory.child projectFileName) failure) :
      DirectoryBreaks disk directory failure

theorem breaksOff_findIn (disk : Disk) (directory : Path) :
    BreaksOff (findIn disk directory) (DirectoryBreaks disk directory) := by
  have hfind := (BreaksOff.path (disk.isFile (directory.child fileName))).bind
    fun isOwn _ =>
    (BreaksOff.ok (some (directory.child fileName))).ite
      ((BreaksOff.path (disk.isFile (directory.child projectFileName))).bind
        fun isProject _ =>
        ((breaksOff_settingsIn disk (directory.child projectFileName)).bind
          fun value _ =>
          BreaksOff.ok
            (if value.isSome then some (directory.child projectFileName)
              else none)).ite
            (BreaksOff.ok none) isProject) isOwn
  refine BreaksOff.congr hfind fun failure => ⟨?_, fun h => ?_⟩
  · intro hcases
    rcases hcases with ⟨fault, hfault, rfl⟩ | ⟨isOwn, hown, h⟩
    · exact .own hfault
    · rw [mapError_eq_ok_iff] at hown
      cases isOwn with
      | true => exact h.elim
      | false =>
          rcases h with ⟨fault, hfault, rfl⟩ | ⟨isProject, hproject, h⟩
          · exact .project hown hfault
          · rw [mapError_eq_ok_iff] at hproject
            cases isProject with
            | true =>
                exact .file hown hproject
                  (h.resolve_right fun ⟨_, _, hfalse⟩ => hfalse)
            | false => exact h.elim
  · cases h with
    | own hfault => exact .inl ⟨_, hfault, rfl⟩
    | project hown hfault =>
        exact .inr ⟨false, mapError_eq_ok_iff.mpr hown, .inl ⟨_, hfault, rfl⟩⟩
    | file hown hproject h =>
        exact .inr ⟨false, mapError_eq_ok_iff.mpr hown,
          .inr ⟨true, mapError_eq_ok_iff.mpr hproject, .inl h⟩⟩

/-- What makes a search break off: that in a directory does, and no
nearer one has settings. -/
inductive SearchBreaks (disk : Disk) : List Path → Failure → Prop
  | here {directory : Path} {above : List Path} {failure : Failure}
      (h : DirectoryBreaks disk directory failure) :
      SearchBreaks disk (directory :: above) failure
  | above {directory : Path} {above : List Path} {failure : Failure}
      (hnone : findIn disk directory = .ok none)
      (h : SearchBreaks disk above failure) :
      SearchBreaks disk (directory :: above) failure

theorem breaksOff_findFirst (disk : Disk) (directories : List Path) :
    BreaksOff (findFirst disk directories) (SearchBreaks disk directories) := by
  induction directories with
  | nil =>
      exact (BreaksOff.ok none).congr fun failure =>
        ⟨False.elim, fun h => nomatch h⟩
  | cons directory above ih =>
      have hfind := breaksOff_findIn disk directory
      rw [findFirst]
      cases hanswer : findIn disk directory with
      | error failure =>
          rw [hanswer] at hfind
          refine hfind.congr fun failure => ⟨.here, fun h => ?_⟩
          cases h with
          | here h => exact h
          | above hnone => cases hanswer.symm.trans hnone
      | ok found =>
          rw [hanswer] at hfind
          cases found with
          | some file =>
              refine hfind.congr fun failure => ⟨.here, fun h => ?_⟩
              cases h with
              | here h => exact h
              | above hnone => cases hanswer.symm.trans hnone
          | none =>
              refine ih.congr fun failure => ⟨.above hanswer, fun h => ?_⟩
              cases h with
              | here h => cases (hfind.unshown failure h).1
              | above _ h => exact h

/-- What makes looking for settings break off: the starting point cannot be
told, or the search from there up to the root breaks off. -/
inductive FindBreaks (disk : Disk) (start : Path) : Failure → Prop
  | start {fault : PathFault} (h : directoryOf disk start = .error fault) :
      FindBreaks disk start (.path fault)
  | search {directory : Path} {failure : Failure}
      (hstart : directoryOf disk start = .ok directory)
      (h : SearchBreaks disk
        ((Path.ancestors directory.names).map Path.absolute) failure) :
      FindBreaks disk start failure

theorem breaksOff_find (disk : Disk) (start : Path) :
    BreaksOff (find disk start) (FindBreaks disk start) := by
  have hfind := (BreaksOff.path (directoryOf disk start)).bind
    fun directory _ =>
    breaksOff_findFirst disk
      ((Path.ancestors directory.names).map Path.absolute)
  refine BreaksOff.congr hfind fun failure => ⟨?_, fun h => ?_⟩
  · intro hcases
    rcases hcases with ⟨fault, hfault, rfl⟩ | ⟨directory, hdirectory, h⟩
    · exact .start hfault
    · exact .search (mapError_eq_ok_iff.mp hdirectory) h
  · cases h with
    | start hfault => exact .inl ⟨_, hfault, rfl⟩
    | search hdirectory h =>
        exact .inr ⟨_, mapError_eq_ok_iff.mpr hdirectory, h⟩

/-- What makes resolving settings break off: loading the file that is given,
looking for one, or loading the one that is found. -/
inductive ResolveBreaks (disk : Disk) (start : Path) :
    Option Path → Failure → Prop
  | given {file : Path} {failure : Failure} (h : LoadBreaks disk file failure) :
      ResolveBreaks disk start (some file) failure
  | find {failure : Failure} (h : FindBreaks disk start failure) :
      ResolveBreaks disk start none failure
  | found {file : Path} {failure : Failure}
      (hfind : Config.find disk start = .ok (some file))
      (h : LoadBreaks disk file failure) : ResolveBreaks disk start none failure

theorem resolve_none (disk : Disk) (start : Path) :
    resolve disk start none = find disk start >>= fun
      | some file => load disk file
      | none =>
        ((directoryOf disk start).mapError Failure.path).map fun root =>
          { root } := by
  rw [resolve]
  cases find disk start with
  | error failure => rfl
  | ok found =>
      cases found with
      | none => rfl
      | some file => rfl

theorem breaksOff_resolve (disk : Disk) (start : Path)
    (explicit : Option Path) :
    BreaksOff (resolve disk start explicit)
      (ResolveBreaks disk start explicit) := by
  cases explicit with
  | some file =>
      refine (breaksOff_load disk file).congr fun failure =>
        ⟨.given, fun h => ?_⟩
      cases h with
      | given h => exact h
  | none =>
      have hfind := breaksOff_find disk start
      rw [resolve_none]
      refine (hfind.bind (q := fun found failure => ∃ file, found = some file ∧
        LoadBreaks disk file failure) fun found hfound => ?_).congr
          fun failure => ⟨?_, fun h => ?_⟩
      · cases found with
        | some file =>
            exact (breaksOff_load disk file).congr fun failure => by simp
        | none =>
            cases hdirectory : directoryOf disk start with
            | error fault =>
                cases hfound.symm.trans (hfind.unshown _ (.start hdirectory)).1
            | ok directory =>
                exact (BreaksOff.ok _).congr fun failure => by simp
      · intro hcases
        rcases hcases with h | ⟨_, hfound, file, rfl, h⟩
        · exact .find h
        · exact .found hfound h
      · cases h with
        | find h => exact .inl h
        | found hfound h => exact .inr ⟨_, hfound, _, rfl, h⟩

end Config

theorem BreaksOff.cases {α : Type} {x : Except Failure α}
    {breaks : Failure → Prop} (h : BreaksOff x breaks)
    (hfree : ∀ failure, ¬ breaks failure) :
    (∃ a, x = .ok a) ∨ ∃ file fault, x = .error (.config file fault) := by
  cases x with
  | ok a => exact .inl ⟨a, rfl⟩
  | error failure =>
      obtain ⟨file, fault, rfl⟩ :=
        (h.fault failure rfl).resolve_left (hfree failure)
      exact .inr ⟨file, fault, rfl⟩

/-- Settings that cannot be used give way to the defaults, unless reading them
breaks off: then the session stays as it is. -/
theorem Session.loadConfig_cases {session : Session} {root : Path}
    (hroot : session.root = some root) (disk : Disk) :
    (∀ failure, Config.ResolveBreaks disk root none failure →
      session.loadConfig disk = (session, { outcome := .error failure })) ∧
    ((∀ failure, ¬ Config.ResolveBreaks disk root none failure) →
      (∃ config, Config.resolve disk root none = .ok config ∧
        session.loadConfig disk = ({ session with config }, {})) ∨
      ∃ file fault,
        Config.resolve disk root none = .error (.config file fault) ∧
        session.loadConfig disk =
          ({ session with config := { root } },
            { emissions := [.error ("Failed to load config: " ++
              (file.toString ++ ": " ++ fault.message file))] })) := by
  have hbreaks := Config.breaksOff_resolve disk root none
  constructor
  · intro failure h
    obtain ⟨herror, hshown⟩ := hbreaks.unshown failure h
    simp only [loadConfig, hroot, herror, hshown]
  · intro hfree
    rcases hbreaks.cases hfree with ⟨config, hconfig⟩ | ⟨file, fault, hfault⟩
    · exact .inl ⟨config, hconfig, by simp only [loadConfig, hroot, hconfig]⟩
    · refine .inr ⟨file, fault, hfault, ?_⟩
      simp only [loadConfig, hroot, hfault, Failure.shown?]
      rfl

theorem CheckRequest.run_of_resolve {request : CheckRequest} {disk : Disk}
    {format : ReportFormat}
    (hformat : ReportFormat.ofName? request.format = some format) {start : Path}
    (hstart : request.start disk = .ok start) {failure : Failure}
    (h : Config.resolve disk start request.config = .error failure) :
    request.run disk = .failed (request.log disk) failure := by
  have hsettings : request.settings disk = .error failure := by
    rw [settings, hstart]
    exact h
  apply run_of_error hformat
  rw [results_eq, hsettings]
  rfl

/-- How settings fail, and what a session and a check make of it. -/
theorem settings_errors (disk : Disk) :
    (∀ file, BreaksOff (Config.load disk file) (Config.LoadBreaks disk file)) ∧
    (∀ start,
      BreaksOff (Config.find disk start) (Config.FindBreaks disk start)) ∧
    (∀ start explicit, BreaksOff (Config.resolve disk start explicit)
      (Config.ResolveBreaks disk start explicit)) ∧
    (∀ (session : Session) root, session.root = some root →
      (∀ failure, Config.ResolveBreaks disk root none failure →
        session.loadConfig disk = (session, { outcome := .error failure })) ∧
      ((∀ failure, ¬ Config.ResolveBreaks disk root none failure) →
        (∃ config, Config.resolve disk root none = .ok config ∧
          session.loadConfig disk = ({ session with config }, {})) ∨
        ∃ file fault,
          Config.resolve disk root none = .error (.config file fault) ∧
          session.loadConfig disk =
            ({ session with config := { root } },
              { emissions := [.error ("Failed to load config: " ++
                (file.toString ++ ": " ++ fault.message file))] }))) ∧
    ∀ (request : CheckRequest) start,
      (ReportFormat.ofName? request.format).isSome = true →
      request.start disk = .ok start →
      (∀ failure, Config.ResolveBreaks disk start request.config failure →
        (request.run disk).exitCode = 1 ∧
        (request.run disk).failure = some failure) ∧
      ((∀ failure, ¬ Config.ResolveBreaks disk start request.config failure) →
        ∀ failure, Config.resolve disk start request.config = .error failure →
          (request.run disk).exitCode = 2 ∧
          (request.run disk).failure = none) := by
  refine ⟨Config.breaksOff_load disk, Config.breaksOff_find disk,
    Config.breaksOff_resolve disk,
    fun session root hroot => session.loadConfig_cases hroot disk,
    fun request start hname hstart => ?_⟩
  obtain ⟨format, hformat⟩ := Option.isSome_iff_exists.mp hname
  have hbreaks := Config.breaksOff_resolve disk start request.config
  constructor
  · intro failure h
    obtain ⟨herror, hshown⟩ := hbreaks.unshown failure h
    rw [CheckRequest.run_of_resolve hformat hstart herror,
      Outcome.failed, hshown]
    exact ⟨rfl, rfl⟩
  · intro hfree failure herror
    obtain ⟨file, fault, rfl⟩ :=
      (hbreaks.fault failure herror).resolve_left (hfree failure)
    rw [CheckRequest.run_of_resolve hformat hstart herror]
    exact ⟨rfl, rfl⟩

/-- A disk whose settings are one byte that starts no character. -/
def strayByteDisk : Disk where
  entries := [([Config.fileName], .file [0xff])]

/-- A disk with a link to itself. -/
def circleDisk : Disk where
  entries := [([['a']], .link { target := ⟨.here, [['a']]⟩ })]

theorem settings_errors_stray_byte :
    let failure := Failure.configEncoding ⟨0, 0xff, 1, .invalidStart⟩
    let session : Session := { root := some (.absolute []) }
    Config.load strayByteDisk (.absolute [Config.fileName]) = .error failure ∧
      failure.shown? = none ∧
      session.loadConfig strayByteDisk = (session,
        { outcome := .error failure }) ∧
      (CheckRequest.run {} strayByteDisk).exitCode = 1 ∧
      Config.find circleDisk (.absolute [['a']]) = .error (.path .loop) ∧
      Config.find { strayByteDisk with barred := [[]] } (.absolute []) =
        .error (.path .denied) := by
  intro failure session
  obtain ⟨hload, -, -, hsession, hcheck⟩ := settings_errors strayByteDisk
  have hfile :
      Config.LoadBreaks strayByteDisk (.absolute [Config.fileName]) failure :=
    .table (.file (.encoding rfl rfl rfl))
  have hresolve :
      Config.ResolveBreaks strayByteDisk (.absolute []) none failure :=
    .found rfl hfile
  have hcircle : Config.FindBreaks circleDisk (.absolute [['a']])
      (.path .loop) :=
    .start (by decide +kernel)
  have hbarred : Config.FindBreaks { strayByteDisk with barred := [[]] }
      (.absolute []) (.path .denied) := .search rfl (.here (.own rfl))
  obtain ⟨herror, hshown⟩ := (hload _).unshown failure hfile
  exact ⟨herror, hshown, (hsession session _ rfl).1 failure hresolve,
    ((hcheck {} (.absolute []) (by decide) rfl).1 failure hresolve).1,
    (((settings_errors circleDisk).2.1 _).unshown _ hcircle).1,
    (((settings_errors _).2.1 _).unshown _ hbarred).1⟩

end GrammarLint
