import GrammarLint.Proofs.FileText
import GrammarLint.Proofs.ReportedFiles
import GrammarLint.Proofs.SettingsFaults

/-!
# The nearest settings

Settings are looked for in the directory of a starting point and in those above
it, one after the other. `Config.Answers` says what a directory answers, without
the search: its own file of settings; else the description of a project, if that
has an entry for the tool, or an error, if it is malformed or may not be read. A
directory without an answer is `Config.Quiet`, unless looking into it breaks off
(`Config.DirectoryBreaks`).

* **Looking into one directory** gives its answer, and nothing exactly if it is
  quiet (`Config.Answers.findIn`, `Config.findIn_eq_none_iff`).

* **The search** gives what the first directory gives that is not quiet
  (`Config.find_of_first`).

* **What is not read.** The search looks at the directories up to that one, and
  at what leads there. On two disks without links that agree on this
  (`Disk.AgreesAround`) it ends the same.
-/

namespace GrammarLint

/-- The directory that lies so many levels above. -/
def Path.above (directory : Path) : Nat → Path
  | 0 => directory
  | k + 1 => (directory.above k).parent

theorem Path.above_eq (directory : Path) (k : Nat) :
    directory.above k =
      { directory with
        names := directory.names.take (directory.names.length - k) } := by
  induction k with
  | zero => simp [Path.above]
  | succ k ih =>
      rw [Path.above, ih, Path.parent]
      simp only [Path.mk.injEq, true_and, List.dropLast_eq_take, List.take_take,
        List.length_take]
      congr 1
      omega

theorem Path.IsResolved.above {directory : Path} (h : directory.IsResolved)
    (k : Nat) :
    (directory.above k).IsResolved := by
  rw [Path.above_eq]
  exact ⟨h.anchor, fun name hname => h.names name (List.mem_of_mem_take hname)⟩

theorem Path.above_isPrefix (directory : Path) {j k : Nat} (h : j ≤ k) :
    (directory.above k).names <+: (directory.above j).names := by
  simp only [Path.above_eq]
  exact List.take_prefix_take_left (by omega)

/-- The search visits the levels in order. -/
theorem Path.getElem?_ancestors {directory : Path}
    (h : directory.anchor = .root) {k : Nat} (hk : k ≤ directory.names.length) :
    ((Path.ancestors directory.names).map Path.absolute)[k]? =
      some (directory.above k) := by
  rw [Path.above_eq, h]
  simp [Path.ancestors, Path.absolute, Nat.lt_succ_of_le hk]

/-- Above the root there is only the root. -/
theorem Path.above_of_length_le {directory : Path} {k : Nat}
    (hk : directory.names.length ≤ k) :
    directory.above k = directory.above directory.names.length := by
  simp only [Path.above_eq, Nat.sub_eq_zero_of_le hk, Nat.sub_self]

/-- A file is read, unless it may not be. -/
theorem Disk.read_of_isFile {disk : Disk} {path : Path}
    (h : disk.isFile path = .ok true) :
    path.hasNul = false ∧
      ((∃ bytes, disk.read path = .ok bytes) ∨
        disk.read path = .error .denied) := by
  obtain ⟨bytes, hlook⟩ := Disk.isFile_eq_true_iff.mp h
  have hnul := Disk.hasNul_of_look hlook
  rw [Disk.look, hnul, if_neg (by decide)] at hlook
  refine ⟨hnul, ?_⟩
  rw [Disk.read]
  split at hlook
  · next names entry hwalk =>
      obtain rfl := Option.some.inj (Except.ok.inj hlook)
      rw [hwalk]
      dsimp only
      split
      · exact .inr rfl
      · exact .inl ⟨bytes, rfl⟩
  · cases hlook
  · cases hlook
  · cases hlook

namespace Config

/-- The text of the file is no TOML. -/
def Malformed (disk : Disk) (file : Path) (fault : Toml.Fault) : Prop :=
  (∃ text, disk.readText file = .ok text ∧
    Toml.read disk.room.values text = .error fault) ∧
    fault ≠ .longInteger ∧ fault ≠ .nesting

/-- The file has an entry for the tool. -/
def HasEntry (disk : Disk) (file : Path) : Prop :=
  ∃ data tools value, Holds disk file data ∧
    data.get? "tool".toList = some (.table tools) ∧
    Toml.Table.get? tools toolName.toList = some value

/-- What a directory answers to a search for settings. -/
inductive Answers (disk : Disk) (directory : Path) : Except Failure Path → Prop
  | own (h : disk.isFile (directory.child fileName) = .ok true) :
      Answers disk directory (.ok (directory.child fileName))
  | malformed {fault : Toml.Fault}
      (hown : disk.isFile (directory.child fileName) = .ok false)
      (hproject : disk.isFile (directory.child projectFileName) = .ok true)
      (h : Malformed disk (directory.child projectFileName) fault) :
      Answers disk directory
        (.error (.config (directory.child projectFileName) (.malformed fault)))
  | unreadable {fault : FileFault}
      (hown : disk.isFile (directory.child fileName) = .ok false)
      (hproject : disk.isFile (directory.child projectFileName) = .ok true)
      (h : disk.read (directory.child projectFileName) = .error fault) :
      Answers disk directory
        (.error (.config (directory.child projectFileName) (.unreadable fault)))
  | entry (hown : disk.isFile (directory.child fileName) = .ok false)
      (hproject : disk.isFile (directory.child projectFileName) = .ok true)
      (h : HasEntry disk (directory.child projectFileName)) :
      Answers disk directory (.ok (directory.child projectFileName))

/-- The directory has no answer, and looking into it does not break off. -/
structure Quiet (disk : Disk) (directory : Path) : Prop where
  answers : ∀ answer, ¬ Answers disk directory answer
  breaks : ∀ failure, ¬ DirectoryBreaks disk directory failure

theorem properName_fileName :
    IsProperName fileName := by unfold IsProperName; decide

theorem properName_projectFileName : IsProperName projectFileName := by
  unfold IsProperName; decide

theorem name_child_project (directory : Path) :
    (directory.child projectFileName).name = projectFileName := by
  simp [Path.name, Path.child]

theorem settingsIn_of_malformed {disk : Disk} {file : Path} {fault : Toml.Fault}
    (h : Malformed disk file fault) :
    settingsIn disk file = .error (.config file (.malformed fault)) := by
  obtain ⟨⟨text, htext, hfault⟩, hnumber, hnesting⟩ := h
  rw [settingsIn, htext]
  dsimp only
  split
  · next h => exact absurd (Except.error.inj (hfault.symm.trans h)) hnumber
  · next h => exact absurd (Except.error.inj (hfault.symm.trans h)) hnesting
  · next other _ _ h => rw [Except.error.inj (hfault.symm.trans h)]
  · next h => cases hfault.symm.trans h

theorem settingsIn_of_unreadable {disk : Disk} {file : Path} {fault : FileFault}
    (hnul : file.hasNul = false) (h : disk.read file = .error fault) :
    settingsIn disk file = .error (.config file (.unreadable fault)) := by
  rw [settingsIn, Disk.readText, hnul, if_neg (by decide), h]

/-- Reading the description of a project breaks off, or finds that it may not be
read or is malformed, or finds an entry for the tool, or finds none. -/
theorem settingsIn_cases {disk : Disk} {file : Path}
    (hname : file.name = projectFileName)
    (hfile : disk.isFile file = .ok true) :
    (∃ failure, FileBreaks disk file failure) ∨
      (∃ fault, disk.read file = .error fault) ∨
      (∃ fault, Malformed disk file fault) ∨ HasEntry disk file ∨
      settingsIn disk file = .ok none := by
  obtain ⟨hnul, ⟨bytes, hread⟩ | hdenied⟩ := Disk.read_of_isFile hfile
  · cases hdecode : Utf8.decode bytes with
    | error fault => exact .inl ⟨_, .encoding hnul hread hdecode⟩
    | ok decoded =>
        have htext : disk.readText file = .ok (Text.unifyBreaks decoded) := by
          rw [Disk.readText, hnul, if_neg (by decide), hread]
          dsimp only
          rw [hdecode]
        cases hdata : Toml.read disk.room.values (Text.unifyBreaks decoded) with
        | error fault =>
            by_cases hnumber : fault = .longInteger
            · exact .inl ⟨_, .number htext (hnumber ▸ hdata)⟩
            · by_cases hnesting : fault = .nesting
              · exact .inl ⟨_, .nesting htext (hnesting ▸ hdata)⟩
              · exact .inr (.inr (.inl
                  ⟨fault, ⟨_, htext, hdata⟩, hnumber, hnesting⟩))
        | ok data =>
            have hholds : Holds disk file data := ⟨_, htext, hdata⟩
            cases htool : data.get? "tool".toList with
            | none =>
                refine .inr (.inr (.inr (.inr ?_)))
                rw [settingsIn_of_holds hholds, if_pos hname, ofProject?, htool]
            | some value =>
                by_cases htable : IsTable value
                · obtain ⟨tools, rfl⟩ := htable
                  cases hentry : Toml.Table.get? tools toolName.toList with
                  | some value =>
                      exact .inr (.inr (.inr (.inl
                        ⟨data, tools, value, hholds, htool, hentry⟩)))
                  | none =>
                      refine .inr (.inr (.inr (.inr ?_)))
                      rw [settingsIn_of_holds hholds, if_pos hname,
                        ofProject?, htool]
                      exact congrArg Except.ok hentry
                · exact .inl ⟨_, .tools hname hholds htool htable⟩
  · exact .inr (.inl ⟨_, hdenied⟩)

theorem findIn_of_project {disk : Disk} {directory : Path}
    (hown : disk.isFile (directory.child fileName) = .ok false)
    (hproject : disk.isFile (directory.child projectFileName) = .ok true) :
    findIn disk directory =
      (settingsIn disk (directory.child projectFileName)).map fun value =>
        if value.isSome then some (directory.child projectFileName)
        else none := by
  rw [findIn, hown, hproject]
  cases settingsIn disk (directory.child projectFileName) <;> rfl

/-- Looking into a directory gives its answer. -/
theorem Answers.findIn {disk : Disk} {directory : Path}
    {answer : Except Failure Path} (h : Answers disk directory answer) :
    findIn disk directory = answer.map some := by
  cases h with
  | own h => rw [Config.findIn, h]; rfl
  | malformed hown hproject h =>
      rw [findIn_of_project hown hproject, settingsIn_of_malformed h]
      rfl
  | unreadable hown hproject h =>
      obtain ⟨hnul, -⟩ := Disk.read_of_isFile hproject
      rw [findIn_of_project hown hproject, settingsIn_of_unreadable hnul h]
      rfl
  | entry hown hproject h =>
      obtain ⟨data, tools, value, hdata, htools, hvalue⟩ := h
      have hsettings : settingsIn disk (directory.child projectFileName) =
          .ok (some value) := by
        rw [settingsIn_of_holds hdata, if_pos (name_child_project directory),
          ofProject?, htools]
        exact congrArg Except.ok hvalue
      rw [findIn_of_project hown hproject, hsettings]
      rfl

theorem findIn_eq_none_iff {disk : Disk} {directory : Path} :
    findIn disk directory = .ok none ↔ Quiet disk directory := by
  constructor
  · intro hnone
    refine ⟨fun answer h => ?_, fun failure h => ?_⟩
    · rw [h.findIn] at hnone
      cases answer <;> cases hnone
    · rw [((breaksOff_findIn disk directory).unshown failure h).1] at hnone
      cases hnone
  · intro hquiet
    cases hown : disk.isFile (directory.child fileName) with
    | error fault => exact absurd (.own hown) (hquiet.breaks _)
    | ok isOwn =>
        cases isOwn with
        | true => exact absurd (.own hown) (hquiet.answers _)
        | false =>
            cases hproject : disk.isFile (directory.child projectFileName) with
            | error fault =>
                exact absurd (.project hown hproject) (hquiet.breaks _)
            | ok isProject =>
                cases isProject with
                | false => rw [findIn, hown, hproject]; rfl
                | true =>
                    rcases settingsIn_cases (name_child_project directory)
                        hproject with
                      ⟨failure, h⟩ | ⟨fault, h⟩ | ⟨fault, h⟩ | h | hnone
                    · exact absurd (.file hown hproject h) (hquiet.breaks _)
                    · exact absurd (.unreadable hown hproject h)
                        (hquiet.answers _)
                    · exact absurd (.malformed hown hproject h)
                        (hquiet.answers _)
                    · exact absurd (.entry hown hproject h) (hquiet.answers _)
                    · rw [findIn_of_project hown hproject, hnone]; rfl

theorem findFirst_of_quiet {disk : Disk} {directories : List Path}
    (h : ∀ directory ∈ directories, findIn disk directory = .ok none) :
    findFirst disk directories = .ok none := by
  induction directories with
  | nil => rfl
  | cons directory directories ih =>
      rw [findFirst, h directory List.mem_cons_self]
      exact ih fun other hother => h other (List.mem_cons_of_mem _ hother)

theorem findFirst_of_first {disk : Disk} {directories : List Path} {k : Nat}
    {directory : Path} (hk : directories[k]? = some directory)
    (hbefore : ∀ j < k, ∀ nearer, directories[j]? = some nearer →
      findIn disk nearer = .ok none)
    (hfound : findIn disk directory ≠ .ok none) :
    findFirst disk directories = findIn disk directory := by
  induction directories generalizing k with
  | nil => simp at hk
  | cons first rest ih =>
      cases k with
      | zero =>
          obtain rfl := Option.some.inj hk
          rw [findFirst]
          split
          · next hnone => exact absurd hnone hfound
          · rfl
      | succ k =>
          rw [findFirst, hbefore 0 (by omega) first rfl]
          exact ih hk fun j hj nearer hnearer =>
            hbefore (j + 1) (by omega) nearer hnearer

theorem isResolved_directoryOf {disk : Disk} (hdisk : disk.HasProperNames)
    {start directory : Path} (h : directoryOf disk start = .ok directory) :
    directory.IsResolved := by
  obtain ⟨here, hhere, h⟩ := bind_eq_ok_iff.mp h
  obtain ⟨isDirectory, -, h⟩ := bind_eq_ok_iff.mp h
  have hresolved := hdisk.isResolved hhere
  rw [← Except.ok.inj h]
  split
  · exact hresolved
  · exact hresolved.above 1

theorem find_eq {disk : Disk} {start directory : Path}
    (hstart : directoryOf disk start = .ok directory) :
    find disk start =
      findFirst disk ((Path.ancestors directory.names).map Path.absolute) := by
  rw [find, hstart]
  rfl

theorem find_of_quiet {disk : Disk} {start directory : Path}
    (hstart : directoryOf disk start = .ok directory)
    (hroot : directory.anchor = .root) (hquiet : ∀ k,
      Quiet disk (directory.above k)) : find disk start = .ok none := by
  rw [find_eq hstart]
  apply findFirst_of_quiet
  intro other hother
  obtain ⟨k, hk, rfl⟩ := List.mem_iff_getElem.mp hother
  have hlength : k ≤ directory.names.length := by simpa [Path.ancestors,
    Nat.lt_succ_iff] using hk
  have hlevel := Path.getElem?_ancestors hroot hlength
  rw [List.getElem?_eq_getElem hk] at hlevel
  rw [Option.some.inj hlevel]
  exact findIn_eq_none_iff.mpr (hquiet k)

/-- The search gives what the first directory gives that is not quiet. -/
theorem find_of_first {disk : Disk} {start directory : Path}
    (hstart : directoryOf disk start = .ok directory)
    (hroot : directory.anchor = .root) {k : Nat}
    (hbefore : ∀ j < k, findIn disk (directory.above j) = .ok none)
    (hfound : findIn disk (directory.above k) ≠ .ok none) :
    find disk start = findIn disk (directory.above k) := by
  have hk : k ≤ directory.names.length := by
    by_contra hk
    apply hfound
    rw [Path.above_of_length_le (by omega)]
    exact hbefore _ (by omega)
  rw [find_eq hstart]
  refine findFirst_of_first (Path.getElem?_ancestors hroot hk)
    (fun j hj nearer hnearer => ?_) hfound
  rw [Path.getElem?_ancestors hroot (by omega)] at hnearer
  rw [← Option.some.inj hnearer]
  exact hbefore j hj

theorem root_readLists {base config : Config} {settings : Toml.Table}
    (h : readLists base settings = .ok config) : config.root = base.root := by
  obtain ⟨paths, -, h⟩ := bind_eq_ok_iff.mp h
  obtain ⟨exclude, -, h⟩ := bind_eq_ok_iff.mp h
  obtain ⟨labels, -, h⟩ := bind_eq_ok_iff.mp h
  obtain ⟨disable, -, h⟩ := bind_eq_ok_iff.mp h
  obtain ⟨languageIds, -, h⟩ := bind_eq_ok_iff.mp h
  rw [← Except.ok.inj h]

/-- Paths in the settings of a file are seen from its directory. -/
theorem root_load {disk : Disk} {file : Path} {config : Config}
    (h : load disk file = .ok config) :
    disk.resolve file.parent = .ok config.root := by
  rw [load_eq] at h
  obtain ⟨settings, -, h⟩ := bind_eq_ok_iff.mp h
  obtain ⟨pattern, -, h⟩ := bind_eq_ok_iff.mp h
  obtain ⟨root, hroot, h⟩ := bind_eq_ok_iff.mp h
  rw [root_readLists (mapError_eq_ok_iff.mp h)]
  exact mapError_eq_ok_iff.mp hroot

/-- An answer is a file in the directory itself. -/
theorem Answers.child {disk : Disk} {directory file : Path}
    (h : Answers disk directory (.ok file)) :
    ∃ name, IsProperName name ∧ file = directory.child name := by
  cases h with
  | own => exact ⟨fileName, properName_fileName, rfl⟩
  | entry => exact ⟨projectFileName, properName_projectFileName, rfl⟩

theorem answers_of_findIn {disk : Disk} {directory file : Path}
    (h : findIn disk directory = .ok (some file)) :
    Answers disk directory (.ok file) := by
  by_contra hnot
  have hquiet : Quiet disk directory := by
    refine ⟨fun answer hanswer => ?_, fun failure hfailure => ?_⟩
    · rw [hanswer.findIn] at h
      obtain ⟨other, rfl, hfile⟩ := map_eq_ok_iff.mp h
      exact hnot (Option.some.inj hfile ▸ hanswer)
    · cases h.symm.trans
        ((breaksOff_findIn disk directory).unshown failure hfailure).1
  cases h.symm.trans (findIn_eq_none_iff.mpr hquiet)

end Config

/-! ## Other disks

Without links a search reads nothing but the directories that it looks into and
those on the way there, so what else is on the disk has no influence on it. -/

/-- The other disk has the same working directory and the same room, and it has
and allows the same at and below these names and on the way there. What else
stands in the directories above is free. -/
structure Disk.AgreesAround (disk other : Disk) (names : List Text) : Prop where
  cwd : other.cwd = disk.cwd
  lost : other.lost = disk.lost
  room : other.room = disk.room
  entries : ∀ place, place <+: names ∨ names <+: place →
    other.entry? place = disk.entry? place
  barred : ∀ place, place <+: names ∨ names <+: place →
    (place ∈ other.barred ↔ place ∈ disk.barred)
  sealed : ∀ place, place <+: names ∨ names <+: place →
    (place ∈ other.sealed ↔ place ∈ disk.sealed)

theorem Disk.Linkless.walkFrom_congr {disk other : Disk} (hdisk : disk.Linkless)
    (hother : other.Linkless) {here names : List Text}
    (hup : ∀ name ∈ names, name ≠ Path.up)
    (hentries : ∀ place, place <+: here ++ names →
      other.entry? place = disk.entry? place)
    (hbarred : ∀ place, place <+: here ++ names →
      (place ∈ other.barred ↔ place ∈ disk.barred)) :
    other.walkFrom here names = disk.walkFrom here names := by
  induction names generalizing here with
  | nil => rfl
  | cons name names ih =>
      rw [List.forall_mem_cons] at hup
      have hnext : other.walkFrom (here ++ [name]) names =
          disk.walkFrom (here ++ [name]) names :=
        ih hup.2 (by simpa using hentries) (by simpa using hbarred)
      have hpass : other.barred.contains here = disk.barred.contains here := by
        rw [List.contains_eq_mem, List.contains_eq_mem, decide_eq_decide]
        exact hbarred here (List.prefix_append here _)
      rw [hother.walkFrom_cons, hdisk.walkFrom_cons,
        hentries here (List.prefix_append here _), hnext, hpass, if_neg hup.1,
        if_neg hup.1]

theorem Path.IsResolved.place_of_walk {path : Path} (h : path.IsResolved)
    {disk : Disk} (hdisk : disk.Linkless) {place : Option (List Text)}
    {entry : DiskEntry} (hwalk : disk.walk path = .ok (place, entry)) :
    place = some path.names := by
  rw [h.walk_eq hdisk] at hwalk
  split at hwalk
  · cases hwalk
  · obtain ⟨there, -, hwalk⟩ := bind_eq_ok_iff.mp hwalk
    split at hwalk
    · cases hwalk
    · exact (Prod.mk.inj (Except.ok.inj hwalk)).1.symm

namespace Disk.AgreesAround

variable {disk other : Disk} {names : List Text}

theorem walk (h : disk.AgreesAround other names) (hdisk : disk.Linkless)
    (hother : other.Linkless) {path : Path} (hpath : path.IsResolved)
    (hbelow : names <+: path.names) : other.walk path = disk.walk path := by
  have hway : ∀ place, place <+: path.names →
      place <+: names ∨ names <+: place :=
    fun place hplace => List.prefix_or_prefix_of_prefix hplace hbelow
  have hwalk : other.walkFrom [] path.names = disk.walkFrom [] path.names :=
    hdisk.walkFrom_congr hother (fun name hname => (hpath.names name hname).1)
      (fun place hplace => h.entries place (hway place hplace))
      (fun place hplace => h.barred place (hway place hplace))
  rw [hpath.walk_eq hother, hpath.walk_eq hdisk, hwalk,
    h.entries path.names (.inr hbelow)]

theorem look (h : disk.AgreesAround other names) (hdisk : disk.Linkless)
    (hother : other.Linkless) {path : Path} (hpath : path.IsResolved)
    (hbelow : names <+: path.names) : other.look path = disk.look path := by
  rw [Disk.look, Disk.look, h.walk hdisk hother hpath hbelow]

theorem isFile (h : disk.AgreesAround other names) (hdisk : disk.Linkless)
    (hother : other.Linkless) {path : Path} (hpath : path.IsResolved)
    (hbelow : names <+: path.names) : other.isFile path = disk.isFile path := by
  rw [Disk.isFile, Disk.isFile, h.look hdisk hother hpath hbelow]

theorem read (h : disk.AgreesAround other names) (hdisk : disk.Linkless)
    (hother : other.Linkless) {path : Path} (hpath : path.IsResolved)
    (hbelow : names <+: path.names) : other.read path = disk.read path := by
  rw [Disk.read, Disk.read, h.walk hdisk hother hpath hbelow]
  cases hwalk : disk.walk path with
  | error fault => rfl
  | ok found =>
      obtain ⟨place, entry⟩ := found
      obtain rfl := hpath.place_of_walk hdisk hwalk
      have hsealed : other.isSealed (some path.names) =
          disk.isSealed (some path.names) := by
        rw [isSealed, isSealed, List.contains_eq_mem, List.contains_eq_mem,
          decide_eq_decide]
        exact h.sealed path.names (.inr hbelow)
      simp only [hsealed]

theorem settingsIn (h : disk.AgreesAround other names) (hdisk : disk.Linkless)
    (hother : other.Linkless) {file : Path} (hfile : file.IsResolved)
    (hbelow : names <+: file.names) :
    Config.settingsIn other file = Config.settingsIn disk file := by
  rw [Config.settingsIn, Config.settingsIn, Disk.readText, Disk.readText,
    h.read hdisk hother hfile hbelow, h.room]

theorem resolve (h : disk.AgreesAround other names) (hdisk : disk.Linkless)
    (hother : other.Linkless) (path : Path) :
    other.resolve path = disk.resolve path := by
  rw [hdisk.resolve_eq, hother.resolve_eq, fromRoot, fromRoot, workingDirectory,
    workingDirectory, h.cwd, h.lost]

theorem load (h : disk.AgreesAround other names) (hdisk : disk.Linkless)
    (hother : other.Linkless) {file : Path} (hfile : file.IsResolved)
    (hbelow : names <+: file.names) :
    Config.load other file = Config.load disk file := by
  rw [Config.load, Config.load, h.settingsIn hdisk hother hfile hbelow,
    h.resolve hdisk hother]

theorem findIn (h : disk.AgreesAround other names) (hdisk : disk.Linkless)
    (hother : other.Linkless) {directory : Path}
    (hdirectory : directory.IsResolved) (hbelow : names <+: directory.names) :
    Config.findIn other directory = Config.findIn disk directory := by
  have hchild : ∀ name, names <+: (directory.child name).names :=
    fun name => hbelow.trans (List.prefix_append _ _)
  have hown : (directory.child Config.fileName).IsResolved :=
    hdirectory.child Config.properName_fileName
  have hproject : (directory.child Config.projectFileName).IsResolved :=
    hdirectory.child Config.properName_projectFileName
  rw [Config.findIn, Config.findIn, h.isFile hdisk hother hown (hchild _),
    h.isFile hdisk hother hproject (hchild _),
    h.settingsIn hdisk hother hproject (hchild _)]

theorem directoryOf (h : disk.AgreesAround other names) (hdisk : disk.Linkless)
    (hother : other.Linkless) (hnames : disk.HasProperNames)
    {start directory : Path}
    (hstart : Config.directoryOf disk start = .ok directory)
    (hbelow : names <+: directory.names) :
    Config.directoryOf other start = .ok directory := by
  obtain ⟨here, hhere, hstart⟩ := bind_eq_ok_iff.mp hstart
  obtain ⟨isDirectory, hisDirectory, hstart⟩ := bind_eq_ok_iff.mp hstart
  have hinside : directory.names <+: here.names := by
    rw [← Except.ok.inj hstart]
    split
    · exact List.prefix_rfl
    · exact List.dropLast_prefix here.names
  have hsame : other.isDirectory here = .ok isDirectory := by
    rw [← hisDirectory, Disk.isDirectory, Disk.isDirectory,
      h.look hdisk hother (hnames.isResolved hhere) (hbelow.trans hinside)]
  rw [Config.directoryOf, h.resolve hdisk hother, hhere]
  show (other.isDirectory here >>= _) = _
  rw [hsame]
  exact hstart

end Disk.AgreesAround

/-- What stands above the directory that ends the search has no influence on
it. -/
theorem Config.find_of_agreesAround {disk other : Disk}
    (hnames : disk.HasProperNames) (hdisk : disk.Linkless)
    (hother : other.Linkless) {start directory : Path}
    (hstart : directoryOf disk start = .ok directory) {k : Nat}
    (hbefore : ∀ j < k, findIn disk (directory.above j) = .ok none)
    (hfound : findIn disk (directory.above k) ≠ .ok none)
    (h : disk.AgreesAround other (directory.above k).names) :
    find other start = find disk start ∧
      resolve other start none = resolve disk start none := by
  have hresolved := isResolved_directoryOf hnames hstart
  have hlevel : ∀ j ≤ k,
      findIn other (directory.above j) = findIn disk (directory.above j) :=
    fun j hj => h.findIn hdisk hother (hresolved.above j)
      (directory.above_isPrefix hj)
  have hsameStart := h.directoryOf hdisk hother hnames hstart
    (directory.above_isPrefix (Nat.zero_le k))
  have hfind := find_of_first hstart hresolved.anchor hbefore hfound
  have hsame : find other start = find disk start := by
    rw [hfind, ← hlevel k (Nat.le_refl k)]
    apply find_of_first hsameStart hresolved.anchor
    · intro j hj
      rw [hlevel j (by omega)]
      exact hbefore j hj
    · rwa [hlevel k (Nat.le_refl k)]
  refine ⟨hsame, ?_⟩
  rw [resolve_none, resolve_none, hsame, hsameStart, hstart]
  cases hfile : find disk start with
  | error failure => rfl
  | ok found =>
      cases found with
      | none => rfl
      | some file =>
          obtain ⟨name, hname, rfl⟩ := (answers_of_findIn (hfind ▸ hfile)).child
          exact h.load hdisk hother ((hresolved.above k).child hname)
            (List.prefix_append _ _)

/-- The description of a project in the directory is UTF-8, and what it has
under `tool` is a table. -/
structure Config.HasPlainProject (disk : Disk) (directory : Path) : Prop where
  utf8 : ∀ bytes, disk.read (directory.child projectFileName) = .ok bytes →
    ∃ text, Utf8.decode bytes = .ok text
  tools : ∀ data value, Holds disk (directory.child projectFileName) data →
    data.get? "tool".toList = some value → IsTable value

theorem Disk.fault_of_isFile {disk : Disk} {path : Path} {fault : PathFault}
    (h : disk.isFile path = .error fault) :
    fault = .tooLong ∨ fault = .denied ∧ disk.barred ≠ [] := by
  have hlook := map_eq_error_iff.mp h
  rcases Disk.fault_of_look hlook with hlong | hdenied
  · exact .inl hlong
  · exact .inr ⟨hdenied, Disk.barred_of_look (hdenied ▸ hlook)⟩

/-- Looking into a directory with a plain project breaks off because a path
cannot be asked about, or because of a number or a nesting that is not read. -/
theorem Config.HasPlainProject.breaks {disk : Disk} {directory : Path}
    (hplain : HasPlainProject disk directory) {failure : Failure}
    (h : DirectoryBreaks disk directory failure) :
    failure = .path .tooLong ∨ failure = .path .denied ∧ disk.barred ≠ [] ∨
      failure = .longNumber ∨ failure = .deepNesting := by
  have hasked : ∀ {path fault}, disk.isFile path = .error fault →
      Failure.path fault = .path .tooLong ∨
        Failure.path fault = .path .denied ∧ disk.barred ≠ [] := by
    intro path fault h
    rcases Disk.fault_of_isFile h with rfl | ⟨rfl, hbarred⟩
    · exact .inl rfl
    · exact .inr ⟨rfl, hbarred⟩
  cases h with
  | own h => exact (hasked h).imp_right .inl
  | project _ h => exact (hasked h).imp_right .inl
  | file _ hproject h =>
      obtain ⟨hnul, -⟩ := Disk.read_of_isFile hproject
      cases h with
      | nul h => cases hnul.symm.trans h
      | encoding _ hread h =>
          obtain ⟨text, htext⟩ := hplain.utf8 _ hread
          cases htext.symm.trans h
      | number => exact .inr (.inr (.inl rfl))
      | nesting => exact .inr (.inr (.inr rfl))
      | tools _ hdata hvalue h => exact absurd (hplain.tools _ _ hdata hvalue) h

/-- The nearest settings win. If every directory from the starting point up is
quiet, the defaults hold. Otherwise the first one that is not decides: by its
answer, from which the settings are loaded and whose directory is their root, or
by breaking off. With plain projects only a path that cannot be asked about, a
long number or deep nesting breaks off. Without links, the directory is its own
root, and nothing above it has any influence. -/
theorem nearest_settings {disk : Disk} (hdisk : disk.HasProperNames)
    {start directory : Path}
    (hstart : Config.directoryOf disk start = .ok directory) :
    ((∀ k, Config.Quiet disk (directory.above k)) →
      Config.find disk start = .ok none ∧
        Config.resolve disk start none = .ok { root := directory }) ∧
    (∀ k, (∀ j < k, Config.Quiet disk (directory.above j)) →
      (∀ answer, Config.Answers disk (directory.above k) answer →
        Config.find disk start = answer.map some ∧
        Config.resolve disk start none = answer >>= Config.load disk ∧
        ∀ config, Config.resolve disk start none = .ok config →
          disk.resolve (directory.above k) = .ok config.root ∧
          (disk.Linkless → config.root = directory.above k)) ∧
      (∀ failure, Config.DirectoryBreaks disk (directory.above k) failure →
        Config.find disk start = .error failure ∧
        Config.resolve disk start none = .error failure ∧
        failure.shown? = none) ∧
      (¬ Config.Quiet disk (directory.above k) → disk.Linkless →
        ∀ other, other.Linkless →
          disk.AgreesAround other (directory.above k).names →
          Config.find other start = Config.find disk start ∧
          Config.resolve other start none = Config.resolve disk start none)) ∧
    ∀ k failure, Config.HasPlainProject disk (directory.above k) →
      Config.DirectoryBreaks disk (directory.above k) failure →
      failure = .path .tooLong ∨ failure = .path .denied ∧ disk.barred ≠ [] ∨
        failure = .longNumber ∨ failure = .deepNesting := by
  have hresolved := Config.isResolved_directoryOf hdisk hstart
  refine ⟨fun hquiet => ?_, fun k hquiet => ?_,
    fun k failure hplain h => hplain.breaks h⟩
  · have hfind := Config.find_of_quiet hstart hresolved.anchor hquiet
    refine ⟨hfind, ?_⟩
    rw [Config.resolve_none, hfind, hstart]
    rfl
  have hbefore := fun j hj => Config.findIn_eq_none_iff.mpr (hquiet j hj)
  have hfirst := Config.find_of_first (k := k) hstart hresolved.anchor hbefore
  refine ⟨fun answer h => ?_, fun failure h => ?_,
    fun hloud hlinks other hother h => ?_⟩
  · have hfind : Config.find disk start = answer.map some := by
      rw [← h.findIn]
      exact hfirst fun hnone =>
        (Config.findIn_eq_none_iff.mp hnone).answers answer h
    have hresolve : Config.resolve disk start none =
        answer >>= Config.load disk := by
      rw [Config.resolve_none, hfind]
      cases answer <;> rfl
    refine ⟨hfind, hresolve, fun config hconfig => ?_⟩
    obtain ⟨file, rfl, hload⟩ := bind_eq_ok_iff.mp (hresolve ▸ hconfig)
    obtain ⟨name, -, rfl⟩ := h.child
    have hroot := Config.root_load hload
    have hparent : ((directory.above k).child name).parent =
        directory.above k := by
      simp [Path.parent, Path.child]
    rw [hparent] at hroot
    refine ⟨hroot, fun hlinks => ?_⟩
    rw [(hresolved.above k).resolve hlinks] at hroot
    exact (Except.ok.inj hroot).symm
  · obtain ⟨herror, hshown⟩ := (Config.breaksOff_findIn _ _).unshown failure h
    have hfind : Config.find disk start = .error failure := by
      rw [← herror]
      exact hfirst fun hnone =>
        (Config.findIn_eq_none_iff.mp hnone).breaks failure h
    refine ⟨hfind, ?_, hshown⟩
    rw [Config.resolve_none, hfind]
    rfl
  · exact Config.find_of_agreesAround hdisk hlinks hother hstart hbefore
      (fun hnone => hloud (Config.findIn_eq_none_iff.mp hnone)) h

theorem Toml.readValueFrom_brackets {room fuel n : Nat} (hroom : room < 2 * n)
    (hfuel : 2 * n ≤ fuel) (rest : Text) :
    Toml.readValueFrom room fuel (List.replicate n '[' ++ rest) =
      .error .nesting := by
  induction n generalizing room fuel with
  | zero => omega
  | succ n ih =>
      obtain ⟨fuel, rfl⟩ : ∃ more, fuel = more + 2 := ⟨fuel - 2, by omega⟩
      have hstring : ∀ cs, Toml.readString? ('[' :: cs) = none := fun _ => rfl
      rw [List.replicate_succ, List.cons_append, Toml.readValueFrom, hstring]
      dsimp only
      split
      · rfl
      · next hmore =>
          have hinner :
              Toml.readValueFrom (room - 2) fuel
                (List.replicate n '[' ++ rest) =
              .error .nesting := ih (by omega) (by omega)
          obtain ⟨n, rfl⟩ : ∃ m, n = m + 1 := ⟨n - 1, by omega⟩
          rw [List.replicate_succ, List.cons_append] at hinner ⊢
          have hfiller : ∀ cs, Toml.skipFiller ('[' :: cs) = .ok ('[' :: cs) :=
            fun _ => rfl
          simp [Toml.readItems, hfiller, hinner, Except.map]

/-- A document with a value of nested arrays. -/
def nestedDocument (depth : Nat) : Text :=
  'a' :: ' ' :: '=' :: ' ' ::
    (List.replicate depth '[' ++ List.replicate depth ']')

theorem return_not_mem_nestedDocument (depth : Nat) :
    '\r' ∉ nestedDocument depth := by
  simp [nestedDocument]

theorem Toml.read_nestedDocument {room depth : Nat} (h : room < 2 * depth) :
    Toml.read room (nestedDocument depth) = .error .nesting := by
  obtain ⟨depth, rfl⟩ : ∃ m, depth = m + 1 := ⟨depth - 1, by omega⟩
  have hvalue : Toml.readValue room
      (List.replicate (depth + 1) '[' ++ List.replicate (depth + 1) ']') =
        .error .nesting :=
    Toml.readValueFrom_brackets h (by simp; omega) _
  rw [nestedDocument]
  rw [List.replicate_succ, List.cons_append] at hvalue ⊢
  generalize List.replicate depth '[' ++ List.replicate (depth + 1) ']' =
    rest at hvalue
  have hstatement : ∀ draft : Toml.Draft,
      Toml.Draft.readStatement room draft
        ('a' :: ' ' :: '=' :: ' ' :: '[' :: rest) = .error .nesting := by
    intro draft
    have hkey : Toml.readKey ('a' :: ' ' :: '=' :: ' ' :: '[' :: rest) =
        .ok ([['a']], '=' :: ' ' :: '[' :: rest) := rfl
    have hblank : Toml.skipBlanks (' ' :: '[' :: rest) = '[' :: rest := rfl
    simp [Toml.Draft.readStatement, hkey, hblank, hvalue]
  have hblank : Toml.skipBlanks ('a' :: ' ' :: '=' :: ' ' :: '[' :: rest) =
      'a' :: ' ' :: '=' :: ' ' :: '[' :: rest := rfl
  simp [Toml.read, Toml.Draft.readFrom, hblank, hstatement, Except.map]

theorem Text.unifyBreaks_of_not_mem {text : Text} (h : '\r' ∉ text) :
    unifyBreaks text = text := by
  fun_induction unifyBreaks text with
  | case1 => rfl
  | case2 cs ih => simp at h
  | case3 cs _ ih => simp at h
  | case4 c cs _ _ ih => rw [ih (List.not_mem_of_not_mem_cons h)]

/-- A disk with a project below `/p` that has no entry for the tool, settings
in `/p` next to a malformed description of a project, and at the root one that
is nested too deeply. -/
def nestedProjectDisk : Disk where
  entries := [
    ([['p']], .directory),
    ([['p'], ['q']], .directory),
    ([['p'], ['q'], Config.projectFileName], .file []),
    ([['p'], Config.fileName], .file []),
    ([['p'], Config.projectFileName], .file [0x78]),
    ([Config.projectFileName], .file (Utf8.encode (nestedDocument 500)))]

theorem nearest_settings_nested :
    Config.find nestedProjectDisk (.absolute [['p'], ['q'], ['n']]) =
        .ok (some (.absolute [['p'], Config.fileName])) ∧
      Config.find nestedProjectDisk (.absolute []) = .error .deepNesting := by
  have hdisk : nestedProjectDisk.HasProperNames := by
    refine ⟨?_, by simp [nestedProjectDisk]⟩
    unfold IsProperName
    decide
  have hstart :
      Config.directoryOf nestedProjectDisk (.absolute [['p'], ['q'], ['n']]) =
        .ok (.absolute [['p'], ['q']]) := rfl
  have hroot : Config.directoryOf nestedProjectDisk (.absolute []) =
      .ok (.absolute []) := rfl
  obtain ⟨-, hsettings, -⟩ := nearest_settings hdisk hstart
  obtain ⟨-, hnested, -⟩ := nearest_settings hdisk hroot
  refine ⟨((hsettings 1 ?_).1 _ (.own rfl)).1,
    ((hnested 0 (by simp)).2.1 _ (.file rfl rfl ?_)).1⟩
  · intro j hj
    obtain rfl : j = 0 := by omega
    exact Config.findIn_eq_none_iff.mp rfl
  · have htext :
        nestedProjectDisk.readText (.absolute [Config.projectFileName]) =
          .ok (Text.unifyBreaks (nestedDocument 500)) :=
          Disk.readText_of_read rfl rfl
    rw [Text.unifyBreaks_of_not_mem
      (return_not_mem_nestedDocument 500)] at htext
    exact .nesting htext (Toml.read_nestedDocument (by decide))

end GrammarLint
