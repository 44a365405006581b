import GrammarLint.Proofs.FoundPaths
import Mathlib.Data.Finset.Card
import Mathlib.Data.Finset.Image

/-!
# Which files a check reports

A file among the arguments of a check keeps the path under which it is given.
What is found in directories comes under resolved paths. Repetitions are dropped
path by path, and so a file that is collected under two paths is reported twice.

* **What is reported for a path** is what validation finds in what is read under
  it. Without links that depends on the file only, however the path is spelled
  (`Disk.readGrammar_eq_linesOf`).

* **How many files are reported** is how many different paths have been
  collected. That is the number of files exactly if no two of the paths lead to
  the same one (`length_eraseDups_eq_files_iff`).

* **Where a second path of a file comes from.** It may be a link in a directory.
  On a disk without links and with proper names, and with a pattern that does
  not go up, whatever is found in a directory is resolved
  (`Disk.HasProperNames.discover`). So there only an argument that is no
  directory can bring in a second path of a file.
-/

namespace GrammarLint

theorem nodup_eraseDups {α : Type} [BEq α] [LawfulBEq α] (l : List α) :
    l.eraseDups.Nodup := by
  induction hlength : l.length using Nat.strong_induction_on generalizing l with
  | _ n ih =>
      subst hlength
      cases l with
      | nil => exact List.nodup_nil
      | cons a as =>
          rw [List.eraseDups_cons, List.nodup_cons]
          refine ⟨fun h => ?_,
            ih _ (Nat.lt_succ_of_le (List.length_filter_le _ _)) _ rfl⟩
          have hne := (List.mem_filter.mp (List.mem_eraseDups.mp h)).2
          simp at hne

theorem eraseDups_map {α β : Type} [BEq α] [LawfulBEq α] [BEq β] [LawfulBEq β]
    {f : α → β} (hf : Function.Injective f) (l : List α) :
    (l.map f).eraseDups = l.eraseDups.map f := by
  induction hlength : l.length using Nat.strong_induction_on generalizing l with
  | _ n ih =>
      subst hlength
      cases l with
      | nil => rfl
      | cons a as =>
          have hfilter : (as.map f).filter (fun b => !b == f a) =
              (as.filter fun b => !b == a).map f := by
            rw [List.filter_map]
            congr 2
            funext b
            simp [hf.eq_iff]
          rw [List.map_cons, List.eraseDups_cons, List.eraseDups_cons, hfilter,
            List.map_cons,
            ih _ (Nat.lt_succ_of_le (List.length_filter_le _ _)) _ rfl]

theorem length_eraseDups {α : Type} [DecidableEq α] (l : List α) :
    l.eraseDups.length = l.toFinset.card := by
  have hsame : l.toFinset = l.eraseDups.toFinset := by
    ext a
    simp only [List.mem_toFinset, List.mem_eraseDups]
  rw [hsame, List.toFinset_card_of_nodup (nodup_eraseDups l)]

theorem Disk.follow_of_read {disk : Disk} {path : Path} {bytes : List UInt8}
    (h : disk.read path = .ok bytes) :
    ∃ names, disk.follow path = .ok (some names) ∧
      disk.entry? names = some (.file bytes) := by
  rw [Disk.read, Disk.walk] at h
  split at h
  · cases h
  · next place found hwalk =>
      split at h
      · cases h
      · split at h
        · obtain rfl := Except.ok.inj h
          split at hwalk
          · cases hwalk
          · split at hwalk
            · cases hwalk
            · cases hwalk
            · next names hfollow =>
                split at hwalk
                · cases hwalk
                · next entry hentry =>
                    obtain ⟨-, rfl⟩ := Prod.mk.inj (Except.ok.inj hwalk)
                    exact ⟨names, hfollow, hentry⟩
        · cases h

/-- Without links a path that can be read leads to the file that it resolves
to. -/
theorem Disk.entry?_of_read {disk : Disk} (hdisk : disk.Linkless)
    {path file : Path} {bytes : List UInt8} (hread : disk.read path = .ok bytes)
    (hfile : disk.resolve path = .ok file) :
    disk.entry? file.names = some (.file bytes) := by
  obtain ⟨names, hfollow, hentry⟩ := Disk.follow_of_read hread
  obtain ⟨start, rfl, hstart⟩ := hdisk.resolve_cases hfile
  have hwalk : (disk.walkFrom start path.names).map some =
      .ok (some names) := by
    rw [Disk.follow] at hfollow
    rcases hstart with ⟨habsolute, rfl⟩ | ⟨hrelative, hlost, rfl⟩
    · rw [habsolute] at hfollow
      exact hfollow
    · rw [hrelative, hlost] at hfollow
      exact hfollow
  obtain ⟨there, hthere, hsome⟩ := map_eq_ok_iff.mp hwalk
  obtain rfl := Option.some.inj hsome
  exact hdisk.eq_fold_of_walkFrom hthere ▸ hentry

theorem Disk.read_of_readGrammar {disk : Disk} {path : Path} {lines : List Text}
    (h : disk.readGrammar path = .ok lines) :
    ∃ bytes text, disk.read path = .ok bytes ∧ Utf8.decode bytes = .ok text ∧
      lines = Text.lines (Text.unifyBreaks text) := by
  rw [Disk.readGrammar] at h
  split at h
  · next text htext =>
      rw [Disk.readText] at htext
      split at htext
      · cases htext
      · split at htext
        · cases htext
        · next bytes hread =>
            split at htext
            · cases htext
            · next decoded hdecoded =>
                rw [← Except.ok.inj h, ← Except.ok.inj htext]
                exact ⟨bytes, decoded, hread, hdecoded, rfl⟩
  · cases h
  · cases h

/-- The lines of the grammar file with this resolved path. -/
def Disk.linesOf (disk : Disk) (file : Path) : List Text :=
  match disk.entry? file.names with
  | some (.file bytes) =>
      match Utf8.decode bytes with
      | .ok text => Text.lines (Text.unifyBreaks text)
      | .error _ => []
  | _ => []

/-- What is read does not depend on how the path of a file is spelled. -/
theorem Disk.readGrammar_eq_linesOf {disk : Disk} (hdisk : disk.Linkless)
    {path file : Path} {lines : List Text}
    (hlines : disk.readGrammar path = .ok lines)
    (hfile : disk.resolve path = .ok file) : lines = disk.linesOf file := by
  obtain ⟨bytes, text, hread, hdecoded, rfl⟩ := Disk.read_of_readGrammar hlines
  rw [Disk.linesOf, Disk.entry?_of_read hdisk hread hfile]
  dsimp only
  rw [hdecoded]

/-- The file that a path leads to: its resolved path. -/
def Disk.fileOf (disk : Disk) (path : Path) : Path :=
  (disk.resolve path).toOption.getD path

theorem Disk.fileOf_eq {disk : Disk} {path file : Path}
    (h : disk.resolve path = .ok file) :
    disk.fileOf path = file := by
  rw [Disk.fileOf, h]
  rfl

/-! ## Resolved paths

A pattern that does not go up finds resolved paths, whatever it starts
from. What the settings and the arguments name is resolved before it is
searched, and so everything that is collected is resolved, but for files
that are given as arguments. -/

/-- The pattern for grammar files does not go up. -/
def Config.StaysBelow (config : Config) : Prop :=
  Path.up ∉ (Path.ofText config.pattern).names

theorem exists_of_readPatternNames {room : Nat} {texts : List Text}
    {names : List PatternName} (h : readPatternNames room texts = .ok names) :
    ∀ name ∈ names, ∃ text ∈ texts, PatternName.ofText text = .ok name := by
  induction texts generalizing room names with
  | nil =>
      cases room <;>
        · rw [← Except.ok.inj h]
          exact fun name hname => by cases hname
  | cons text texts ih =>
      cases room with
      | zero => cases h
      | succ room =>
          obtain ⟨first, hfirst, h⟩ := bind_eq_ok_iff.mp h
          obtain ⟨rest, hrest, h⟩ := bind_eq_ok_iff.mp h
          rw [← Except.ok.inj h, List.forall_mem_cons]
          refine ⟨⟨text, List.mem_cons_self, hfirst⟩, fun name hname => ?_⟩
          obtain ⟨other, hother, hname⟩ := ih hrest name hname
          exact ⟨other, List.mem_cons_of_mem text hother, hname⟩

theorem staysBelow_of_readPattern {room : Nat} {pattern : Text}
    {names : List PatternName} (h : readPattern room pattern = .ok names)
    (hup : Path.up ∉ (Path.ofText pattern).names) :
    ∀ name ∈ names, name.StaysBelow := by
  rw [readPattern] at h
  split at h
  · cases h
  · intro name hname
    obtain ⟨text, htext, hname⟩ := exists_of_readPatternNames h name hname
    have hother : text ≠ Path.up := by
      intro heq
      rcases List.mem_append.mp htext with htext | htext
      · exact hup (heq ▸ htext)
      · split at htext
        · rw [List.mem_singleton.mp htext] at heq
          cases heq
        · cases htext
    rw [PatternName.ofText] at hname
    split at hname
    · rw [← Except.ok.inj hname]
      trivial
    · split at hname
      · rw [← Except.ok.inj hname]
        trivial
      · split at hname
        · cases hname
        · split at hname
          · rw [← Except.ok.inj hname]
            trivial
          · rw [← Except.ok.inj hname]
            exact hother

theorem Disk.HasProperNames.filesAt {disk : Disk} (h : disk.HasProperNames)
    (hlinks : disk.Linkless) {config : Config} (hconfig : config.StaysBelow)
    {path : Text} {files : List Path}
    (hfiles : config.filesAt disk path = .ok files) :
    ∀ p ∈ files, p.IsResolved := by
  obtain ⟨base, hbase, hfiles⟩ := bind_eq_ok_iff.mp hfiles
  have hresolved : base.IsResolved := h.isResolved (mapError_eq_ok_iff.mp hbase)
  obtain ⟨isFile, -, hfiles⟩ := bind_eq_ok_iff.mp hfiles
  split at hfiles
  · rw [← Except.ok.inj hfiles]
    exact List.forall_mem_singleton.mpr hresolved
  · obtain ⟨isDirectory, -, hfiles⟩ := bind_eq_ok_iff.mp hfiles
    split at hfiles
    · obtain ⟨names, hnames, hfiles⟩ := bind_eq_ok_iff.mp hfiles
      obtain ⟨found, hfound, hfiles⟩ := bind_eq_ok_iff.mp hfiles
      have hbelow : ∀ name ∈ .descend :: names, name.StaysBelow :=
        List.forall_mem_cons.mpr ⟨trivial,
          staysBelow_of_readPattern (mapError_eq_ok_iff.mp hnames) hconfig⟩
      have hfinds := ((Disk.filesBelow_meets hlinks names base).outcome_eq_ok
        (mapError_eq_ok_iff.mp hfound)).1
      intro p hp
      rw [← Except.ok.inj hfiles] at hp
      exact ((hfinds p).mp (List.mem_filter.mp hp).1).1.isResolved h
        hbelow hresolved
    · rw [← Except.ok.inj hfiles]
      exact fun p hp => by cases hp

theorem Disk.HasProperNames.discover {disk : Disk} (h : disk.HasProperNames)
    (hlinks : disk.Linkless) {config : Config} (hconfig : config.StaysBelow)
    {files : List Path} (hfiles : config.discover disk = .ok files) :
    ∀ p ∈ files, p.IsResolved := by
  obtain ⟨lists, hlists, rfl⟩ := map_eq_ok_iff.mp hfiles
  intro p hp
  rw [List.mem_mergeSort, List.mem_eraseDups] at hp
  obtain ⟨found, hfound, hp⟩ := List.mem_flatten.mp hp
  obtain ⟨path, -, hpath⟩ := exists_of_mapM_eq_ok hlists hfound
  exact h.filesAt hlinks hconfig hpath p hp

/-- Whatever is collected is resolved, if no file is given under another path
than its own. -/
theorem Disk.HasProperNames.collect {disk : Disk} (h : disk.HasProperNames)
    (hlinks : disk.Linkless) {config : Config} (hconfig : config.StaysBelow)
    {arguments files : List Path}
    (harguments : ∀ path ∈ arguments,
      disk.isDirectory path = .ok false → disk.resolve path = .ok path)
    (hfiles : config.collect disk arguments = .ok files) :
    ∀ p ∈ files, p.IsResolved := by
  cases arguments with
  | nil => exact h.discover hlinks hconfig hfiles
  | cons first rest =>
      obtain ⟨lists, hlists, rfl⟩ := map_eq_ok_iff.mp hfiles
      intro p hp
      obtain ⟨found, hfound, hp⟩ := List.mem_flatten.mp hp
      obtain ⟨path, hpath, hargument⟩ := exists_of_mapM_eq_ok hlists hfound
      obtain ⟨isDirectory, hdirectory, hargument⟩ := bind_eq_ok_iff.mp hargument
      cases isDirectory with
      | true =>
          obtain ⟨directory, -, hargument⟩ := bind_eq_ok_iff.mp hargument
          have hbelow :
              Config.StaysBelow { config with paths := [directory.toText] } :=
                hconfig
          exact h.discover hlinks hbelow hargument p hp
      | false =>
          rw [← Except.ok.inj hargument] at hp
          rw [List.mem_singleton.mp hp]
          exact h.isResolved
            (harguments path hpath (mapError_eq_ok_iff.mp hdirectory))

/-! ## Reports

A check that succeeds has shown and read every path that it collected. -/

/-- The findings reported for a collected path: under the path as it is shown,
the diagnostics of what is read under it. -/
def Config.Reports (config : Config) (disk : Disk) (path : Path)
    (f : Findings) :
    Prop :=
  ∃ shown lines, disk.display path = .ok shown ∧
    disk.readGrammar path = .ok lines ∧
    f = ⟨shown.toText, config.filter (validate lines)⟩

theorem Disk.hasNul_of_readGrammar {disk : Disk} {path : Path}
    {lines : List Text} (h : disk.readGrammar path = .ok lines) :
    path.hasNul = false := by
  cases hnul : path.hasNul with
  | false => rfl
  | true =>
      rw [Disk.readGrammar, Disk.readText, if_pos hnul] at h
      cases h

/-- On a disk with proper names every path that is shown and read has a file. -/
theorem Disk.HasProperNames.resolve_of_display {disk : Disk}
    (h : disk.HasProperNames) (hlinks : disk.Linkless) {path shown : Path}
    {lines : List Text} (hshown : disk.display path = .ok shown)
    (hlines : disk.readGrammar path = .ok lines) :
    ∃ file, disk.resolve path = .ok file ∧
      disk.readGrammar path = .ok (disk.linesOf file) := by
  have hnul := Disk.hasNul_of_readGrammar hlines
  cases hfile : disk.resolve path with
  | ok file =>
      rw [Disk.readGrammar_eq_linesOf hlinks hlines hfile] at hlines
      exact ⟨file, rfl, hlines⟩
  | error fault =>
      exfalso
      have hfault : fault = .nul := by
        rw [Disk.display, hfile] at hshown
        cases fault with
        | nul => rfl
        | tooLong | noDirectory | loop | denied | tooDeep => cases hshown
      exact hlinks.resolve_ne_nul h hnul (hfault ▸ hfile)

theorem Config.reports_of_display {config : Config} {disk : Disk}
    {path shown : Path} {lines : List Text}
    (hlines : disk.readGrammar path = .ok lines)
    (hshown : disk.display path = .ok shown) :
    config.Reports disk path ⟨shown.toText,
      config.diagnosticsAt disk path⟩ := by
  refine ⟨shown, lines, hshown, hlines, ?_⟩
  rw [Config.diagnosticsAt, hlines]

theorem eraseDups_results (files : List Path) (g : Path → List Diagnostic) :
    (files.map fun path => (path, g path)).eraseDups =
      files.eraseDups.map fun path => (path, g path) :=
  eraseDups_map (fun _ _ h => (Prod.mk.inj h).1) files

/-- A check that ends with a report has reported every collected path once. -/
theorem CheckRequest.Passes.findings {request : CheckRequest} {disk : Disk}
    {config : Config} {codes : List Code} {files : List Path}
    (h : request.Passes disk config codes files) {format : ReportFormat}
    (hformat : ReportFormat.ofName? request.format = some format)
    (hfailure : (request.run disk).failure = none) :
    ∃ findings, format.write findings = .ok (request.run disk).stdout ∧
      List.Forall₂
        ({ config with disable := config.disable ++ codes }.Reports disk)
        files.eraseDups findings := by
  obtain ⟨findings, hshown, report, hreport, hrun⟩ := h.run hformat hfailure
  refine ⟨findings, hrun ▸ hreport, ?_⟩
  rw [eraseDups_results] at hshown
  have hall := List.forall₂_map_left_iff.mp (mapM_eq_ok_iff.mp hshown)
  have hreadable : ∀ path ∈ files.eraseDups,
      ∃ lines, disk.readGrammar path = .ok lines :=
    fun path hpath => h.readable path (List.mem_eraseDups.mp hpath)
  refine ((List.forall₂_and_left _ _).mpr ⟨hreadable, hall⟩).imp
    fun path f hpath => ?_
  obtain ⟨⟨lines, hlines⟩, hf⟩ := hpath
  obtain ⟨shown, hdisplay, rfl⟩ := map_eq_ok_iff.mp hf
  exact Config.reports_of_display hlines hdisplay

theorem exists_of_forall₂ {α β : Type} {R : α → β → Prop} {as : List α}
    {bs : List β} (h : List.Forall₂ R as bs) : ∀ a ∈ as, ∃ b, R a b := by
  induction h with
  | nil => exact fun a ha => by cases ha
  | cons hab _ ih => exact List.forall_mem_cons.mpr ⟨⟨_, hab⟩, ih⟩

/-- As many files as paths: no file is collected under two paths. -/
theorem length_eraseDups_eq_files_iff (disk : Disk) (files : List Path) :
    files.eraseDups.length = (files.toFinset.image disk.fileOf).card ↔
      ∀ p ∈ files, ∀ q ∈ files, disk.fileOf p = disk.fileOf q → p = q := by
  rw [length_eraseDups, eq_comm, Finset.card_image_iff, List.coe_toFinset]
  exact ⟨fun h p hp q hq heq => h hp hq heq,
    fun h p hp q hq heq => h p hp q hq heq⟩

/-- Resolved paths lead to different files. -/
theorem Disk.fileOf_injOn {disk : Disk} (hlinks : disk.Linkless)
    {files : List Path} (h : ∀ p ∈ files, p.IsResolved) :
    ∀ p ∈ files, ∀ q ∈ files, disk.fileOf p = disk.fileOf q → p = q := by
  intro p hp q hq heq
  rwa [Disk.fileOf_eq ((h p hp).resolve hlinks),
    Disk.fileOf_eq ((h q hq).resolve hlinks)] at heq

theorem ofList_flatMap_concat (lines : List Text) (last : String) :
    String.ofList ((lines ++ [last.toList]).flatMap (· ++ ['\n'])) =
      String.ofList (lines.flatMap (· ++ ['\n'])) ++ last ++ "\n" := by
  rw [List.flatMap_append, List.flatMap_singleton, String.ofList_append,
    String.ofList_append, String.ofList_toList, String.append_assoc]

/-- A check of one file under its own path and by its directory. -/
def overlappingRequest : CheckRequest where
  paths := [⟨.here, ["a.lark".toList]⟩, ⟨.here, []⟩]
  format := "json".toList

/-- The two paths under which that check collects the file. -/
def overlappingFiles : List Path :=
  [⟨.here, ["a.lark".toList]⟩, ⟨.root, ["a.lark".toList]⟩]

/-- A disk with a grammar in a directory and a link to it beside it. -/
def linkedGrammarDisk : Disk where
  entries := [
    ([['g']], .directory),
    ([['g'], "a.lark".toList], .file []),
    ([['g'], "b.lark".toList], .link { target := ⟨.here, ["a.lark".toList]⟩ })]

example :
    let grammar := Path.absolute [['g'], "a.lark".toList]
    let link := Path.absolute [['g'], "b.lark".toList]
    Config.filesAt { root := .absolute [] } linkedGrammarDisk ['g'] =
        .ok [grammar, link] ∧
      linkedGrammarDisk.fileOf link = linkedGrammarDisk.fileOf grammar := by
  decide +kernel

end GrammarLint
