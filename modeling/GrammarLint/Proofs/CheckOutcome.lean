import GrammarLint.Command.Run
import GrammarLint.Proofs.PrintedReports

/-!
# How a check ends

A check finds its settings, reads the codes to disable, collects the files and
reads one after the other. The first step that fails decides: nothing is
reported, whatever came before. `results_eq` writes the steps as one chain, and
`results_cases` reads it off: the steps all succeed (`Passes`), or the results
are the failure of one of them.

Not every failure is an error for the user. Collecting files and showing paths
fail in other ways only (`Unshown`), so a check that ends with an error has been
stopped by one of the steps in `Blocked`.

A check that passes its steps is judged by the grammars alone.
`FindsError` asks for an error that validation finds in a collected file,
with a code that is disabled neither by the settings nor on the command
line. `Passes.findsError_iff` says that this is what is left after codes
have been dropped, file by file.
-/

namespace GrammarLint

theorem bind_eq_ok_iff {α β ε : Type} {x : Except ε α}
    {f : α → Except ε β} {b : β} :
    x.bind f = .ok b ↔ ∃ a, x = .ok a ∧ f a = .ok b := by
  cases x <;> simp [Except.bind]

theorem map_eq_ok_iff {α β ε : Type} {x : Except ε α} {f : α → β} {b : β} :
    x.map f = .ok b ↔ ∃ a, x = .ok a ∧ f a = b := by
  cases x <;> simp [Except.map]

theorem mapError_eq_ok_iff {α ε δ : Type} {x : Except ε α} {f : ε → δ} {a : α} :
    x.mapError f = .ok a ↔ x = .ok a := by
  cases x <;> simp [Except.mapError]

theorem forall_of_mapM_eq_ok {α β ε : Type} {f : α → Except ε β} {as : List α}
    {bs : List β} (h : as.mapM f = .ok bs) : ∀ a ∈ as, ∃ b, f a = .ok b := by
  have hall := mapM_eq_ok_iff.mp h
  clear h
  induction hall with
  | nil => simp
  | cons hb _ ih => exact List.forall_mem_cons.mpr ⟨⟨_, hb⟩, ih⟩

/-- A list of steps fails with the failure of one of them. -/
theorem exists_of_mapM_eq_error {α β ε : Type} {f : α → Except ε β}
    {as : List α} {e : ε} (h : as.mapM f = .error e) :
    ∃ a ∈ as, f a = .error e := by
  obtain ⟨a, hfind, ha⟩ := mapM_eq_error_iff.mp h
  exact ⟨a, List.mem_of_find?_eq_some hfind, ha⟩

/-- If the step fails, then not with an error for the user. -/
def Unshown {α : Type} (x : Except Failure α) : Prop :=
  ∀ failure, x = .error failure → failure.shown? = none

theorem unshown_ok {α : Type} (a : α) : Unshown (.ok a) := fun _ h => nomatch h

theorem unshown_mapError {α ε : Type} {wrap : ε → Failure}
    (hwrap : ∀ e, (wrap e).shown? = none) (x : Except ε α) :
    Unshown (x.mapError wrap) := by
  intro failure h
  cases x with
  | ok a => cases h
  | error e => rw [← Except.error.inj h, hwrap]

theorem unshown_path {α : Type} (x : Except PathFault α) :
    Unshown (x.mapError Failure.path) :=
  unshown_mapError (fun _ => rfl) x

theorem Unshown.bind {α β : Type} {x : Except Failure α}
    {f : α → Except Failure β} (hx : Unshown x) (hf : ∀ a, Unshown (f a)) :
    Unshown (x >>= f) := by
  intro failure h
  cases x with
  | error other => exact hx failure (congrArg Except.error (Except.error.inj h))
  | ok a => exact hf a failure h

theorem Unshown.map {α β : Type} {x : Except Failure α} (hx : Unshown x)
    (f : α → β) :
    Unshown (x.map f) :=
  fun failure h => hx failure (map_eq_error_iff.mp h)

theorem unshown_mapM {α β : Type} {f : α → Except Failure β}
    (hf : ∀ a, Unshown (f a)) (as : List α) : Unshown (as.mapM f) := by
  intro failure h
  obtain ⟨a, -, ha⟩ := exists_of_mapM_eq_error h
  exact hf a failure ha

theorem unshown_filesAt (config : Config) (disk : Disk) (path : Text) :
    Unshown (config.filesAt disk path) := by
  refine (unshown_path _).bind fun base => (unshown_path _).bind
    fun isFile => ?_
  split
  · exact unshown_ok _
  · refine (unshown_path _).bind fun isDirectory => ?_
    split
    · exact (unshown_mapError (fun _ => rfl) _).bind fun names =>
        (unshown_path _).bind fun files => unshown_ok _
    · exact unshown_ok _

/-- Collecting files fails only on a path or on the pattern. -/
theorem unshown_collect (config : Config) (disk : Disk)
    (arguments : List Path) :
    Unshown (config.collect disk arguments) := by
  have hdiscover : ∀ config : Config, Unshown (config.discover disk) :=
    fun config => (unshown_mapM (unshown_filesAt config disk) _).map _
  have hargument : ∀ path, Unshown (config.filesOfArgument disk path) := by
    intro path
    refine (unshown_path _).bind fun isDirectory => ?_
    split
    · exact (unshown_path _).bind fun directory => hdiscover _
    · exact unshown_ok _
  cases arguments with
  | nil => exact hdiscover config
  | cons path paths => exact (unshown_mapM hargument _).map _

theorem ofLabel?_eq_some_iff {label : String} {code : Code} :
    Code.ofLabel? label = some code ↔ label = code.label := by
  constructor
  · intro h
    have hfound := List.find?_some h
    exact (beq_iff_eq.mp hfound).symm
  · intro heq
    subst heq
    cases code <;> decide

theorem label_injective {a b : Code}
    (h : a.label.toList = b.label.toList) : a = b := by
  have hlabel : a.label = b.label := String.toList_inj.mp h
  exact Option.some.inj
    ((ofLabel?_eq_some_iff.mpr hlabel).symm.trans
      (ofLabel?_eq_some_iff.mpr rfl)) |>.symm

theorem labels_of_readCodes {labels : List Text} {codes : List Code}
    (h : Config.readCodes labels = .ok codes) :
    labels = codes.map fun code => code.label.toList := by
  have hall := mapM_eq_ok_iff.mp h
  rw [← List.forall₂_eq_eq_eq, List.forall₂_map_right_iff]
  refine hall.imp fun label code hcode => ?_
  split at hcode
  · next found hfound =>
      obtain rfl := Except.ok.inj hcode
      have hlabel := ofLabel?_eq_some_iff.mp hfound
      rw [← hlabel, String.toList_ofList]
  · cases hcode

theorem readCodes_labels (codes : List Code) :
    Config.readCodes (codes.map fun code => code.label.toList) = .ok codes := by
  rw [Config.readCodes, mapM_eq_ok_iff, List.forall₂_map_left_iff,
    List.forall₂_same]
  intro code _
  rw [String.ofList_toList, ofLabel?_eq_some_iff.mpr rfl]

theorem exists_of_readCodes_eq_error {labels : List Text} {fault : ConfigFault}
    (h : Config.readCodes labels = .error fault) :
    ∃ label ∈ labels, Code.ofLabel? (String.ofList label) = none ∧
      fault = .unknownCode label := by
  obtain ⟨label, hlabel, hfault⟩ := exists_of_mapM_eq_error h
  split at hfault
  · cases hfault
  · next hnone => exact ⟨label, hlabel, hnone, (Except.error.inj hfault).symm⟩

/-! ## The steps of a check

The steps are named one by one, and with them what stops a check: settings that
are not found or cannot be used, a code that is none, a file that cannot be
read. -/

/-- The diagnostics of a file that are reported under these settings. -/
def Config.diagnosticsAt (config : Config) (disk : Disk) (path : Path) :
    List Diagnostic :=
  match disk.readGrammar path with
  | .ok lines => config.filter (validate lines)
  | .error _ => []

theorem Config.lint_eq_ok {config : Config} {disk : Disk} {path : Path}
    {lines : List Text} (h : disk.readGrammar path = .ok lines) :
    config.lint disk path = .ok (config.diagnosticsAt disk path) := by
  rw [Config.lint, Config.diagnosticsAt, h]
  rfl

theorem Config.lint_files {config : Config} {disk : Disk} {files : List Path}
    (h : ∀ path ∈ files, ∃ lines, disk.readGrammar path = .ok lines) :
    (files.mapM fun path => (config.lint disk path).map fun ds => (path, ds)) =
      .ok (files.map fun path => (path, config.diagnosticsAt disk path)) := by
  rw [mapM_eq_ok_iff, List.forall₂_map_right_iff, List.forall₂_same]
  intro path hpath
  obtain ⟨lines, hlines⟩ := h path hpath
  rw [Config.lint_eq_ok hlines]
  rfl

namespace CheckRequest

/-- Where settings are looked for: at the first argument, or at the working
directory. -/
def start (request : CheckRequest) (disk : Disk) : Except Failure Path :=
  match request.paths with
  | path :: _ => .ok path
  | [] => (disk.workingDirectory.map Path.absolute).mapError Failure.path

/-- The settings that a check goes by, before codes are disabled on the command
line. -/
def settings (request : CheckRequest) (disk : Disk) : Except Failure Config :=
  (request.start disk).bind fun start =>
    Config.resolve disk start request.config

/-- One of the steps of a check fails with this failure: the settings
are not found or cannot be used, a code to disable is none, or a
collected file cannot be read. -/
inductive Blocked (request : CheckRequest) (disk : Disk) : Failure → Prop
  | settings {failure : Failure} (h : request.settings disk = .error failure) :
      Blocked request disk failure
  | code {config : Config} {label : Text}
      (hsettings : request.settings disk = .ok config)
      (hlabel : label ∈ request.disable)
      (hnone : Code.ofLabel? (String.ofList label) = none) :
      Blocked request disk (.config (config.file.getD config.root)
        (.unknownCode label))
  | file {config : Config} {files : List Path} {path : Path} {failure : Failure}
      (hsettings : request.settings disk = .ok config)
      (hfiles : config.collect disk request.paths = .ok files)
      (hpath : path ∈ files)
      (hread : disk.readGrammar path = .error failure) :
      Blocked request disk failure

/-- A collected file has an error whose code is disabled neither by the settings
nor on the command line. -/
def FindsError (request : CheckRequest) (disk : Disk) (config : Config)
    (files : List Path) :
    Prop :=
  ∃ path ∈ files, ∃ lines, disk.readGrammar path = .ok lines ∧
    ∃ d ∈ validate lines,
    d.isError = true ∧ d.code ∉ config.disable ∧
    d.code.label.toList ∉ request.disable

/-- What a check writes to its log. -/
def log (request : CheckRequest) (disk : Disk) : String :=
  if request.verbose then (request.results disk).1 else ""

theorem lintAll_snd (config : Config) (disk : Disk) (files : List Path) :
    (config.lintAll disk files).2 =
      files.mapM fun path => (config.lint disk path).map fun ds =>
        (path, ds) := by
  induction files with
  | nil => rfl
  | cons path paths ih =>
      rw [Config.lintAll, List.mapM_cons, ← ih, Config.lint]
      cases disk.readGrammar path with
      | error failure => rfl
      | ok lines =>
          cases h : (config.lintAll disk paths).2 with
          | error failure => simp [h]; rfl
          | ok results => simp [h]; rfl

theorem results_eq (request : CheckRequest) (disk : Disk) :
    (request.results disk).2 = (request.settings disk).bind fun config =>
      (config.withDisabled request.disable).bind fun config =>
        (config.collect disk request.paths).bind fun files =>
          (files.mapM fun path => (config.lint disk path).map
              fun ds => (path, ds)).map
            List.eraseDups := by
  unfold results settings start
  cases request.paths with
  | nil | cons =>
      dsimp only
      split
      · next failure hsettings => rw [hsettings]; rfl
      · next config hsettings =>
          rw [hsettings]
          simp only [Except.bind, ← lintAll_snd]
          cases config.withDisabled request.disable with
          | error failure => rfl
          | ok config =>
              dsimp only
              cases config.collect disk _ with
              | error failure => rfl
              | ok files => rfl

/-- The findings as they are shown: every path is shown from the working
directory. -/
def shownFindings (disk : Disk) (results : List (Path × List Diagnostic)) :
    Except Failure (List Findings) :=
  results.mapM fun result => (disk.display result.1).map fun shown =>
    ⟨shown.toText, result.2⟩

theorem unshown_shownFindings (disk : Disk)
    (results : List (Path × List Diagnostic)) :
    Unshown (shownFindings disk results) := by
  refine unshown_mapM (fun result => Unshown.map ?_ _) _
  intro failure h
  rw [Disk.display] at h
  split at h
  · cases h
  · rw [← Except.error.inj h]
    rfl
  · split at h
    · cases h
    · rw [← Except.error.inj h]
      rfl

/-- No report fails to be written. -/
theorem write_eq_ok (findings : List Findings) (format : ReportFormat) :
    ∃ report, format.write findings = .ok report := by
  cases format with
  | human =>
      obtain ⟨lines, hhuman, -⟩ := Findings.human_terminal findings
      exact ⟨_, by rw [ReportFormat.write, hhuman]⟩
  | console => exact ⟨_, rfl⟩
  | json => exact ⟨_, rfl⟩

theorem run_of_error {request : CheckRequest} {disk : Disk}
    {format : ReportFormat}
    (hformat : ReportFormat.ofName? request.format = some format)
    {failure : Failure} (h : (request.results disk).2 = .error failure) :
    request.run disk = .failed (request.log disk) failure := by
  rw [run, hformat]
  dsimp only
  rw [h]
  rfl

theorem run_of_undisplayed {request : CheckRequest} {disk : Disk}
    {format : ReportFormat}
    (hformat : ReportFormat.ofName? request.format = some format)
    {results : List (Path × List Diagnostic)}
    (h : (request.results disk).2 = .ok results) {failure : Failure}
    (hshown : shownFindings disk results = .error failure) :
    request.run disk = .failed (request.log disk) failure := by
  rw [run, hformat]
  dsimp only
  rw [h]
  dsimp only
  split
  · next other hother =>
      have hfailure : (shownFindings disk results).bind (fun findings =>
          (format.write findings).map (findings, ·)) = .error other := hother
      rw [hshown] at hfailure
      rw [← Except.error.inj hfailure]
      rfl
  · next findings report hok =>
      have hnone : (shownFindings disk results).bind (fun findings =>
          (format.write findings).map (findings, ·)) = .ok (findings, report) :=
          hok
      rw [hshown] at hnone
      cases hnone

theorem run_of_ok {request : CheckRequest} {disk : Disk} {format : ReportFormat}
    (hformat : ReportFormat.ofName? request.format = some format)
    {results : List (Path × List Diagnostic)}
    (h : (request.results disk).2 = .ok results) {findings : List Findings}
    (hshown : shownFindings disk results = .ok findings) {report : String}
    (hreport : format.write findings = .ok report) :
    request.run disk =
      { exitCode := if Findings.errors findings = 0 then 0 else 1
        stdout := report
        stderr := request.log disk } := by
  rw [run, hformat]
  dsimp only
  rw [h]
  dsimp only
  have hwritten : (shownFindings disk results).bind (fun findings =>
      (format.write findings).map (findings, ·)) = .ok (findings, report) := by
    rw [hshown, Except.bind, hreport]
    rfl
  split
  · next failure hfailure => cases hwritten.symm.trans hfailure
  · next findings' report' hok =>
      obtain ⟨rfl, rfl⟩ := Prod.mk.inj (Except.ok.inj (hwritten.symm.trans hok))
      rfl

/-- Every step of a check succeeds: the settings are found, the codes to disable
are codes, and the collected files can be read. -/
structure Passes (request : CheckRequest) (disk : Disk) (config : Config)
    (codes : List Code) (files : List Path) : Prop where
  settings : request.settings disk = .ok config
  labels : request.disable = codes.map fun code => code.label.toList
  collected : config.collect disk request.paths = .ok files
  readable : ∀ path ∈ files, ∃ lines, disk.readGrammar path = .ok lines

/-- Collecting files does not ask which codes are disabled. -/
theorem collect_disable (config : Config) (disable : List Code) (disk : Disk)
    (arguments : List Path) :
    { config with disable }.collect disk arguments =
      config.collect disk arguments := rfl

/-- Where every step succeeds, every collected path has a result, once. -/
theorem Passes.results {request : CheckRequest} {disk : Disk} {config : Config}
    {codes : List Code} {files : List Path}
    (h : request.Passes disk config codes files) :
    (request.results disk).2 = .ok (List.eraseDups (files.map fun path =>
      (path, { config with disable := config.disable ++ codes }.diagnosticsAt
        disk path))) := by
  rw [results_eq, h.settings, Except.bind, Config.withDisabled, h.labels,
    readCodes_labels]
  simp only [Except.bind, collect_disable, h.collected,
    Config.lint_files h.readable]
  rfl

/-- The steps of a check succeed, or its results are the failure of one of
them. -/
theorem results_cases (request : CheckRequest) (disk : Disk) :
    (∃ failure, (request.results disk).2 = .error failure ∧
      (request.Blocked disk failure ∨ failure.shown? = none)) ∨
    ∃ config codes files, request.Passes disk config codes files := by
  rw [results_eq]
  cases hsettings : request.settings disk with
  | error failure => exact .inl ⟨failure, rfl, .inl (.settings hsettings)⟩
  | ok config =>
      simp only [Except.bind, Config.withDisabled]
      cases hcodes : Config.readCodes request.disable with
      | error fault =>
          obtain ⟨label, hlabel, hnone, rfl⟩ :=
            exists_of_readCodes_eq_error hcodes
          exact .inl ⟨_, rfl, .inl (.code hsettings hlabel hnone)⟩
      | ok codes =>
          simp only [collect_disable]
          cases hfiles : config.collect disk request.paths with
          | error failure =>
              exact .inl ⟨failure, rfl, .inr (unshown_collect _ _ _ _ hfiles)⟩
          | ok files =>
              dsimp only
              cases hfound : files.mapM fun path =>
                  ({ config with disable := config.disable ++ codes }.lint
                      disk path).map
                    fun ds => (path, ds) with
              | error failure =>
                  obtain ⟨path, hpath, hread⟩ := exists_of_mapM_eq_error hfound
                  have hread := map_eq_error_iff.mp (map_eq_error_iff.mp hread)
                  exact .inl ⟨failure, rfl,
                    .inl (.file hsettings hfiles hpath hread)⟩
              | ok found =>
                  refine .inr ⟨config, codes, files,
                    hsettings, labels_of_readCodes hcodes, hfiles,
                    fun path hpath => ?_⟩
                  obtain ⟨result, hresult⟩ :=
                    forall_of_mapM_eq_ok hfound path hpath
                  obtain ⟨ds, hlint, -⟩ := map_eq_ok_iff.mp hresult
                  obtain ⟨lines, hlines, -⟩ := map_eq_ok_iff.mp hlint
                  exact ⟨lines, hlines⟩

theorem Passes.not_blocked {request : CheckRequest} {disk : Disk}
    {config : Config} {codes : List Code} {files : List Path}
    (h : request.Passes disk config codes files) (failure : Failure) :
    ¬ request.Blocked disk failure := by
  intro hblocked
  cases hblocked with
  | settings hsettings => cases hsettings.symm.trans h.settings
  | code hsettings hlabel hnone =>
      rw [h.labels] at hlabel
      obtain ⟨code, -, rfl⟩ := List.mem_map.mp hlabel
      rw [String.ofList_toList, ofLabel?_eq_some_iff.mpr rfl] at hnone
      cases hnone
  | file hsettings hfiles hpath hread =>
      obtain rfl := Except.ok.inj (hsettings.symm.trans h.settings)
      obtain rfl := Except.ok.inj (hfiles.symm.trans h.collected)
      obtain ⟨lines, hlines⟩ := h.readable _ hpath
      cases hread.symm.trans hlines

/-- The check finds an error exactly when one of the diagnostics it keeps is
one. -/
theorem Passes.findsError_iff {request : CheckRequest} {disk : Disk}
    {config : Config} {codes : List Code} {files : List Path}
    (h : request.Passes disk config codes files) :
    request.FindsError disk config files ↔ ∃ path ∈ files,
      ∃ d ∈ { config with disable := config.disable ++
          codes }.diagnosticsAt disk path,
        d.isError = true := by
  have hkept : ∀ d : Diagnostic,
    (!(config.disable ++ codes).contains d.code) = true ↔
      d.code ∉ config.disable ∧ d.code.label.toList ∉ request.disable := by
    intro d
    have hlabel : d.code.label.toList ∈ request.disable ↔ d.code ∈ codes := by
      rw [h.labels, List.mem_map]
      exact ⟨fun ⟨code, hcode, heq⟩ => label_injective heq ▸ hcode,
        fun hcode => ⟨_, hcode, rfl⟩⟩
    rw [hlabel]
    simp
  constructor
  · intro hgiven
    obtain ⟨path, hpath, lines, hlines, d, hd, herror, hdisable, hlabel⟩ :=
      hgiven
    refine ⟨path, hpath, d, ?_, herror⟩
    rw [Config.diagnosticsAt, hlines]
    exact List.mem_filter.mpr ⟨hd, (hkept d).mpr ⟨hdisable, hlabel⟩⟩
  · intro hgiven
    obtain ⟨path, hpath, d, hd, herror⟩ := hgiven
    obtain ⟨lines, hlines⟩ := h.readable path hpath
    rw [Config.diagnosticsAt, hlines] at hd
    obtain ⟨hd, hcode⟩ := List.mem_filter.mp hd
    exact ⟨path, hpath, lines, hlines, d, hd, herror, (hkept d).mp hcode⟩

theorem diagnostics_of_shownFindings {disk : Disk}
    {results : List (Path × List Diagnostic)} {findings : List Findings}
    (h : shownFindings disk results = .ok findings) :
    findings.map Findings.diagnostics = results.map Prod.snd := by
  have hall := mapM_eq_ok_iff.mp h
  clear h
  induction hall with
  | nil => rfl
  | @cons result f results findings hf _ ih =>
      obtain ⟨shown, -, rfl⟩ := map_eq_ok_iff.mp hf
      rw [List.map_cons, List.map_cons, ih]

theorem errors_eq_zero_iff {findings : List Findings} :
    Findings.errors findings = 0 ↔
      ∀ ds ∈ findings.map Findings.diagnostics,
        ∀ d ∈ ds, ¬ d.isError = true := by
  rw [Findings.errors, List.length_eq_zero_iff, List.filter_eq_nil_iff]
  simp only [List.mem_flatMap, List.mem_map]
  constructor
  · intro h ds hgiven d hd
    obtain ⟨f, hf, rfl⟩ := hgiven
    exact h d ⟨f, hf, hd⟩
  · intro h d hgiven
    obtain ⟨f, hf, hd⟩ := hgiven
    exact h _ ⟨f, hf, rfl⟩ d hd

/-- A check that passes all its steps, and shows every path, ends with a
report. -/
theorem Passes.run {request : CheckRequest} {disk : Disk} {config : Config}
    {codes : List Code} {files : List Path}
    (h : request.Passes disk config codes files) {format : ReportFormat}
    (hformat : ReportFormat.ofName? request.format = some format)
    (hfailure : (request.run disk).failure = none) :
    ∃ findings, shownFindings disk (List.eraseDups (files.map fun path =>
        (path, { config with disable := config.disable ++ codes }.diagnosticsAt
            disk path))) =
          .ok findings ∧
      ∃ report, format.write findings = .ok report ∧ request.run disk =
        { exitCode := if Findings.errors findings = 0 then 0 else 1
          stdout := report
          stderr := request.log disk } := by
  cases hshown : shownFindings disk (List.eraseDups (files.map fun path =>
      (path, { config with disable := config.disable ++ codes }.diagnosticsAt
        disk path))) with
  | error failure =>
      rw [run_of_undisplayed hformat h.results hshown, Outcome.failed,
        unshown_shownFindings _ _ _ hshown] at hfailure
      cases hfailure
  | ok findings =>
      obtain ⟨report, hreport⟩ := write_eq_ok findings format
      exact ⟨findings, rfl, report, hreport,
        run_of_ok hformat h.results hshown hreport⟩

/-- A check that passes all its steps ends with 1 if it finds an error, else
with 0. -/
theorem Passes.exitCode {request : CheckRequest} {disk : Disk} {config : Config}
    {codes : List Code} {files : List Path}
    (h : request.Passes disk config codes files) {format : ReportFormat}
    (hformat : ReportFormat.ofName? request.format = some format)
    (hfailure : (request.run disk).failure = none) :
    (request.FindsError disk config files → (request.run disk).exitCode = 1) ∧
      (¬ request.FindsError disk config files →
        (request.run disk).exitCode = 0) := by
  obtain ⟨findings, hshown, hrun⟩ := h.run hformat hfailure
  obtain ⟨report, -, hrun⟩ := hrun
  have hnone : Findings.errors findings = 0 ↔
      ¬ request.FindsError disk config files := by
    rw [errors_eq_zero_iff, diagnostics_of_shownFindings hshown,
      h.findsError_iff]
    simp only [List.mem_map, List.mem_eraseDups]
    constructor
    · intro hall hgiven
      obtain ⟨path, hpath, d, hd, herror⟩ := hgiven
      exact hall _ ⟨_, ⟨path, hpath, rfl⟩, rfl⟩ d hd herror
    · intro hall _ hgiven d hd herror
      obtain ⟨_, ⟨path, hpath, rfl⟩, rfl⟩ := hgiven
      exact hall ⟨path, hpath, d, hd, herror⟩
  rw [hrun]
  exact ⟨fun herror => if_neg fun hzero => hnone.mp hzero herror,
    fun herror => if_pos (hnone.mpr herror)⟩

/-- The exit code does not depend on the form of the report. -/
theorem exitCode_format {request : CheckRequest} {disk : Disk}
    {format : ReportFormat}
    (hformat : ReportFormat.ofName? request.format = some format) {name : Text}
    {other : ReportFormat} (hother : ReportFormat.ofName? name = some other) :
    ({ request with format := name }.run disk).exitCode =
      (request.run disk).exitCode := by
  have hsame : { request with format := name }.results disk =
      request.results disk := rfl
  cases hresults : (request.results disk).2 with
  | error failure =>
      rw [run_of_error hformat hresults, run_of_error hother (hsame ▸ hresults)]
      rfl
  | ok results =>
      cases hshown : shownFindings disk results with
      | error failure =>
          rw [run_of_undisplayed hformat hresults hshown,
            run_of_undisplayed hother (hsame ▸ hresults) hshown]
          rfl
      | ok findings =>
          obtain ⟨report, hreport⟩ := write_eq_ok findings format
          obtain ⟨report', hreport'⟩ := write_eq_ok findings other
          rw [run_of_ok hformat hresults hshown hreport,
            run_of_ok hother (hsame ▸ hresults) hshown hreport']

/-- A failure that does not escape is shown. -/
theorem failed_eq_refused {log : String} {failure : Failure}
    (h : (Outcome.failed log failure).failure = none) :
    ∃ error, failure.shown? = some error ∧
      Outcome.failed log failure = .refused 2 log error.text := by
  rw [Outcome.failed] at h ⊢
  cases hshown : failure.shown? with
  | some error => exact ⟨error, rfl, rfl⟩
  | none => rw [hshown] at h; cases h

/-- A check that no other failure cuts short is refused with the error of a
step, or passes all its steps. -/
theorem refused_or_passes {request : CheckRequest} {disk : Disk}
    {format : ReportFormat}
    (hformat : ReportFormat.ofName? request.format = some format)
    (hfailure : (request.run disk).failure = none) :
    (∃ failure error, request.Blocked disk failure ∧
        failure.shown? = some error ∧
      request.run disk = .refused 2 (request.log disk) error.text) ∨
    ∃ config codes files, request.Passes disk config codes files := by
  rcases request.results_cases disk with ⟨failure, hresults, hblocked⟩ | hpasses
  · have hrun := run_of_error hformat hresults
    rw [hrun] at hfailure
    obtain ⟨error, herror, hrefused⟩ := failed_eq_refused hfailure
    rcases hblocked with hblocked | hunshown
    · exact .inl ⟨failure, error, hblocked, herror, hrun.trans hrefused⟩
    · cases hunshown.symm.trans herror
  · exact .inr hpasses

end CheckRequest

/-- A disk with one grammar, which refers to a rule that it does not define. -/
def openRuleDisk : Disk where
  entries := [(["a.lark".toList], .file (Utf8.encode "start: b\n".toList))]

/-- A check of the grammar on that disk and of one that is not there. -/
def missingFileRequest : CheckRequest where
  paths := [⟨.here, ["a.lark".toList]⟩, ⟨.here, ["b.lark".toList]⟩]
  format := "json".toList

end GrammarLint
