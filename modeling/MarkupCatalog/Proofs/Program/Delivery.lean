import MarkupCatalog.Proofs.Collection.Success
import MarkupCatalog.Proofs.Json.Indented
import MarkupCatalog.Proofs.Program.Destination

/-!
# What a run of the program delivers

A run that exits with the code zero has collected all records (`Collector.Runs.succeeds`).  Where
they are then depends on the options (`destination`): in a file, of which the summary speaks, or on
the console.  `delivers_of_exit_zero` says so of every run, in whatever order the collection takes
its turns.  In one case they are in neither place: if the arguments give a blank text for the
output, no file is written, and yet there is a summary (`nowhere_blank`).

The readers of a run are arbitrary: nothing is assumed of how YAML and foreign charsets are read.
The runs with fixed arguments use `Readers.usual`.
-/

namespace MarkupCatalog

/-- **Records that were printed are read** as the records, if no key of their metadata is there
twice. -/
theorem read?_printed {records : List Record} (h : ∀ r ∈ records, r.metadata.keys.Nodup) :
    Json.read? ((Json.array (records.map Record.json)).indented 0 ++ "\n") =
      some (.array (records.map fun r => r.value .record)) := by
  have hvalues : (records.map Record.json).map Json.value =
      records.map fun r => r.value .record := by
    rw [List.map_map]
    exact List.map_congr_left fun r hr => Record.value_written (h r hr) .record
  rw [Json.read?_indented, Json.value, Json.values_eq_map, hvalues]

namespace Program

open Collection

/-! ## All reports -/

section Reports

variable (readers : Readers) (fs : FileSystem) (account : Account) (logger : Log.Logger)
  (a : Arguments)

/-- The report is one that the command can come to when the main line and the writer of its
collection take turns in some order. -/
def Collects (r : Report) : Prop :=
  match options readers.yaml fs account a with
  | .error f => r = failed fs [] f
  | .ok o =>
      match Settings.ofOptions account (.mapping o) with
      | .error f => r = failed fs [] f
      | .ok settings =>
          ∃ outcome,
            (Collector.ofSettings settings readers.codecs).Runs fs account { logger } outcome ∧
              r = concluded o outcome

/-- The report is one that the program can come to. -/
def Reports (r : Report) : Prop :=
  match a.logFile.mapM (pathOf .pathDropped) with
  | .error f => r = { ending := .escaped f, fs }
  | .ok logFile =>
      match logger.configure fs a.verbosity logFile with
      | (_, fs, some f) => r = { ending := .escaped f, fs }
      | (logger, fs, none) => Collects readers fs account logger a r

/-- The report of `collect` is one that the command can come to. -/
theorem collects_collect :
    Collects readers fs account logger a (collect readers fs account logger a) := by
  unfold Collects collect
  cases options readers.yaml fs account a with
  | error f => rfl
  | ok o =>
      simp only
      cases Settings.ofOptions account (.mapping o) with
      | error f => rfl
      | ok settings => exact ⟨_, Collector.runs_run _ _ _ _, rfl⟩

/-- **The usual report is one of all reports.** -/
theorem reports_run : Reports readers fs account logger a (run readers fs account logger a) := by
  unfold Reports run
  cases a.logFile.mapM (pathOf .pathDropped) with
  | error f => rfl
  | ok logFile =>
      simp only
      rcases logger.configure fs a.verbosity logFile with ⟨l, fs', _ | f⟩
      · exact collects_collect readers fs' account l a
      · rfl

end Reports

/-! ## Runs that collect -/

/-- A run of the program that has come to collect: the logger and the file system when it begins to,
the options, the settings, and what the collection comes to. -/
structure Errand where
  logger : Log.Logger
  fs : FileSystem
  options : Options
  settings : Settings
  outcome : Collector.Outcome

namespace Errand

/-- The records that were collected. -/
def records (e : Errand) : List Record := e.outcome.state.shared.channel.records

/-- What is reported in the end. -/
def report (e : Errand) : Report := concluded e.options e.outcome

/-- What stands in an errand comes from what the program was started with. -/
structure Follows (readers : Readers) (fs : FileSystem) (account : Account) (logger : Log.Logger)
    (a : Arguments) (e : Errand) : Prop where
  configured : ∃ logFile, a.logFile.mapM (pathOf .pathDropped) = .ok logFile ∧
    logger.configure fs a.verbosity logFile = (e.logger, e.fs, none)
  options : Program.options readers.yaml e.fs account a = .ok e.options
  settings : Settings.ofOptions account (.mapping e.options) = .ok e.settings
  runs : (Collector.ofSettings e.settings readers.codecs).Runs e.fs account
    { logger := e.logger } e.outcome

end Errand

variable {readers : Readers} {fs : FileSystem} {account : Account} {logger : Log.Logger}
  {a : Arguments} {r : Report} {o : Options} {outcome : Collector.Outcome} {e : Errand}

/-- No failure is taken for a success. -/
theorem ending_failed_ne (fs : FileSystem) (console : Text) (f : Failure) :
    (failed fs console f).ending ≠ .exit 0 := by
  rw [failed]
  split <;> simp

/-- **Only a run that has collected exits with the code zero.** -/
theorem exists_errand (h : Reports readers fs account logger a r) (hexit : r.ending = .exit 0) :
    ∃ e : Errand, e.Follows readers fs account logger a ∧ e.report = r := by
  unfold Reports at h
  split at h
  · rw [h] at hexit
    cases hexit
  · next logFile hfile =>
    split at h
    · rw [h] at hexit
      cases hexit
    · next l fs' hconfigured =>
      unfold Collects at h
      split at h
      · exact absurd (h ▸ hexit) (ending_failed_ne _ _ _)
      · next o hoptions =>
        split at h
        · exact absurd (h ▸ hexit) (ending_failed_ne _ _ _)
        · next settings hsettings =>
          obtain ⟨outcome, hruns, hreport⟩ := h
          exact ⟨⟨l, fs', o, settings, outcome⟩,
            ⟨⟨logFile, hfile, hconfigured⟩, hoptions, hsettings, hruns⟩, hreport.symm⟩

/-- **Whatever an errand comes to is reported.** -/
theorem Errand.Follows.reports (h : e.Follows readers fs account logger a) :
    Reports readers fs account logger a e.report := by
  obtain ⟨⟨logFile, hfile, hconfigured⟩, hoptions, hsettings, hruns⟩ := h
  simp only [Reports, hfile, hconfigured, Collects, hoptions, hsettings]
  exact ⟨e.outcome, hruns, rfl⟩

/-- The usual report of a run that has come to collect. -/
theorem run_eq_concluded {fs' : FileSystem} {logger' : Log.Logger} {logFile : Option Path}
    {s : Settings} (hfile : a.logFile.mapM (pathOf .pathDropped) = .ok logFile)
    (hconfigured : logger.configure fs a.verbosity logFile = (logger', fs', none))
    (hoptions : options readers.yaml fs' account a = .ok o)
    (hsettings : Settings.ofOptions account (.mapping o) = .ok s) :
    run readers fs account logger a =
      concluded o
        ((Collector.ofSettings s readers.codecs).run fs' account { logger := logger' }) := by
  simp only [run, hfile, hconfigured, collect, hoptions, hsettings]

/-- What a conclusion has come to that exits with the code zero. -/
structure Concludes (o : Options) (outcome : Collector.Outcome) (r : Report) : Prop where
  failure : outcome.failure = none
  wait : outcome.state.shared.channel.wait = .ok true
  fs : r.fs = outcome.state.shared.file.fs
  output : printed r.fs o outcome.state.shared.channel.records = .ok r.output

/-- A collection that ends with the code zero has had no failure on its way. -/
theorem concludes_of_exit_zero (hexit : (concluded o outcome).ending = .exit 0) :
    Concludes o outcome (concluded o outcome) := by
  rcases hfailure : outcome.failure with _ | f
  · rcases hwait : outcome.state.shared.channel.wait with f | _ | _
    · simp only [concluded, hfailure, hwait] at hexit
      exact absurd hexit (ending_failed_ne _ _ _)
    · simp only [concluded, hfailure, hwait] at hexit
      cases hexit
    · rcases hprinted : printed outcome.state.shared.file.fs o
          outcome.state.shared.channel.records with f | output
      · simp only [concluded, hfailure, hwait, hprinted] at hexit
        cases hexit
      · simp only [concluded, hfailure, hwait, hprinted]
        exact ⟨hfailure, hwait, rfl, hprinted⟩
  · simp only [concluded, hfailure] at hexit
    exact absurd hexit (ending_failed_ne _ _ _)

/-! ## What is printed -/

/-- The line that says how many records went into a file. -/
def summary (count : Nat) (shown : Text) : Text :=
  "Collected " ++ Text.ofNat count ++ " components into " ++ shown ++ "\n"

/-- A report whose output is the summary of so many records. -/
def Report.Summarizes (r : Report) (count : Nat) : Prop := ∃ shown, r.output = summary count shown

/-- A run whose options give an output prints the summary. -/
theorem summarizes_of_given {given : Path} (h : Concludes o outcome r)
    (hgiven : givenOutput? o = some given) :
    r.Summarizes outcome.state.shared.channel.records.length := by
  have houtput := h.output
  rw [printed, hgiven] at houtput
  obtain ⟨shown, _, hshown⟩ := exists_of_bind_eq_ok houtput
  exact ⟨shown, (Except.ok.inj hshown).symm⟩

/-- A run whose options give no output prints the records. -/
theorem output_of_not_given (h : Concludes o outcome r) (hgiven : givenOutput? o = none) :
    r.output =
      (Json.array (outcome.state.shared.channel.records.map Record.json)).indented 0 ++ "\n" := by
  have houtput := h.output
  rw [printed, hgiven] at houtput
  exact (Except.ok.inj houtput).symm

/-- No summary is taken for records. -/
theorem read?_summary (count : Nat) (shown : Text) : Json.read? (summary count shown) = none := by
  rfl

/-! ## Where the records are -/

/-- The output of a run holds the records, unless it is no file or the log is kept in it. -/
def Errand.Wrote (e : Errand) (path : Path) (fs : FileSystem) : Prop :=
  ∃ place entry, fs.lookUp .target path.text = .ok ⟨place, some entry⟩ ∧
    ∀ content, entry = .file content → ¬ e.logger.WritesTo place →
      content = Charset.Utf8.encode (arrayText e.settings.mode e.records) ∧
      Json.read? (arrayText e.settings.mode e.records) =
        some (.array (e.records.map fun r => r.value e.settings.mode))

/-- What a run delivers that exits with the code zero. -/
structure Delivers (readers : Readers) (account : Account) (a : Arguments) (e : Errand)
    (r : Report) : Prop where
  /-- The records are those of all blocks of the files that were found, in their order. -/
  records : ∃ log registry,
    (Collector.ofSettings e.settings readers.codecs).scanner.scan
      ((Collector.ofSettings e.settings readers.codecs).systemAtScan e.fs { logger := e.logger })
      account e.settings.root.text = (log, .ok registry) ∧
    e.records = (blocksOf e.settings.dialect registry).mapIdx fun i found =>
      .ofBlock e.settings.template found.1 i found.2
  summarizes_iff : (∃ count, r.Summarizes count) ↔
    e.settings.writesOutput = true ∨ blankOutput a = true
  /-- With an output, they are in the file. -/
  file : ∀ path, e.settings.output = some path →
    r.Summarizes e.records.length ∧ e.Wrote path r.fs
  /-- Without one, they are printed. -/
  console : e.settings.output = none → blankOutput a = false →
    Json.read? r.output = some (.array (e.records.map fun r => r.value .record))
  /-- A blank output is none, and the records are not printed either. -/
  nowhere : blankOutput a = true →
    e.settings.output = none ∧ r.Summarizes e.records.length ∧ Json.read? r.output = none
  /-- Without an output, nothing is written but the log. -/
  onlyLogs : e.settings.output = none → e.logger.OnlyLogs e.fs r.fs

theorem Errand.Follows.delivers (h : e.Follows readers fs account logger a)
    (hend : Concludes e.options e.outcome r) : Delivers readers account a e r := by
  have hsucceeds := h.runs.succeeds hend.failure hend.wait
  have hfile : ∀ path, e.settings.output = some path → e.Wrote path r.fs := by
    intro path houtput
    obtain ⟨hlogger, _, place, entry, handle, hleads, _, _, hbytes⟩ := hsucceeds.holds path houtput
    refine ⟨place, entry, by rw [hend.fs]; exact hleads, fun content hentry hlog => ?_⟩
    exact ⟨hbytes hlog content hentry, read?_arrayText e.settings.mode hsucceeds.keys⟩
  have hlogs : e.settings.output = none → e.logger.OnlyLogs e.fs r.fs := by
    intro houtput
    rw [hend.fs]
    exact hsucceeds.onlyLogs houtput
  have hno {path : Path} (hsome : e.settings.output = some path)
      (hnone : e.settings.output = none) : False := by
    cases hsome.symm.trans hnone
  cases destination h.options h.settings with
  | file houtput hgiven hblank =>
      have hsummary : r.Summarizes e.records.length := summarizes_of_given hend hgiven
      refine ⟨hsucceeds.records, ?_, fun path hpath => ⟨hsummary, hfile path hpath⟩,
        fun hnone => (hno houtput hnone).elim, ?_, hlogs⟩
      · exact ⟨fun _ => .inl (by rw [Settings.writesOutput, houtput]; rfl), fun _ => ⟨_, hsummary⟩⟩
      · intro hyes
        cases hblank.symm.trans hyes
  | console houtput hgiven hblank =>
      have hread : Json.read? r.output =
          some (.array (e.records.map fun r => r.value .record)) := by
        rw [output_of_not_given hend hgiven]
        exact read?_printed hsucceeds.keys
      refine ⟨hsucceeds.records, ?_, fun path hpath => (hno hpath houtput).elim,
        fun _ _ => hread, ?_, hlogs⟩
      · constructor
        · rintro ⟨count, shown, hshown⟩
          rw [hshown, read?_summary] at hread
          cases hread
        · rw [Settings.writesOutput, houtput, hblank]
          simp
      · intro hyes
        cases hblank.symm.trans hyes
  | nowhere houtput hgiven hblank =>
      have hsummary : r.Summarizes e.records.length := summarizes_of_given hend hgiven
      refine ⟨hsucceeds.records, ⟨fun _ => .inr hblank, fun _ => ⟨_, hsummary⟩⟩,
        fun path hpath => (hno hpath houtput).elim, ?_, fun _ => ⟨houtput, hsummary, ?_⟩, hlogs⟩
      · intro _ hnot
        cases hblank.symm.trans hnot
      · obtain ⟨shown, hshown⟩ := hsummary
        rw [hshown, read?_summary]

/-- **A run that exits with the code zero delivers.**  It has collected, and whatever it has
collected is in the file of its settings, of which the summary speaks, or on the console; unless
the arguments give a blank text for the output. -/
theorem delivers_of_exit_zero (h : Reports readers fs account logger a r)
    (hexit : r.ending = .exit 0) :
    (∃ e : Errand, e.Follows readers fs account logger a ∧ e.report = r) ∧
      ∀ e : Errand, e.Follows readers fs account logger a → e.report = r →
        Delivers readers account a e r := by
  refine ⟨exists_errand h hexit, ?_⟩
  rintro e hfollows rfl
  exact hfollows.delivers (concludes_of_exit_zero hexit)

end Program

/-! ## A page -/

namespace Settings

/-- The settings of a run if nothing but the directory and the output is given. -/
def usual (root : Path) (output : Option Path) : Settings where
  root
  dialect := ⟨defaultKeyword, defaultOpening, defaultClosing, defaultKeyword_ne_nil⟩
  template := ⟨defaultPlaceholder, defaultPlaceholder⟩
  output
  onComplete := none
  extensions := defaultExtensions
  mode := .record
  excludes := []
  charset := defaultCharset

/-- The keys of all options but the directory and the output. -/
def otherKeys : List Text := ("on_complete" : Text) :: File.textKeys ++ File.listKeys

theorem ne_of_mem_otherKeys {key : Text} (h : key ∈ otherKeys) :
    ("root_directory" : Text) ≠ key ∧ ("output_path" : Text) ≠ key := by
  have hne : ∀ key ∈ otherKeys, ("root_directory" : Text) ≠ key ∧ ("output_path" : Text) ≠ key := by
    decide
  exact hne key h

/-- **What the options say nothing of is usual.** -/
theorem ofMapping_eq_usual {account : Account} {o : Options} {root root' : Path}
    {given output : Option Path} (hroot : rootPath o = .ok root)
    (hroot' : account.expand root = .ok root') (hgiven : outputPath o = .ok given)
    (houtput : given.mapM account.expand = .ok output)
    (hrest : ∀ key ∈ otherKeys, o.value key = .none) :
    ofMapping account o = .ok (usual root' output) := by
  simp only [otherKeys, File.textKeys, File.listKeys, List.cons_append, List.nil_append,
    List.forall_mem_cons] at hrest
  obtain ⟨hcompletion, hkeyword, hplaceholder, htemplate, hopening, hclosing, hmode, hcharset,
    hextensions, hexcludes, _⟩ := hrest
  refine ofMapping_eq_ok_iff.mpr {
    root := ⟨root, rootPath_eq_ok_iff.mp hroot, hroot'⟩
    keyword := takes_default hkeyword
    placeholder := takes_default hplaceholder
    template := templateText_eq_ok_iff.mpr (.inl ⟨htemplate, rfl⟩)
    output := ⟨given, hgiven, houtput⟩
    onComplete := completion_eq_ok_iff.mpr hcompletion
    mode := takes_default hmode
    extensions := ⟨[], textList_eq_ok_iff.mpr (.inl ⟨hextensions, rfl⟩), rfl⟩
    excludes := textList_eq_ok_iff.mpr (.inl ⟨hexcludes, rfl⟩)
    charset := takes_default hcharset
    known := checkCharset_defaultCharset
    opening := takes_default hopening
    closing := takes_default hclosing }

end Settings

namespace Program

open Collection

/-- The arguments of a run that is asked for the page and for an output. -/
def pageArguments (output : Text) : Arguments :=
  { path := some "/", output := some (.word output) }

/-- The options of such a run. -/
def pageOptions (output : Text) : Options :=
  [("root_directory", .text "/"), ("output_path", .text output)]

/-- A logger that has not been set up. -/
def freshLogger : Log.Logger := { clock := [] }

/-- The logger of a run that does not ask for more or less than usual. -/
def pageLogger : Log.Logger := freshLogger.toConsole {}

theorem options_page (output : Text) :
    options Yaml.load pageSystem ⟨"/", []⟩ (pageArguments output) = .ok (pageOptions output) := by
  have hfile : fileOptions Yaml.load pageSystem ⟨"/", []⟩ (pageArguments output) = .ok [] := by
    simp only [fileOptions, pageArguments, Option.mapM_none]
    cbv
  rw [options, hfile]
  rfl

/-- The options of such a run make the usual settings. -/
theorem settings_page {output : Text} {path : Option Path}
    (hpath : Settings.outputPath (pageOptions output) = .ok path)
    (hexpand : path.mapM (Account.expand ⟨"/", []⟩) = .ok path) :
    Settings.ofOptions ⟨"/", []⟩ (.mapping (pageOptions output)) =
      .ok (.usual (.absolute []) path) := by
  refine Settings.ofMapping_eq_usual rfl rfl hpath hexpand fun key hkey => ?_
  obtain ⟨hroot, houtput⟩ := Settings.ne_of_mem_otherKeys hkey
  rw [pageOptions, Options.value_cons, if_neg hroot, Options.value_cons, if_neg houtput]
  rfl

/-- Such a run comes to collect. -/
theorem follows_page {output : Text} {path : Option Path} {outcome : Collector.Outcome}
    (hsettings : Settings.ofOptions ⟨"/", []⟩ (.mapping (pageOptions output)) =
      .ok (.usual (.absolute []) path))
    (hruns : (Collector.ofSettings (.usual (.absolute []) path) .ascii).Runs pageSystem ⟨"/", []⟩
      { logger := pageLogger } outcome) :
    Errand.Follows .usual pageSystem ⟨"/", []⟩ freshLogger (pageArguments output)
      ⟨pageLogger, pageSystem, pageOptions output, .usual (.absolute []) path, outcome⟩ :=
  ⟨⟨none, rfl, rfl⟩, options_page output, hsettings, hruns⟩

/-- A collector for the page that writes to this path, if there is one. -/
def pageCollector (path : Option Path) : Collector :=
  .ofSettings (.usual (.absolute []) path) .ascii

/-- What is shared when the page has been found. -/
def pageFound (path : Option Path) : Shared :=
  Collector.afterScan ((pageCollector path).begun pageSystem { logger := pageLogger }) pageLog
    [(pagePath, page)]

/-- The page is found, wherever the records go. -/
theorem scan_pageCollector (path : Option Path) :
    (pageCollector path).scanner.scan
      ((pageCollector path).systemAtScan pageSystem { logger := pageLogger }) ⟨"/", []⟩
      (pageCollector path).settings.root.text = (pageLog, .ok [(pagePath, page)]) :=
  scan_page

/-- What the main line does with the page. -/
def recordActions : List Action :=
  .write "[" :: pageRecords.flatMap (keepRecord .record) ++
    [.note (note .info "Collected 2 components from 1 files"), .endChannel, .finish]

theorem plan_pageCollector (path : Option Path) :
    plan (pageCollector path).settings (pageCollector path).parser [(pagePath, page)] =
      recordActions := by
  -- The output plays no part in the plan.
  have hplan : plan (pageCollector none).settings (pageCollector none).parser [(pagePath, page)] =
      recordActions := by
    decide +kernel
  exact hplan

/-! ### A blank output -/

/-- What the collection comes to if the output is blank. -/
def blankOutcome : Collector.Outcome :=
  (pageCollector none).run pageSystem ⟨"/", []⟩ { logger := pageLogger }

/-- Without an output, the main line does all that is to be done. -/
theorem blankOutcome_eq :
    blankOutcome =
      match ((pageCollector none).start (pageFound none)).perform none recordActions with
      | (state, failure) => ⟨state, failure⟩ := by
  have hscan := scan_pageCollector none
  unfold Collector.systemAtScan at hscan
  rw [← plan_pageCollector none, blankOutcome, Collector.run]
  simp only [Shared.note, hscan]
  rfl

/-- **The records are nowhere.**  A space is given for the output.  The run exits with the code
zero and speaks of two records, but its settings have no output, the files are as they were, and
no record is printed. -/
theorem nowhere_blank :
    Arguments.parse ["collect", "/", "-o", " "] = .arguments (pageArguments " ") ∧
      ∃ e : Errand, e.Follows .usual pageSystem ⟨"/", []⟩ freshLogger (pageArguments " ") ∧
        e.settings.writesOutput = false ∧ e.records = pageRecords ∧
        run .usual pageSystem ⟨"/", []⟩ freshLogger (pageArguments " ") =
          { ending := .exit 0
            output := "Collected 2 components into  \n"
            console := "[compdocs] INFO Collecting components under /\n" ++
              "[compdocs] INFO Collected 2 components from 1 files\n"
            fs := pageSystem } := by
  have hsettings : Settings.ofOptions ⟨"/", []⟩ (.mapping (pageOptions " ")) =
      .ok (.usual (.absolute []) none) := settings_page rfl rfl
  have hrun : run .usual pageSystem ⟨"/", []⟩ freshLogger (pageArguments " ") =
      concluded (pageOptions " ") blankOutcome :=
    run_eq_concluded rfl rfl (options_page " ") hsettings
  refine ⟨by cbv, _, follows_page hsettings (Collector.runs_run _ _ _ _), rfl, ?_, ?_⟩
  · show blankOutcome.state.shared.channel.records = pageRecords
    rw [blankOutcome_eq]
    rfl
  · rw [hrun, blankOutcome_eq]
    cbv

/-! ### An output beside the page -/

/-- The file is opened, then the main line does all that it has to do, and then the writer. -/
theorem moves_filed : ∃ acted made state,
    Moves (OutputFile.operations pageOutput) none
      ((pageCollector (some pageOutput)).begin (pageFound (some pageOutput)) [(pagePath, page)])
      acted made ⟨state, [], none⟩ ∧
    state.IsIdle (OutputFile.operations pageOutput) none ∧
    state.shared.channel.records = pageRecords ∧
    (concluded (pageOptions "/out") ⟨state, none⟩).ending = .exit 0 ∧
    ∃ content, state.shared.file.fs.lookUp .target pageOutput.text =
      .ok ⟨["out"], some (.file content)⟩ := by
  have hbegin : Moves (OutputFile.operations pageOutput) none
      ((pageCollector (some pageOutput)).begin (pageFound (some pageOutput)) [(pagePath, page)])
      [] []
      ⟨⟨{ pageFound (some pageOutput) with channel := { awaitsWriter := true } },
        some { path := pageOutput }⟩, recordActions, none⟩ := by
    rw [← plan_pageCollector (some pageOutput)]
    exact .refl
  have hstep : Writer.step (Shared.around (OutputFile.operations pageOutput) none)
      { path := pageOutput }
      { pageFound (some pageOutput) with channel := { awaitsWriter := true } } =
      some ({ path := pageOutput, stage := .writing },
        { pageFound (some pageOutput) with
          file := pageOpened, channel := { awaitsWriter := true } }) := by
    have hopen : (OutputFile.operations pageOutput).openFile (pageFound (some pageOutput)).file =
        (pageOpened, none) := openFile_page
    simp only [Writer.step, Shared.around, Shared.onFile, hopen]
  have hrecords := ((((((hbegin.work hstep).act rfl).act rfl).act rfl).act rfl).act rfl).act rfl
  have hasked := ((hrecords.act rfl).act rfl).act rfl
  have hwritten := ((((hasked.work rfl).work rfl).work rfl).work rfl).work rfl
  have hdone := ((((hwritten.work rfl).work rfl).work rfl).work rfl).work rfl
  refine ⟨_, _, _, hdone, ?_, by cbv, by cbv,
    Charset.Utf8.encode (arrayText .record pageRecords), by cbv⟩
  intro w hw
  cases hw
  rfl

/-- The run with an output beside the page writes its records there. -/
theorem delivers_page :
    Arguments.parse ["collect", "/", "-o", "/out"] = .arguments (pageArguments "/out") ∧
      ∃ (r : Report) (content : Bytes),
        Reports .usual pageSystem ⟨"/", []⟩ freshLogger (pageArguments "/out") r ∧
        r.ending = .exit 0 ∧ r.Summarizes 2 ∧
        r.fs.lookUp .target pageOutput.text = .ok ⟨["out"], some (.file content)⟩ ∧
        content = Charset.Utf8.encode (arrayText .record pageRecords) ∧
        Json.read? (arrayText .record pageRecords) =
          some (.array (pageRecords.map fun r => r.value .record)) := by
  obtain ⟨acted, made, state, hmoves, hidle, hrecords, hexit, content, hfile⟩ := moves_filed
  have hruns : (pageCollector (some pageOutput)).Runs pageSystem ⟨"/", []⟩ { logger := pageLogger }
      ⟨state, none⟩ :=
    (Collector.runs_iff_of_scan_ok (scan_pageCollector (some pageOutput))).mpr
      ⟨acted, made, hmoves, hidle⟩
  have hsettings : Settings.ofOptions ⟨"/", []⟩ (.mapping (pageOptions "/out")) =
      .ok (.usual (.absolute []) (some pageOutput)) := settings_page rfl rfl
  have hfollows := follows_page hsettings hruns
  have hdelivers := (delivers_of_exit_zero hfollows.reports hexit).2 _ hfollows rfl
  obtain ⟨hsummary, place, entry, hleads, hcontent⟩ := hdelivers.file pageOutput rfl
  have hsystem := (concludes_of_exit_zero hexit).fs
  have hfile' := (congrArg (·.lookUp .target pageOutput.text) hsystem).trans hfile
  cases hfile'.symm.trans hleads
  have hlog : ¬ pageLogger.WritesTo ["out"] := by
    rintro ⟨_, _, hmem⟩
    cases List.mem_singleton.mp hmem
  obtain ⟨hbytes, hread⟩ := hcontent content rfl hlog
  simp only [Errand.records, hrecords] at hsummary hbytes hread
  exact ⟨by cbv, _, content, hfollows.reports, hexit, hsummary, hleads, hbytes, hread⟩

end Program

end MarkupCatalog
