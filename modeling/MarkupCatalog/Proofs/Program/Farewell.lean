import MarkupCatalog.Proofs.Program.Delivery

/-!
# How a run takes its leave when something fails

A failure of the options, of the system or of decoding is an expected one (`Failure.isExpected`).
The program is to say what has failed and to exit with the code one.  `tells_after_setUp` says when
it does, of every run and in whatever order a collection takes its turns.

A failure is followed from the step that raises it to the report.

* A run that neither succeeds nor waits for ever has come to a failure in one of its steps
  (`exists_raises`).
* What a step raises is either handled or let through, and this depends on the step alone
  (`Raises.leads`).
* A failure that is handled is told if it is an expected one, and gets through otherwise
  (`failed_of_isExpected`, `failed_of_not_isExpected`).

Two steps let through what they raise.  Printing raises no expected failure
(`isExpected_of_printed`).  Setting up the logger does: the log file may be a directory, as in
`escaped_logDirectory`.

As in `delivers_of_exit_zero`, the readers of a run are arbitrary.
-/

namespace MarkupCatalog

/-- Is it a failure of the options, of the system or of decoding? -/
def Failure.isExpected : Failure → Bool
  | .config _ => true
  | .undecodable _ => true
  | f => f.isSystem

theorem Failure.isSystem_of_isMissing {f : Failure} (h : f.isMissing = true) :
    f.isSystem = true := by
  cases f with
  | refused _ => rfl
  | rootNotFound _ => rfl
  | rootNotDirectory _ => rfl
  | _ => cases h

/-- A path cannot be resolved if it is none, or if links lead in a circle. -/
theorem FileSystem.resolve_error {fs : FileSystem} {path : Path} {f : Failure}
    (h : fs.resolve path = .error f) : f = .nullInPath ∨ ∃ t, f = .linkLoop t := by
  unfold resolve at h
  split at h
  · exact .inl (Except.error.inj h).symm
  · dsimp only at h
    split at h
    · exact .inr ⟨_, (Except.error.inj h).symm⟩
    · cases h

namespace Program

open Collection

/-! ## Words of farewell -/

/-- The words are a line that ends with the message of the failure, and maybe more lines. -/
def Tell (words : Text) (f : Failure) : Prop :=
  ∃ lead rest, words = lead ++ f.message ++ '\n' :: rest

/-- What is written to the console holds words for the failure. -/
def Report.Tells (r : Report) (f : Failure) : Prop :=
  ∃ said words, r.console = said ++ words ∧ Tell words f

theorem tell_failed (f : Failure) : Tell (farewell?.failed f) f := by
  refine ⟨Log.programName ++ " " ++ Arguments.commandName ++ " failed: ",
    "Run with --verbose for more details.\n", ?_⟩
  simp only [farewell?.failed, List.append_assoc]
  rfl

/-- **There are words for the expected failures.** -/
theorem exists_farewell {f : Failure} (h : f.isExpected = true) :
    ∃ words, farewell? f = some words ∧ Tell words f := by
  have hsystem : f.isSystem = true → ∃ words,
      (if f.isMissing then some (f.message ++ "\n")
        else if f.isSystem then some (farewell?.failed f) else none) = some words ∧
      Tell words f := by
    intro hsystem
    by_cases hmissing : f.isMissing = true
    · exact ⟨_, if_pos hmissing, [], [], rfl⟩
    · exact ⟨_, (if_neg hmissing).trans (if_pos hsystem), tell_failed f⟩
  cases f with
  | config problem =>
      exact ⟨_, rfl, Log.programName ++ ": invalid configuration: ", [], rfl⟩
  | undecodable fault => exact ⟨_, rfl, tell_failed _⟩
  | _ => exact hsystem h

/-- There are none for the others. -/
theorem farewell?_of_not_isExpected {f : Failure} (h : f.isExpected = false) :
    farewell? f = none := by
  have hother : f.isSystem = false →
      (if f.isMissing then some (f.message ++ "\n")
        else if f.isSystem then some (farewell?.failed f) else none) = none := by
    intro hsystem
    have hmissing : ¬ f.isMissing = true := by
      intro hmissing
      cases hsystem.symm.trans (Failure.isSystem_of_isMissing hmissing)
    rw [if_neg hmissing, if_neg (by rw [hsystem]; exact Bool.false_ne_true)]
  cases f with
  | config problem => cases h
  | undecodable fault => cases h
  | _ => exact hother h

theorem failed_of_isExpected {f : Failure} (h : f.isExpected = true) (fs : FileSystem)
    (said : Text) : (failed fs said f).ending = .exit 1 ∧ (failed fs said f).Tells f := by
  obtain ⟨words, hwords, htell⟩ := exists_farewell h
  rw [failed, hwords]
  exact ⟨rfl, said, words, rfl, htell⟩

theorem failed_of_not_isExpected {f : Failure} (h : f.isExpected = false) (fs : FileSystem)
    (said : Text) : (failed fs said f).ending = .escaped f := by
  rw [failed, farewell?_of_not_isExpected h]

/-- The summary cannot be printed if links lead in a circle, and that is not expected. -/
theorem isExpected_of_printed {fs : FileSystem} {o : Options} {records : List Record} {f : Failure}
    (h : printed fs o records = .error f) : f.isExpected = false := by
  unfold printed at h
  split at h
  · next path _ =>
    cases hshown : shownPath fs path with
    | ok shown =>
        rw [hshown] at h
        cases h
    | error f' =>
        rw [hshown] at h
        cases h
        unfold shownPath at hshown
        split at hshown
        · cases hshown
        · cases hshown
        · next hresolve =>
          cases hshown
          rcases FileSystem.resolve_error hresolve with rfl | ⟨_, rfl⟩
          · rfl
          · rfl
  · cases h

/-! ## Steps that raise failures -/

/-- The steps of a run. -/
inductive Step
  /-- The logger is set up. -/
  | setUp
  /-- The options are put together from the arguments, the configuration and the template. -/
  | gather
  /-- The options are checked. -/
  | check
  /-- The files are scanned, and the records are put together. -/
  | collect
  /-- The writer is waited for. -/
  | wait
  | print
  deriving DecidableEq

variable (readers : Readers) (fs : FileSystem) (account : Account) (logger : Log.Logger)
  (a : Arguments) (r : Report)

/-- The logger and the file system when the logger has been set up. -/
def IsSetUp (logger' : Log.Logger) (fs' : FileSystem) : Prop :=
  ∃ logFile, a.logFile.mapM (pathOf .pathDropped) = .ok logFile ∧
    logger.configure fs a.verbosity logFile = (logger', fs', none)

/-- A step of the run that comes to this report raises the failure. -/
inductive Raises : Step → Failure → Prop
  | logPath {f : Failure} (h : a.logFile.mapM (pathOf .pathDropped) = .error f) : Raises .setUp f
  | logFile {logFile : Option Path} {logger' : Log.Logger} {fs' : FileSystem} {f : Failure}
      (hpath : a.logFile.mapM (pathOf .pathDropped) = .ok logFile)
      (h : logger.configure fs a.verbosity logFile = (logger', fs', some f)) : Raises .setUp f
  | gather {logger' : Log.Logger} {fs' : FileSystem} {f : Failure}
      (hsetUp : IsSetUp fs logger a logger' fs')
      (h : options readers.yaml fs' account a = .error f) : Raises .gather f
  | check {logger' : Log.Logger} {fs' : FileSystem} {o : Options} {f : Failure}
      (hsetUp : IsSetUp fs logger a logger' fs')
      (hgather : options readers.yaml fs' account a = .ok o)
      (h : Settings.ofOptions account (.mapping o) = .error f) : Raises .check f
  | collect {e : Errand} {f : Failure} (hfollows : e.Follows readers fs account logger a)
      (hreport : e.report = r) (h : e.outcome.failure = some f) : Raises .collect f
  | wait {e : Errand} {f : Failure} (hfollows : e.Follows readers fs account logger a)
      (hreport : e.report = r) (hcollect : e.outcome.failure = none)
      (h : e.outcome.state.shared.channel.wait = .error f) : Raises .wait f
  | print {e : Errand} {f : Failure} (hfollows : e.Follows readers fs account logger a)
      (hreport : e.report = r) (hcollect : e.outcome.failure = none)
      (hwait : e.outcome.state.shared.channel.wait = .ok true)
      (h : printed e.outcome.state.shared.file.fs e.options e.records = .error f) : Raises .print f

variable {readers fs account logger a r}

/-- What a failure leads to: the first step and the last let it through. -/
def Step.Leads (step : Step) (f : Failure) (r : Report) : Prop :=
  match step with
  | .setUp | .print => r.ending = .escaped f
  | .gather | .check | .collect | .wait => ∃ fs said, r = failed fs said f

/-- **Whether a failure is handled depends on the step.** -/
theorem Raises.leads {step : Step} {f : Failure} (hr : Raises readers fs account logger a r step f)
    (h : Reports readers fs account logger a r) : step.Leads f r := by
  cases hr with
  | logPath hpath =>
      simp only [Reports, hpath] at h
      rw [h]
      exact rfl
  | logFile hpath hfile =>
      simp only [Reports, hpath, hfile] at h
      rw [h]
      exact rfl
  | gather hsetUp hgather =>
      obtain ⟨logFile, hpath, hset⟩ := hsetUp
      simp only [Reports, hpath, hset, Collects, hgather] at h
      exact ⟨_, _, h⟩
  | check hsetUp hgather hcheck =>
      obtain ⟨logFile, hpath, hset⟩ := hsetUp
      simp only [Reports, hpath, hset, Collects, hgather, hcheck] at h
      exact ⟨_, _, h⟩
  | collect _ hreport hfailure =>
      rw [← hreport, Errand.report, concluded, hfailure]
      exact ⟨_, _, rfl⟩
  | wait _ hreport hcollect hwait =>
      rw [← hreport, Errand.report, concluded, hcollect, hwait]
      exact ⟨_, _, rfl⟩
  | print _ hreport hcollect hwait hprint =>
      have hprinted : printed _ _ _ = .error f := hprint
      rw [Errand.records] at hprinted
      rw [← hreport, Errand.report]
      simp only [concluded, hcollect, hwait, hprinted]
      exact rfl

/-- A run that has come to collect succeeds, waits for ever or raises a failure. -/
theorem Errand.Follows.exists_raises {e : Errand} (h : e.Follows readers fs account logger a) :
    e.report.ending = .exit 0 ∨ e.report.ending = .stuck ∨
      ∃ step f, Raises readers fs account logger a e.report step f := by
  cases hfailure : e.outcome.failure with
  | some f => exact .inr (.inr ⟨.collect, f, .collect h rfl hfailure⟩)
  | none =>
      cases hwait : e.outcome.state.shared.channel.wait with
      | error f => exact .inr (.inr ⟨.wait, f, .wait h rfl hfailure hwait⟩)
      | ok settled =>
          cases settled with
          | false =>
              refine .inr (.inl ?_)
              simp only [Errand.report, concluded, hfailure, hwait]
          | true =>
              cases hprinted : printed e.outcome.state.shared.file.fs e.options e.records with
              | error f => exact .inr (.inr ⟨.print, f, .print h rfl hfailure hwait hprinted⟩)
              | ok output =>
                  rw [Errand.records] at hprinted
                  refine .inl ?_
                  simp only [Errand.report, concluded, hfailure, hwait, hprinted]

/-- **A run succeeds, waits for ever or raises a failure.** -/
theorem exists_raises (h : Reports readers fs account logger a r) :
    r.ending = .exit 0 ∨ r.ending = .stuck ∨
      ∃ step f, Raises readers fs account logger a r step f := by
  unfold Reports at h
  split at h
  · next hpath => exact .inr (.inr ⟨.setUp, _, .logPath hpath⟩)
  · next logFile hpath =>
    split at h
    · next hfile => exact .inr (.inr ⟨.setUp, _, .logFile hpath hfile⟩)
    · next hset =>
      unfold Collects at h
      split at h
      · next hgather => exact .inr (.inr ⟨.gather, _, .gather ⟨logFile, hpath, hset⟩ hgather⟩)
      · next hgather =>
        split at h
        · next hcheck =>
          exact .inr (.inr ⟨.check, _, .check ⟨logFile, hpath, hset⟩ hgather hcheck⟩)
        · next hcheck =>
          obtain ⟨outcome, hruns, rfl⟩ := h
          have hfollows : Errand.Follows readers fs account logger a ⟨_, _, _, _, outcome⟩ :=
            ⟨⟨logFile, hpath, hset⟩, hgather, hcheck, hruns⟩
          exact hfollows.exists_raises

/-- A failure is told, or it gets through; an expected one gets through from the set-up only. -/
theorem Raises.told_or_escaped {step : Step} {f : Failure}
    (hr : Raises readers fs account logger a r step f) (h : Reports readers fs account logger a r) :
    (r.ending = .exit 1 ∧ r.Tells f ∧ f.isExpected = true ∧ step ≠ .setUp) ∨
      (r.ending = .escaped f ∧ (f.isExpected = true → step = .setUp)) := by
  have hleads := hr.leads h
  cases hr with
  | logPath _ => exact .inr ⟨hleads, fun _ => rfl⟩
  | logFile _ _ => exact .inr ⟨hleads, fun _ => rfl⟩
  | print _ _ _ _ hprinted =>
      refine .inr ⟨hleads, fun hexpected => ?_⟩
      cases hexpected.symm.trans (isExpected_of_printed hprinted)
  | gather | check | collect | wait =>
      obtain ⟨fs', said, rfl⟩ := hleads
      cases hexpected : f.isExpected with
      | true =>
          obtain ⟨hexit, htells⟩ := failed_of_isExpected hexpected fs' said
          exact .inl ⟨hexit, htells, rfl, Step.noConfusion⟩
      | false =>
          exact .inr ⟨failed_of_not_isExpected hexpected fs' said, nofun⟩

/-- **After the set-up, what is expected is told.**  If a step raises an expected failure, and this
is not the set-up of the logger, then the run exits with the code one and says what has failed; and
it exits with this code in no other case.  Whatever the set-up raises gets through, and no other
expected failure does. -/
theorem tells_after_setUp (h : Reports readers fs account logger a r) :
    (∀ step f, Raises readers fs account logger a r step f → f.isExpected = true →
      if step = .setUp then r.ending = .escaped f else r.ending = .exit 1 ∧ r.Tells f) ∧
    (r.ending = .exit 1 →
      ∃ step f, Raises readers fs account logger a r step f ∧ f.isExpected = true ∧ step ≠ .setUp) ∧
    ∀ f, r.ending = .escaped f → f.isExpected = true →
      Raises readers fs account logger a r .setUp f := by
  refine ⟨?_, ?_, ?_⟩
  · intro step f hr hexpected
    rcases hr.told_or_escaped h with ⟨hexit, htells, _, hstep⟩ | ⟨hescaped, hsetUp⟩
    · rw [if_neg hstep]
      exact ⟨hexit, htells⟩
    · rw [if_pos (hsetUp hexpected)]
      exact hescaped
  · intro hexit
    rcases exists_raises h with hzero | hstuck | ⟨step, f, hr⟩
    · cases hexit.symm.trans hzero
    · cases hexit.symm.trans hstuck
    · rcases hr.told_or_escaped h with ⟨_, _, hexpected, hstep⟩ | ⟨hescaped, _⟩
      · exact ⟨step, f, hr, hexpected, hstep⟩
      · cases hexit.symm.trans hescaped
  · intro f hescaped hexpected
    rcases exists_raises h with hzero | hstuck | ⟨step, f', hr⟩
    · cases hescaped.symm.trans hzero
    · cases hescaped.symm.trans hstuck
    · rcases hr.told_or_escaped h with ⟨hexit, _⟩ | ⟨hescaped', hsetUp⟩
      · cases hescaped.symm.trans hexit
      · cases hescaped.symm.trans hescaped'
        cases hsetUp hexpected
        exact hr

/-! ### A directory that is not there -/

/-- The arguments of a run that is asked for such a directory. -/
def goneArguments : Arguments := { path := some "/gone" }

/-- The settings of this run. -/
def goneSettings : Settings := .usual (.absolute ["gone"]) none

/-- The run when it has looked for the directory. -/
def goneErrand : Errand where
  logger := pageLogger
  fs := pageSystem
  options := [("root_directory", .text "/gone")]
  settings := goneSettings
  outcome :=
    ⟨⟨((Collector.ofSettings goneSettings .ascii).begun pageSystem { logger := pageLogger }), none⟩,
      some (.rootNotFound "/gone")⟩

theorem follows_goneErrand :
    goneErrand.Follows .usual pageSystem ⟨"/", []⟩ freshLogger goneArguments where
  configured := ⟨none, rfl, rfl⟩
  options := by
    simp only [options, fileOptions, templateValue, goneArguments, Option.mapM_none]
    cbv
  settings := by
    have hgiven : Settings.outputPath goneErrand.options = .ok none := rfl
    refine Settings.ofMapping_eq_usual rfl rfl hgiven rfl fun key hkey => ?_
    show Options.value [("root_directory", _)] key = .none
    rw [Options.value_cons, if_neg (Settings.ne_of_mem_otherKeys hkey).1]
    rfl
  runs := by
    have hroot : Scan.Scanner.findRoot pageSystem ⟨"/", []⟩ "/gone" =
        .error (.rootNotFound "/gone") := by
      cbv
    have hscan : (Collector.ofSettings goneSettings .ascii).scanner.scan
        ((Collector.ofSettings goneSettings .ascii).systemAtScan pageSystem
          { logger := pageLogger })
        ⟨"/", []⟩ (Collector.ofSettings goneSettings .ascii).settings.root.text =
        ([], .error (.rootNotFound "/gone")) := by
      show Scan.Scanner.scan _ pageSystem ⟨"/", []⟩ "/gone" = _
      rw [Scan.Scanner.scan, hroot]
    exact (Collector.runs_iff_of_scan_error hscan).mpr rfl

/-- The run says that the directory is not there, and exits with the code one. -/
theorem tells_after_setUp_gone :
    Arguments.parse ["collect", "/gone"] = .arguments goneArguments ∧
      ∃ r : Report, Reports .usual pageSystem ⟨"/", []⟩ freshLogger goneArguments r ∧
        Raises .usual pageSystem ⟨"/", []⟩ freshLogger goneArguments r .collect
          (.rootNotFound "/gone") ∧
        r.ending = .exit 1 ∧ r.Tells (.rootNotFound "/gone") := by
  have hreports := follows_goneErrand.reports
  have hraises : Raises .usual pageSystem ⟨"/", []⟩ freshLogger goneArguments goneErrand.report
      .collect (.rootNotFound "/gone") :=
    .collect follows_goneErrand rfl rfl
  exact ⟨by cbv, _, hreports, hraises, (tells_after_setUp hreports).1 _ _ hraises rfl⟩

/-! ### A log that is to be kept in a directory -/

/-- The arguments of a run that is asked to keep its log there. -/
def logArguments : Arguments := { path := some "/", logFile := some (.word "/") }

/-- **An expected failure gets through.**  The log file is a directory and cannot be opened.  No
exit code is given, and nothing is said. -/
theorem escaped_logDirectory :
    Arguments.parse ["--log-file", "/", "collect", "/"] = .arguments logArguments ∧
      Raises .usual pageSystem ⟨"/", []⟩ freshLogger logArguments
        (run .usual pageSystem ⟨"/", []⟩ freshLogger logArguments) .setUp
        (.refused ⟨.isDirectory, some "/"⟩) ∧
      (Failure.refused ⟨.isDirectory, some "/"⟩).isExpected = true ∧
      run .usual pageSystem ⟨"/", []⟩ freshLogger logArguments =
        { ending := .escaped (.refused ⟨.isDirectory, some "/"⟩), fs := pageSystem } := by
  have hfile : freshLogger.configure pageSystem {} (some (.absolute [])) =
      (pageLogger, pageSystem, some (.refused ⟨.isDirectory, some "/"⟩)) := by
    cbv
  refine ⟨by cbv, .logFile rfl hfile, rfl, ?_⟩
  have hpath : logArguments.logFile.mapM (pathOf .pathDropped) = .ok (some (.absolute [])) := rfl
  have hverbosity : logArguments.verbosity = {} := rfl
  simp only [run, hpath, hverbosity, hfile]

end Program

end MarkupCatalog
