import MarkupCatalog.Proofs.Collection.Truncation

/-!
# Collections that succeed

What one can count on who has waited for a collection and has heard of no failure: all files were
found, the records of all their blocks are in the channel, and the output, if there is one, holds
these records (`Collector.Runs.succeeds`).  Without an output, a collection leaves nothing behind
but its log: there is no writer, and an action of the main line touches the file system only to
note something.
-/

namespace MarkupCatalog

/-- Who waits and is not kept waiting hears of no failure. -/
theorem Channel.settled_of_wait {ρ L : Type} {c : Channel ρ L} (h : c.wait = .ok true) :
    c.settled = true ∧ c.failure = none := by
  rw [Channel.wait] at h
  split at h
  · cases h
  · next hsettled =>
    split at h
    · cases h
    · next hfailure => exact ⟨by simpa using hsettled, hfailure⟩

namespace Collection

variable {io : OutputFile.Operations} {callback : Option Callback} {start p : Progress}
  {acted : List Action} {made : List Writer.Call}

/-! ## Collections without a writer -/

/-- There is no writer, and since the first state only the log has been touched. -/
structure State.OnlyLogs (s t : State) : Prop where
  writer : t.writer = none
  logger : t.shared.journal.logger = s.shared.journal.logger
  fs : s.shared.journal.logger.OnlyLogs s.shared.file.fs t.shared.file.fs

/-- The file system does not depend on the channel or the records. -/
theorem State.OnlyLogs.of_eq {s t : State} (hwriter : t.writer = none)
    (hjournal : t.shared.journal = s.shared.journal) (hfile : t.shared.file = s.shared.file) :
    s.OnlyLogs t :=
  ⟨hwriter, by rw [hjournal], by rw [hfile]; exact .refl _ _⟩

theorem State.OnlyLogs.trans {s t u : State} (h : s.OnlyLogs t) (h' : t.OnlyLogs u) :
    s.OnlyLogs u :=
  ⟨h'.writer, h'.logger.trans h.logger, h.fs.trans (h.logger ▸ h'.fs)⟩

/-- **What an action keeps.** -/
theorem State.onlyLogs_act {s t : State} {a : Action} {failure : Option Failure}
    (hwriter : s.writer = none) (h : s.act callback a = (t, failure)) : s.OnlyLogs t := by
  obtain ⟨shared, _⟩ := s
  cases hwriter
  cases a with
  | note r =>
      cases h
      exact ⟨rfl, rfl, shared.onlyLogs_note r⟩
  | write _ | fail _ | endChannel =>
      cases h
      exact .of_eq rfl rfl rfl
  | keep r =>
      simp only [State.act] at h
      split at h <;> cases h <;> exact .of_eq rfl rfl rfl
  | finish =>
      cases callback <;> cases h <;> exact .of_eq rfl rfl rfl

/-- **What a run keeps.** -/
theorem Moves.onlyLogs (hwriter : start.state.writer = none)
    (h : Moves io callback start acted made p) : start.state.OnlyLogs p.state := by
  induction h with
  | refl => exact .of_eq hwriter rfl rfl
  | act _ hact ih => exact ih.trans (State.onlyLogs_act ih.writer hact)
  | @fail _ _ _ state' _ _ _ _ hact ih =>
      have hfailed := ih.trans (State.onlyLogs_act ih.writer hact)
      have hrequest : state'.request .abort = (state', none) := by
        rw [State.request, hfailed.writer]
      rw [hrequest]
      exact hfailed
  | work _ _ ih => cases ih.writer

end Collection

/-! ## All runs -/

namespace Collector

open Collection

variable {settings : Settings} {codecs : Charset.Codecs} {fs : FileSystem} {account : Account}
  {journal : Log.Journal} {o : Outcome}

/-- To look for the files touches nothing but the log. -/
theorem onlyLogs_afterScan (s : Shared) (log : List Log.Record) (registry : Scan.Registry) :
    s.journal.logger.OnlyLogs s.file.fs (afterScan s log registry).file.fs := by
  have hlast := (s.noteAll log).onlyLogs_note (Collection.note .debug
    ("Registry holds " ++ Text.ofNat registry.length ++ " annotated files"))
  rw [(Shared.noteAll_frame log s).2.2.2] at hlast
  exact (s.onlyLogs_noteAll log).trans hlast

/-- What a collection has come to that has succeeded. -/
structure Succeeds (settings : Settings) (codecs : Charset.Codecs) (fs : FileSystem)
    (account : Account) (journal : Log.Journal) (o : Outcome) : Prop where
  /-- The records are those of all blocks of the files that were found, in their order. -/
  records : ∃ log registry,
    (ofSettings settings codecs).scanner.scan
      ((ofSettings settings codecs).systemAtScan fs journal) account settings.root.text =
        (log, .ok registry) ∧
    o.state.shared.channel.records = (blocksOf settings.dialect registry).mapIdx fun i found =>
      .ofBlock settings.template found.1 i found.2
  keys : ∀ r ∈ o.state.shared.channel.records, r.metadata.keys.Nodup
  holds : ∀ path, settings.output = some path →
    o.state.shared.Holds path journal.logger
      (arrayText settings.mode o.state.shared.channel.records)
  onlyLogs : settings.output = none → journal.logger.OnlyLogs fs o.state.shared.file.fs

/-- **A collection that has come to its end without a failure has succeeded.** -/
theorem Runs.succeeds (hruns : (ofSettings settings codecs).Runs fs account journal o)
    (hfailure : o.failure = none) (hwait : o.state.shared.channel.wait = .ok true) :
    Succeeds settings codecs fs account journal o := by
  rcases hscan : (ofSettings settings codecs).scanner.scan
    ((ofSettings settings codecs).systemAtScan fs journal) account
    (ofSettings settings codecs).settings.root.text with ⟨log, f | registry⟩
  · rw [(runs_iff_of_scan_error hscan).mp hruns] at hfailure
    cases hfailure
  obtain ⟨acted, made, hmoves, _⟩ := (runs_iff_of_scan_ok hscan).mp hruns
  obtain ⟨hcollected, hcompletions, hlogger⟩ :=
    afterScan_frame ((ofSettings settings codecs).begun fs journal) log registry
  obtain ⟨hrecords, _⟩ := records_of_moves hcollected hmoves
  obtain ⟨records, body, hplan, hbody, hyields, hnumbered⟩ :=
    plan_spec settings settings.dialect registry
  have hkept : o.state.shared.channel.records = records := hrecords.trans hyields.kept
  refine ⟨⟨log, registry, hscan, hrecords.trans (kept_plan settings registry)⟩, ?_, ?_, ?_⟩
  · rw [hkept]
    exact hnumbered.keys
  · intro path houtput
    have hoperations :
        (ofSettings settings codecs).fileOperations = OutputFile.operations path := by
      rw [fileOperations, ofSettings, houtput]
      rfl
    rw [hoperations, hfailure] at hmoves
    obtain ⟨hsettled, hsilent⟩ := Channel.settled_of_wait hwait
    have hcompleted : o.state.shared.channel.completed = true := by
      simpa [hsilent] using (hmoves.heard houtput).settled.mp hsettled
    obtain ⟨w, _, honPlan⟩ :=
      hmoves.onPlan houtput ⟨hcollected, hcompletions, hlogger⟩ hplan hbody rfl
    have hholds := (honPlan.complete hplan hbody hcompleted).1
    rw [hkept, ← hyields.chunks]
    exact hholds
  · intro houtput
    have hwriter : ((ofSettings settings codecs).begin
        (afterScan ((ofSettings settings codecs).begun fs journal) log registry)
        registry).state.writer = none := by
      rw [begin, ofSettings, houtput]
      rfl
    have hscanned : journal.logger.OnlyLogs fs
        (afterScan ((ofSettings settings codecs).begun fs journal) log registry).file.fs :=
      (Shared.onlyLogs_note { file := { fs }, journal } _).trans
        (onlyLogs_afterScan ((ofSettings settings codecs).begun fs journal) log registry)
    exact hscanned.trans (hlogger ▸ (hmoves.onlyLogs hwriter).fs)

end Collector

end MarkupCatalog
