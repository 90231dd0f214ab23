import Mathlib.Data.List.Permutation
import MarkupCatalog.Proofs.Collection.Turns
import MarkupCatalog.Proofs.Writer.OutputFile
import MarkupCatalog.Proofs.Writer.Report

/-!
# When the channel of a collection is settled

Whoever waits for a collection waits until its channel is settled.  When a file is written,
only the writer can settle the channel: when it reports a refusal, when the file is closed,
or when the callback raises a failure.

So the channel is settled once the writer has ended, unless a call of the writer was fatal
and the callback was not the one to settle the channel before that: `Moves.settled_iff`.
Together with what a writer reports this is `reportsOnce_and_settled_iff`.

The run with the full device is evaluated with an equation of pairs that
`Mathlib.Data.List.Permutation` provides.
-/

namespace MarkupCatalog.Collection

open Writer

/-- Does the callback raise a failure? -/
def hasRaising (callback : Option Callback) : Bool := callback.any (·.raises.isSome)

variable {io : OutputFile.Operations} {callback : Option Callback}

/-! ## The invariant -/

/-- How the channel stands when the writer is at a stage of its work. -/
def SettledSoFar (callback : Option Callback) (w : Writer) (channel : RecordChannel)
    (made : List Writer.Call) : Prop :=
  match w.stage with
  | .opening | .writing | .flushing | .finishing | .recovering _ | .reporting _ =>
      channel.settled = false ∧ channel.failure = none ∧ channel.completed = false
  | .closing | .announcing => channel.settled = hasRaising callback ∧ channel.completed = false
  | .done => channel.settled = true
  | .dead _ =>
      channel.settled = true ↔ Notice.finished ∈ notices made ∧ hasRaising callback = true
  | .aborting => False

/-- A failure of opening, writing or flushing does not touch the channel. -/
theorem settledSoFar_after {w : Writer} {channel : RecordChannel} {made : List Writer.Call}
    {f : Failure} {next : Failure → Stage}
    (hnext : ∀ g, next g = .recovering g ∨ next g = .reporting g)
    (htold : notices made = [])
    (h : channel.settled = false ∧ channel.failure = none ∧ channel.completed = false)
    (hstage : w.stage = .after f next) : SettledSoFar callback w channel made := by
  unfold SettledSoFar
  rw [hstage, Stage.after]
  by_cases hf : f.isSystem = true
  · rw [if_pos hf]
    rcases hnext f with hn | hn <;> rw [hn] <;> exact h
  · rw [if_neg hf]
    simp [h.1, htold]

/-- After the callback the channel is settled if the callback has raised a failure. -/
theorem settled_channelAfter {channel : RecordChannel}
    (h : channel.settled = false ∧ channel.failure = none ∧ channel.completed = false) :
    (Shared.channelAfter callback channel).settled = hasRaising callback ∧
      (Shared.channelAfter callback channel).completed = false := by
  obtain ⟨hsettled, hfailure, hcompleted⟩ := h
  refine ⟨?_, (Shared.channelAfter_frame callback channel).2.2.trans hcompleted⟩
  cases callback with
  | none => exact hsettled
  | some c =>
      rcases hraises : c.raises with _ | f
      · simp [Shared.channelAfter, hraises, hasRaising, hsettled]
      · simp [Shared.channelAfter, hraises, hasRaising, Channel.fail, hfailure]

/-- **What a step of the writer keeps.**  How the channel stands goes with the stage after
the step as well. -/
theorem settledSoFar_reaction {w v : Writer} {s t : Shared} {made more : List Writer.Call}
    (h : Reaction (Shared.around io callback) w s more v t) (hreported : ReportedSoFar w made)
    (habort : Message.abort ∉ w.queue) (hw : SettledSoFar callback w s.channel made) :
    SettledSoFar callback v t.channel (made ++ more) := by
  unfold SettledSoFar at hw
  unfold ReportedSoFar at hreported
  cases h with
  | opened hstage hcall | flushed hstage hcall =>
      rw [hstage] at hw
      rw [(Shared.onFile_frame hcall).1]
      exact hw
  | recovered hstage hcall =>
      rw [hstage] at hw
      rw [(Shared.onFile_frame hcall).1]
      exact hw
  | wrote hstage _ hcall =>
      rw [hstage] at hw
      rw [(Shared.onFile_frame hcall).1]
      unfold SettledSoFar
      simp only [hstage]
      exact hw
  | ended hstage _ =>
      rw [hstage] at hw
      exact hw
  | givenUp _ hqueue => exact absurd (hqueue ▸ List.mem_cons_self) habort
  | notOpened hstage hcall =>
      rw [hstage] at hw hreported
      rw [(Shared.onFile_frame hcall).1]
      exact settledSoFar_after (fun g => Or.inr rfl) (by rw [notices_concat, hreported.1]; rfl)
        hw rfl
  | notWritten hstage _ hcall | notFlushed hstage hcall =>
      rw [hstage] at hw hreported
      rw [(Shared.onFile_frame hcall).1]
      exact settledSoFar_after (fun g => Or.inl rfl) (by rw [notices_concat, hreported.1]; rfl)
        hw rfl
  | finished hstage hcall =>
      rw [hstage] at hw
      cases hcall
      rw [(Shared.completeSafely_frame callback s).1]
      exact settled_channelAfter hw
  | closed hstage hcall =>
      rw [hstage] at hw
      have hchannel : ((Shared.around io callback).note w.closeNote _).channel = s.channel :=
        (Shared.onFile_frame hcall).1
      rw [hchannel]
      exact hw
  | notClosed hstage hcall =>
      rw [hstage] at hw hreported
      rw [(Shared.onFile_frame hcall).1]
      show s.channel.settled = true ↔ _
      rw [notices_concat, hreported.1, hw.1]
      simp [Call.notice?]
  | announced hstage hcall =>
      rw [hstage] at hw
      cases hcall
      show s.channel.complete.1.settled = true
      rw [Channel.complete, hw.2]
      rfl
  | abandoned hstage _ | notAbandoned hstage _ =>
      rw [hstage] at hw
      exact hw.elim
  | notRecovered hstage hcall =>
      rw [hstage] at hw hreported
      rw [(Shared.onFile_frame hcall).1]
      show s.channel.settled = true ↔ _
      rw [notices_concat, hreported.2.1, hw.1]
      simp [Call.notice?]
  | @reported t f hstage hcall =>
      rw [hstage] at hw
      cases hcall
      rw [(Shared.failChannel_frame f _).1]
      show (s.channel.fail f).1.settled = true
      rw [Channel.fail, hw.2.1]
      rfl
  | finishRaised _ hcall | closeRaised _ hcall | errorRaised _ hcall => cases hcall

/-- An action of the main line does not settle a channel that awaits the writer. -/
theorem Shared.after_channel {s : Shared} (hawaits : s.channel.awaitsWriter = true) (a : Action) :
    (s.after a).channel.settled = s.channel.settled ∧
      (s.after a).channel.failure = s.channel.failure ∧
      (s.after a).channel.completed = s.channel.completed ∧
      (s.after a).channel.awaitsWriter = true := by
  cases a with
  | endChannel =>
      simp only [after, Channel.finish]
      split
      · exact ⟨rfl, rfl, rfl, hawaits⟩
      · exact ⟨by simp [hawaits], rfl, rfl, hawaits⟩
  | _ => exact ⟨rfl, rfl, rfl, hawaits⟩

/-- Nobody who is told of the progress of a collection's writer raises a failure. -/
theorem hasRaised_reaction {w v : Writer} {s t : Shared} {more : List Writer.Call}
    (h : Reaction (Shared.around io callback) w s more v t) :
    ∀ call ∈ more, call.hasRaised = false := by
  cases h with
  | finishRaised _ hcall | closeRaised _ hcall | errorRaised _ hcall => cases hcall
  | _ => simp [Call.hasRaised]

/-! ## Whole runs -/

/-- The writer of a collection whose main line has not failed: what it has reported and how
the channel stands go with its stage. -/
structure Orderly (callback : Option Callback) (made : List Writer.Call) (shared : Shared)
    (w : Writer) : Prop where
  reported : ReportedSoFar w made
  noAbort : Message.abort ∉ w.queue
  awaits : shared.channel.awaitsWriter = true
  settled : SettledSoFar callback w shared.channel made

/-- **What an action keeps.** -/
theorem Orderly.act {made : List Writer.Call} {shared : Shared} {w v : Writer} {a : Action}
    (h : Orderly callback made shared w) (hqueue : v.queue = w.queue ++ a.messages)
    (hstage : v.stage = w.stage) (herror : v.error = w.error) :
    Orderly callback made (shared.after a) v := by
  obtain ⟨hsettled, hfailure, hcompleted, hawaits⟩ := Shared.after_channel h.awaits a
  refine ⟨?_, ?_, hawaits, ?_⟩
  · have hreported := h.reported
    unfold ReportedSoFar ReportsOnce Silent at hreported ⊢
    rw [hstage, herror]
    exact hreported
  · have hmessages : Message.abort ∉ a.messages := by
      cases a <;> simp [Action.messages]
    rw [hqueue, List.mem_append, not_or]
    exact ⟨h.noAbort, hmessages⟩
  · have hsoFar := h.settled
    unfold SettledSoFar at hsoFar ⊢
    rw [hstage, hsettled, hfailure, hcompleted]
    exact hsoFar

/-- **What a step of the writer keeps.** -/
theorem Orderly.work {made : List Writer.Call} {shared shared' : Shared} {w v : Writer}
    (h : Orderly callback made shared w)
    (hstep : w.step (Shared.around io callback) shared = some (v, shared')) :
    Orderly callback (made ++ w.calls (Shared.around io callback) shared) shared' v where
  reported :=
    (step_reaction hstep).reportedSoFar (hasRaised_reaction (step_reaction hstep)) h.noAbort
      h.reported
  noAbort hmem := h.noAbort ((step_reaction hstep).queue_suffix.subset hmem)
  awaits := (Shared.untouched_reaction (step_reaction hstep)).awaitsWriter.trans h.awaits
  settled := settledSoFar_reaction (step_reaction hstep) h.reported h.noAbort h.settled

/-- **What a run keeps.** -/
theorem Moves.orderly {c : Collector} {path : Path} {shared : Shared} {registry : Scan.Registry}
    {acted : List Action} {made : List Writer.Call} {p : Progress}
    (houtput : c.settings.output = some path)
    (h : Moves io callback (c.begin shared registry) acted made p) (hfailure : p.failure = none) :
    ∃ w, p.state.writer = some w ∧ Orderly callback made p.state.shared w := by
  have hlasting : Lasting io callback fun _ made _ s w => Orderly callback made s w :=
    ⟨fun horderly => horderly.act, fun horderly => horderly.work⟩
  refine hlasting.holds houtput h hfailure ⟨⟨rfl, rfl, ?_⟩, List.not_mem_nil, ?_, rfl, rfl, rfl⟩
  · intro call hcall
    cases hcall
  · simp [Collector.begin, Settings.writesOutput, houtput]

/-- **When the channel is settled.**  Once the writer has ended, the channel is settled
unless a call of the writer was fatal and no failing callback has settled it before. -/
theorem Moves.settled_iff {c : Collector} {path : Path} {shared : Shared}
    {registry : Scan.Registry} {acted agenda : List Action} {made : List Writer.Call}
    {state : State} {w : Writer} (houtput : c.settings.output = some path)
    (h : Moves io callback (c.begin shared registry) acted made ⟨state, agenda, none⟩)
    (hwriter : state.writer = some w) (hended : w.hasEnded = true) :
    state.shared.channel.settled = true ↔
      Harmless made ∨ Notice.finished ∈ notices made ∧ hasRaising callback = true := by
  obtain ⟨v, hv, horderly⟩ := h.orderly houtput rfl
  cases hwriter.symm.trans hv
  obtain ⟨hreported, _, _, hsettled⟩ := horderly
  unfold ReportedSoFar at hreported
  unfold SettledSoFar at hsettled
  unfold hasEnded at hended
  split at hended
  · next hstage =>
    rw [hstage] at hreported hsettled
    exact iff_of_true hsettled (Or.inl hreported.2)
  · next hstage =>
    rw [hstage] at hreported hsettled
    exact Iff.trans hsettled (or_iff_right hreported.2).symm
  · cases hended

/-- **One outcome, and an end to waiting.**  Let a writer have ended after these calls.  If it
was asked to write chunks and then to finish, and its listeners raised nothing, it has
reported exactly one outcome unless one of its calls was fatal, and then it has reported
none.  If it is the writer of a collection whose main line came to its end, the channel is
settled under the same condition; or else a failing callback has settled it. -/
theorem reportsOnce_and_settled_iff {path : Path} {w : Writer} {made : List Writer.Call}
    (hended : w.hasEnded = true) :
    (∀ {σ : Type} {env : Surroundings σ} {s t : σ} {chunks : List Text} {last : Option Text},
      Turns env ({ path }, s) (chunks.map .write ++ [.finish last]) made (w, t) →
      (∀ call ∈ made, call.hasRaised = false) →
      (ReportsOnce w made ↔ Harmless made) ∧ (¬ Harmless made → Silent w made)) ∧
    (∀ {c : Collector} {io : OutputFile.Operations} {shared : Shared}
        {registry : Scan.Registry} {acted : List Action} {state : State},
      c.settings.output = some path →
      Moves io c.settings.onComplete (c.begin shared registry) acted made ⟨state, [], none⟩ →
      state.writer = some w →
      (state.shared.channel.settled = true ↔
        Harmless made ∨
          Notice.finished ∈ notices made ∧ hasRaising c.settings.onComplete = true)) := by
  constructor
  · intro σ env s t chunks last h hraised
    exact reportsOnce_iff h hraised (by simp) hended
  · intro c io shared registry acted state houtput h hwriter
    exact h.settled_iff houtput hwriter hended

/-! ## A silent end

The full device takes a short text into its buffers and refuses it when they are emptied: at
the flush, and once more when the file is closed after that. -/

/-- The path of the full device. -/
def fullDevice : Path := .absolute ["dev", "full"]

/-- A desk whose file system holds nothing but the full device. -/
def fullDesk : Desk where
  file := { fs := ⟨.directory [("dev", .directory [("full", .device .full)])], []⟩ }

/-- What is around a writer to the full device when somebody listens to everything. -/
def aroundFull : Surroundings Desk :=
  Desk.surroundings fullDevice "utf-8" ⟨some {}, some {}, some {}⟩

/-- The refusal of the full device. -/
def noRoom : Failure := .refused ⟨.noSpace, none⟩

/-- The desk when the device is open, with so many bytes that wait in its two buffers. -/
def fullDesk.opened (pending buffered : Nat) (fresh : Bool) : Desk :=
  { fullDesk with file := { fullDesk.file with handle := some (.full pending buffered), fresh } }

theorem aroundFull_openFile : aroundFull.openFile fullDesk = (fullDesk.opened 0 0 true, none) := by
  have hmade : fullDesk.file.fs.ensureDirectories fullDevice.parent = (fullDesk.file.fs, none) := by
    cbv
  have hopened : fullDesk.file.fs.openToWrite false fullDevice.text =
      .ok (fullDesk.file.fs, .full 0 0) := by
    cbv
  have h := OutputFile.openFile_eq_ok_iff.mpr ⟨_, _, _, hmade, hopened, rfl⟩
  show Desk.onFile (OutputFile.openFile fullDevice "utf-8") fullDesk = _
  rw [Desk.onFile, h]
  rfl

/-- The flush is refused, and so is closing the file after that. -/
theorem turns_fullDevice :
    Turns aroundFull ({ path := fullDevice }, fullDesk)
      ([("x" : Text)].map .write ++ [.finish none])
      [.openFile none, .write "x" none, .flush (some noRoom), .close (some noRoom)]
      ({ path := fullDevice, ended := true, stage := .dead noRoom },
        fullDesk.opened 0 0 false) := by
  have hasked : Turns aroundFull ({ path := fullDevice }, fullDesk)
      ([("x" : Text)].map .write ++ [.finish none]) []
      ({ path := fullDevice, queue := [.chunk "x", .finish], ended := true }, fullDesk) :=
    (Turns.refl.ask (r := .write "x") rfl).ask (r := .finish none) rfl
  have hopened := hasked.work
    (v := { path := fullDevice, queue := [.chunk "x", .finish], ended := true, stage := .writing })
    (t := fullDesk.opened 0 0 true) (by simp only [step, aroundFull_openFile])
  simp only [calls, aroundFull_openFile, List.nil_append] at hopened
  have hwritten := hopened.work
    (v := { path := fullDevice, queue := [.finish], ended := true, stage := .writing })
    (t := fullDesk.opened 1 0 false) rfl
  have hflushing := hwritten.work
    (v := { path := fullDevice, ended := true, stage := .flushing }) rfl
  have hrefused := hflushing.work
    (v := { path := fullDevice, ended := true, stage := .recovering noRoom })
    (t := fullDesk.opened 0 1 false) rfl
  exact hrefused.work rfl

/-- **Not every writer reports an outcome.**  The one that writes a letter to the full device
ends in silence, although everybody listens and nobody raises a failure. -/
theorem not_reportsOnce_fullDevice :
    ¬ ∀ (w : Writer) (made : List Writer.Call) (t : Desk),
        Turns aroundFull ({ path := fullDevice }, fullDesk)
          ([("x" : Text)].map .write ++ [.finish none]) made (w, t) →
        (∀ call ∈ made, call.hasRaised = false) → w.hasEnded = true → ReportsOnce w made := by
  intro h
  have honce := h _ _ _ turns_fullDevice (by decide) rfl
  rcases honce with ⟨htold, _⟩ | ⟨f, _, htold, _⟩ <;> cases htold

/-- A file that can be opened and takes everything into its buffers, and then has no room. -/
def roomless : OutputFile.Operations where
  openFile f := (f, none)
  write _ f := (f, none)
  flush f := (f, some noRoom)
  close f := (f, some noRoom)

/-- A collector that writes to the full device. -/
def fullCollector : Collector :=
  .ofSettings {
    root := ⟨[], []⟩
    dialect :=
      ⟨Settings.defaultKeyword, Settings.defaultOpening, Settings.defaultClosing,
        Settings.defaultKeyword_ne_nil⟩
    template := ⟨Settings.defaultPlaceholder, Settings.defaultPlaceholder⟩
    output := some fullDevice
    onComplete := none
    extensions := Settings.defaultExtensions
    mode := .record
    excludes := []
    charset := Settings.defaultCharset } .ascii

/-- The writer to the full device is silent, and a collection that finds no file and whose
output has no room leaves its channel unsettled. -/
theorem silent_and_unsettled_noRoom :
    (∃ w made t, Turns aroundFull ({ path := fullDevice }, fullDesk)
        ([("x" : Text)].map .write ++ [.finish none]) made (w, t) ∧ w.hasEnded = true ∧
        Silent w made) ∧
    ∃ state w acted made, Moves roomless fullCollector.settings.onComplete
        (fullCollector.begin { file := fullDesk.file, journal := ⟨{ clock := [] }, [], []⟩ } [])
        acted made ⟨state, [], none⟩ ∧
      state.writer = some w ∧ w.hasEnded = true ∧ ¬ state.shared.channel.settled = true := by
  constructor
  · refine ⟨_, _, _, turns_fullDevice, rfl, ?_⟩
    exact ((reportsOnce_and_settled_iff rfl).1 turns_fullDevice (by decide)).2
      (fun h => Bool.noConfusion (h (.close (some noRoom)) (by decide)))
  · have hbegin : Moves roomless fullCollector.settings.onComplete
        (fullCollector.begin { file := fullDesk.file, journal := ⟨{ clock := [] }, [], []⟩ } [])
        [] [] _ := .refl
    have hfinished := (((hbegin.act rfl).act rfl).act rfl).act rfl
    have hdead := (((((hfinished.work rfl).work rfl).work rfl).work rfl).work rfl).work rfl
    refine ⟨_, _, _, _, hdead, rfl, rfl, ?_⟩
    rw [(reportsOnce_and_settled_iff rfl).2 rfl hdead rfl]
    rintro (hharmless | ⟨_, hraises⟩)
    · have hclosed := hharmless (.close (some noRoom)) (List.mem_append_right _ List.mem_cons_self)
      cases hclosed
    · cases hraises

end MarkupCatalog.Collection
