import Mathlib.Data.List.Permutation
import MarkupCatalog.Proofs.Charset.Utf8
import MarkupCatalog.Proofs.Collection.Plan
import MarkupCatalog.Proofs.Record
import MarkupCatalog.Proofs.Writer.OutputFile

/-!
# The output of a collection

When a collection has come to its end and the file is closed, the file holds the records of
the channel as a JSON array, and so reads back as these records:
`content_and_read?_of_completed`.

The main line and the writer may take turns in any order.  At every moment the messages that
were sent are those that the writer has taken and those that wait; the file holds the chunks
among the former (`Accounted`).  Only the last action announces the end, so once the writer
has taken that announcement, nothing more comes.

The collection from a fixed page is evaluated with an equation of pairs that
`Mathlib.Data.List.Permutation` provides.
-/

namespace MarkupCatalog.Collection

open Writer

variable {path : Path} {callback : Option Callback} {logger : Log.Logger}

/-! ## Messages and the file -/

namespace Shared

/-- What the output file holds, as long as the log is kept elsewhere. -/
def Holds (path : Path) (logger : Log.Logger) (text : Text) (s : Shared) : Prop :=
  s.journal.logger = logger ∧ s.file.Holds path logger.WritesTo text

variable {s t : Shared} {text : Text}

theorem Holds.note (h : s.Holds path logger text) (r : Log.Record) :
    (s.note r).Holds path logger text := by
  obtain ⟨rfl, hfile⟩ := h
  exact ⟨rfl, hfile.note r⟩

theorem Holds.noteAll (h : s.Holds path logger text) (rs : List Log.Record) :
    (s.noteAll rs).Holds path logger text := by
  induction rs generalizing s with
  | nil => exact h
  | cons r rs ih => exact ih (h.note r)

/-- What the file holds does not depend on the channel or the records. -/
theorem Holds.congr (h : s.Holds path logger text) (hjournal : t.journal = s.journal)
    (hfile : t.file = s.file) : t.Holds path logger text := by
  unfold Holds
  rw [hjournal, hfile]
  exact h

theorem Holds.failChannel (h : s.Holds path logger text) (f : Failure) :
    (s.failChannel f).Holds path logger text := by
  have hfailed : Holds path logger text { s with channel := (s.channel.fail f).1 } :=
    h.congr rfl rfl
  exact hfailed.noteAll _

theorem Holds.completeSafely (h : s.Holds path logger text) (callback : Option Callback) :
    (s.completeSafely callback).Holds path logger text := by
  cases callback with
  | none => exact h
  | some c =>
      have hcalled : Holds path logger text
          { s with completions := s.completions ++ [s.collected] } := h.congr rfl rfl
      rcases hraises : c.raises with _ | f
      · simp only [Shared.completeSafely, complete, hraises]
        exact hcalled
      · simp only [Shared.completeSafely, complete, hraises]
        exact (hcalled.note _).failChannel f

theorem Holds.after (h : s.Holds path logger text) (a : Action) :
    (s.after a).Holds path logger text := by
  cases a with
  | note r => exact h.note r
  | _ => exact h.congr rfl rfl

/-- What the file holds after an operation on it. -/
theorem holds_onFile {operation : OutputFile → OutputFile × Option Failure}
    {failure : Option Failure} (hlogger : s.journal.logger = logger)
    (hcall : s.onFile operation = (t, failure))
    (hoperation : ∀ g : OutputFile, operation s.file = (g, failure) →
      g.Holds path logger.WritesTo text) : t.Holds path logger text := by
  rcases hfile : operation s.file with ⟨g, failure'⟩
  rw [onFile, hfile] at hcall
  cases hcall
  exact ⟨hlogger, hoperation g hfile⟩

end Shared

/-- The writer has taken all chunks and the announcement of the end, and the file holds the
chunks. -/
def Complete (path : Path) (logger : Log.Logger) (asked : List Message) (w : Writer)
    (s : Shared) : Prop :=
  ∃ chunks : List Text, asked = chunks.map .chunk ++ .finish :: w.queue ∧
    s.Holds path logger chunks.flatten

/-- What the callback has been given, if it has been called once with these records. -/
def calledWith (callback : Option Callback) (records : List Record) : List (List Record) :=
  if callback.isSome then [records] else []

/-- **The books of a run.**  What was asked is what the writer has taken and what waits, and
the file and the callback have got what goes with the stage. -/
def Accounted (path : Path) (logger : Log.Logger) (callback : Option Callback)
    (asked : List Message) (w : Writer) (s : Shared) : Prop :=
  match w.stage with
  | .opening => asked = w.queue ∧ s.completions = [] ∧ s.channel.completed = false
  | .writing =>
      (∃ chunks : List Text, asked = chunks.map .chunk ++ w.queue ∧
        s.Holds path logger chunks.flatten) ∧
      s.completions = [] ∧ s.channel.completed = false
  | .flushing | .finishing =>
      Complete path logger asked w s ∧ s.completions = [] ∧ s.channel.completed = false
  | .closing | .announcing =>
      Complete path logger asked w s ∧ s.completions = calledWith callback s.collected ∧
        s.channel.completed = false
  | .done =>
      s.channel.completed = true →
        Complete path logger asked w s ∧ s.completions = calledWith callback s.collected
  | .aborting | .recovering _ | .reporting _ | .dead _ => s.channel.completed = false

/-- A failure of opening, writing or flushing leads to a stage at which the channel is not
completed. -/
theorem accounted_after {asked : List Message} {w : Writer} {s : Shared} {f : Failure}
    {next : Failure → Stage} (hnext : ∀ g, next g = .recovering g ∨ next g = .reporting g)
    (hcompleted : s.channel.completed = false) (hstage : w.stage = .after f next) :
    Accounted path logger callback asked w s := by
  unfold Accounted
  rw [hstage, Stage.after]
  by_cases hf : f.isSystem = true
  · rw [if_pos hf]
    rcases hnext f with hn | hn <;> rw [hn] <;> exact hcompleted
  · rw [if_neg hf]
    exact hcompleted

/-- **What a step of the writer keeps.**  The books are right after the step as well. -/
theorem accounted_reaction {asked : List Message} {w v : Writer} {s t : Shared}
    {more : List Writer.Call}
    (h : Reaction (Shared.around (OutputFile.operations path) callback) w s more v t)
    (hlogger : s.journal.logger = logger)
    (hw : Accounted path logger callback asked w s) :
    Accounted path logger callback asked v t := by
  unfold Accounted at hw
  cases h with
  | opened hstage hcall =>
      rw [hstage] at hw
      obtain ⟨hasked, hcompletions, hcompleted⟩ := hw
      obtain ⟨hchannel, _, hcompletions', _⟩ := Shared.onFile_frame hcall
      refine ⟨⟨[], hasked, ?_⟩, hcompletions'.trans hcompletions, by rw [hchannel, hcompleted]⟩
      exact Shared.holds_onFile hlogger hcall fun g hopen => OutputFile.holds_openFile hopen
  | notOpened hstage hcall =>
      rw [hstage] at hw
      obtain ⟨hchannel, _⟩ := Shared.onFile_frame hcall
      exact accounted_after (fun g => Or.inr rfl) (by rw [hchannel]; exact hw.2.2) rfl
  | notWritten hstage _ hcall | notFlushed hstage hcall =>
      rw [hstage] at hw
      obtain ⟨hchannel, _⟩ := Shared.onFile_frame hcall
      exact accounted_after (fun g => Or.inl rfl) (by rw [hchannel]; exact hw.2.2) rfl
  | @wrote t chunk queue hstage hqueue hcall =>
      rw [hstage] at hw
      obtain ⟨⟨chunks, hasked, hholds⟩, hcompletions, hcompleted⟩ := hw
      obtain ⟨hchannel, _, hcompletions', _⟩ := Shared.onFile_frame hcall
      unfold Accounted
      simp only [hstage]
      refine ⟨⟨chunks ++ [chunk], ?_, ?_⟩, hcompletions'.trans hcompletions,
        by rw [hchannel, hcompleted]⟩
      · rw [hasked, hqueue, List.map_append, List.append_assoc]
        rfl
      · rw [List.flatten_concat]
        exact Shared.holds_onFile hlogger hcall fun g hwrite => hholds.2.write hwrite
  | ended hstage hqueue =>
      rw [hstage] at hw
      obtain ⟨⟨chunks, hasked, hholds⟩, hrest⟩ := hw
      exact ⟨⟨chunks, by rw [hasked, hqueue], hholds⟩, hrest⟩
  | givenUp hstage hqueue =>
      rw [hstage] at hw
      exact hw.2.2
  | flushed hstage hcall =>
      rw [hstage] at hw
      obtain ⟨⟨chunks, hasked, hholds⟩, hcompletions, hcompleted⟩ := hw
      obtain ⟨hchannel, _, hcompletions', _⟩ := Shared.onFile_frame hcall
      refine ⟨⟨chunks, hasked, ?_⟩, hcompletions'.trans hcompletions, by rw [hchannel, hcompleted]⟩
      exact Shared.holds_onFile hlogger hcall fun g hflush => hholds.2.flush hflush
  | finished hstage hcall =>
      rw [hstage] at hw
      cases hcall
      obtain ⟨⟨chunks, hasked, hholds⟩, hcompletions, hcompleted⟩ := hw
      obtain ⟨hchannel, hcollected, hcalled, _⟩ := Shared.completeSafely_frame callback s
      refine ⟨⟨chunks, hasked, hholds.completeSafely callback⟩, ?_, ?_⟩
      · rw [hcalled, hcompletions, hcollected]
        rfl
      · rw [hchannel, (Shared.channelAfter_frame callback s.channel).2.2, hcompleted]
  | @closed t hstage hcall =>
      rw [hstage] at hw
      obtain ⟨⟨chunks, hasked, hholds⟩, hcompletions, hcompleted⟩ := hw
      obtain ⟨hchannel, hcollected, hcompletions', _⟩ := Shared.onFile_frame hcall
      refine ⟨⟨chunks, hasked, ?_⟩, ?_, ?_⟩
      · exact (Shared.holds_onFile hlogger hcall fun g hclose => hholds.2.close hclose).note _
      · show t.completions = calledWith callback t.collected
        rw [hcompletions', hcollected, hcompletions]
      · exact (congrArg Channel.completed hchannel).trans hcompleted
  | notClosed hstage hcall =>
      rw [hstage] at hw
      exact (congrArg Channel.completed (Shared.onFile_frame hcall).1).trans hw.2.2
  | announced hstage hcall =>
      rw [hstage] at hw
      cases hcall
      obtain ⟨⟨chunks, hasked, hholds⟩, hcompletions, hcompleted⟩ := hw
      exact fun _ => ⟨⟨chunks, hasked, hholds.congr rfl rfl⟩, hcompletions⟩
  | abandoned hstage hcall =>
      rw [hstage] at hw
      intro hyes
      have hno := (congrArg Channel.completed (Shared.onFile_frame hcall).1).trans hw
      cases hno.symm.trans hyes
  | notAbandoned hstage hcall =>
      rw [hstage] at hw
      exact accounted_after (fun g => Or.inl rfl)
        ((congrArg Channel.completed (Shared.onFile_frame hcall).1).trans hw) rfl
  | recovered hstage hcall | notRecovered hstage hcall =>
      rw [hstage] at hw
      exact (congrArg Channel.completed (Shared.onFile_frame hcall).1).trans hw
  | @reported t f hstage hcall =>
      rw [hstage] at hw
      cases hcall
      intro hyes
      obtain ⟨hchannel, _⟩ := Shared.failChannel_frame f (s.note (w.failNote f))
      have hno : s.channel.completed = true := by
        rw [← (Shared.fail_frame s.channel f).2.2]
        exact (congrArg Channel.completed hchannel).symm.trans hyes
      cases hno.symm.trans hw
  | finishRaised _ hcall | closeRaised _ hcall | errorRaised _ hcall => cases hcall

/-- **What an action keeps.**  The books are right after an action that is not preceded by the
announcement of the end. -/
theorem accounted_act {asked : List Message} {w v : Writer} {s : Shared} {a : Action}
    (hfinish : Message.finish ∉ asked) (hqueue : v.queue = w.queue ++ a.messages)
    (hstage : v.stage = w.stage) (hw : Accounted path logger callback asked w s) :
    Accounted path logger callback (asked ++ a.messages) v (s.after a) := by
  have hchannel : (s.after a).channel.completed = s.channel.completed ∧
      (s.after a).completions = s.completions := by
    cases a with
    | endChannel =>
        show s.channel.finish.1.completed = _ ∧ s.completions = s.completions
        rw [Channel.finish]
        split <;> exact ⟨rfl, rfl⟩
    | _ => exact ⟨rfl, rfl⟩
  have hincomplete (h : Complete path logger asked w s) : False := by
    obtain ⟨chunks, hasked, _⟩ := h
    exact hfinish (hasked ▸ List.mem_append_right _ List.mem_cons_self)
  unfold Accounted at hw ⊢
  rw [hstage, hchannel.1, hchannel.2]
  cases hw' : w.stage with
  | opening =>
      rw [hw'] at hw
      exact ⟨by rw [hw.1, hqueue], hw.2⟩
  | writing =>
      rw [hw'] at hw
      obtain ⟨⟨chunks, hasked, hold⟩, hrest⟩ := hw
      exact ⟨⟨chunks, by rw [hasked, hqueue, List.append_assoc], hold.after a⟩, hrest⟩
  | flushing | finishing =>
      rw [hw'] at hw
      exact (hincomplete hw.1).elim
  | closing | announcing =>
      rw [hw'] at hw
      exact (hincomplete hw.1).elim
  | done =>
      rw [hw'] at hw
      exact fun hyes => (hincomplete (hw hyes).1).elim
  | aborting | recovering _ | reporting _ | dead _ =>
      rw [hw'] at hw
      exact hw

/-! ## Whole runs -/

/-- The state of a run of the plan whose main line has not failed: what was done and what is
to do make the plan, the records that were kept are in the channel, and the books are right. -/
structure OnPlan (path : Path) (logger : Log.Logger) (callback : Option Callback)
    (actions acted agenda : List Action) (s : Shared) (w : Writer) : Prop where
  split : acted ++ agenda = actions
  records : s.channel.records = acted.flatMap Action.kept
  collected : s.collected = acted.flatMap Action.kept
  logger_eq : s.journal.logger = logger
  accounted : Accounted path logger callback (acted.flatMap Action.messages) w s

theorem finish_mem_of_mem_messages {acted : List Action}
    (h : Message.finish ∈ acted.flatMap Action.messages) : Action.finish ∈ acted := by
  obtain ⟨a, ha, hmessage⟩ := List.mem_flatMap.mp h
  cases a with
  | finish => exact ha
  | _ => simp [Action.messages] at hmessage

/-- Nothing is left to do once the end is announced. -/
theorem finish_not_mem_of_agenda {actions acted agenda body : List Action} {a : Action}
    (hsplit : acted ++ a :: agenda = actions) (hplan : actions = body ++ [.finish])
    (hbody : Action.finish ∉ body) : Action.finish ∉ acted := by
  have hbefore : acted <+: body := by
    have hdrop : (acted ++ a :: agenda).dropLast = body := by
      rw [hsplit, hplan, List.dropLast_concat]
    rw [List.dropLast_append_of_ne_nil (List.cons_ne_nil a agenda)] at hdrop
    exact ⟨_, hdrop⟩
  exact fun hmem => hbody (hbefore.subset hmem)

/-- An action keeps its records, in the channel and for the callback. -/
theorem Shared.after_kept (s : Shared) (a : Action) :
    (s.after a).channel.records = s.channel.records ++ a.kept ∧
      (s.after a).collected = s.collected ++ a.kept ∧
      (s.after a).journal.logger = s.journal.logger := by
  cases a with
  | keep r => exact ⟨rfl, rfl, rfl⟩
  | endChannel =>
      have hfinish : s.channel.finish.1.records = s.channel.records := by
        rw [Channel.finish]
        split <;> rfl
      exact ⟨hfinish.trans (List.append_nil _).symm, (List.append_nil _).symm, rfl⟩
  | _ => exact ⟨(List.append_nil _).symm, (List.append_nil _).symm, rfl⟩

variable {actions body acted agenda : List Action} {s : Shared} {w : Writer}

/-- **What an action keeps.** -/
theorem OnPlan.act {a : Action} {v : Writer}
    (h : OnPlan path logger callback actions acted (a :: agenda) s w)
    (hplan : actions = body ++ [.finish]) (hbody : Action.finish ∉ body)
    (hqueue : v.queue = w.queue ++ a.messages) (hstage : v.stage = w.stage) :
    OnPlan path logger callback actions (acted ++ [a]) agenda (s.after a) v := by
  obtain ⟨hrecords, hcollected, hlogger⟩ := s.after_kept a
  have hfinish : Message.finish ∉ acted.flatMap Action.messages := fun hmem =>
    finish_not_mem_of_agenda h.split hplan hbody (finish_mem_of_mem_messages hmem)
  refine ⟨?_, ?_, ?_, hlogger.trans h.logger_eq, ?_⟩
  · rw [List.append_assoc]
    exact h.split
  · rw [hrecords, h.records, List.flatMap_append, List.flatMap_singleton]
  · rw [hcollected, h.collected, List.flatMap_append, List.flatMap_singleton]
  · rw [List.flatMap_append, List.flatMap_singleton]
    exact accounted_act hfinish hqueue hstage h.accounted

/-- **What a step of the writer keeps.** -/
theorem OnPlan.work {v : Writer} {t : Shared}
    (h : OnPlan path logger callback actions acted agenda s w)
    (hstep : w.step (Shared.around (OutputFile.operations path) callback) s = some (v, t)) :
    OnPlan path logger callback actions acted agenda t v := by
  have hreaction := step_reaction hstep
  obtain ⟨hcollected, hrecords, _, hlogger⟩ := Shared.untouched_reaction hreaction
  exact ⟨h.split, hrecords.trans h.records, hcollected.trans h.collected,
    hlogger.trans h.logger_eq, accounted_reaction hreaction h.logger_eq h.accounted⟩

/-- **What a run keeps.** -/
theorem Moves.onPlan {c : Collector} {shared : Shared} {registry : Scan.Registry}
    {made : List Writer.Call} {p : Progress} (houtput : c.settings.output = some path)
    (hstart : shared.collected = [] ∧ shared.completions = [] ∧ shared.journal.logger = logger)
    (hplan : plan c.settings c.parser registry = body ++ [.finish])
    (hbody : Action.finish ∉ body)
    (h : Moves (OutputFile.operations path) callback (c.begin shared registry) acted made p)
    (hfailure : p.failure = none) :
    ∃ w, p.state.writer = some w ∧
      OnPlan path logger callback (plan c.settings c.parser registry) acted p.agenda
        p.state.shared w := by
  have hlasting : Lasting (OutputFile.operations path) callback fun acted _ agenda s w =>
      OnPlan path logger callback (plan c.settings c.parser registry) acted agenda s w :=
    ⟨fun honPlan hqueue hstage _ => honPlan.act hplan hbody hqueue hstage,
      fun honPlan => honPlan.work⟩
  refine hlasting.holds houtput h hfailure ⟨rfl, rfl, hstart.1, hstart.2.2, ?_⟩
  exact ⟨rfl, hstart.2.1, rfl⟩

/-- To look for the files only adds to the log. -/
theorem afterScan_frame (shared : Shared) (log : List Log.Record) (registry : Scan.Registry) :
    (Collector.afterScan shared log registry).collected = shared.collected ∧
      (Collector.afterScan shared log registry).completions = shared.completions ∧
      (Collector.afterScan shared log registry).journal.logger = shared.journal.logger :=
  (Shared.noteAll_frame log shared).2

/-- The messages of actions that do not announce the end: their chunks. -/
theorem messages_eq_chunks (h : Action.finish ∉ body) :
    body.flatMap Action.messages = (body.flatMap Action.chunks).map .chunk := by
  rw [List.map_flatMap]
  refine List.flatMap_congr fun a ha => Action.messages_eq_chunks ?_
  rintro rfl
  exact h ha

/-- The messages of a plan: its chunks and the announcement of the end. -/
theorem messages_plan (hplan : actions = body ++ [.finish]) (hbody : Action.finish ∉ body) :
    actions.flatMap Action.messages = (actions.flatMap Action.chunks).map .chunk ++ [.finish] := by
  rw [hplan, List.flatMap_append, List.flatMap_append, messages_eq_chunks hbody]
  simp [Action.messages, Action.chunks]

/-- **When the file is closed** after the whole plan was carried out, it holds all chunks of
the plan, and the callback was given all records. -/
theorem OnPlan.complete (h : OnPlan path logger callback actions acted [] s w)
    (hplan : actions = body ++ [.finish]) (hbody : Action.finish ∉ body)
    (hcompleted : s.channel.completed = true) :
    s.Holds path logger (actions.flatMap Action.chunks).flatten ∧
      s.completions = calledWith callback s.channel.records := by
  have hacted : acted = actions := by
    rw [← h.split, List.append_nil]
  have hdone : Complete path logger (acted.flatMap Action.messages) w s ∧
      s.completions = calledWith callback s.collected := by
    have haccounted := h.accounted
    unfold Accounted at haccounted
    cases hstage : w.stage with
    | done =>
        rw [hstage] at haccounted
        exact haccounted hcompleted
    | opening | writing | flushing | finishing | closing | announcing =>
        rw [hstage] at haccounted
        cases hcompleted.symm.trans haccounted.2.2
    | aborting | recovering _ | reporting _ | dead _ =>
        rw [hstage] at haccounted
        cases hcompleted.symm.trans haccounted
  obtain ⟨⟨chunks, hasked, hholds⟩, hcompletions⟩ := hdone
  rw [hacted, messages_plan hplan hbody] at hasked
  rw [(eq_of_chunks (by simp) (by simp) hasked).1]
  refine ⟨hholds, ?_⟩
  rw [hcompletions, h.collected, h.records]

/-- A regular file that a collection has written, and that is not the log, holds the bytes of
the text. -/
theorem Shared.Holds.content_eq {text : Text} {place : List Text} {content : Bytes}
    (h : s.Holds path logger text)
    (hfile : s.file.fs.lookUp .target path.text = .ok ⟨place, some (.file content)⟩)
    (hlog : ¬ logger.WritesTo place) : content = Charset.Utf8.encode text := by
  obtain ⟨_, _, place', x, handle, hleads, _, _, hbytes⟩ := h
  cases hfile.symm.trans hleads
  exact hbytes hlog content rfl

/-- **What was written is read** as the records, if no key of their metadata is there twice. -/
theorem read?_arrayText {records : List Record} (mode : SerializeMode)
    (h : ∀ r ∈ records, r.metadata.keys.Nodup) :
    Json.read? (arrayText mode records) = some (.array (records.map fun r => r.value mode)) := by
  have hvalues : (records.map fun r => r.written mode).map Json.value =
      records.map fun r => r.value mode := by
    rw [List.map_map]
    exact List.map_congr_left fun r hr => Record.value_written (h r hr) mode
  have hread := Json.read?_array (records.map fun r => r.written mode)
  rw [List.map_map, hvalues] at hread
  exact hread

/-- **The output is the channel.**  When the main line has come to its end and the file is
closed, the file holds an array in UTF-8 of what stands for the records of the channel, in
their order; a reader of JSON gets back each record, or its rendered text; and the callback
was given the same records, once.  The log, of which the settings say nothing, must be kept in
another file. -/
theorem content_and_read?_of_completed {settings : Settings} {codecs : Charset.Codecs}
    {fs : FileSystem} {account : Account} {journal : Log.Journal} {o : Collector.Outcome}
    {place : List Text} {content : Bytes} (houtput : settings.output = some path)
    (hruns : (Collector.ofSettings settings codecs).Runs fs account journal o)
    (hfailure : o.failure = none) (hcompleted : o.state.shared.channel.completed = true)
    (hfile : o.state.shared.file.fs.lookUp .target path.text =
      .ok ⟨place, some (.file content)⟩)
    (hlog : ¬ journal.logger.WritesTo place) :
    content = Charset.Utf8.encode (arrayText settings.mode o.state.shared.channel.records) ∧
      Charset.Utf8.decode content =
        .ok (arrayText settings.mode o.state.shared.channel.records) ∧
      Json.read? (arrayText settings.mode o.state.shared.channel.records) =
        some (.array (o.state.shared.channel.records.map fun r => r.value settings.mode)) ∧
      o.state.shared.completions =
        calledWith settings.onComplete o.state.shared.channel.records := by
  simp only [Collector.Runs] at hruns
  split at hruns
  · next log f hscan =>
    rw [hruns] at hfailure
    cases hfailure
  · next log registry hscan =>
    obtain ⟨acted, made, hmoves, _⟩ := hruns
    obtain ⟨records, body, hplan, hbody, hyields, hnumbered⟩ :=
      plan_spec settings settings.dialect registry
    have hoperations : (Collector.ofSettings settings codecs).fileOperations =
        OutputFile.operations path := by
      rw [Collector.fileOperations, Collector.ofSettings, houtput]
      rfl
    rw [hoperations, hfailure] at hmoves
    obtain ⟨w, _, honPlan⟩ := hmoves.onPlan houtput (afterScan_frame _ log registry) hplan hbody rfl
    obtain ⟨hholds, hcalled⟩ := honPlan.complete hplan hbody hcompleted
    have hrecords : o.state.shared.channel.records = records := by
      rw [honPlan.records, ← hyields.kept]
      have hsplit := honPlan.split
      rw [List.append_nil] at hsplit
      rw [hsplit]
      rfl
    have hchunks : ((plan settings (Collector.ofSettings settings codecs).parser registry).flatMap
        Action.chunks).flatten = arrayText settings.mode records := hyields.chunks
    rw [hrecords] at hcalled ⊢
    have hcontent := (hchunks ▸ hholds).content_eq hfile hlog
    refine ⟨hcontent, ?_, read?_arrayText settings.mode hnumbered.keys, hcalled⟩
    rw [hcontent, Charset.Utf8.decode_encode]

/-! ## A page with two annotations -/

/-- The place of the page. -/
def pagePath : Path := .absolute ["a.html"]

/-- The text of the page. -/
def page : Text := "<!-- @component A -->é<!-- @component B -->\""

/-- A file system that holds nothing but the page. -/
def pageSystem : FileSystem := ⟨.directory [("a.html", .file (Charset.Utf8.encode page))], []⟩

/-- The place of the output. -/
def pageOutput : Path := .absolute ["out"]

/-- Settings by which the rendered texts go to a file beside the page. -/
def pageSettings : Settings where
  root := .absolute []
  dialect :=
    ⟨Settings.defaultKeyword, Settings.defaultOpening, Settings.defaultClosing,
      Settings.defaultKeyword_ne_nil⟩
  template := ⟨Settings.defaultPlaceholder, Settings.defaultPlaceholder⟩
  output := some pageOutput
  onComplete := some {}
  extensions := Settings.defaultExtensions
  mode := .rendered
  excludes := []
  charset := Settings.defaultCharset

/-- The records of the page. -/
def pageRecords : List Record :=
  [⟨pagePath, 0, [("name", "A")], "é", "é"⟩, ⟨pagePath, 1, [("name", "B")], "\"", "\""⟩]

/-- What the main line does with the page. -/
def pageActions : List Action :=
  [.write "[", .write "\"é\"", .keep ⟨pagePath, 0, [("name", "A")], "é", "é"⟩,
    .write ",", .write "\"\\\"\"", .keep ⟨pagePath, 1, [("name", "B")], "\"", "\""⟩,
    .note (note .info "Collected 2 components from 1 files"), .endChannel, .finish]

/-- The log of the scan. -/
def pageLog : List Log.Record :=
  [Scan.Scanner.note "Registered /a.html",
    Scan.Scanner.note "Scanned 1 candidate files under /, 1 registered"]

/-- A journal of messages that are not reported anywhere. -/
def pageJournal : Log.Journal := ⟨{ clock := [] }, [], []⟩

/-- What is shared when the page has been found. -/
def pageShared : Shared :=
  Collector.afterScan (Shared.note (note .info "Collecting components under /")
    { file := { fs := pageSystem }, journal := pageJournal }) pageLog [(pagePath, page)]

theorem scan_page :
    (Collector.ofSettings pageSettings .ascii).scanner.scan pageSystem ⟨"/", []⟩ "/" =
      (pageLog, .ok [(pagePath, page)]) := by
  have hroot : Scan.Scanner.findRoot pageSystem ⟨"/", []⟩ "/" = .ok (.absolute []) := by cbv
  have hpaths : (Collector.ofSettings pageSettings .ascii).scanner.candidatePaths pageSystem
      (.absolute []) = .ok [pagePath] := by
    cbv
  have hbytes : pageSystem.readBytes pagePath.text = .ok (Charset.Utf8.encode page) := by cbv
  have hfeeds : Text.withLineFeeds page = page := by cbv
  have hread : pageSystem.readText (Collector.ofSettings pageSettings .ascii).scanner.codecs
      (Collector.ofSettings pageSettings .ascii).scanner.charset pagePath.text = .ok page :=
    (FileSystem.readText_utf8 hbytes).trans (congrArg Except.ok hfeeds)
  have hkeyword : Scan.Scanner.mayAnnotate
      (Collector.ofSettings pageSettings .ascii).scanner.keyword page = true := by
    cbv
  simp only [Scan.Scanner.scan, hroot, hpaths, Scan.Scanner.readAll, hread, hkeyword, if_true]
  cbv

theorem plan_page :
    plan pageSettings (.ofDialect pageSettings.dialect) [(pagePath, page)] = pageActions := by
  decide +kernel

/-- The output file of the page when it has just been opened. -/
def pageOpened : OutputFile :=
  { fs := pageSystem.put ["out"] (.file []), handle := some (.file ["out"]) }

theorem openFile_page :
    (OutputFile.operations pageOutput).openFile pageShared.file = (pageOpened, none) := by
  have hmade : pageShared.file.fs.ensureDirectories pageOutput.parent = (pageSystem, none) := by cbv
  have hopened : pageSystem.openToWrite false pageOutput.text =
      .ok (pageSystem.put ["out"] (.file []), .file ["out"]) := by
    cbv
  exact OutputFile.openFile_eq_ok_iff.mpr ⟨_, _, _, hmade, hopened, rfl⟩

/-- The file is opened, then the main line does all that it has to do, and then the writer. -/
theorem moves_page : ∃ acted made state,
    Moves (OutputFile.operations pageOutput) (some {})
      ((Collector.ofSettings pageSettings .ascii).begin pageShared [(pagePath, page)])
      acted made ⟨state, [], none⟩ ∧
    state.IsIdle (OutputFile.operations pageOutput) (some {}) ∧
    state.shared.channel.completed = true ∧ state.shared.channel.records = pageRecords ∧
    state.shared.file.fs.lookUp .target pageOutput.text =
      .ok ⟨["out"], some (.file (Charset.Utf8.encode "[\"é\",\"\\\"\"]"))⟩ := by
  have hbegin : Moves (OutputFile.operations pageOutput) (some {})
      ((Collector.ofSettings pageSettings .ascii).begin pageShared [(pagePath, page)]) [] []
      ⟨⟨{ pageShared with channel := { awaitsWriter := true } }, some { path := pageOutput }⟩,
        pageActions, none⟩ := by
    rw [← plan_page]
    exact .refl
  have hstep : Writer.step (Shared.around (OutputFile.operations pageOutput) (some {}))
      { path := pageOutput } { pageShared with channel := { awaitsWriter := true } } =
      some ({ path := pageOutput, stage := .writing },
        { pageShared with file := pageOpened, channel := { awaitsWriter := true } }) := by
    simp only [step, Shared.around, Shared.onFile, openFile_page]
  have hrecords := ((((((hbegin.work hstep).act rfl).act rfl).act rfl).act rfl).act rfl).act rfl
  have hasked := ((hrecords.act rfl).act rfl).act rfl
  have hwritten := ((((hasked.work rfl).work rfl).work rfl).work rfl).work rfl
  have hdone := ((((hwritten.work rfl).work rfl).work rfl).work rfl).work rfl
  refine ⟨_, _, _, hdone, ?_, by cbv, by cbv, by cbv⟩
  intro w hw
  cases hw
  rfl

/-- A collection from the page writes an array of its two texts. -/
theorem content_and_read?_page :
    ∃ (o : Collector.Outcome) (content : Bytes),
      (Collector.ofSettings pageSettings .ascii).Runs pageSystem ⟨"/", []⟩ pageJournal o ∧
      o.state.shared.file.fs.lookUp .target pageOutput.text =
        .ok ⟨["out"], some (.file content)⟩ ∧
      Charset.Utf8.decode content = .ok (arrayText .rendered pageRecords) ∧
      Json.read? (arrayText .rendered pageRecords) = some (.array [.text "é", .text "\""]) ∧
      o.state.shared.completions = [pageRecords] := by
  obtain ⟨acted, made, state, hmoves, hidle, hcompleted, hrecords, hfile⟩ := moves_page
  have hruns : (Collector.ofSettings pageSettings .ascii).Runs pageSystem ⟨"/", []⟩ pageJournal
      ⟨state, none⟩ := by
    simp only [Collector.Runs]
    split
    · next hscan => cases hscan.symm.trans scan_page
    · next hscan =>
      cases hscan.symm.trans scan_page
      exact ⟨acted, made, hmoves, hidle⟩
  have hlog : ¬ pageJournal.logger.WritesTo ["out"] := by
    rintro ⟨_, _, hmem⟩
    exact List.not_mem_nil hmem
  obtain ⟨_, hdecode, hread, hcompletions⟩ :=
    content_and_read?_of_completed rfl hruns rfl hcompleted hfile hlog
  simp only [hrecords] at hdecode hread hcompletions
  exact ⟨⟨state, none⟩, _, hruns, hfile, hdecode, hread, hcompletions⟩

end MarkupCatalog.Collection
