import MarkupCatalog.Proofs.Collection.Shared

/-!
# Collections in which main line and writer take turns freely

`Collector.run` lets the writer work for as long as it can after every action of the main
line.  Here the two take turns in any order: `Moves` is a run in which each move is one
action of the main line or one step of the writer, and `Collector.Runs` says that an
outcome is one of those that such a run can come to.  `Collector.runs_run` shows that
`Collector.run` gives one of them, so what is proved of all of them holds of it.

The operations on the file are a parameter of a run, so that they may fail in any way.  A
property that every action and every step of the writer keeps is `Lasting`, and holds in every
run of a collection with an output (`Lasting.holds`).
-/

namespace MarkupCatalog

namespace Collection

/-- A collection under way: its state, what the main line has still to do, and the failure
that has ended the main line early. -/
structure Progress where
  state : State
  agenda : List Action
  failure : Option Failure := none

/-- A run in which the main line and the writer take turns in any order, with the actions
that were carried out and all calls that the writer has made. -/
inductive Moves (io : OutputFile.Operations) (callback : Option Callback) (start : Progress) :
    List Action → List Writer.Call → Progress → Prop
  | refl : Moves io callback start [] [] start
  /-- The main line carries out its next action. -/
  | act {acted made state state' a agenda} :
      Moves io callback start acted made ⟨state, a :: agenda, none⟩ →
      state.act callback a = (state', none) →
      Moves io callback start (acted ++ [a]) made ⟨state', agenda, none⟩
  /-- The next action of the main line fails, and the writer is asked to give up. -/
  | fail {acted made state state' a agenda f} :
      Moves io callback start acted made ⟨state, a :: agenda, none⟩ →
      state.act callback a = (state', some f) →
      Moves io callback start acted made ⟨(state'.request .abort).1, [], some f⟩
  /-- The writer takes a step. -/
  | work {acted made shared agenda failure w v shared'} :
      Moves io callback start acted made ⟨⟨shared, some w⟩, agenda, failure⟩ →
      w.step (Shared.around io callback) shared = some (v, shared') →
      Moves io callback start acted (made ++ w.calls (Shared.around io callback) shared)
        ⟨⟨shared', some v⟩, agenda, failure⟩

/-- The writer, if there is one, has nothing to do. -/
def State.IsIdle (io : OutputFile.Operations) (callback : Option Callback) (s : State) : Prop :=
  ∀ w ∈ s.writer, w.step (Shared.around io callback) s.shared = none

/-! ## The writer works for as long as it can -/

variable {io : OutputFile.Operations} {callback : Option Callback} {start : Progress}
  {acted : List Action} {agenda : List Action} {failure : Option Failure}

/-- A writer that works for as long as it can takes one step after the other. -/
theorem Moves.writerRun {made : List Writer.Call} {w : Writer} {shared : Shared}
    (h : Moves io callback start acted made ⟨⟨shared, some w⟩, agenda, failure⟩) :
    ∃ made' v shared', w.run (Shared.around io callback) shared = (v, shared') ∧
      Moves io callback start acted made' ⟨⟨shared', some v⟩, agenda, failure⟩ ∧
      v.step (Shared.around io callback) shared' = none ∧ v.path = w.path := by
  induction hn : w.work using Nat.strongRecOn generalizing made w shared with
  | _ n ih =>
      rw [Writer.run]
      split
      · next hstep => exact ⟨made, w, shared, rfl, h, hstep, rfl⟩
      · next v shared' hstep =>
        have hless : v.work < n := hn ▸ Writer.work_step hstep
        obtain ⟨made', v', shared'', hrun, hmoves, hidle, hpath⟩ :=
          ih v.work hless (h.work hstep) rfl
        refine ⟨made', v', shared'', hrun, hmoves, hidle, ?_⟩
        rw [hpath, (Writer.step_reaction hstep).path_ended.1]

/-- The writer of the state, if there is one, writes to the file that is used. -/
def State.Uses (s : State) (io : OutputFile.Operations) : Prop :=
  ∀ w ∈ s.writer, OutputFile.operations w.path = io

/-- To let the writer work is a run of its own. -/
theorem Moves.proceed {made : List Writer.Call} {state : State} (huses : state.Uses io)
    (h : Moves io callback start acted made ⟨state, agenda, failure⟩) :
    ∃ made', Moves io callback start acted made' ⟨state.proceed callback, agenda, failure⟩ ∧
      (state.proceed callback).IsIdle io callback ∧ (state.proceed callback).Uses io := by
  obtain ⟨shared, _ | w⟩ := state
  · refine ⟨made, h, ?_, ?_⟩
    · intro w hw
      cases hw
    · intro w hw
      cases hw
  · have hio : OutputFile.operations w.path = io := huses w rfl
    obtain ⟨made', v, shared', hrun, hmoves, hidle, hpath⟩ := h.writerRun
    have hproceed : State.proceed callback ⟨shared, some w⟩ = ⟨shared', some v⟩ := by
      simp only [State.proceed, ← Shared.around_operations, hio, hrun]
    rw [hproceed]
    refine ⟨made', hmoves, ?_, ?_⟩
    · rintro _ ⟨⟩
      exact hidle
    · rintro _ ⟨⟩
      rw [hpath, hio]

theorem State.request_uses {s : State} (huses : s.Uses io) (r : Writer.Request) :
    (s.request r).1.Uses io := by
  obtain ⟨shared, _ | w⟩ := s
  · exact huses
  · simp only [State.request]
    split
    · next v hrequest =>
      rintro _ ⟨⟩
      rw [(Writer.request_ok hrequest).2.2.2]
      exact huses w rfl
    · exact huses

/-- An action of the main line leaves the writer with its file. -/
theorem State.act_uses {s : State} (huses : s.Uses io) (a : Action) :
    (s.act callback a).1.Uses io := by
  cases a with
  | note r => exact huses
  | write chunk => exact request_uses huses _
  | keep r =>
      simp only [State.act]
      split
      · exact huses
      · exact huses
  | fail f => exact huses
  | endChannel => exact huses
  | finish =>
      simp only [State.act]
      split
      · exact request_uses huses _
      · exact huses

/-- **The main line's own order is one of all orders.**  Carrying out the agenda, with the
writer at work after every action, is a run. -/
theorem Moves.perform {made : List Writer.Call} {state : State} (huses : state.Uses io)
    (hidle : state.IsIdle io callback)
    (h : Moves io callback start acted made ⟨state, agenda, none⟩) :
    ∃ acted' made', Moves io callback start acted' made'
        ⟨(state.perform callback agenda).1, [], (state.perform callback agenda).2⟩ ∧
      (state.perform callback agenda).1.IsIdle io callback := by
  induction agenda generalizing acted made state with
  | nil => exact ⟨acted, made, h, hidle⟩
  | cons a agenda ih =>
      have huses' : (state.act callback a).1.Uses io := state.act_uses huses a
      rw [State.perform]
      rcases hact : state.act callback a with ⟨state', _ | f⟩
      · rw [hact] at huses'
        obtain ⟨made', hmoves, hidle', huses''⟩ := (h.act hact).proceed huses'
        exact ih huses'' hidle' hmoves
      · rw [hact] at huses'
        obtain ⟨made', hmoves, hidle', _⟩ :=
          (h.fail hact).proceed (State.request_uses huses' .abort)
        exact ⟨_, made', hmoves, hidle'⟩

/-! ## What an action does -/

/-- What an action adds to the writer's queue. -/
def Action.messages : Action → List Writer.Message
  | .write chunk => [.chunk chunk]
  | .finish => [.chunk "]", .finish]
  | _ => []

/-- The records that an action keeps. -/
def Action.kept : Action → List Record
  | .keep r => [r]
  | _ => []

/-- What is shared after an action, if there is a writer. -/
def Shared.after (s : Shared) : Action → Shared
  | .note r => s.note r
  | .keep r =>
      { s with
        channel := { s.channel with records := s.channel.records ++ [r] }
        collected := s.collected ++ [r] }
  | .endChannel => { s with channel := s.channel.finish.1 }
  | _ => s

/-- **Inversion of an action.**  An action that succeeds while there is a writer adds its
messages to the queue and does the rest to what is shared. -/
theorem State.act_ok {shared : Shared} {w : Writer} {a : Action} {state : State}
    (h : State.act callback ⟨shared, some w⟩ a = (state, none)) :
    ∃ v : Writer, state = ⟨shared.after a, some v⟩ ∧ v.queue = w.queue ++ a.messages ∧
      v.stage = w.stage ∧ v.error = w.error ∧ v.path = w.path := by
  have hsame (state : State) (h : (⟨shared.after a, some w⟩ : State) = state)
      (hmessages : a.messages = []) :
      ∃ v : Writer, state = ⟨shared.after a, some v⟩ ∧ v.queue = w.queue ++ a.messages ∧
        v.stage = w.stage ∧ v.error = w.error ∧ v.path = w.path :=
    ⟨w, h.symm, by rw [hmessages, List.append_nil], rfl, rfl, rfl⟩
  have hrequest (r : Writer.Request) (h : State.request r ⟨shared, some w⟩ = (state, none)) :
      ∃ v : Writer, state = ⟨shared, some v⟩ ∧ v.queue = w.queue ++ r.messages ∧
        v.stage = w.stage ∧ v.error = w.error ∧ v.path = w.path := by
    simp only [State.request] at h
    split at h
    · next v hv =>
      cases h
      exact ⟨v, rfl, Writer.request_ok hv⟩
    · cases h
  cases a with
  | note r =>
      cases h
      exact hsame _ rfl rfl
  | write chunk => exact hrequest _ h
  | keep r =>
      simp only [State.act, Channel.push] at h
      split at h
      · cases h
      · next hpush =>
        split at hpush
        · cases hpush
        · cases hpush
          cases h
          exact hsame _ rfl rfl
  | fail f => cases h
  | endChannel =>
      cases h
      exact hsame _ rfl rfl
  | finish => exact hrequest _ h

end Collection

namespace Collector

open Collection

/-- A collection at its start: the files are known, and the writer has not begun. -/
def begin (c : Collector) (shared : Shared) (registry : Scan.Registry) : Progress where
  state :=
    ⟨{ shared with channel := { awaitsWriter := c.settings.writesOutput } },
      c.settings.output.map fun path => { path }⟩
  agenda := plan c.settings c.parser registry

end Collector

namespace Collection

/-- A property of what was done, what is to do, what is shared and the writer lasts if every
action that succeeds and every step of the writer keeps it. -/
structure Lasting (io : OutputFile.Operations) (callback : Option Callback)
    (P : List Action → List Writer.Call → List Action → Shared → Writer → Prop) : Prop where
  act : ∀ {acted made a agenda s w v}, P acted made (a :: agenda) s w →
    v.queue = w.queue ++ a.messages → v.stage = w.stage → v.error = w.error →
    P (acted ++ [a]) made agenda (s.after a) v
  work : ∀ {acted made agenda s w v t}, P acted made agenda s w →
    w.step (Shared.around io callback) s = some (v, t) →
    P acted (made ++ w.calls (Shared.around io callback) s) agenda t v

/-- **What lasts holds in every run** whose main line has not failed, if it holds at the
start. -/
theorem Lasting.holds {P : List Action → List Writer.Call → List Action → Shared → Writer → Prop}
    (hlasting : Lasting io callback P) {c : Collector} {path : Path} {shared : Shared}
    {registry : Scan.Registry} {made : List Writer.Call} {p : Progress}
    (houtput : c.settings.output = some path)
    (h : Moves io callback (c.begin shared registry) acted made p) (hfailure : p.failure = none)
    (hstart : P [] [] (plan c.settings c.parser registry)
      (c.begin shared registry).state.shared { path }) :
    ∃ w, p.state.writer = some w ∧ P acted made p.agenda p.state.shared w := by
  induction h with
  | refl => exact ⟨{ path }, by rw [Collector.begin, houtput]; rfl, hstart⟩
  | @act _ _ state _ _ _ _ hact ih =>
      obtain ⟨w, hwriter, hw⟩ := ih rfl
      obtain ⟨shared', _⟩ := state
      cases hwriter
      obtain ⟨v, rfl, hqueue, hstage, herror, _⟩ := State.act_ok hact
      exact ⟨v, rfl, hlasting.act hw hqueue hstage herror⟩
  | fail _ _ _ => cases hfailure
  | work _ hstep ih =>
      obtain ⟨w, hwriter, hw⟩ := ih hfailure
      cases hwriter
      exact ⟨_, rfl, hlasting.work hw hstep⟩

end Collection

namespace Collector

open Collection

/-- The operations on the output file, if there is one. -/
def fileOperations (c : Collector) : OutputFile.Operations :=
  OutputFile.operations (c.settings.output.getD ⟨[], []⟩)

/-- What is shared when the files have been looked for. -/
def afterScan (shared : Shared) (log : List Log.Record) (registry : Scan.Registry) : Shared :=
  (shared.noteAll log).note (Collection.note .debug
    ("Registry holds " ++ Text.ofNat registry.length ++ " annotated files"))

/-- The outcome is one that a collection can come to when the main line and the writer
take turns in some order. -/
def Runs (c : Collector) (fs : FileSystem) (account : Account) (journal : Log.Journal)
    (o : Outcome) : Prop :=
  let root := c.settings.root.text
  let shared : Shared := { file := { fs }, journal }
  let shared := shared.note (Collection.note .info ("Collecting components under " ++ root))
  match c.scanner.scan shared.file.fs account root with
  | (log, .error f) => o = ⟨⟨shared.noteAll log, none⟩, some f⟩
  | (log, .ok registry) =>
      ∃ acted made,
        Moves c.fileOperations c.settings.onComplete
          (c.begin (afterScan shared log registry) registry) acted made ⟨o.state, [], o.failure⟩ ∧
        o.state.IsIdle c.fileOperations c.settings.onComplete

/-- To carry out the plan with the writer at work after every action is one of all runs
that begin when the files are known. -/
theorem moves_perform_start (c : Collector) (shared : Shared) (registry : Scan.Registry) :
    ∃ acted made,
      Moves c.fileOperations c.settings.onComplete (c.begin shared registry) acted made
        ⟨((c.start shared).perform c.settings.onComplete (plan c.settings c.parser registry)).1, [],
          ((c.start shared).perform c.settings.onComplete
            (plan c.settings c.parser registry)).2⟩ ∧
      ((c.start shared).perform c.settings.onComplete
        (plan c.settings c.parser registry)).1.IsIdle c.fileOperations c.settings.onComplete := by
  have huses : (c.begin shared registry).state.Uses c.fileOperations := by
    intro w hw
    obtain ⟨path, hpath, rfl⟩ := Option.map_eq_some_iff.mp hw
    rw [fileOperations, hpath]
    rfl
  have hbegin : Moves c.fileOperations c.settings.onComplete (c.begin shared registry) [] []
      (c.begin shared registry) := .refl
  obtain ⟨made, hmoves, hidle, huses'⟩ := hbegin.proceed huses
  exact hmoves.perform huses' hidle

/-- **The usual run is one of all runs.** -/
theorem runs_run (c : Collector) (fs : FileSystem) (account : Account) (journal : Log.Journal) :
    c.Runs fs account journal (c.run fs account journal) := by
  simp only [Runs, run]
  generalize c.scanner.scan _ account _ = found
  rcases found with ⟨log, f | registry⟩
  · rfl
  · exact c.moves_perform_start _ registry

end Collector

end MarkupCatalog
