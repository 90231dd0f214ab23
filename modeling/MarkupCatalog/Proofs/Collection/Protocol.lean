import MarkupCatalog.Proofs.Collection.MainLine
import MarkupCatalog.Proofs.Collection.Output
import MarkupCatalog.Proofs.Collection.Settling
import MarkupCatalog.Proofs.Writer.History

/-!
# The protocol of completion

A collection that writes a file has three parties that are told of its end: the callback, which
is given the records when all is written; the channel, which is completed when the file is
closed; and whoever waits for the channel to be settled.  The main line and the writer take
turns in any order, every operation on the file may fail, and so may a parser and the callback.

`Moves.protocol` says what holds at every moment of every such run.  It rests on three things:
the history of the writer, for which only the announcement of the end leads to the callback
(`Moves.recorded`); the main line, which announces the end only after everything else
(`MainLine.allSent`); and the channel, which knows of the writer what this has told and nothing
else (`Moves.heard`).  Histories and channels are followed by properties that every move keeps,
also one in which an action fails (`Persists`).
-/

namespace MarkupCatalog.Collection

open Writer

variable {io : OutputFile.Operations} {callback : Option Callback}

/-! ## Runs in which actions may fail -/

/-- An action that fails while there is a writer changes nothing. -/
theorem State.act_failed {shared : Shared} {w : Writer} {a : Action} {state : State} {f : Failure}
    (h : State.act callback ⟨shared, some w⟩ a = (state, some f)) :
    state = ⟨shared, some w⟩ := by
  have hrequest (r : Request) (h : State.request r ⟨shared, some w⟩ = (state, some f)) :
      state = ⟨shared, some w⟩ := (State.request_some h).1
  cases a with
  | note r => cases h
  | write chunk => exact hrequest _ h
  | keep r =>
      simp only [State.act] at h
      split at h
      · cases h
        rfl
      · cases h
  | fail g =>
      cases h
      rfl
  | endChannel => cases h
  | finish => exact hrequest _ h

/-- A property of a run with a writer persists if every move keeps it: an action that succeeds,
one that fails, and a step of the writer. -/
structure Persists (io : OutputFile.Operations) (callback : Option Callback) (start : Progress)
    (P : List Action → List Writer.Call → List Action → Option Failure → Shared → Writer → Prop) :
    Prop where
  act : ∀ {acted made a agenda s w v},
    Moves io callback start acted made ⟨⟨s, some w⟩, a :: agenda, none⟩ →
    P acted made (a :: agenda) none s w → v.queue = w.queue ++ a.messages → v.stage = w.stage →
    v.error = w.error → P (acted ++ [a]) made agenda none (s.after a) v
  fail : ∀ {acted made a agenda s w f},
    P acted made (a :: agenda) none s w → P acted made [] (some f) s w.abort
  work : ∀ {acted made agenda failure s w v t},
    Moves io callback start acted made ⟨⟨s, some w⟩, agenda, failure⟩ →
    P acted made agenda failure s w → w.step (Shared.around io callback) s = some (v, t) →
    P acted (made ++ w.calls (Shared.around io callback) s) agenda failure t v

variable {c : Collector} {path : Path} {shared : Shared} {registry : Scan.Registry}
  {acted : List Action} {made : List Writer.Call} {p : Progress}

/-- **What persists holds in every run** of a collection that writes a file, if it holds at the
start. -/
theorem Persists.holds
    {P : List Action → List Writer.Call → List Action → Option Failure → Shared → Writer → Prop}
    (hpersists : Persists io callback (c.begin shared registry) P)
    (houtput : c.settings.output = some path)
    (h : Moves io callback (c.begin shared registry) acted made p)
    (hstart : P [] [] (plan c.settings c.parser registry) none
      (c.begin shared registry).state.shared { path }) :
    ∃ w, p.state.writer = some w ∧ P acted made p.agenda p.failure p.state.shared w := by
  induction h with
  | refl => exact ⟨{ path }, by rw [Collector.begin, houtput]; rfl, hstart⟩
  | @act _ _ state _ _ _ hmoves hact ih =>
      obtain ⟨w, hwriter, hw⟩ := ih
      obtain ⟨s, _⟩ := state
      cases hwriter
      obtain ⟨v, rfl, hqueue, hstage, herror, _⟩ := State.act_ok hact
      exact ⟨v, rfl, hpersists.act hmoves hw hqueue hstage herror⟩
  | @fail _ _ state _ _ _ _ _ hact ih =>
      obtain ⟨w, hwriter, hw⟩ := ih
      obtain ⟨s, _⟩ := state
      cases hwriter
      cases State.act_failed hact
      exact ⟨w.abort, rfl, hpersists.fail hw⟩
  | work hmoves hstep ih =>
      obtain ⟨w, hwriter, hw⟩ := ih
      cases hwriter
      exact ⟨_, rfl, hpersists.work hmoves hw hstep⟩

/-! ## What the main line asks -/

/-- The messages that the main line has sent: those of its actions, and that the writer is to
give up if an action has failed. -/
def sent (acted : List Action) (failure : Option Failure) : List Message :=
  acted.flatMap Action.messages ++ if failure.isSome then [.abort] else []

theorem finish_mem_of_mem_sent {acted : List Action} {failure : Option Failure}
    (h : Message.finish ∈ sent acted failure) : Action.finish ∈ acted := by
  rcases List.mem_append.mp h with hmessages | habort
  · exact finish_mem_of_mem_messages hmessages
  · split at habort <;> simp at habort

/-- **What a run keeps.**  The calls of the writer are a history of what the main line has
asked. -/
theorem Moves.recorded (houtput : c.settings.output = some path)
    (h : Moves io callback (c.begin shared registry) acted made p) :
    ∃ w, p.state.writer = some w ∧ Recorded (sent acted p.failure) made w := by
  have hpersists : Persists io callback (c.begin shared registry)
      fun acted made _ failure _ w => Recorded (sent acted failure) made w := by
    refine ⟨?_, ?_, ?_⟩
    · intro acted made a agenda s w v _ hw hqueue hstage _
      have hsent : sent (acted ++ [a]) none = sent acted none ++ a.messages := by
        simp [sent]
      rw [hsent]
      exact hw.ask hqueue hstage
    · intro acted made a agenda s w f hw
      have hsent : sent acted (some f) = sent acted none ++ [.abort] := by
        simp [sent]
      rw [hsent]
      exact hw.ask rfl rfl
    · intro acted made agenda failure s w v t _ hw hstep
      exact (step_reaction hstep).recorded hw
  exact hpersists.holds houtput h ⟨rfl, rfl⟩

/-- The main line has done all that it had to do: the channel has ended, and the chunks that
were sent close with a bracket. -/
structure AllSent (actions acted : List Action) (p : Progress) : Prop where
  acted_eq : acted = actions
  agenda_eq : p.agenda = []
  failure_eq : p.failure = none
  ended : p.state.shared.channel.ended = true
  bracket : (actions.flatMap Action.chunks).getLast? = some "]"

/-- Once the main line has announced the end, it has done everything without a failure. -/
theorem MainLine.eq_of_finish_mem {settings : Settings} {path : Path}
    {actions acted body ending : List Action} {p : Progress}
    (h : MainLine settings callback actions acted p) (hplan : IsPlan actions body ending)
    (houtput : settings.output = some path) (hfinish : Action.finish ∈ acted) :
    acted = actions ∧ p.agenda = [] ∧ p.failure = none := by
  have hfailure : p.failure = none := by
    cases hfailure : p.failure with
    | none => rfl
    | some f =>
        obtain ⟨_, ⟨hassembly, _⟩ | ⟨hnone, _⟩⟩ := h.failed f hfailure
        · cases hassembly _ hfinish
        · cases hnone.symm.trans houtput
  have hsplit := h.split hfailure
  have hagenda : p.agenda = [] := by
    cases hagenda : p.agenda with
    | nil => rfl
    | cons a agenda =>
        rw [hagenda] at hsplit
        rcases hplan.position hsplit with ⟨hassembly, _⟩ | ⟨hacted, _⟩
        · cases hassembly _ hfinish
        · exact absurd (hacted ▸ hfinish) hplan.finish_not_mem
  rw [hagenda, List.append_nil] at hsplit
  exact ⟨hsplit, hagenda, hfailure⟩

/-- **The announcement of the end comes last.**  Once it was sent, the main line has done
everything, and the chunks before it are those of the plan. -/
theorem MainLine.allSent {settings : Settings} {path : Path}
    {actions acted body ending : List Action} {p : Progress} {chunks : List Text}
    {queue : List Message} (h : MainLine settings callback actions acted p)
    (hplan : IsPlan actions body ending) (houtput : settings.output = some path)
    (hsent : sent acted p.failure = chunks.map .chunk ++ .finish :: queue) :
    AllSent actions acted p ∧ chunks = actions.flatMap Action.chunks := by
  have hfinish : Action.finish ∈ acted :=
    finish_mem_of_mem_sent (hsent ▸ List.mem_append_right _ List.mem_cons_self)
  obtain ⟨hacted, hagenda, hfailure⟩ := h.eq_of_finish_mem hplan houtput hfinish
  have hactions := hplan.eq_of_finish_mem (hacted ▸ hfinish)
  refine ⟨⟨hacted, hagenda, hfailure, ?_, ?_⟩, ?_⟩
  · rw [h.ended, hacted, hactions]
    simp
  · rw [hactions, List.flatMap_append]
    exact List.getLast?_concat
  · rw [hacted, hfailure, sent, messages_plan hactions hplan.finish_not_mem,
      List.append_assoc] at hsent
    exact (eq_of_chunks (by simp) (by simp) hsent).1.symm

/-- When the writer has taken the announcement of the end, it has written the chunks of the
whole plan. -/
theorem Moves.allSent {last : List Writer.Call} {w : Writer}
    (houtput : c.settings.output = some path) (hstart : shared.collected = [])
    (h : Moves io callback (c.begin shared registry) acted made p)
    (hlast : Concludes (sent acted p.failure) made last w) :
    AllSent (plan c.settings c.parser registry) acted p ∧
      made = written ((plan c.settings c.parser registry).flatMap Action.chunks) ++ last := by
  obtain ⟨body, ending, hplan⟩ := exists_isPlan c.settings c.parser registry
  obtain ⟨chunks, hsent, hmade⟩ := hlast
  obtain ⟨hall, rfl⟩ := (h.mainLine hstart).allSent hplan houtput hsent
  exact ⟨hall, hmade⟩

/-! ## What the channel hears -/

/-- The failure of which a notice informs the channel. -/
def noticeFailure (callback : Option Callback) : Notice → Option Failure
  | .finished => callback.bind Callback.raises
  | .closed => none
  | .failed f => some f

/-- How the channel stands when the writer has told these notices. -/
structure Heard (callback : Option Callback) (told : List Notice) (channel : RecordChannel) :
    Prop where
  completed : channel.completed = true ↔ .closed ∈ told
  failure : channel.failure = told.findSome? (noticeFailure callback)
  settled : channel.settled = true ↔ channel.completed = true ∨ channel.failure.isSome = true

/-- A failure of the channel counts if it is the first one. -/
theorem Heard.fail {told : List Notice} {channel : RecordChannel} {notice : Notice} {f : Failure}
    (h : Heard callback told channel) (hnotice : notice ≠ .closed)
    (hfailure : noticeFailure callback notice = some f) :
    Heard callback (told ++ [notice]) (channel.fail f).1 := by
  have hfind : (told ++ [notice]).findSome? (noticeFailure callback) =
      channel.failure.or (some f) := by
    rw [List.findSome?_append, ← h.failure, List.findSome?_singleton, hfailure]
  have hclosed : .closed ∈ told ++ [notice] ↔ .closed ∈ told := by
    simp [hnotice.symm]
  rw [Channel.fail]
  split
  · next hsome =>
    refine ⟨by rw [hclosed, h.completed], ?_, h.settled⟩
    rw [hfind, Option.or_of_isSome hsome]
  · next hnone =>
    refine ⟨by rw [hclosed]; exact h.completed, ?_, by simp⟩
    rw [hfind, Option.not_isSome_iff_eq_none.mp hnone]
    rfl

/-- **What a notice keeps.** -/
theorem Heard.hear {told : List Notice} {channel : RecordChannel}
    (h : Heard callback told channel) (notice : Notice) :
    Heard callback (told ++ [notice]) (hear callback channel notice) := by
  cases notice with
  | finished =>
      rw [Collection.hear, Shared.channelAfter]
      split
      · next hnone =>
        refine ⟨by simp [h.completed], ?_, h.settled⟩
        rw [List.findSome?_append, ← h.failure, List.findSome?_singleton, noticeFailure, hnone,
          Option.or_none]
      · next f hsome => exact h.fail (by simp) hsome
  | closed =>
      have hfailure : (told ++ [Notice.closed]).findSome? (noticeFailure callback) =
          channel.failure := by
        rw [List.findSome?_append, ← h.failure, List.findSome?_singleton, noticeFailure,
          Option.or_none]
      rw [Collection.hear, Channel.complete]
      split
      · next hcompleted => exact ⟨by simp [hcompleted], hfailure.symm, h.settled⟩
      · exact ⟨by simp, hfailure.symm, by simp⟩
  | failed f => exact h.fail (by simp) rfl

theorem Heard.foldl {told : List Notice} {channel : RecordChannel}
    (h : Heard callback told channel) (more : List Notice) :
    Heard callback (told ++ more) (more.foldl (Collection.hear callback) channel) := by
  induction more generalizing told channel with
  | nil =>
      rw [List.append_nil]
      exact h
  | cons notice more ih =>
      have hrest := ih (h.hear notice)
      rw [List.append_assoc] at hrest
      exact hrest

/-- **What a run keeps.**  The channel knows of the writer what it was told. -/
theorem Moves.heard (houtput : c.settings.output = some path)
    (h : Moves io callback (c.begin shared registry) acted made p) :
    Heard callback (notices made) p.state.shared.channel := by
  have hpersists : Persists io callback (c.begin shared registry) fun _ made _ _ s _ =>
      Heard callback (notices made) s.channel ∧ s.channel.awaitsWriter = true := by
    refine ⟨?_, fun hw => hw, ?_⟩
    · intro acted made a agenda s w v _ hw _ _ _
      obtain ⟨hheard, hawaits⟩ := hw
      obtain ⟨hsettled, hfailure, hcompleted, hawaits'⟩ := Shared.after_channel hawaits a
      refine ⟨⟨?_, hfailure.trans hheard.failure, ?_⟩, hawaits'⟩
      · rw [hcompleted]
        exact hheard.completed
      · rw [hsettled, hcompleted, hfailure]
        exact hheard.settled
    · intro acted made agenda failure s w v t _ hw hstep
      have hreaction := step_reaction hstep
      have hchannel := (hear_reaction hreaction).1
      rw [notices_append, hchannel]
      refine ⟨hw.1.foldl _, ?_⟩
      rw [← hchannel]
      exact (Shared.untouched_reaction hreaction).awaitsWriter.trans hw.2
  obtain ⟨_, _, hheard, _⟩ := hpersists.holds houtput h
    ⟨⟨by simp [Collector.begin, notices], rfl, by simp [Collector.begin]⟩,
      by simp [Collector.begin, Settings.writesOutput, houtput]⟩
  exact hheard

/-! ## What the callback is given -/

/-- Nobody who is told of the progress of the writer raises a failure in a run. -/
theorem Moves.hasRaised_eq_false {start : Progress} {acted : List Action}
    {made : List Writer.Call} {p : Progress} (h : Moves io callback start acted made p) :
    ∀ call ∈ made, call.hasRaised = false := by
  induction h with
  | refl => exact List.forall_mem_nil _
  | act _ _ ih | fail _ _ ih => exact ih
  | work _ hstep ih =>
      intro call hcall
      rcases List.mem_append.mp hcall with hbefore | hnow
      · exact ih call hbefore
      · exact hasRaised_reaction (step_reaction hstep) call hnow

/-- An action of the main line does not call the callback if there is a writer. -/
theorem Shared.after_completions (s : Shared) (a : Action) :
    (s.after a).completions = s.completions := by
  cases a <;> rfl

/-- **What a run keeps.**  The callback was called if it was told that all is written, and then
it was given the records that were kept. -/
theorem Moves.completions_eq (houtput : c.settings.output = some path)
    (hstart : shared.collected = [] ∧ shared.completions = [])
    (h : Moves io callback (c.begin shared registry) acted made p) :
    p.state.shared.completions =
      if .finished ∈ notices made then calledWith callback p.state.shared.collected else [] := by
  have hpersists : Persists io callback (c.begin shared registry) fun _ made _ _ s _ =>
      s.completions = if .finished ∈ notices made then calledWith callback s.collected else [] := by
    refine ⟨?_, fun hw => hw, ?_⟩
    · intro acted made a agenda s w v hmoves hw _ _ _
      -- no action follows the call, so the records that it was given are still all records
      have hbefore : .finished ∉ notices made := by
        intro hfinished
        obtain ⟨_, _, hrecorded⟩ := hmoves.recorded houtput
        obtain ⟨last, hlast⟩ := hrecorded.concludes hfinished
        cases (hmoves.allSent houtput hstart.1 hlast).1.agenda_eq
      rw [if_neg hbefore] at hw ⊢
      exact (s.after_completions a).trans hw
    · intro acted made agenda failure s w v t hmoves hw hstep
      obtain ⟨_, _, hrecorded⟩ := (hmoves.work hstep).recorded houtput
      have hnodup := hrecorded.nodup_notices
      obtain ⟨_, hcollected, hcompletions⟩ := hear_reaction (step_reaction hstep)
      rw [notices_append] at hnodup ⊢
      rw [hcompletions, hw, hcollected]
      by_cases hbefore : .finished ∈ notices made
      · have hagain : .finished ∉ notices (w.calls (Shared.around io callback) s) :=
          fun hmem => (List.nodup_append.mp hnodup).2.2 _ hbefore _ hmem rfl
        simp [hbefore, hagain]
      · simp [hbefore, calledWith]
  obtain ⟨_, _, hcompletions⟩ := hpersists.holds houtput h hstart.2
  exact hcompletions

/-! ## The protocol -/

/-- How the callback, the channel and the file of a collection with this plan stand to each
other, at a moment at which the writer has made these calls. -/
structure Protocol (io : OutputFile.Operations) (callback : Option Callback)
    (actions : List Action) (made : List Writer.Call) (p : Progress) : Prop where
  /-- The callback was called at most once. -/
  once : p.state.shared.completions.length ≤ 1
  /-- No action of the main line calls the callback. -/
  acts : ∀ a, (p.state.act callback a).1.shared.completions = p.state.shared.completions
  /-- When a step of the writer calls the callback, the channel has ended, all chunks up to the
  closing bracket were written and flushed, and what the callback is given are the records of the
  plan, which the channel holds. -/
  calls : ∀ {w v s}, p.state.writer = some w →
    w.step (Shared.around io callback) p.state.shared = some (v, s) →
    s.completions ≠ p.state.shared.completions →
      p.state.shared.channel.ended = true ∧
      made = written (actions.flatMap Action.chunks) ++ [.flush none] ∧
      (actions.flatMap Action.chunks).getLast? = some "]" ∧
      p.state.shared.channel.records = actions.flatMap Action.kept ∧
      s.completions = [p.state.shared.channel.records]
  /-- What the callback was given stays what the channel holds. -/
  called : p.state.shared.completions ≠ [] →
    p.state.shared.channel.ended = true ∧
    p.state.shared.completions = [p.state.shared.channel.records]
  /-- The channel is completed when it has ended, the callback has come back and the file is
  closed. -/
  completed : p.state.shared.channel.completed = true →
    p.state.shared.channel.ended = true ∧
    p.state.shared.completions = calledWith callback p.state.shared.channel.records ∧
    made = written (actions.flatMap Action.chunks) ++
      [.flush none, .onFinish none, .close none, .onClose none]
  /-- If the main line has failed, the callback was not called. -/
  failed : p.failure.isSome = true →
    p.state.shared.completions = [] ∧ p.state.shared.channel.completed = false
  /-- If the writer has reported a refusal, the callback was not called. -/
  refused : ∀ f, .failed f ∈ notices made →
    p.state.shared.completions = [] ∧ p.state.shared.channel.completed = false
  /-- The failure of the channel is what the writer has reported or the callback has raised. -/
  failure : ∀ f, p.state.shared.channel.failure = some f ↔
    .failed f ∈ notices made ∨
      .finished ∈ notices made ∧ callback.bind Callback.raises = some f
  /-- The channel is settled when it is completed or has failed, and at no other moment. -/
  settled : p.state.shared.channel.settled = true ↔
    p.state.shared.channel.completed = true ∨ p.state.shared.channel.failure.isSome = true

theorem State.act_completions {s : State} {w : Writer} (hwriter : s.writer = some w) (a : Action) :
    (s.act callback a).1.shared.completions = s.shared.completions := by
  obtain ⟨shared, _⟩ := s
  cases hwriter
  rcases hact : State.act callback ⟨shared, some w⟩ a with ⟨state, _ | f⟩
  · obtain ⟨v, rfl, _⟩ := State.act_ok hact
    exact shared.after_completions a
  · cases State.act_failed hact
    rfl

/-- **How far a run has come with its end.**  Nothing was told but, at most, a refusal; or the
main line has done everything, and it was told that all is written and, perhaps, that the file is
closed. -/
theorem Moves.told (houtput : c.settings.output = some path) (hstart : shared.collected = [])
    (h : Moves io callback (c.begin shared registry) acted made p) :
    Unfinished made ∨ AllSent (plan c.settings c.parser registry) acted p ∧
      (notices made = [.finished] ∨ notices made = [.finished, .closed] ∧
        made = written ((plan c.settings c.parser registry).flatMap Action.chunks) ++
          [.flush none, .onFinish none, .close none, .onClose none]) := by
  obtain ⟨w, _, hw⟩ := h.recorded houtput
  rcases hw.told with hunfinished | ⟨r, hlast⟩ | ⟨r, hlast⟩ | ⟨r, hlast⟩
  · exact Or.inl hunfinished
  · exact Or.inr ⟨(h.allSent houtput hstart hlast).1, Or.inl hlast.notices_eq⟩
  · exact Or.inr ⟨(h.allSent houtput hstart hlast).1, Or.inl hlast.notices_eq⟩
  · obtain ⟨hall, hmade⟩ := h.allSent houtput hstart hlast
    have hreturned : r = none := by
      have hraised := h.hasRaised_eq_false (.onClose r) (by simp [hmade])
      simpa [Call.hasRaised] using hraised
    rw [hreturned] at hmade
    exact Or.inr ⟨hall, Or.inr ⟨hlast.notices_eq, hmade⟩⟩

/-- Unless it was told that all is written, the callback was not called and the channel is not
completed. -/
theorem Moves.idle_of_unfinished (houtput : c.settings.output = some path)
    (hstart : shared.collected = [] ∧ shared.completions = [])
    (h : Moves io callback (c.begin shared registry) acted made p) (hnot : Unfinished made) :
    p.state.shared.completions = [] ∧ p.state.shared.channel.completed = false := by
  have hfinished : .finished ∉ notices made := by
    rcases hnot with htold | ⟨f, htold⟩ <;> simp [htold]
  have hclosed : .closed ∉ notices made := by
    rcases hnot with htold | ⟨f, htold⟩ <;> simp [htold]
  have hcompleted := (h.heard houtput).completed
  constructor
  · rw [h.completions_eq houtput hstart, if_neg hfinished]
  · simpa [hclosed] using hcompleted

/-- **When the callback is called.**  A step of the writer that calls it finds the main line at
its end and all chunks written and flushed. -/
theorem Moves.allSent_of_call {w v : Writer} {s : Shared}
    (houtput : c.settings.output = some path)
    (hstart : shared.collected = [] ∧ shared.completions = [])
    (h : Moves io callback (c.begin shared registry) acted made p)
    (hwriter : p.state.writer = some w)
    (hstep : w.step (Shared.around io callback) p.state.shared = some (v, s))
    (hcall : s.completions ≠ p.state.shared.completions) :
    AllSent (plan c.settings c.parser registry) acted p ∧
      made = written ((plan c.settings c.parser registry).flatMap Action.chunks) ++
        [.flush none] ∧
      s.completions = [p.state.shared.collected] := by
  obtain ⟨w', hwriter', hw⟩ := h.recorded houtput
  cases hwriter.symm.trans hwriter'
  have hreaction := step_reaction hstep
  obtain ⟨_, _, hcompletions⟩ := hear_reaction hreaction
  have hfinished :
      .finished ∈ notices (w.calls (Shared.around io callback) p.state.shared) := by
    by_contra hnot
    rw [if_neg hnot, List.append_nil] at hcompletions
    exact hcall hcompletions
  have hlast := hreaction.concludes_of_finished hw hfinished
  have hbefore : p.state.shared.completions = [] :=
    (h.idle_of_unfinished houtput hstart (Or.inl hlast.notices_eq)).1
  rw [if_pos hfinished, hbefore, List.nil_append] at hcompletions
  obtain ⟨hall, hmade⟩ := h.allSent houtput hstart.1 hlast
  refine ⟨hall, hmade, ?_⟩
  split at hcompletions
  · exact hcompletions
  · exact absurd (hcompletions.trans hbefore.symm) hcall

/-- **How the channel can fail:** the writer has reported a refusal, or the callback has raised a
failure. -/
theorem Moves.failure_iff (houtput : c.settings.output = some path)
    (hstart : shared.collected = [])
    (h : Moves io callback (c.begin shared registry) acted made p) (f : Failure) :
    p.state.shared.channel.failure = some f ↔
      .failed f ∈ notices made ∨
        .finished ∈ notices made ∧ callback.bind Callback.raises = some f := by
  rw [(h.heard houtput).failure]
  rcases h.told houtput hstart with (hnotices | ⟨g, hnotices⟩) | ⟨_, hnotices | ⟨hnotices, _⟩⟩
  · simp [hnotices]
  · simp [hnotices, noticeFailure, eq_comm]
  · simp [hnotices, noticeFailure]
  · cases hraises : callback.bind Callback.raises <;>
      simp [hnotices, List.findSome?_cons, noticeFailure, hraises]

/-- **The protocol of completion** holds at every moment of every run of a collection that writes
a file, in whatever order the main line and the writer take turns, and whatever fails. -/
theorem Moves.protocol {file : OutputFile} {journal : Log.Journal}
    (houtput : c.settings.output = some path)
    (h : Moves io c.settings.onComplete (c.begin { file, journal } registry) acted made p) :
    Protocol io c.settings.onComplete (plan c.settings c.parser registry) made p := by
  have hmain := h.mainLine rfl
  have hsame : p.state.shared.collected = p.state.shared.channel.records :=
    hmain.collected.trans hmain.records.symm
  have hcompletions := h.completions_eq houtput ⟨rfl, rfl⟩
  rw [hsame] at hcompletions
  have hidle := h.idle_of_unfinished houtput ⟨rfl, rfl⟩
  have htold := h.told houtput rfl
  have hheard := h.heard houtput
  obtain ⟨_, hwriter, _⟩ := h.recorded houtput
  refine ⟨?_, State.act_completions hwriter, ?_, ?_, ?_, ?_, ?_, h.failure_iff houtput rfl,
    hheard.settled⟩
  · rw [hcompletions, calledWith]
    split
    · split <;> simp
    · simp
  · intro w v s hwriter hstep hcall
    obtain ⟨hall, hmade, hgiven⟩ := h.allSent_of_call houtput ⟨rfl, rfl⟩ hwriter hstep hcall
    exact ⟨hall.ended, hmade, hall.bracket, hall.acted_eq ▸ hmain.records, hsame ▸ hgiven⟩
  · intro hcalled
    rcases htold with hnot | ⟨hall, _⟩
    · exact absurd (hidle hnot).1 hcalled
    · refine ⟨hall.ended, ?_⟩
      rw [hcompletions, calledWith] at hcalled ⊢
      split at hcalled
      · next hfinished =>
        split at hcalled
        · next hsome => rw [if_pos hfinished, if_pos hsome]
        · exact absurd rfl hcalled
      · exact absurd rfl hcalled
  · intro hcompleted
    have hclosed := hheard.completed.mp hcompleted
    rcases htold with hnot | ⟨hall, hnotices | ⟨hnotices, hmade⟩⟩
    · cases hcompleted.symm.trans (hidle hnot).2
    · simp [hnotices] at hclosed
    · refine ⟨hall.ended, ?_, hmade⟩
      rw [hcompletions, hnotices]
      rfl
  · intro hfailed
    rcases htold with hnot | ⟨hall, _⟩
    · exact hidle hnot
    · simp [hall.failure_eq] at hfailed
  · intro f hrefused
    rcases htold with hnot | ⟨_, hnotices | ⟨hnotices, _⟩⟩
    · exact hidle hnot
    · simp [hnotices] at hrefused
    · simp [hnotices] at hrefused

/-! ## A page that is written, and one that is not -/

/-- What is raised by a parser that finds no sense in a page. -/
def noSense : Failure := .caller .value "no sense"

/-- A collector for the page with such a parser. -/
def helplessCollector : Collector :=
  { Collector.ofSettings pageSettings .ascii with parser := fun _ _ => .error noSense }

/-- The collection from the page comes to its end in this order: all is written, the callback is
called, the file is closed and the channel is completed.  If the parser fails instead, and then
the file cannot be closed, nobody hears of it. -/
theorem protocol_page_and_helpless :
    (∃ acted made state, Moves (OutputFile.operations pageOutput) (some {})
        ((Collector.ofSettings pageSettings .ascii).begin pageShared [(pagePath, page)])
        acted made ⟨state, [], none⟩ ∧
      made = written (pageActions.flatMap Action.chunks) ++
        [.flush none, .onFinish none, .close none, .onClose none] ∧
      state.shared.completions = [pageRecords] ∧ state.shared.channel.ended = true) ∧
    ∃ acted made state, Moves roomless (some {})
        (helplessCollector.begin { file := fullDesk.file, journal := pageJournal }
          [(pagePath, page)]) acted made ⟨state, [], some noSense⟩ ∧
      state.IsIdle roomless (some {}) ∧
      state.shared.completions = [] ∧ state.shared.channel.completed = false := by
  constructor
  · obtain ⟨acted, made, state, hmoves, _, hcompleted, hrecords, _⟩ := moves_page
    have hshared : pageShared = { file := pageShared.file, journal := pageShared.journal } := rfl
    have hprotocol := Moves.protocol (c := .ofSettings pageSettings .ascii) rfl (hshared ▸ hmoves)
    obtain ⟨hended, hcalled, hmade⟩ := hprotocol.completed hcompleted
    rw [hrecords] at hcalled
    have hplan : plan (Collector.ofSettings pageSettings .ascii).settings
        (Collector.ofSettings pageSettings .ascii).parser [(pagePath, page)] = pageActions :=
      plan_page
    rw [hplan] at hmade
    exact ⟨acted, made, state, hmoves, hmade, hcalled, hended⟩
  · have hbegin : Moves roomless (some {})
        (helplessCollector.begin { file := fullDesk.file, journal := pageJournal }
          [(pagePath, page)]) [] [] _ := .refl
    have hfailed := (hbegin.act rfl).fail rfl
    have hdead := ((((hfailed.work rfl).work rfl).work rfl).work rfl).work rfl
    obtain ⟨hcalled, hcompleted⟩ := (Moves.protocol (c := helplessCollector) rfl hdead).failed rfl
    refine ⟨_, _, _, hdead, ?_, hcalled, hcompleted⟩
    intro w hw
    cases hw
    rfl

end MarkupCatalog.Collection
