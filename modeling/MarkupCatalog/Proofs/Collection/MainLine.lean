import MarkupCatalog.Proofs.Collection.Plan
import MarkupCatalog.Proofs.Writer.Report

/-!
# The main line of a collection

The main line carries out its plan action by action while the writer works beside it.  A plan
consists of assembly, in which records are put together and handed on, and of an ending: the
channel is ended and the file is finished, or a parser has failed (`exists_isPlan`).

`Moves.mainLine` says how the main line stands at every moment of every run: what it has done
is the front part of the plan, the channel holds the records that were kept so far and has ended
if this was done already, and the writer takes requests until the last one.  So no request and
no record is ever refused, and a run can fail only because a parser or, if there is no writer,
the callback does.
-/

namespace MarkupCatalog.Collection

open Writer

/-! ## The shape of a plan -/

/-- Is the action part of putting the records together? -/
def Action.isAssembly : Action → Bool
  | .note _ => true
  | .write _ => true
  | .keep _ => true
  | _ => false

/-- The actions are assembly followed by an ending. -/
structure IsPlan (actions body ending : List Action) : Prop where
  split : actions = body ++ ending
  assembly : ∀ a ∈ body, a.isAssembly = true
  ending : ending = [.endChannel, .finish] ∨ ∃ f, ending = [.fail f]

theorem IsPlan.append {actions body ending front : List Action} (h : IsPlan actions body ending)
    (hfront : ∀ a ∈ front, a.isAssembly = true) :
    IsPlan (front ++ actions) (front ++ body) ending where
  split := by rw [h.split, List.append_assoc]
  assembly a ha := (List.mem_append.mp ha).elim (hfront a) (h.assembly a)
  ending := h.ending

theorem isAssembly_of_mem_keepFile {s : Settings} {source : Path} {ordinal : Nat}
    {blocks : List Annotation.Block} {a : Action} (h : a ∈ keepFile s source ordinal blocks) :
    a.isAssembly = true := by
  rw [keepFile, List.mem_append, List.mem_flatMap] at h
  rcases h with hnote | ⟨r, _, hr⟩
  · split at hnote
    · rw [List.mem_singleton.mp hnote]
      rfl
    · cases hnote
  · unfold keepRecord at hr
    split at hr
    · simp only [List.nil_append, List.mem_cons, List.not_mem_nil, or_false] at hr
      rcases hr with rfl | rfl <;> rfl
    · simp only [List.cons_append, List.nil_append, List.mem_cons, List.not_mem_nil,
        or_false] at hr
      rcases hr with rfl | rfl | rfl <;> rfl

/-- What is done with the files is assembly followed by an ending, whatever the parser does. -/
theorem exists_isPlan_assemble (s : Settings) (parser : Parser) (index ordinal : Nat)
    (registry : Scan.Registry) :
    ∃ body ending, IsPlan (assemble s parser index ordinal registry) body ending := by
  induction registry generalizing index ordinal with
  | nil =>
      refine ⟨[_], [.endChannel, .finish], rfl, ?_, Or.inl rfl⟩
      intro a ha
      rw [List.mem_singleton.mp ha]
      rfl
  | cons entry rest ih =>
      obtain ⟨source, text⟩ := entry
      rw [assemble]
      rcases parser index text with f | blocks
      · exact ⟨[], [.fail f], rfl, List.forall_mem_nil _, Or.inr ⟨f, rfl⟩⟩
      · obtain ⟨body, ending, hrest⟩ := ih (index + 1) (ordinal + blocks.length)
        exact ⟨_, _, hrest.append fun a ha => isAssembly_of_mem_keepFile ha⟩

/-- **Every plan is assembly followed by an ending.** -/
theorem exists_isPlan (s : Settings) (parser : Parser) (registry : Scan.Registry) :
    ∃ body ending, IsPlan (plan s parser registry) body ending := by
  obtain ⟨body, ending, h⟩ := exists_isPlan_assemble s parser 0 0 registry
  have hopening : ∀ a ∈ [Action.write "["], a.isAssembly = true := by
    intro a ha
    rw [List.mem_singleton.mp ha]
    rfl
  exact ⟨_, _, h.append hopening⟩

/-- Nothing before the last action announces the end. -/
theorem IsPlan.finish_not_mem {actions body ending : List Action}
    (h : IsPlan actions body ending) : Action.finish ∉ body ++ [.endChannel] := by
  intro hmem
  rcases List.mem_append.mp hmem with hbody | hlast
  · cases h.assembly _ hbody
  · simp at hlast

/-- A plan that announces the end consists of assembly, the end of the channel and this. -/
theorem IsPlan.eq_of_finish_mem {actions body ending : List Action}
    (h : IsPlan actions body ending) (hfinish : Action.finish ∈ actions) :
    actions = (body ++ [.endChannel]) ++ [.finish] := by
  rcases h.ending with hending | ⟨f, hending⟩
  · rw [h.split, hending, List.append_assoc]
    rfl
  · rw [h.split, hending] at hfinish
    rcases List.mem_append.mp hfinish with hbody | hlast
    · cases h.assembly _ hbody
    · simp at hlast

/-- Where the main line is in the ending before its next action: at its beginning, or before its
last action. -/
theorem IsPlan.position_ending {actions body ending rest agenda : List Action} {a : Action}
    (h : IsPlan actions body ending) (hsplit : ending = rest ++ a :: agenda) :
    rest = [] ∧ a ≠ .finish ∨ rest = [.endChannel] ∧ a = .finish ∧ agenda = [] := by
  rcases h.ending with hending | ⟨f, hending⟩
  · rw [hending] at hsplit
    rcases rest with _ | ⟨x, _ | ⟨y, rest⟩⟩
    · cases hsplit
      exact Or.inl ⟨rfl, by decide⟩
    · cases hsplit
      exact Or.inr ⟨rfl, rfl, rfl⟩
    · simp at hsplit
  · rw [hending] at hsplit
    rcases rest with _ | ⟨x, rest⟩
    · cases hsplit
      exact Or.inl ⟨rfl, by simp⟩
    · simp at hsplit

/-- Where the main line is before its next action: everything that was done was assembly, or
only the last action is left. -/
theorem IsPlan.position {actions body ending acted agenda : List Action} {a : Action}
    (h : IsPlan actions body ending) (hsplit : acted ++ a :: agenda = actions) :
    (∀ x ∈ acted, x.isAssembly = true) ∧ a ≠ .finish ∨
      acted = body ++ [.endChannel] ∧ a = .finish ∧ agenda = [] := by
  rw [h.split] at hsplit
  rcases List.append_eq_append_iff.mp hsplit with ⟨rest, hbody, hnext⟩ | ⟨rest, hacted, hending⟩
  · -- the next action is in the assembly, or the first one of the ending
    left
    constructor
    · intro x hx
      exact h.assembly x (hbody ▸ List.mem_append_left rest hx)
    · rintro rfl
      cases rest with
      | nil =>
          have hfirst : ending = [] ++ .finish :: agenda := hnext.symm
          rcases h.position_ending hfirst with ⟨_, hne⟩ | ⟨hrest, _⟩
          · exact hne rfl
          · cases hrest
      | cons x rest =>
          cases hnext
          cases h.assembly .finish (hbody ▸ List.mem_append_right acted List.mem_cons_self)
  · rcases h.position_ending hending with ⟨rfl, hne⟩ | ⟨rfl, hlast⟩
    · rw [List.append_nil] at hacted
      exact Or.inl ⟨fun x hx => h.assembly x (hacted ▸ hx), hne⟩
    · exact Or.inr ⟨hacted, hlast⟩

/-! ## What an action does -/

variable {callback : Option Callback}

/-- A request to the writer, if there is one, is refused only after the end. -/
theorem State.request_some {s s' : State} {r : Request} {f : Failure}
    (h : s.request r = (s', some f)) : s' = s ∧ ∃ w, s.writer = some w ∧ w.ended = true := by
  obtain ⟨shared, _ | w⟩ := s
  · cases h
  · simp only [State.request] at h
    split at h
    · cases h
    · next hrefused =>
      cases h
      exact ⟨rfl, w, rfl, (request_eq_error_iff.mp hrefused).1.1⟩

/-- A request that is accepted announces the end, unless it only adds a chunk. -/
theorem State.request_none {s s' : State} {r : Request} (h : s.request r = (s', none)) :
    s'.shared = s.shared ∧ s'.writer.map (·.ended) =
      s.writer.map fun w => w.ended || r.isEnding := by
  obtain ⟨shared, _ | w⟩ := s
  · cases h
    exact ⟨rfl, rfl⟩
  · simp only [State.request] at h
    split at h
    · next v haccepted =>
      cases h
      exact ⟨rfl, congrArg some (ended_of_request haccepted)⟩
    · cases h

/-- What an action that succeeds does to the records, the channel and the writer. -/
structure State.Advances (callback : Option Callback) (s s' : State) (a : Action) : Prop where
  records : s'.shared.channel.records = s.shared.channel.records ++ a.kept
  collected : s'.shared.collected = s.shared.collected ++ a.kept
  ended : s'.shared.channel.ended = true ↔ s.shared.channel.ended = true ∨ .endChannel = a
  writer : s'.writer.map (·.ended) = s.writer.map fun w => w.ended || a = .finish
  returned : a = .finish → s.writer = none → callback.bind Callback.raises = none

/-- **What an action can do if it succeeds.** -/
theorem State.advances_of_act {s s' : State} {a : Action} (h : s.act callback a = (s', none)) :
    s.Advances callback s' a := by
  cases a with
  | note r =>
      cases h
      exact ⟨(List.append_nil _).symm, (List.append_nil _).symm, by simp [Shared.note], by simp,
        by simp⟩
  | write chunk =>
      obtain ⟨hshared, hwriter⟩ := State.request_none h
      exact ⟨by simp [hshared, Action.kept], by simp [hshared, Action.kept], by simp [hshared],
        by simpa [Request.isEnding, Request.ending?] using hwriter, by simp⟩
  | keep r =>
      simp only [act, Channel.push] at h
      split at h
      · cases h
      · next hpush =>
        split at hpush
        · cases hpush
        · cases hpush
          cases h
          exact ⟨rfl, rfl, by simp, by simp, by simp⟩
  | fail f => cases h
  | endChannel =>
      cases h
      have hfinish : s.shared.channel.finish.1.records = s.shared.channel.records ∧
          s.shared.channel.finish.1.ended = true := by
        rw [Channel.finish]
        split
        · exact ⟨rfl, by assumption⟩
        · exact ⟨rfl, rfl⟩
      exact ⟨by simp [hfinish.1, Action.kept], by simp [Action.kept], by simp [hfinish.2],
        by simp, by simp⟩
  | finish =>
      simp only [act] at h
      split at h
      · next hsome =>
        obtain ⟨hshared, hwriter⟩ := State.request_none h
        exact ⟨by simp [hshared, Action.kept], by simp [hshared, Action.kept],
          by simp [hshared], by simpa [Request.isEnding, Request.ending?] using hwriter,
          by simp [hsome]⟩
      · next hnone =>
        cases callback with
        | none =>
            cases h
            exact ⟨(List.append_nil _).symm, (List.append_nil _).symm, by simp [Shared.complete],
              by simp [hnone], fun _ _ => rfl⟩
        | some c =>
            simp only [Shared.complete, Prod.mk.injEq] at h
            obtain ⟨rfl, hraises⟩ := h
            exact ⟨(List.append_nil _).symm, (List.append_nil _).symm, by simp,
              by simp [hnone], fun _ _ => hraises⟩

/-- Why an action fails: it gives up, the callback raises a failure, the writer takes no more
requests, or the channel no more records. -/
def State.Fails (callback : Option Callback) (s : State) (a : Action) (f : Failure) : Prop :=
  a = .fail f ∨
    a = .finish ∧ s.writer = none ∧ callback.bind Callback.raises = some f ∨
    (∃ w, s.writer = some w ∧ w.ended = true) ∨
    s.shared.channel.ended = true ∧ ∃ r, a = .keep r

/-- **What an action can do if it fails.** -/
theorem State.fails_of_act {s s' : State} {a : Action} {f : Failure}
    (h : s.act callback a = (s', some f)) :
    s.Fails callback a f ∧ s'.shared.channel = s.shared.channel ∧
      s'.shared.collected = s.shared.collected ∧ s'.writer = s.writer := by
  cases a with
  | note r => cases h
  | write chunk =>
      obtain ⟨rfl, hended⟩ := State.request_some h
      exact ⟨Or.inr (Or.inr (Or.inl hended)), rfl, rfl, rfl⟩
  | keep r =>
      simp only [act, Channel.push] at h
      split at h
      · next hpush =>
        split at hpush
        · next hended =>
          cases h
          exact ⟨Or.inr (Or.inr (Or.inr ⟨hended, r, rfl⟩)), rfl, rfl, rfl⟩
        · cases hpush
      · cases h
  | fail g =>
      cases h
      exact ⟨Or.inl rfl, rfl, rfl, rfl⟩
  | endChannel => cases h
  | finish =>
      simp only [act] at h
      split at h
      · obtain ⟨rfl, hended⟩ := State.request_some h
        exact ⟨Or.inr (Or.inr (Or.inl hended)), rfl, rfl, rfl⟩
      · next hnone =>
        cases callback with
        | none => cases h
        | some c =>
            simp only [Shared.complete, Prod.mk.injEq] at h
            obtain ⟨rfl, hraises⟩ := h
            exact ⟨Or.inr (Or.inl ⟨rfl, hnone, hraises⟩), rfl, rfl, rfl⟩

/-! ## What a step of the writer does -/

variable {io : OutputFile.Operations}

/-- The channel after the writer has told something. -/
def hear (callback : Option Callback) (channel : RecordChannel) : Notice → RecordChannel
  | .finished => Shared.channelAfter callback channel
  | .closed => channel.complete.1
  | .failed f => (channel.fail f).1

/-- Nothing that the writer tells adds a record or ends the channel. -/
theorem hear_frame (callback : Option Callback) (channel : RecordChannel) (notice : Notice) :
    (hear callback channel notice).records = channel.records ∧
      (hear callback channel notice).ended = channel.ended := by
  have hfail (f : Failure) : (channel.fail f).1.records = channel.records ∧
      (channel.fail f).1.ended = channel.ended := by
    rw [Channel.fail]
    split <;> exact ⟨rfl, rfl⟩
  cases notice with
  | finished =>
      rw [hear, Shared.channelAfter]
      split
      · exact ⟨rfl, rfl⟩
      · exact hfail _
  | closed =>
      rw [hear, Channel.complete]
      split <;> exact ⟨rfl, rfl⟩
  | failed f => exact hfail f

/-- **All that a step of the writer does** to the channel and the callback is to tell its
notices. -/
theorem hear_reaction {w v : Writer} {s t : Shared} {more : List Writer.Call}
    (h : Reaction (Shared.around io callback) w s more v t) :
    t.channel = (notices more).foldl (hear callback) s.channel ∧ t.collected = s.collected ∧
      t.completions = s.completions ++ if .finished ∈ notices more then
        (if callback.isSome then [s.collected] else []) else [] := by
  cases h with
  | opened _ hcall | notOpened _ hcall | wrote _ _ hcall | notWritten _ _ hcall
  | flushed _ hcall | notFlushed _ hcall | closed _ hcall | notClosed _ hcall
  | abandoned _ hcall | notAbandoned _ hcall | recovered _ hcall | notRecovered _ hcall =>
      obtain ⟨hchannel, hcollected, hcompletions, _⟩ := Shared.onFile_frame hcall
      exact ⟨hchannel, hcollected, hcompletions.trans (List.append_nil _).symm⟩
  | ended _ _ | givenUp _ _ => exact ⟨rfl, rfl, (List.append_nil _).symm⟩
  | finished _ hcall =>
      cases hcall
      obtain ⟨hchannel, hcollected, hcompletions, _⟩ := Shared.completeSafely_frame callback s
      exact ⟨hchannel, hcollected, hcompletions⟩
  | announced _ hcall =>
      cases hcall
      exact ⟨rfl, rfl, (List.append_nil _).symm⟩
  | @reported t f _ hcall =>
      cases hcall
      obtain ⟨hchannel, hcollected, hcompletions, _⟩ :=
        Shared.failChannel_frame f (s.note (w.failNote f))
      exact ⟨hchannel, hcollected, hcompletions.trans (List.append_nil _).symm⟩
  | finishRaised _ hcall | closeRaised _ hcall | errorRaised _ hcall => cases hcall

theorem foldl_hear_frame (callback : Option Callback) (told : List Notice)
    (channel : RecordChannel) :
    (told.foldl (hear callback) channel).records = channel.records ∧
      (told.foldl (hear callback) channel).ended = channel.ended := by
  induction told generalizing channel with
  | nil => exact ⟨rfl, rfl⟩
  | cons notice told ih =>
      obtain ⟨hrecords, hended⟩ := hear_frame callback channel notice
      obtain ⟨hrecords', hended'⟩ := ih (hear callback channel notice)
      exact ⟨hrecords'.trans hrecords, hended'.trans hended⟩

/-! ## Whole runs -/

/-- How the main line stands after it has carried out these actions of the plan. -/
structure MainLine (settings : Settings) (callback : Option Callback)
    (actions acted : List Action) (p : Progress) : Prop where
  split : p.failure = none → acted ++ p.agenda = actions
  records : p.state.shared.channel.records = acted.flatMap Action.kept
  collected : p.state.shared.collected = acted.flatMap Action.kept
  ended : p.state.shared.channel.ended = true ↔ .endChannel ∈ acted
  hasWriter : p.state.writer.isSome = settings.output.isSome
  announced : ∀ w, p.state.writer = some w →
    (w.ended = true ↔ .finish ∈ acted ∨ p.failure.isSome = true)
  returned : .finish ∈ acted → settings.output = none → callback.bind Callback.raises = none
  /-- A parser has failed during the assembly, or the callback has failed at the end. -/
  failed : ∀ f, p.failure = some f → p.agenda = [] ∧
    ((∀ a ∈ acted, a.isAssembly = true) ∧ .fail f ∈ actions ∨
      settings.output = none ∧ callback.bind Callback.raises = some f ∧
        acted ++ [.finish] = actions)

variable {settings : Settings} {actions body ending acted agenda : List Action}

/-- **What an action that succeeds keeps.** -/
theorem MainLine.act {state state' : State} {a : Action}
    (h : MainLine settings callback actions acted ⟨state, a :: agenda, none⟩)
    (hact : state.act callback a = (state', none)) :
    MainLine settings callback actions (acted ++ [a]) ⟨state', agenda, none⟩ := by
  have hadvances := State.advances_of_act hact
  have hwriter : state'.writer.isSome = state.writer.isSome := by
    have hmap := congrArg Option.isSome hadvances.writer
    simpa using hmap
  refine ⟨?_, ?_, ?_, ?_, hwriter.trans h.hasWriter, ?_, ?_, by simp⟩
  · intro _
    rw [List.append_assoc]
    exact h.split rfl
  · rw [hadvances.records, h.records, List.flatMap_append, List.flatMap_singleton]
  · rw [hadvances.collected, h.collected, List.flatMap_append, List.flatMap_singleton]
  · rw [hadvances.ended, h.ended, List.mem_append, List.mem_singleton]
  · intro v hv
    obtain ⟨w, hw⟩ : ∃ w, state.writer = some w := by
      rw [← Option.isSome_iff_exists, ← hwriter]
      exact Option.isSome_iff_exists.mpr ⟨v, hv⟩
    have hended : v.ended = (w.ended || decide (a = .finish)) := by
      have hmap := hadvances.writer
      rw [hv, hw] at hmap
      exact Option.some.inj hmap
    have hold := h.announced w hw
    simp only [hended, Bool.or_eq_true, decide_eq_true_eq, hold, List.mem_append,
      List.mem_singleton]
    simp [eq_comm]
  · intro hfinish houtput
    rcases List.mem_append.mp hfinish with hbefore | hnow
    · exact h.returned hbefore houtput
    · refine hadvances.returned (List.mem_singleton.mp hnow).symm ?_
      have hnone := h.hasWriter
      rw [houtput] at hnone
      simpa using hnone

/-- An action fails only if it gives up, or if there is no writer and the callback fails. -/
theorem MainLine.cause {state : State} {a : Action} {f : Failure}
    (h : MainLine settings callback actions acted ⟨state, a :: agenda, none⟩)
    (hplan : IsPlan actions body ending) (hfails : state.Fails callback a f) :
    (∀ x ∈ acted, x.isAssembly = true) ∧ a = .fail f ∨
      settings.output = none ∧ callback.bind Callback.raises = some f ∧
        acted ++ [.finish] = actions := by
  have hsplit : acted ++ a :: agenda = actions := h.split rfl
  rcases hplan.position hsplit with ⟨hassembly, hne⟩ | ⟨hacted, rfl, rfl⟩
  · -- nothing but assembly was done: neither the channel nor the writer has ended
    have hnot (x : Action) (hx : x.isAssembly = false) : x ∉ acted := by
      intro hmem
      rw [hassembly x hmem] at hx
      cases hx
    rcases hfails with rfl | ⟨hfinish, _⟩ | ⟨w, hw, hended⟩ | ⟨hended, _⟩
    · exact Or.inl ⟨hassembly, rfl⟩
    · exact absurd hfinish hne
    · have hannounced := (h.announced w hw).mp hended
      simp [hnot .finish rfl] at hannounced
    · exact absurd (h.ended.mp hended) (hnot .endChannel rfl)
  · have hfinish : Action.finish ∉ acted := hacted ▸ hplan.finish_not_mem
    rcases hfails with hgivesUp | ⟨_, hnone, hraises⟩ | ⟨w, hw, hended⟩ | ⟨_, r, hkeep⟩
    · cases hgivesUp
    · refine Or.inr ⟨?_, hraises, hsplit⟩
      have hwriter := h.hasWriter
      rw [hnone] at hwriter
      simpa using hwriter.symm
    · have hannounced := (h.announced w hw).mp hended
      simp [hfinish] at hannounced
    · cases hkeep

/-- **What an action that fails keeps.** -/
theorem MainLine.fail {state state' : State} {a : Action} {f : Failure}
    (h : MainLine settings callback actions acted ⟨state, a :: agenda, none⟩)
    (hplan : IsPlan actions body ending) (hact : state.act callback a = (state', some f)) :
    MainLine settings callback actions acted ⟨(state'.request .abort).1, [], some f⟩ := by
  obtain ⟨hfails, hchannel, hcollected, hwriter⟩ := State.fails_of_act hact
  have haccepted : state'.request .abort = ((state'.request .abort).1, none) := by
    obtain ⟨shared, _ | w⟩ := state' <;> rfl
  obtain ⟨hshared, hended⟩ := State.request_none haccepted
  have hisSome : (state'.request .abort).1.writer.isSome = state'.writer.isSome := by
    have hmap := congrArg Option.isSome hended
    simpa using hmap
  refine ⟨by simp, ?_, ?_, ?_, ?_, ?_, h.returned, ?_⟩
  · rw [hshared, hchannel]
    exact h.records
  · rw [hshared, hcollected]
    exact h.collected
  · rw [hshared, hchannel]
    exact h.ended
  · rw [hisSome, hwriter]
    exact h.hasWriter
  · intro v hv
    rw [hv] at hended
    cases hw : state'.writer with
    | none => simp [hw] at hended
    | some w =>
        rw [hw] at hended
        have hv' : v.ended = true := by simpa [Request.isEnding, Request.ending?] using hended
        simp [hv']
  · rintro _ ⟨⟩
    refine ⟨rfl, (h.cause hplan hfails).imp_left fun hassembly => ⟨hassembly.1, ?_⟩⟩
    rw [← h.split rfl, hassembly.2]
    exact List.mem_append_right acted List.mem_cons_self

/-- **What a step of the writer keeps.** -/
theorem MainLine.work {shared shared' : Shared} {w v : Writer} {failure : Option Failure}
    (h : MainLine settings callback actions acted ⟨⟨shared, some w⟩, agenda, failure⟩)
    (hstep : w.step (Shared.around io callback) shared = some (v, shared')) :
    MainLine settings callback actions acted ⟨⟨shared', some v⟩, agenda, failure⟩ := by
  have hreaction := step_reaction hstep
  obtain ⟨hchannel, hcollected, _⟩ := hear_reaction hreaction
  obtain ⟨hrecords, hended⟩ := foldl_hear_frame callback
    (notices (w.calls (Shared.around io callback) shared)) shared.channel
  rw [← hchannel] at hrecords hended
  refine ⟨h.split, hrecords.trans h.records, hcollected.trans h.collected, ?_, h.hasWriter, ?_,
    h.returned, h.failed⟩
  · rw [hended]
    exact h.ended
  · rintro _ ⟨⟩
    rw [hreaction.path_ended.2]
    exact h.announced w rfl

/-- **What a run keeps.** -/
theorem Moves.mainLine {c : Collector} {shared : Shared} {registry : Scan.Registry}
    {made : List Writer.Call} {p : Progress} (hstart : shared.collected = [])
    (h : Moves io callback (c.begin shared registry) acted made p) :
    MainLine c.settings callback (plan c.settings c.parser registry) acted p := by
  obtain ⟨body, ending, hplan⟩ := exists_isPlan c.settings c.parser registry
  induction h with
  | refl =>
      refine ⟨fun _ => rfl, rfl, hstart, by simp [Collector.begin], by simp [Collector.begin], ?_,
        by simp, by simp [Collector.begin]⟩
      intro w hw
      obtain ⟨path, _, rfl⟩ := Option.map_eq_some_iff.mp hw
      simp [Collector.begin]
  | act _ hact ih => exact ih.act hact
  | fail _ hact ih => exact ih.fail hplan hact
  | work _ hstep ih => exact ih.work hstep

end MarkupCatalog.Collection
