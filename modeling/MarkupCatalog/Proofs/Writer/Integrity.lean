import MarkupCatalog.Proofs.Writer.History

/-!
# What a writer makes of any requests

A program may ask a writer to write, to finish and to give up in any order and any number of
times.  Once it has asked for the end in one way or the other, no more chunks are accepted; what
else it asks is put in the queue and never read.

Two things are followed through a run.  The messages in the order in which they were accepted are
the accepted chunks and then nothing but announcements of the end (`Asked`).  Of these messages
the writer has handed over to the file as many chunks as it has taken (`HandedOver`).  With the
history of the writer (`Recorded`) this gives `Integrity`, whatever the program asks, whenever the
writer takes its steps, and however the calls end.
-/

namespace MarkupCatalog.Writer

variable {σ : Type}

/-! ## Chunks that were handed over -/

/-- The chunk that a call hands over to the file. -/
def Call.chunk? : Call → Option Text
  | .write chunk _ => some chunk
  | _ => none

/-- The chunks that were handed over to the file, in their order. -/
def handed (made : List Call) : List Text := made.filterMap Call.chunk?

/-- What is left of the messages after the chunks that were handed over, when a writer is at a
stage of its work.  After a failure it does not matter. -/
def Leaves (w : Writer) (rest : List Message) : Prop :=
  match w.stage with
  | .opening | .writing => rest = w.queue
  | .flushing | .finishing | .closing | .announcing => rest = .finish :: w.queue
  | .aborting => rest = .abort :: w.queue
  | .done => rest = .finish :: w.queue ∨ rest = .abort :: w.queue ∨ w.error.isSome = true
  | .recovering _ | .reporting _ | .dead _ => True

/-- The messages begin with the chunks that were handed over. -/
def HandedOver (asked : List Message) (made : List Call) (w : Writer) : Prop :=
  ∃ rest, asked = (handed made).map .chunk ++ rest ∧ Leaves w rest

variable {asked more : List Message} {made new : List Call} {w v : Writer} {rest : List Message}

@[simp]
theorem handed_append (first second : List Call) :
    handed (first ++ second) = handed first ++ handed second :=
  List.filterMap_append

/-- A call that hands nothing over. -/
theorem HandedOver.concat {call : Call} (hasked : asked = (handed made).map .chunk ++ rest)
    (hcall : call.chunk? = none) (h : Leaves v rest) : HandedOver asked (made ++ [call]) v := by
  refine ⟨rest, ?_, h⟩
  have hnone : handed [call] = [] := by simp [handed, hcall]
  rw [handed_append, hnone, List.append_nil]
  exact hasked

theorem leaves_after {f : Failure} {next : Failure → Stage}
    (hnext : ∀ g, next g = .recovering g ∨ next g = .reporting g)
    (hstage : v.stage = .after f next) : Leaves v rest := by
  unfold Leaves
  rw [hstage, Stage.after]
  by_cases hf : f.isSystem = true
  · rw [if_pos hf]
    rcases hnext f with hn | hn <;> rw [hn] <;> trivial
  · rw [if_neg hf]
    trivial

/-- **What a step keeps.** -/
theorem Reaction.handedOver {env : Surroundings σ} {s t : σ} (h : Reaction env w s new v t)
    (hw : HandedOver asked made w) : HandedOver asked (made ++ new) v := by
  obtain ⟨rest, hasked, hrest⟩ := hw
  unfold Leaves at hrest
  cases h with
  | opened hstage _ | flushed hstage _ | finished hstage _ | closed hstage _ =>
      rw [hstage] at hrest
      exact HandedOver.concat hasked rfl hrest
  | notOpened _ _ =>
      exact HandedOver.concat hasked rfl (leaves_after (fun g => Or.inr rfl) rfl)
  | @wrote t chunk queue hstage hqueue _ =>
      rw [hstage] at hrest
      refine ⟨queue, ?_, ?_⟩
      · rw [hasked, hrest, hqueue, handed_append]
        simp [handed, Call.chunk?]
      · unfold Leaves
        simp only [hstage]
  | @notWritten t f chunk queue hstage hqueue _ =>
      rw [hstage] at hrest
      refine ⟨queue, ?_, leaves_after (fun g => Or.inl rfl) rfl⟩
      rw [hasked, hrest, hqueue, handed_append]
      simp [handed, Call.chunk?]
  | ended hstage hqueue | givenUp hstage hqueue =>
      rw [hstage] at hrest
      rw [List.append_nil]
      exact ⟨rest, hasked, hrest.trans hqueue⟩
  | notFlushed _ _ | notAbandoned _ _ =>
      exact HandedOver.concat hasked rfl (leaves_after (fun g => Or.inl rfl) rfl)
  | announced hstage _ =>
      rw [hstage] at hrest
      exact HandedOver.concat hasked rfl (Or.inl hrest)
  | abandoned hstage _ =>
      rw [hstage] at hrest
      exact HandedOver.concat hasked rfl (Or.inr (Or.inl hrest))
  | reported _ _ => exact HandedOver.concat hasked rfl (Or.inr (Or.inr rfl))
  | finishRaised _ _ | notClosed _ _ | closeRaised _ _ | recovered _ _ | notRecovered _ _
  | errorRaised _ _ => exact HandedOver.concat hasked rfl trivial

/-- **What more messages keep.** -/
theorem HandedOver.ask (h : HandedOver asked made w) (hqueue : v.queue = w.queue ++ more)
    (hstage : v.stage = w.stage) (herror : v.error = w.error) :
    HandedOver (asked ++ more) made v := by
  obtain ⟨rest, hasked, hrest⟩ := h
  refine ⟨rest ++ more, by rw [hasked, List.append_assoc], ?_⟩
  unfold Leaves at hrest ⊢
  rw [hstage, hqueue, herror]
  cases hw : w.stage with
  | opening | writing | flushing | finishing | closing | announcing | aborting =>
      rw [hw] at hrest
      exact congrArg (· ++ more) hrest
  | done =>
      rw [hw] at hrest
      exact hrest.imp (congrArg (· ++ more)) (Or.imp_left (congrArg (· ++ more)))
  | recovering _ | reporting _ | dead _ => trivial

/-- **What a writer has handed over at its end,** if no failure has come up: all chunks before the
first announcement of the end. -/
theorem HandedOver.eq_of_done (h : HandedOver asked made w) (hdone : w.stage = .done)
    (herror : w.error = none) :
    asked = (handed made).map .chunk ++ .finish :: w.queue ∨
      asked = (handed made).map .chunk ++ .abort :: w.queue := by
  obtain ⟨rest, hasked, hrest⟩ := h
  unfold Leaves at hrest
  rw [hdone] at hrest
  rcases hrest with rfl | rfl | hfailed
  · exact Or.inl hasked
  · exact Or.inr hasked
  · rw [herror] at hfailed
    cases hfailed

/-! ## Requests -/

/-- The chunks of requests up to the first one that asks for the end. -/
def accepted : List Request → List Text
  | [] => []
  | r :: rest => r.chunk?.toList ++ if r.isEnding then [] else accepted rest

theorem accepted_append (tried more : List Request) :
    accepted (tried ++ more) =
      accepted tried ++ if tried.any Request.isEnding then [] else accepted more := by
  induction tried with
  | nil => simp [accepted]
  | cons r tried ih =>
      by_cases hr : r.isEnding = true
      · simp [accepted, hr]
      · simp [accepted, hr, ih]

/-- How the messages in the order in which they were accepted go with the requests that were
tried. -/
structure Asked (tried : List Request) (asked : List Message) (w : Writer) : Prop where
  split : ∃ endings, asked = (accepted tried).map .chunk ++ endings ∧
    (∀ t, .chunk t ∉ endings) ∧ endings.head? = tried.findSome? Request.ending?
  ended : w.ended = tried.any Request.isEnding

/-- **What an accepted request keeps.** -/
theorem Asked.accept {tried : List Request} {r : Request} (h : Asked tried asked w)
    (hrequest : w.request r = .ok v) : Asked (tried ++ [r]) (asked ++ r.messages) v := by
  obtain ⟨⟨endings, hasked, hchunks, hhead⟩, hended⟩ := h
  refine ⟨?_, by rw [ended_of_request hrequest, hended]; simp⟩
  have hfirst : (tried ++ [r]).findSome? Request.ending? =
      (tried.findSome? Request.ending?).or r.ending? := by
    rw [List.findSome?_append, List.findSome?_singleton]
  have hnone (t : Text) : Message.chunk t ∉ r.ending?.toList := by
    cases r <;> simp [Request.ending?]
  refine ⟨endings ++ r.ending?.toList, ?_, ?_, ?_⟩
  · rw [hasked, accepted_append, Request.messages_eq]
    by_cases hclosed : tried.any Request.isEnding = true
    · -- what comes after the end has no chunk
      have hchunk : r.chunk? = none := by
        by_contra hsome
        have hrefused := request_eq_error_iff.mpr
          ⟨⟨hended.trans hclosed, Option.isSome_iff_ne_none.mpr hsome⟩, rfl⟩
        cases hrequest.symm.trans hrefused
      rw [if_pos hclosed, hchunk]
      simp
    · -- before the end there are no announcements
      have hopen : tried.findSome? Request.ending? = none := by
        rw [List.findSome?_eq_none_iff]
        intro r' hr'
        simpa [Request.isEnding] using
          List.any_eq_false.mp (Bool.eq_false_iff.mpr hclosed) r' hr'
      rw [hopen, List.head?_eq_none_iff] at hhead
      rw [if_neg hclosed, hhead]
      simp [accepted]
  · intro t
    rw [List.mem_append, not_or]
    exact ⟨hchunks t, hnone t⟩
  · rw [List.head?_append, hhead, hfirst]
    cases r.ending? <;> rfl

/-- **What a refused request keeps:** it changes nothing. -/
theorem Asked.refuse {tried : List Request} {r : Request} {f : Failure} (h : Asked tried asked w)
    (hrequest : w.request r = .error f) : Asked (tried ++ [r]) asked w := by
  obtain ⟨⟨hended, _⟩, _⟩ := request_eq_error_iff.mp hrequest
  obtain ⟨⟨endings, hasked, hchunks, hhead⟩, hany⟩ := h
  have hclosed : tried.any Request.isEnding = true := hany.symm.trans hended
  refine ⟨⟨endings, ?_, hchunks, ?_⟩, by rw [hany, List.any_append, hclosed]; rfl⟩
  · rw [accepted_append, if_pos hclosed, List.append_nil]
    exact hasked
  · obtain ⟨r', hr', hending⟩ := List.any_eq_true.mp hclosed
    obtain ⟨m, hm⟩ : ∃ m, tried.findSome? Request.ending? = some m := by
      rw [← Option.isSome_iff_exists, List.findSome?_isSome_iff]
      exact ⟨r', hr', hending⟩
    rw [hhead, List.findSome?_append, hm]
    rfl

/-! ## Runs with all requests -/

/-- A run of the program and a writer, which take turns in any order: all that the program has
asked, whether it was accepted or not, and all calls that the writer has made. -/
inductive Dialogue (env : Surroundings σ) (start : Writer × σ) :
    List Request → List Call → Writer × σ → Prop
  | refl : Dialogue env start [] [] start
  | accept {tried made w s v} {r : Request} : Dialogue env start tried made (w, s) →
      w.request r = .ok v → Dialogue env start (tried ++ [r]) made (v, s)
  /-- A request that is refused leaves everything as it is. -/
  | refuse {tried made w s f} {r : Request} : Dialogue env start tried made (w, s) →
      w.request r = .error f → Dialogue env start (tried ++ [r]) made (w, s)
  | work {tried made w s v t} : Dialogue env start tried made (w, s) →
      w.step env s = some (v, t) → Dialogue env start tried (made ++ w.calls env s) (v, t)

variable {env : Surroundings σ} {path : Path} {s t : σ} {tried : List Request}

/-- **What a run keeps.** -/
theorem Dialogue.exists_asked {finish : Writer × σ}
    (h : Dialogue env ({ path }, s) tried made finish) :
    ∃ asked, Asked tried asked finish.1 ∧ Recorded asked made finish.1 ∧
      HandedOver asked made finish.1 := by
  induction h with
  | refl => exact ⟨[], ⟨⟨[], rfl, by simp, rfl⟩, rfl⟩, ⟨rfl, rfl⟩, [], rfl, rfl⟩
  | accept _ hrequest ih =>
      obtain ⟨asked, hasked, hrecorded, hhanded⟩ := ih
      obtain ⟨hqueue, hstage, herror, _⟩ := request_ok hrequest
      exact ⟨_, hasked.accept hrequest, hrecorded.ask hqueue hstage,
        hhanded.ask hqueue hstage herror⟩
  | refuse _ hrequest ih =>
      obtain ⟨asked, hasked, hrecorded, hhanded⟩ := ih
      exact ⟨asked, hasked.refuse hrequest, hrecorded, hhanded⟩
  | work _ hstep ih =>
      obtain ⟨asked, hasked, hrecorded, hhanded⟩ := ih
      have hreaction := step_reaction hstep
      refine ⟨asked, ⟨hasked.split, ?_⟩, hreaction.recorded hrecorded,
        hreaction.handedOver hhanded⟩
      rw [hreaction.path_ended.2, hasked.ended]

/-! ## Integrity -/

theorem Asked.head_ne_chunk {endings : List Message} (hchunks : ∀ t, .chunk t ∉ endings)
    (t : Text) : endings.head? ≠ some (.chunk t) :=
  fun hhead => hchunks t (List.mem_of_head? hhead)

/-- Only accepted chunks are handed over. -/
theorem HandedOver.isPrefix (h : HandedOver asked made w) (hasked : Asked tried asked w) :
    handed made <+: accepted tried := by
  obtain ⟨rest, hrest, _⟩ := h
  obtain ⟨endings, hendings, hchunks, _⟩ := hasked.split
  exact prefix_of_chunks (Asked.head_ne_chunk hchunks) (hrest.symm.trans hendings)

/-- A writer that has written all chunks up to the announcement of the end has written all
accepted chunks, and it was asked to finish first. -/
theorem Asked.concludes {last : List Call} (hasked : Asked tried asked w)
    (h : Concludes asked made last w) :
    made = written (accepted tried) ++ last ∧
      tried.findSome? Request.ending? = some .finish := by
  obtain ⟨chunks, hchunks, hmade⟩ := h
  obtain ⟨endings, hendings, hnone, hhead⟩ := hasked.split
  obtain ⟨rfl, rfl⟩ := eq_of_chunks (by simp) (Asked.head_ne_chunk hnone)
    (hchunks.symm.trans hendings)
  exact ⟨hmade, hhead.symm⟩

/-- What holds of a writer at any moment, when the program has tried these requests and the
writer has made these calls. -/
structure Integrity (tried : List Request) (made : List Call) (w : Writer) : Prop where
  /-- What has a chunk is refused after the first request for the end, and nothing else is. -/
  refused : ∀ r f, w.request r = .error f ↔
    ((∃ e ∈ tried, e.isEnding = true) ∧ r.chunk?.isSome = true) ∧ f = .writeAfterEnd
  /-- An accepted request is put at the end of the queue. -/
  queued : ∀ r v, w.request r = .ok v → v.queue = w.queue ++ r.messages
  /-- What is handed over to the file are accepted chunks, in their order and without a gap. -/
  handed : handed made <+: accepted tried
  /-- Nothing is told twice, and of a refusal it is told only if nothing else is. -/
  told : notices made = [] ∨ (∃ f, notices made = [.failed f]) ∨ notices made = [.finished] ∨
    notices made = [.finished, .closed]
  /-- That all is written is told if the program has first asked to finish, when all accepted
  chunks are written and flushed. -/
  finished : ∀ before r after, made = before ++ .onFinish r :: after →
    tried.findSome? Request.ending? = some .finish ∧
      before = written (accepted tried) ++ [.flush none]
  /-- That the file is closed is told when it is, after the former notice has come back. -/
  closed : ∀ before r after, made = before ++ .onClose r :: after →
    tried.findSome? Request.ending? = some .finish ∧
      before = written (accepted tried) ++ [.flush none, .onFinish none, .close none]
  /-- If the program has first asked to give up, nothing is told but, perhaps, a refusal. -/
  aborted : tried.findSome? Request.ending? = some .abort → Unfinished made

/-- An end that was told of in `made` comes after all accepted chunks. -/
theorem Recorded.finished (h : Recorded asked made w) (hasked : Asked tried asked w)
    {before after : List Call} {r : Option Failure}
    (hmade : made = before ++ .onFinish r :: after) :
    tried.findSome? Request.ending? = some .finish ∧
      before = written (accepted tried) ++ [.flush none] := by
  have hmem : .finished ∈ notices made := by simp [hmade, notices, Call.notice?]
  obtain ⟨r', last, hlast, hnone⟩ : ∃ r' last,
      Concludes asked made ([.flush none] ++ .onFinish r' :: last) w ∧ .onFinish r ∉ last := by
    rcases h.told with (htold | ⟨f, htold⟩) | ⟨r', hlast⟩ | ⟨r', hlast⟩ | ⟨r', hlast⟩
    · simp [htold] at hmem
    · simp [htold] at hmem
    · exact ⟨r', [], hlast, by simp⟩
    · exact ⟨none, [.close r'], hlast, by simp⟩
    · exact ⟨none, [.close none, .onClose r'], hlast, by simp⟩
  obtain ⟨hall, hfirst⟩ := hasked.concludes hlast
  rw [hmade, ← List.append_assoc] at hall
  refine ⟨hfirst, ?_⟩
  exact ((List.append_cons_inj_of_notMem (by simp [written]) hnone).mp hall.symm).1.symm

/-- A closed file that was told of in `made` comes after the notice that all is written. -/
theorem Recorded.closed (h : Recorded asked made w) (hasked : Asked tried asked w)
    {before after : List Call} {r : Option Failure}
    (hmade : made = before ++ .onClose r :: after) :
    tried.findSome? Request.ending? = some .finish ∧
      before = written (accepted tried) ++ [.flush none, .onFinish none, .close none] := by
  have hmem : .closed ∈ notices made := by simp [hmade, notices, Call.notice?]
  obtain ⟨r', hlast⟩ : ∃ r', Concludes asked made
      ([.flush none, .onFinish none, .close none] ++ [.onClose r']) w := by
    rcases h.told with (htold | ⟨f, htold⟩) | ⟨r', hlast⟩ | ⟨r', hlast⟩ | ⟨r', hlast⟩
    · simp [htold] at hmem
    · simp [htold] at hmem
    · rw [hlast.notices_eq] at hmem
      simp [notices, Call.notice?] at hmem
    · rw [hlast.notices_eq] at hmem
      simp [notices, Call.notice?] at hmem
    · exact ⟨r', hlast⟩
  obtain ⟨hall, hfirst⟩ := hasked.concludes hlast
  rw [hmade, ← List.append_assoc] at hall
  refine ⟨hfirst, ?_⟩
  exact ((List.append_cons_inj_of_notMem (by simp [written]) (by simp)).mp hall.symm).1.symm

/-- **The integrity of a writer.**  Whatever the program asks, in whatever order it and the writer
take turns, and however the calls of the writer end, integrity holds at every moment. -/
theorem Dialogue.integrity {finish : Writer × σ}
    (h : Dialogue env ({ path }, s) tried made finish) : Integrity tried made finish.1 := by
  obtain ⟨asked, hasked, hrecorded, hhanded⟩ := h.exists_asked
  refine ⟨?_, ?_, hhanded.isPrefix hasked, ?_, ?_, ?_, ?_⟩
  · intro r f
    rw [request_eq_error_iff, hasked.ended, List.any_eq_true]
  · exact fun r v hrequest => (request_ok hrequest).1
  · rcases hrecorded.told with (htold | htold) | ⟨r, hlast⟩ | ⟨r, hlast⟩ | ⟨r, hlast⟩
    · exact Or.inl htold
    · exact Or.inr (Or.inl htold)
    · exact Or.inr (Or.inr (Or.inl hlast.notices_eq))
    · exact Or.inr (Or.inr (Or.inl hlast.notices_eq))
    · exact Or.inr (Or.inr (Or.inr hlast.notices_eq))
  · exact fun before r after hmade => hrecorded.finished hasked hmade
  · exact fun before r after hmade => hrecorded.closed hasked hmade
  · intro habort
    rcases hrecorded.told with htold | ⟨r, hlast⟩ | ⟨r, hlast⟩ | ⟨r, hlast⟩
    · exact htold
    all_goals
      have hfirst := (hasked.concludes hlast).2
      cases habort.symm.trans hfirst

/-! ## Sessions -/

/-- To let a writer work for as long as it can is a part of a run. -/
theorem Dialogue.run {start : Writer × σ} (h : Dialogue env start tried made (w, t)) :
    ∃ made', Dialogue env start tried made' (w.run env t) ∧ (w.run env t).1.path = w.path := by
  induction hn : w.work using Nat.strongRecOn generalizing made w t with
  | _ n ih =>
      rw [Writer.run]
      split
      · exact ⟨made, h, rfl⟩
      · next v u hstep =>
        have hless : v.work < n := hn ▸ work_step hstep
        obtain ⟨made', hrun, hpath⟩ := ih v.work hless (h.work hstep) rfl
        exact ⟨made', hrun, hpath.trans (step_reaction hstep).path_ended.1⟩

namespace Session

/-- Ask one thing after the other.  What is refused is passed over. -/
def converse (s : Session) : List Request → Session
  | [] => s
  | r :: rest =>
      match s.request r with
      | .ok s => s.converse rest
      | .error _ => s.converse rest

/-- A session that has come from its start by a run. -/
structure Follows (fs : FileSystem) (path : Path) (charset : Text) (callbacks : Callbacks)
    (tried : List Request) (s : Session) : Prop where
  same : s.writer.path = path ∧ s.charset = charset ∧ s.callbacks = callbacks
  dialogue : ∃ made, Dialogue (Desk.surroundings path charset callbacks)
    ({ path }, { file := { fs } }) tried made (s.writer, s.desk)

variable {fs : FileSystem} {charset : Text} {callbacks : Callbacks} {s : Session}

theorem Follows.proceed (h : s.Follows fs path charset callbacks tried) :
    s.proceed.Follows fs path charset callbacks tried := by
  obtain ⟨⟨rfl, rfl, rfl⟩, made, hdialogue⟩ := h
  obtain ⟨made', hrun, hpath⟩ := hdialogue.run
  exact ⟨⟨hpath, rfl, rfl⟩, made', hrun⟩

/-- **The conversation of a session** is one of all runs of the program and the writer. -/
theorem Follows.converse (h : s.Follows fs path charset callbacks tried) (more : List Request) :
    (s.converse more).Follows fs path charset callbacks (tried ++ more) := by
  induction more generalizing tried s with
  | nil =>
      rw [List.append_nil]
      exact h
  | cons r more ih =>
      obtain ⟨hsame, made, hdialogue⟩ := h
      rw [List.append_cons, Session.converse]
      cases hrequest : s.writer.request r with
      | error f =>
          simp only [request, hrequest, Except.map]
          exact ih ⟨hsame, made, hdialogue.refuse hrequest⟩
      | ok writer =>
          simp only [request, hrequest, Except.map]
          have hpath : writer.path = path := (request_ok hrequest).2.2.2.trans hsame.1
          exact ih (Follows.proceed ⟨⟨hpath, hsame.2⟩, made, hdialogue.accept hrequest⟩)

theorem follows_start (fs : FileSystem) (path : Path) (charset : Text) (callbacks : Callbacks) :
    (start fs path charset callbacks).Follows fs path charset callbacks [] :=
  Follows.proceed ⟨⟨rfl, rfl, rfl⟩, [], .refl⟩

end Session

/-- **The integrity of a writer.**  Whatever the program asks, in whatever order it and the writer
take turns, and however the calls of the writer end, integrity holds at every moment.  A session,
in which the writer works for as long as it can after every request, is one of these runs. -/
theorem integrity_of_dialogue :
    (Dialogue env ({ path }, s) tried made (w, t) → Integrity tried made w) ∧
      ∀ fs charset callbacks requests,
        ((Session.start fs path charset callbacks).converse requests).Follows fs path charset
          callbacks requests :=
  ⟨Dialogue.integrity, fun fs charset callbacks requests =>
    (Session.follows_start fs path charset callbacks).converse requests⟩

/-! ## A sheet of paper -/

/-- Surroundings in which a list of chunks stands for the file, nothing fails, and whoever is told
that all is written raises a failure. -/
def sheet : Surroundings (List Text) where
  openFile s := (s, none)
  write chunk s := (s ++ [chunk], none)
  flush s := (s, none)
  close s := (s, none)
  onFinish s := (s, some .writeAfterEnd)
  onClose s := (s, none)
  onError _ s := (s, none)
  note _ s := s

/-- What a program may try: a chunk, the end with one more chunk, a chunk that comes too late, and
the end once more in the other way. -/
def sheetRequests : List Request := [.write "x", .finish (some "y"), .write "z", .abort]

/-- The chunk that comes too late is not written, and the second end is not read.  As the notice
that all is written does not come back, there is none that the file is closed. -/
theorem integrity_sheet :
    ∃ made w, Dialogue sheet ({ path := ⟨[], ["sheet"]⟩ }, []) sheetRequests made (w, ["x", "y"]) ∧
      Integrity sheetRequests made w ∧
      made = written ["x", "y"] ++ [.flush none, .onFinish (some .writeAfterEnd)] ∧
      w.queue = [.abort] := by
  have hbegin : Dialogue sheet ({ path := ⟨[], ["sheet"]⟩ }, []) [] [] _ := .refl
  have hasked := (((((hbegin.accept (r := .write "x") rfl).work rfl).accept
    (r := .finish (some "y")) rfl).work rfl).refuse (r := .write "z") rfl).accept (r := .abort) rfl
  have hended := (((hasked.work rfl).work rfl).work rfl).work rfl
  exact ⟨_, _, hended, integrity_of_dialogue.1 hended, rfl, rfl⟩

end MarkupCatalog.Writer
