import MarkupCatalog.Proofs.Writer.Report

/-!
# The history of a writer

Whatever is asked of a writer, its calls follow one pattern: the file is opened, the chunks are
written one by one in the order in which they were asked for, and after the announcement of the
end come the flush, the notice that all is written, the closing and the notice of that.  If
anything goes wrong on the way, at most a refusal is told.

`Recorded` says how the messages that were asked for and the calls that were made go with the
stage of the writer.  Both a step of the writer (`Reaction.recorded`) and more messages
(`Recorded.ask`) keep it, whatever the program asks and however the calls end.  What it comes to
is `Recorded.told`: unless nothing was told but a refusal, all chunks up to the announcement of
the end were written and flushed before.
-/

namespace MarkupCatalog.Writer

variable {σ : Type}

/-- The calls of a writer that has opened its file and written these chunks. -/
def written (chunks : List Text) : List Call := .openFile none :: chunks.map (.write · none)

theorem written_concat (chunks : List Text) (chunk : Text) :
    written (chunks ++ [chunk]) = written chunks ++ [.write chunk none] := by
  simp [written]

@[simp]
theorem notices_append (first second : List Call) :
    notices (first ++ second) = notices first ++ notices second :=
  List.filterMap_append

@[simp]
theorem notices_written (chunks : List Text) : notices (written chunks) = [] := by
  simp [notices, written, Call.notice?]

/-- The writer has written all chunks up to the announcement of the end, and has made these
calls after that. -/
def Concludes (asked : List Message) (made last : List Call) (w : Writer) : Prop :=
  ∃ chunks : List Text, asked = chunks.map .chunk ++ .finish :: w.queue ∧
    made = written chunks ++ last

/-- Nothing was told but, at most, a refusal. -/
def Unfinished (made : List Call) : Prop :=
  notices made = [] ∨ ∃ f, notices made = [.failed f]

/-- How what was asked and the calls that were made go with the stage of a writer. -/
def Recorded (asked : List Message) (made : List Call) (w : Writer) : Prop :=
  match w.stage with
  | .opening => asked = w.queue ∧ made = []
  | .writing =>
      ∃ chunks : List Text, asked = chunks.map .chunk ++ w.queue ∧ made = written chunks
  | .flushing => Concludes asked made [] w
  | .finishing => Concludes asked made [.flush none] w
  | .closing => Concludes asked made [.flush none, .onFinish none] w
  | .announcing => Concludes asked made [.flush none, .onFinish none, .close none] w
  | .aborting | .recovering _ | .reporting _ => notices made = []
  | .done =>
      Unfinished made ∨
        Concludes asked made [.flush none, .onFinish none, .close none, .onClose none] w
  | .dead f =>
      Unfinished made ∨ Concludes asked made [.flush none, .onFinish (some f)] w ∨
        Concludes asked made [.flush none, .onFinish none, .close (some f)] w ∨
        Concludes asked made [.flush none, .onFinish none, .close none, .onClose (some f)] w

variable {asked more : List Message} {made last : List Call} {w v : Writer}

/-- One more call follows the others. -/
theorem Concludes.concat (h : Concludes asked made last w) (hqueue : v.queue = w.queue)
    (call : Call) : Concludes asked (made ++ [call]) (last ++ [call]) v := by
  obtain ⟨chunks, hasked, hmade⟩ := h
  exact ⟨chunks, by rw [hasked, hqueue], by rw [hmade, List.append_assoc]⟩

theorem Concludes.notices_eq (h : Concludes asked made last w) : notices made = notices last := by
  obtain ⟨chunks, _, hmade⟩ := h
  rw [hmade, notices_append, notices_written, List.nil_append]

/-- More messages wait behind those that were taken. -/
theorem Concludes.ask (h : Concludes asked made last w) (hqueue : v.queue = w.queue ++ more) :
    Concludes (asked ++ more) made last v := by
  obtain ⟨chunks, hasked, hmade⟩ := h
  refine ⟨chunks, ?_, hmade⟩
  rw [hasked, hqueue, List.append_assoc, List.cons_append]

/-- A failure of opening, writing, flushing or giving up leads to a stage at which nothing was
told. -/
theorem recorded_after {f : Failure} {next : Failure → Stage}
    (hnext : ∀ g, next g = .recovering g ∨ next g = .reporting g) (htold : notices made = [])
    (hstage : v.stage = .after f next) : Recorded asked made v := by
  unfold Recorded
  rw [hstage, Stage.after]
  by_cases hf : f.isSystem = true
  · rw [if_pos hf]
    rcases hnext f with hn | hn <;> rw [hn] <;> exact htold
  · rw [if_neg hf]
    exact Or.inl (Or.inl htold)

/-- **What a step keeps.**  The history goes with the stage after the step as well, however the
calls of the step end. -/
theorem Reaction.recorded {env : Surroundings σ} {s t : σ} {new : List Call}
    (h : Reaction env w s new v t) (hw : Recorded asked made w) :
    Recorded asked (made ++ new) v := by
  unfold Recorded at hw
  cases h with
  | opened hstage _ =>
      rw [hstage] at hw
      obtain ⟨hasked, rfl⟩ := hw
      exact ⟨[], hasked, rfl⟩
  | notOpened hstage _ =>
      rw [hstage] at hw
      obtain ⟨_, rfl⟩ := hw
      exact recorded_after (fun g => Or.inr rfl) rfl rfl
  | @wrote t chunk queue hstage hqueue _ =>
      rw [hstage] at hw
      obtain ⟨chunks, hasked, rfl⟩ := hw
      unfold Recorded
      simp only [hstage]
      -- the first message that waits becomes the last chunk that is written
      refine ⟨chunks ++ [chunk], ?_, (written_concat chunks chunk).symm⟩
      rw [hasked, hqueue, List.map_append, List.append_assoc]
      rfl
  | notWritten hstage _ _ =>
      rw [hstage] at hw
      obtain ⟨chunks, _, rfl⟩ := hw
      exact recorded_after (fun g => Or.inl rfl) (by rw [notices_concat, notices_written]; rfl) rfl
  | ended hstage hqueue =>
      rw [hstage] at hw
      obtain ⟨chunks, hasked, rfl⟩ := hw
      exact ⟨chunks, by rw [hasked, hqueue], rfl⟩
  | givenUp hstage _ =>
      rw [hstage] at hw
      obtain ⟨chunks, _, rfl⟩ := hw
      show notices (written chunks ++ []) = []
      rw [List.append_nil, notices_written]
  | flushed hstage _ | finished hstage _ | closed hstage _ =>
      rw [hstage] at hw
      exact hw.concat rfl _
  | notFlushed hstage _ =>
      rw [hstage] at hw
      have htold : notices made = [] := Concludes.notices_eq hw
      exact recorded_after (fun g => Or.inl rfl) (by rw [notices_concat, htold]; rfl) rfl
  | finishRaised hstage _ =>
      rw [hstage] at hw
      exact Or.inr (Or.inl (hw.concat rfl _))
  | notClosed hstage _ =>
      rw [hstage] at hw
      exact Or.inr (Or.inr (Or.inl (hw.concat rfl _)))
  | announced hstage _ =>
      rw [hstage] at hw
      exact Or.inr (hw.concat rfl _)
  | closeRaised hstage _ =>
      rw [hstage] at hw
      exact Or.inr (Or.inr (Or.inr (hw.concat rfl _)))
  | abandoned hstage _ | notRecovered hstage _ =>
      rw [hstage] at hw
      exact Or.inl (Or.inl (by rw [notices_concat, hw]; rfl))
  | notAbandoned hstage _ =>
      rw [hstage] at hw
      exact recorded_after (fun g => Or.inl rfl) (by rw [notices_concat, hw]; rfl) rfl
  | recovered hstage _ =>
      rw [hstage] at hw
      show notices _ = []
      rw [notices_concat, hw]
      rfl
  | reported hstage _ | errorRaised hstage _ =>
      rw [hstage] at hw
      exact Or.inl (Or.inr ⟨_, by rw [notices_concat, hw]; rfl⟩)

/-- **What more messages keep.** -/
theorem Recorded.ask (h : Recorded asked made w) (hqueue : v.queue = w.queue ++ more)
    (hstage : v.stage = w.stage) : Recorded (asked ++ more) made v := by
  unfold Recorded at h ⊢
  rw [hstage]
  cases hw : w.stage with
  | opening =>
      rw [hw] at h
      exact ⟨by rw [h.1, hqueue], h.2⟩
  | writing =>
      rw [hw] at h
      obtain ⟨chunks, hasked, hmade⟩ := h
      exact ⟨chunks, by rw [hasked, hqueue, List.append_assoc], hmade⟩
  | flushing | finishing | closing | announcing =>
      rw [hw] at h
      exact h.ask hqueue
  | aborting | recovering _ | reporting _ =>
      rw [hw] at h
      exact h
  | done =>
      rw [hw] at h
      exact h.imp_right fun hlast => hlast.ask hqueue
  | dead f =>
      rw [hw] at h
      exact h.imp_right (Or.imp (·.ask hqueue) (Or.imp (·.ask hqueue) (·.ask hqueue)))

/-- **What a history comes to.**  Nothing was told but, at most, a refusal; or all chunks up to
the announcement of the end were written and flushed, and then the notice of that, the closing
and the notice of the closing follow each other as far as no call fails. -/
theorem Recorded.told (h : Recorded asked made w) :
    Unfinished made ∨
      (∃ r, Concludes asked made [.flush none, .onFinish r] w) ∨
      (∃ r, Concludes asked made [.flush none, .onFinish none, .close r] w) ∨
      ∃ r, Concludes asked made [.flush none, .onFinish none, .close none, .onClose r] w := by
  unfold Recorded at h
  cases hw : w.stage with
  | opening =>
      rw [hw] at h
      exact Or.inl (Or.inl (by rw [h.2]; rfl))
  | writing =>
      rw [hw] at h
      obtain ⟨chunks, _, rfl⟩ := h
      exact Or.inl (Or.inl (notices_written chunks))
  | flushing | finishing =>
      rw [hw] at h
      exact Or.inl (Or.inl h.notices_eq)
  | closing =>
      rw [hw] at h
      exact Or.inr (Or.inl ⟨none, h⟩)
  | announcing =>
      rw [hw] at h
      exact Or.inr (Or.inr (Or.inl ⟨none, h⟩))
  | aborting | recovering _ | reporting _ =>
      rw [hw] at h
      exact Or.inl (Or.inl h)
  | done =>
      rw [hw] at h
      exact h.imp_right fun hlast => Or.inr (Or.inr ⟨none, hlast⟩)
  | dead f =>
      rw [hw] at h
      exact h.imp_right
        (Or.imp (fun h => ⟨some f, h⟩) (Or.imp (fun h => ⟨some f, h⟩) (fun h => ⟨some f, h⟩)))

/-- No notice is told twice. -/
theorem Recorded.nodup_notices (h : Recorded asked made w) : (notices made).Nodup := by
  rcases h.told with (htold | ⟨f, htold⟩) | ⟨r, hlast⟩ | ⟨r, hlast⟩ | ⟨r, hlast⟩
  · simp [htold]
  · simp [htold]
  · rw [hlast.notices_eq]
    show [Notice.finished].Nodup
    decide
  · rw [hlast.notices_eq]
    show [Notice.finished].Nodup
    decide
  · rw [hlast.notices_eq]
    show [Notice.finished, Notice.closed].Nodup
    decide

/-- Before it was told that all is written, the announcement of the end was taken. -/
theorem Recorded.concludes (h : Recorded asked made w) (hfinished : .finished ∈ notices made) :
    ∃ last, Concludes asked made last w := by
  rcases h.told with (htold | ⟨f, htold⟩) | ⟨r, hlast⟩ | ⟨r, hlast⟩ | ⟨r, hlast⟩
  · simp [htold] at hfinished
  · simp [htold] at hfinished
  · exact ⟨_, hlast⟩
  · exact ⟨_, hlast⟩
  · exact ⟨_, hlast⟩

/-- **That all is written** is told when all chunks up to the announcement of the end were
written and flushed, and at no other moment. -/
theorem Reaction.concludes_of_finished {env : Surroundings σ} {s t : σ} {new : List Call}
    (h : Reaction env w s new v t) (hw : Recorded asked made w)
    (hfinished : Notice.finished ∈ notices new) : Concludes asked made [.flush none] w := by
  have hstage : w.stage = .finishing := by
    cases h with
    | finished hstage _ | finishRaised hstage _ => exact hstage
    | _ => simp [notices, Call.notice?] at hfinished
  unfold Recorded at hw
  rw [hstage] at hw
  exact hw

end MarkupCatalog.Writer
