import MarkupCatalog.Proofs.Writer.Call

/-!
# What a writer reports

A writer that is asked to write chunks and then to finish should report exactly one
outcome: that all is written and then that the file is closed, or one refusal.

It does so unless one of its calls is *fatal*: an attempt to close the file that fails, or
a failure of another kind than a refusal by the system.  Closing is attempted once, after
the refusal of an earlier operation or at the very end, and a failure there leads straight
to the end of the work.  `reportsOnce_iff` says that these are the only exceptions.
-/

namespace MarkupCatalog.Writer

variable {σ : Type}

/-- What a call tells. -/
def Call.notice? : Call → Option Notice
  | .onFinish _ => some .finished
  | .onClose _ => some .closed
  | .onError f _ => some (.failed f)
  | _ => none

/-- What calls tell, in their order. -/
def notices (made : List Call) : List Notice := made.filterMap Call.notice?

/-- Has somebody who was told raised a failure? -/
def Call.hasRaised : Call → Bool
  | .onFinish failure => failure.isSome
  | .onClose failure => failure.isSome
  | .onError _ failure => failure.isSome
  | _ => false

/-- Does the call end the work without a report?  The file could not be closed, or the
failure does not come from the system. -/
def Call.isFatal : Call → Bool
  | .openFile (some f) => !f.isSystem
  | .write _ (some f) => !f.isSystem
  | .flush (some f) => !f.isSystem
  | .close (some _) => true
  | _ => false

/-- No call has ended the work without a report. -/
def Harmless (made : List Call) : Prop := ∀ call ∈ made, call.isFatal = false

/-- Exactly one outcome was reported: all is written and the file is closed, or one
refusal by the system, which is also kept. -/
def ReportsOnce (w : Writer) (made : List Call) : Prop :=
  (notices made = [.finished, .closed] ∧ w.error = none) ∨
    ∃ f : Failure, f.isSystem = true ∧ notices made = [.failed f] ∧ w.error = some f

/-- Nobody was told how the work ended. -/
def Silent (w : Writer) (made : List Call) : Prop :=
  (notices made = [] ∨ notices made = [.finished]) ∧ w.error = none

/-- What has been reported when a writer is at a stage of its work. -/
def ReportedSoFar (w : Writer) (made : List Call) : Prop :=
  match w.stage with
  | .opening | .writing | .flushing | .finishing =>
      notices made = [] ∧ w.error = none ∧ Harmless made
  | .recovering f | .reporting f =>
      f.isSystem = true ∧ notices made = [] ∧ w.error = none ∧ Harmless made
  | .closing | .announcing => notices made = [.finished] ∧ w.error = none ∧ Harmless made
  | .done => ReportsOnce w made ∧ Harmless made
  | .dead _ => Silent w made ∧ ¬ Harmless made
  | .aborting => False

theorem notices_concat (made : List Call) (call : Call) :
    notices (made ++ [call]) = notices made ++ call.notice?.toList := by
  cases h : call.notice? <;> simp [notices, List.filterMap_append, h]

theorem harmless_concat {made : List Call} {call : Call} :
    Harmless (made ++ [call]) ↔ Harmless made ∧ call.isFatal = false := by
  simp only [Harmless, List.mem_append, List.mem_singleton, or_imp, forall_and, forall_eq]

/-- A failure of opening, writing or flushing leads to a report if it comes from the
system, and to a silent end otherwise. -/
theorem reportedSoFar_after {w : Writer} {made : List Call} {f : Failure} {call : Call}
    {next : Failure → Stage} (hnext : ∀ g, next g = .recovering g ∨ next g = .reporting g)
    (hnotice : call.notice? = none) (hfatal : call.isFatal = !f.isSystem)
    (h : notices made = [] ∧ w.error = none ∧ Harmless made) (hstage : w.stage = .after f next) :
    ReportedSoFar w (made ++ [call]) := by
  obtain ⟨htold, herror, hharmless⟩ := h
  have htold' : notices (made ++ [call]) = [] := by
    rw [notices_concat, htold, hnotice]
    rfl
  unfold ReportedSoFar
  rw [hstage, Stage.after]
  by_cases hf : f.isSystem = true
  · have hharmless' : Harmless (made ++ [call]) :=
      harmless_concat.mpr ⟨hharmless, by simp [hfatal, hf]⟩
    rw [if_pos hf]
    rcases hnext f with hn | hn <;> rw [hn] <;> exact ⟨hf, htold', herror, hharmless'⟩
  · rw [if_neg hf]
    refine ⟨⟨Or.inl htold', herror⟩, ?_⟩
    intro hall
    have hcall := (harmless_concat.mp hall).2
    rw [hfatal] at hcall
    simp [hf] at hcall

/-- **What a step keeps.**  If nobody raises a failure and the work was not given up, what
has been reported goes with the stage after the step as well. -/
theorem Reaction.reportedSoFar {env : Surroundings σ} {w v : Writer} {s t : σ}
    {made more : List Call} (h : Reaction env w s more v t)
    (hraised : ∀ call ∈ more, call.hasRaised = false) (habort : Message.abort ∉ w.queue)
    (hw : ReportedSoFar w made) : ReportedSoFar v (made ++ more) := by
  unfold ReportedSoFar at hw
  cases h with
  | opened hstage _ | flushed hstage _ =>
      rw [hstage] at hw
      exact ⟨by rw [notices_concat, hw.1]; rfl, hw.2.1, harmless_concat.mpr ⟨hw.2.2, rfl⟩⟩
  | wrote hstage _ _ =>
      rw [hstage] at hw
      unfold ReportedSoFar
      simp only [hstage]
      exact ⟨by rw [notices_concat, hw.1]; rfl, hw.2.1, harmless_concat.mpr ⟨hw.2.2, rfl⟩⟩
  | notOpened hstage _ =>
      rw [hstage] at hw
      exact reportedSoFar_after (fun g => Or.inr rfl) rfl rfl hw rfl
  | notWritten hstage _ _ | notFlushed hstage _ =>
      rw [hstage] at hw
      exact reportedSoFar_after (fun g => Or.inl rfl) rfl rfl hw rfl
  | ended hstage _ =>
      rw [hstage] at hw
      rw [List.append_nil]
      exact hw
  | givenUp _ hqueue => exact absurd (hqueue ▸ List.mem_cons_self) habort
  | finished hstage _ =>
      rw [hstage] at hw
      exact ⟨by rw [notices_concat, hw.1]; rfl, hw.2.1, harmless_concat.mpr ⟨hw.2.2, rfl⟩⟩
  | closed hstage _ =>
      rw [hstage] at hw
      exact ⟨by rw [notices_concat, hw.1]; rfl, hw.2.1, harmless_concat.mpr ⟨hw.2.2, rfl⟩⟩
  | notClosed hstage _ =>
      rw [hstage] at hw
      refine ⟨⟨Or.inr (by rw [notices_concat, hw.1]; rfl), hw.2.1⟩, ?_⟩
      exact fun hall => Bool.noConfusion (harmless_concat.mp hall).2
  | announced hstage _ =>
      rw [hstage] at hw
      refine ⟨Or.inl ⟨by rw [notices_concat, hw.1]; rfl, hw.2.1⟩, ?_⟩
      exact harmless_concat.mpr ⟨hw.2.2, rfl⟩
  | abandoned hstage _ | notAbandoned hstage _ =>
      rw [hstage] at hw
      exact hw.elim
  | recovered hstage _ =>
      rw [hstage] at hw
      exact ⟨hw.1, by rw [notices_concat, hw.2.1]; rfl, hw.2.2.1,
        harmless_concat.mpr ⟨hw.2.2.2, rfl⟩⟩
  | notRecovered hstage _ =>
      rw [hstage] at hw
      refine ⟨⟨Or.inl (by rw [notices_concat, hw.2.1]; rfl), hw.2.2.1⟩, ?_⟩
      exact fun hall => Bool.noConfusion (harmless_concat.mp hall).2
  | reported hstage _ =>
      rw [hstage] at hw
      refine ⟨Or.inr ⟨_, hw.1, by rw [notices_concat, hw.2.1]; rfl, rfl⟩, ?_⟩
      exact harmless_concat.mpr ⟨hw.2.2.2, rfl⟩
  | finishRaised _ _ | closeRaised _ _ | errorRaised _ _ =>
      exact absurd (hraised _ List.mem_cons_self) (by simp [Call.hasRaised])

/-- A step takes messages off the queue, and adds none. -/
theorem Reaction.queue_suffix {env : Surroundings σ} {w v : Writer} {s t : σ}
    {more : List Call} (h : Reaction env w s more v t) : v.queue <:+ w.queue := by
  cases h with
  | wrote _ hqueue _ | notWritten _ hqueue _ | ended _ hqueue | givenUp _ hqueue =>
      rw [hqueue]
      exact List.suffix_cons _ _
  | _ => exact List.suffix_rfl

/-- **What a run keeps.**  In a run in which nobody raises a failure and the program never
asks to give up, what has been reported always goes with the stage. -/
theorem Turns.reportedSoFar {env : Surroundings σ} {path : Path} {s : σ} {asked : List Request}
    {made : List Call} {finish : Writer × σ} (h : Turns env ({ path }, s) asked made finish)
    (hraised : ∀ call ∈ made, call.hasRaised = false) (hasked : Request.abort ∉ asked) :
    ReportedSoFar finish.1 made ∧ Message.abort ∉ finish.1.queue := by
  induction h with
  | refl =>
      refine ⟨⟨rfl, rfl, ?_⟩, List.not_mem_nil⟩
      intro call hcall
      cases hcall
  | @ask asked made w s v r _ hrequest ih =>
      rw [List.mem_append, not_or] at hasked
      obtain ⟨hreported, hqueue⟩ := ih hraised hasked.1
      obtain ⟨hnew, hstage, herror, _⟩ := request_ok hrequest
      constructor
      · unfold ReportedSoFar ReportsOnce Silent at hreported ⊢
        rw [hstage, herror]
        exact hreported
      · have hmessages : Message.abort ∉ r.messages := by
          cases r with
          | write t => simp [Request.messages]
          | finish last => cases last <;> simp [Request.messages]
          | abort => exact absurd List.mem_cons_self hasked.2
        rw [hnew, List.mem_append, not_or]
        exact ⟨hqueue, hmessages⟩
  | work _ hstep ih =>
      have hold := ih (fun call hcall => hraised call (List.mem_append_left _ hcall)) hasked
      have hreaction := step_reaction hstep
      constructor
      · exact hreaction.reportedSoFar
          (fun call hcall => hraised call (List.mem_append_right _ hcall)) hold.2 hold.1
      · exact fun hmem => hold.2 (hreaction.queue_suffix.subset hmem)

/-- **Exactly one outcome, or a silent end.**  A writer that has ended its work, that was
never asked to give up and whose listeners raise nothing, has reported exactly one outcome
unless one of its calls was fatal; and then it has reported none. -/
theorem reportsOnce_iff {env : Surroundings σ} {path : Path} {s t : σ} {w : Writer}
    {asked : List Request} {made : List Call} (h : Turns env ({ path }, s) asked made (w, t))
    (hraised : ∀ call ∈ made, call.hasRaised = false) (hasked : Request.abort ∉ asked)
    (hended : w.hasEnded = true) :
    (ReportsOnce w made ↔ Harmless made) ∧ (¬ Harmless made → Silent w made) := by
  have hreported := (h.reportedSoFar hraised hasked).1
  unfold ReportedSoFar at hreported
  unfold hasEnded at hended
  split at hended
  · next hstage =>
    simp only [hstage] at hreported
    exact ⟨⟨fun _ => hreported.2, fun _ => hreported.1⟩, fun hno => absurd hreported.2 hno⟩
  · next f hstage =>
    simp only [hstage] at hreported
    refine ⟨⟨?_, fun hall => absurd hall hreported.2⟩, fun _ => hreported.1⟩
    intro honce
    obtain ⟨⟨htold | htold, herror⟩, _⟩ := hreported <;>
      rcases honce with ⟨htold', _⟩ | ⟨f, _, htold', _⟩ <;> simp [htold] at htold'
  · cases hended

end MarkupCatalog.Writer
