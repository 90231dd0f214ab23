import Mathlib.Data.List.Basic
import MarkupCatalog.Writer.Session

/-!
# What a writer does to its surroundings

A writer acts on its surroundings by calls: it opens, writes, flushes and closes the file,
and it tells others how far it has come.  `Writer.calls` lists the calls of the next step,
each with the failure that it ended in, and `Reaction` says once and for all what such a
step can be.  Everything that is proved about writers goes through `step_reaction`, so
that no proof has to look into `Writer.step` again.

The program and the writer take turns in any order; `Turns` is a run of both, with all
that the program has asked and all calls that the writer has made.
-/

namespace MarkupCatalog.Writer

variable {σ : Type}

/-- A call of a writer, with the failure that it ended in. -/
inductive Call
  | openFile (failure : Option Failure)
  | write (chunk : Text) (failure : Option Failure)
  | flush (failure : Option Failure)
  | close (failure : Option Failure)
  | onFinish (failure : Option Failure)
  | onClose (failure : Option Failure)
  | onError (reported : Failure) (failure : Option Failure)
  deriving DecidableEq, Repr

/-- The calls that the next step of a writer makes. -/
def calls (env : Surroundings σ) (w : Writer) (s : σ) : List Call :=
  match w.stage with
  | .opening => [.openFile (env.openFile s).2]
  | .writing =>
      match w.queue with
      | .chunk t :: _ => [.write t (env.write t s).2]
      | _ => []
  | .flushing => [.flush (env.flush s).2]
  | .finishing => [.onFinish (env.onFinish s).2]
  | .closing => [.close (env.close s).2]
  | .announcing => [.onClose (env.onClose s).2]
  | .aborting => [.close (env.close s).2]
  | .recovering _ => [.close (env.close s).2]
  | .reporting f => [.onError f (env.onError f (env.note (w.failNote f) s)).2]
  | .done => []
  | .dead _ => []

/-- A step of a writer, by what it does: from one writer and state of the surroundings,
with the calls that it makes, to the next ones. -/
inductive Reaction (env : Surroundings σ) (w : Writer) (s : σ) :
    List Call → Writer → σ → Prop
  | opened {t} : w.stage = .opening → env.openFile s = (t, none) →
      Reaction env w s [.openFile none] { w with stage := .writing } t
  | notOpened {t f} : w.stage = .opening → env.openFile s = (t, some f) →
      Reaction env w s [.openFile (some f)] { w with stage := .after f .reporting } t
  | wrote {t chunk queue} : w.stage = .writing → w.queue = .chunk chunk :: queue →
      env.write chunk s = (t, none) →
      Reaction env w s [.write chunk none] { w with queue } t
  | notWritten {t f chunk queue} : w.stage = .writing → w.queue = .chunk chunk :: queue →
      env.write chunk s = (t, some f) →
      Reaction env w s [.write chunk (some f)] { w with queue, stage := .after f .recovering } t
  | ended {queue} : w.stage = .writing → w.queue = .finish :: queue →
      Reaction env w s [] { w with queue, stage := .flushing } s
  | givenUp {queue} : w.stage = .writing → w.queue = .abort :: queue →
      Reaction env w s [] { w with queue, stage := .aborting } s
  | flushed {t} : w.stage = .flushing → env.flush s = (t, none) →
      Reaction env w s [.flush none] { w with stage := .finishing } t
  | notFlushed {t f} : w.stage = .flushing → env.flush s = (t, some f) →
      Reaction env w s [.flush (some f)] { w with stage := .after f .recovering } t
  | finished {t} : w.stage = .finishing → env.onFinish s = (t, none) →
      Reaction env w s [.onFinish none] { w with stage := .closing } t
  | finishRaised {t f} : w.stage = .finishing → env.onFinish s = (t, some f) →
      Reaction env w s [.onFinish (some f)] { w with stage := .dead f } t
  | closed {t} : w.stage = .closing → env.close s = (t, none) →
      Reaction env w s [.close none] { w with stage := .announcing } (env.note w.closeNote t)
  | notClosed {t f} : w.stage = .closing → env.close s = (t, some f) →
      Reaction env w s [.close (some f)] { w with stage := .dead f } t
  | announced {t} : w.stage = .announcing → env.onClose s = (t, none) →
      Reaction env w s [.onClose none] { w with stage := .done } t
  | closeRaised {t f} : w.stage = .announcing → env.onClose s = (t, some f) →
      Reaction env w s [.onClose (some f)] { w with stage := .dead f } t
  | abandoned {t} : w.stage = .aborting → env.close s = (t, none) →
      Reaction env w s [.close none] { w with stage := .done } (env.note w.abortNote t)
  | notAbandoned {t f} : w.stage = .aborting → env.close s = (t, some f) →
      Reaction env w s [.close (some f)] { w with stage := .after f .recovering } t
  | recovered {t f} : w.stage = .recovering f → env.close s = (t, none) →
      Reaction env w s [.close none] { w with stage := .reporting f } t
  | notRecovered {t f g} : w.stage = .recovering f → env.close s = (t, some g) →
      Reaction env w s [.close (some g)] { w with stage := .dead g } t
  | reported {t f} : w.stage = .reporting f →
      env.onError f (env.note (w.failNote f) s) = (t, none) →
      Reaction env w s [.onError f none] { w with stage := .done, error := some f } t
  | errorRaised {t f g} : w.stage = .reporting f →
      env.onError f (env.note (w.failNote f) s) = (t, some g) →
      Reaction env w s [.onError f (some g)] { w with stage := .dead g, error := some f } t

/-- **Inversion of a step.**  Whatever a step is, it is one of the reactions, and it makes
the calls that are listed for it. -/
theorem step_reaction {env : Surroundings σ} {w v : Writer} {s t : σ}
    (h : w.step env s = some (v, t)) : Reaction env w s (w.calls env s) v t := by
  unfold step at h
  cases hstage : w.stage with
  | opening =>
      simp only [calls, hstage] at h ⊢
      rcases hcall : env.openFile s with ⟨t', _ | f⟩ <;> simp only [hcall] at h <;> cases h
      · exact .opened hstage hcall
      · exact .notOpened hstage hcall
  | writing =>
      simp only [calls, hstage] at h ⊢
      cases hqueue : w.queue with
      | nil => simp only [hqueue, reduceCtorEq] at h
      | cons message queue =>
          cases message with
          | chunk chunk =>
              simp only [hqueue] at h ⊢
              rcases hcall : env.write chunk s with ⟨t', _ | f⟩ <;> simp only [hcall] at h <;>
                cases h
              · simpa only [hstage] using Reaction.wrote hstage hqueue hcall
              · exact .notWritten hstage hqueue hcall
          | finish =>
              simp only [hqueue] at h ⊢
              cases h
              exact .ended hstage hqueue
          | abort =>
              simp only [hqueue] at h ⊢
              cases h
              exact .givenUp hstage hqueue
  | flushing =>
      simp only [calls, hstage] at h ⊢
      rcases hcall : env.flush s with ⟨t', _ | f⟩ <;> simp only [hcall] at h <;> cases h
      · exact .flushed hstage hcall
      · exact .notFlushed hstage hcall
  | finishing =>
      simp only [calls, hstage] at h ⊢
      rcases hcall : env.onFinish s with ⟨t', _ | f⟩ <;> simp only [hcall] at h <;> cases h
      · exact .finished hstage hcall
      · exact .finishRaised hstage hcall
  | closing =>
      simp only [calls, hstage] at h ⊢
      rcases hcall : env.close s with ⟨t', _ | f⟩ <;> simp only [hcall] at h <;> cases h
      · exact .closed hstage hcall
      · exact .notClosed hstage hcall
  | announcing =>
      simp only [calls, hstage] at h ⊢
      rcases hcall : env.onClose s with ⟨t', _ | f⟩ <;> simp only [hcall] at h <;> cases h
      · exact .announced hstage hcall
      · exact .closeRaised hstage hcall
  | aborting =>
      simp only [calls, hstage] at h ⊢
      rcases hcall : env.close s with ⟨t', _ | f⟩ <;> simp only [hcall] at h <;> cases h
      · exact .abandoned hstage hcall
      · exact .notAbandoned hstage hcall
  | recovering g =>
      simp only [calls, hstage] at h ⊢
      rcases hcall : env.close s with ⟨t', _ | f⟩ <;> simp only [hcall] at h <;> cases h
      · exact .recovered hstage hcall
      · exact .notRecovered hstage hcall
  | reporting g =>
      simp only [calls, hstage] at h ⊢
      rcases hcall : env.onError g (env.note (w.failNote g) s) with ⟨t', _ | f⟩ <;>
        simp only [hcall] at h <;> cases h
      · exact .reported hstage hcall
      · exact .errorRaised hstage hcall
  | done => simp only [hstage, reduceCtorEq] at h
  | dead g => simp only [hstage, reduceCtorEq] at h

/-- A writer without a next step has ended its work, or it waits for a message. -/
theorem hasEnded_of_step_eq_none {env : Surroundings σ} {w : Writer} {s : σ}
    (h : w.step env s = none) : w.hasEnded = true ∨ w.stage = .writing ∧ w.queue = [] := by
  unfold step at h
  cases hstage : w.stage with
  | writing =>
      cases hqueue : w.queue with
      | nil => exact Or.inr ⟨rfl, rfl⟩
      | cons message queue =>
          cases message with
          | chunk t =>
              simp only [hstage, hqueue] at h
              split at h <;> cases h
          | finish | abort => simp [hstage, hqueue] at h
  | done | dead _ => exact Or.inl (by rw [hasEnded, hstage])
  | _ =>
      simp only [hstage] at h
      split at h <;> cases h

/-- A step changes neither the file nor whether the end was announced. -/
theorem Reaction.path_ended {env : Surroundings σ} {w v : Writer} {s t : σ} {made : List Call}
    (h : Reaction env w s made v t) : v.path = w.path ∧ v.ended = w.ended := by
  cases h <;> exact ⟨rfl, rfl⟩

/-! ## Messages -/

/-- Chunks are told apart from what is no chunk. -/
theorem prefix_of_chunks {first second : List Text} {xs ys : List Message}
    (hys : ∀ t, ys.head? ≠ some (.chunk t))
    (h : first.map .chunk ++ xs = second.map .chunk ++ ys) : first <+: second := by
  induction first generalizing second with
  | nil => exact List.nil_prefix
  | cons t first ih =>
      cases second with
      | nil =>
          have hhead := congrArg List.head? h
          exact absurd hhead.symm (hys t)
      | cons u second =>
          obtain ⟨⟨⟩, hrest⟩ := List.cons.inj h
          exact List.cons_prefix_cons.mpr ⟨rfl, ih hrest⟩

/-- What is asked can be split at the end of the chunks in only one way. -/
theorem eq_of_chunks {first second : List Text} {xs ys : List Message}
    (hxs : ∀ t, xs.head? ≠ some (.chunk t)) (hys : ∀ t, ys.head? ≠ some (.chunk t))
    (h : first.map .chunk ++ xs = second.map .chunk ++ ys) : first = second ∧ xs = ys := by
  have hle := (prefix_of_chunks hxs h.symm).length_le
  obtain rfl := (prefix_of_chunks hys h).eq_of_length_le hle
  exact ⟨rfl, List.append_cancel_left h⟩

/-! ## Runs -/

/-- A run of the program and a writer, which take turns in any order: all that the
program has asked and that was accepted, and all calls that the writer has made. -/
inductive Turns (env : Surroundings σ) (start : Writer × σ) :
    List Request → List Call → Writer × σ → Prop
  | refl : Turns env start [] [] start
  /-- The program asks something. -/
  | ask {asked made w s v} {r : Request} : Turns env start asked made (w, s) →
      w.request r = .ok v → Turns env start (asked ++ [r]) made (v, s)
  /-- The writer takes a step. -/
  | work {asked made w s v t} : Turns env start asked made (w, s) →
      w.step env s = some (v, t) → Turns env start asked (made ++ w.calls env s) (v, t)

/-- What a request adds to the queue. -/
def Request.messages : Request → List Message
  | .write t => [.chunk t]
  | .finish (some t) => [.chunk t, .finish]
  | .finish none => [.finish]
  | .abort => [.abort]

/-- **An accepted request** adds its messages to the queue, and changes nothing else but
the announcement of the end. -/
theorem request_ok {w v : Writer} {r : Request} (h : w.request r = .ok v) :
    v.queue = w.queue ++ r.messages ∧ v.stage = w.stage ∧ v.error = w.error ∧
      v.path = w.path := by
  cases r with
  | write t =>
      simp only [request, write] at h
      split at h
      · cases h
      · cases h
        exact ⟨rfl, rfl, rfl, rfl⟩
  | finish last =>
      cases last with
      | none =>
          cases h
          exact ⟨rfl, rfl, rfl, rfl⟩
      | some t =>
          simp only [request, finish, write, bind, Except.bind] at h
          split at h
          · cases h
          · next hwrite =>
            split at hwrite
            · cases hwrite
            · cases hwrite
              cases h
              exact ⟨by simp [Request.messages], rfl, rfl, rfl⟩
  | abort =>
      cases h
      exact ⟨rfl, rfl, rfl, rfl⟩

/-! ## Requests that are refused -/

/-- The chunk of a request. -/
def Request.chunk? : Request → Option Text
  | .write t => some t
  | .finish last => last
  | .abort => none

/-- The announcement of the end that a request comes to. -/
def Request.ending? : Request → Option Message
  | .write _ => none
  | .finish _ => some .finish
  | .abort => some .abort

/-- Does the request ask for the end? -/
def Request.isEnding (r : Request) : Bool := r.ending?.isSome

theorem Request.messages_eq (r : Request) :
    r.messages = r.chunk?.toList.map .chunk ++ r.ending?.toList := by
  cases r with
  | finish last => cases last <;> rfl
  | _ => rfl

/-- **A request is refused** if it has a chunk and comes after the end. -/
theorem request_eq_error_iff {w : Writer} {r : Request} {f : Failure} :
    w.request r = .error f ↔
      (w.ended = true ∧ r.chunk?.isSome = true) ∧ f = .writeAfterEnd := by
  cases hended : w.ended with
  | false =>
      cases r with
      | finish last =>
          cases last <;> simp [request, finish, write, hended, bind, Except.bind, pure, Except.pure]
      | _ => simp [request, write, hended]
  | true =>
      cases r with
      | write t => simp [request, write, hended, Request.chunk?, eq_comm]
      | finish last =>
          cases last <;> simp [request, finish, write, hended, bind, Except.bind, pure,
            Except.pure, Request.chunk?, eq_comm]
      | abort => simp [request, Request.chunk?]

/-- An accepted request announces the end if it asks for it. -/
theorem ended_of_request {w v : Writer} {r : Request} (h : w.request r = .ok v) :
    v.ended = (w.ended || r.isEnding) := by
  cases r with
  | write t =>
      simp only [request, write] at h
      split at h
      · cases h
      · cases h
        simp [Request.isEnding, Request.ending?]
  | finish last =>
      rw [Request.isEnding, Request.ending?, Option.isSome_some, Bool.or_true]
      cases last with
      | none =>
          cases h
          rfl
      | some t =>
          simp only [request, finish, bind, Except.bind] at h
          split at h
          · cases h
          · cases h
            rfl
  | abort =>
      cases h
      simp [abort, Request.isEnding, Request.ending?]

end MarkupCatalog.Writer
