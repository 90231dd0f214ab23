import Mathlib.Data.List.Basic
import MarkupCatalog.Channel.Performance

/-!
# The course of a performance

A performance does one task after the other, and each operation of a listener may put new tasks
in front of the others.  A `Course` is such a sequence of tasks seen from outside: the
operations that were performed, by listeners or by others, and the failures that listeners have
raised.  A listener whose operation is refused may raise this as a failure or go on.

Everything that is proved about performances goes through two facts: what an operation can do
(`perform_effect`), and that operations which are started one after the other take such a course
(`Course.exists_startAll`).  What a channel holds, and who listens to it, can be read off the
operations that were performed: `Course.reflects`.
-/

namespace MarkupCatalog

variable {ρ L : Type}

/-! ## What an operation does -/

/-- Does the operation only look at the channel? -/
def Operation.looks : Operation ρ L → Bool
  | .wait => true
  | .readAll => true
  | .startReading _ => true
  | .readNext _ => true
  | _ => false

/-- The record that is given to the channel. -/
def Operation.pushed? : Operation ρ L → Option ρ
  | .push r => some r
  | _ => none

/-- The failure that the channel is told. -/
def Operation.failure? : Operation ρ L → Option Failure
  | .fail f => some f
  | _ => none

/-- The listener of a kind that is registered. -/
def Operation.listener? (kind : Subscription L → Option L) : Operation ρ L → Option L
  | .subscribe s => kind s
  | _ => none

namespace Performance

/-- What an operation that succeeds does to a performance. -/
inductive Effect (p : Performance ρ L) : Operation ρ L → Performance ρ L → Prop
  | push {r change} : p.channel.push r = .ok change → Effect p (.push r) (p.owe change)
  | finish : Effect p .finish (p.owe p.channel.finish)
  | complete : Effect p .complete (p.owe p.channel.complete)
  | fail {f} : Effect p (.fail f) (p.owe (p.channel.fail f))
  | subscribe {s} : Effect p (.subscribe s) (p.owe (p.channel.subscribe s))
  | look {op readers} : op.looks = true → Effect p op { p with readers }

/-- **Inversion of an operation.** -/
theorem perform_effect {p q : Performance ρ L} {op : Operation ρ L} {result : Result ρ}
    (h : p.perform op = .ok (q, result)) : p.Effect op q := by
  cases op with
  | push r =>
      simp only [perform, Except.map] at h
      split at h
      · cases h
      · next change hpush =>
        cases h
        exact .push hpush
  | finish =>
      cases h
      exact .finish
  | complete =>
      cases h
      exact .complete
  | fail f =>
      cases h
      exact .fail
  | subscribe s =>
      cases h
      exact .subscribe
  | wait =>
      simp only [perform, Except.map] at h
      split at h
      · cases h
      · cases h
        exact .look rfl
  | readAll =>
      cases h
      exact .look rfl
  | startReading reader =>
      cases h
      exact .look rfl
  | readNext reader =>
      cases h
      rw [readNext]
      split
      · exact .look rfl
      · exact .look rfl
  | raise f => cases h

/-! ## Courses -/

variable [DecidableEq L]

/-- A run of a channel, one task after the other, with the operations that were performed and
the failures that listeners have raised. -/
inductive Course (start : Performance ρ L) :
    List (Operation ρ L) → List Failure → Performance ρ L → Prop
  | refl : Course start [] [] start
  /-- An operation is started when there is nothing else to do. -/
  | start {performed raised p op q result} : Course start performed raised p →
      p.agenda = [] → p.perform op = .ok (q, result) →
      Course start (performed ++ [op]) raised q
  /-- A listener performs an operation. -/
  | perform {performed raised p op rest q result} : Course start performed raised p →
      p.agenda = .perform op :: rest →
      ({ p with agenda := rest } : Performance ρ L).perform op = .ok (q, result) →
      Course start (performed ++ [op]) raised q
  /-- A listener is called. -/
  | call {performed raised p c rest} : Course start performed raised p →
      p.agenda = .call c :: rest →
      Course start performed raised (({ p with agenda := rest } : Performance ρ L).call c)
  /-- An operation of a listener is refused, and the listener goes on. -/
  | refuse {performed raised p op rest f} : Course start performed raised p →
      p.agenda = .perform op :: rest →
      ({ p with agenda := rest } : Performance ρ L).perform op = .error f →
      Course start performed raised { p with agenda := rest }
  /-- A listener raises a failure, and what was left to do is dropped. -/
  | raise {performed raised p op rest f} : Course start performed raised p →
      p.agenda = .perform op :: rest →
      ({ p with agenda := rest } : Performance ρ L).perform op = .error f →
      Course start performed (raised ++ [f]) { p with agenda := [] }

/-- To do everything that is on the agenda is a course, which ends with an empty agenda. -/
theorem Course.exists_run {start p : Performance ρ L} {performed : List (Operation ρ L)}
    {raised : List Failure} (h : Course start performed raised p) :
    ∃ performed', Course start performed' (raised ++ p.run.2.toList) p.run.1 ∧
      p.run.1.agenda = [] := by
  fun_induction Performance.run p generalizing performed with
  | case1 p hagenda => exact ⟨performed, by simpa using h, hagenda⟩
  | case2 p op rest hagenda q result hperform ih => exact ih (h.perform hagenda hperform)
  | case3 p op rest hagenda f hperform => exact ⟨performed, h.raise hagenda hperform, rfl⟩
  | case4 p c rest hagenda ih => exact ih (h.call hagenda)

/-- Start operations one after the other, each when everything that follows from those before
it is done. -/
def startAll (p : Performance ρ L) (ops : List (Operation ρ L)) : Performance ρ L :=
  ops.foldl (fun p op => (p.start op).1) p

/-- Does no listener raise a failure when the operation is started?  That the operation itself
is refused does not count. -/
def isQuiet (p : Performance ρ L) (op : Operation ρ L) : Bool :=
  match p.perform op with
  | .ok (q, _) => q.run.2.isNone
  | .error _ => true

/-- Said by `isSome`, which has equations that evaluate it. -/
theorem isQuiet_eq_not_isSome (p : Performance ρ L) (op : Operation ρ L) :
    p.isQuiet op =
      match p.perform op with
      | .ok (q, _) => !q.run.2.isSome
      | .error _ => true := by
  simp only [isQuiet, Option.not_isSome]

/-- Does no listener raise a failure while operations are started one after the other? -/
def isUndisturbed (p : Performance ρ L) : List (Operation ρ L) → Bool
  | [] => true
  | op :: rest => p.isQuiet op && (p.start op).1.isUndisturbed rest

/-- What is started is performed, and then everything that follows from it. -/
theorem start_fst {p q : Performance ρ L} {op : Operation ρ L} {result : Result ρ}
    (h : p.perform op = .ok (q, result)) : (p.start op).1 = q.run.1 := by
  rw [start, h]
  rcases hrun : q.run with ⟨q', _ | f⟩ <;> simp only [hrun]

/-- To start an operation is a course. -/
theorem Course.exists_start {start p : Performance ρ L} {performed : List (Operation ρ L)}
    {raised : List Failure} (h : Course start performed raised p) (hidle : p.agenda = [])
    (op : Operation ρ L) :
    ∃ performed' raised', Course start performed' (raised ++ raised') (p.start op).1 ∧
      (p.start op).1.agenda = [] ∧ (p.isQuiet op = true → raised' = []) := by
  rcases hperform : p.perform op with f | ⟨q, result⟩
  · have hrefused : (p.start op).1 = p := by rw [Performance.start, hperform]
    rw [hrefused]
    exact ⟨performed, [], by simpa using h, hidle, fun _ => rfl⟩
  · obtain ⟨performed', hcourse, hidle'⟩ := (h.start hidle hperform).exists_run
    rw [start_fst hperform]
    refine ⟨performed', q.run.2.toList, hcourse, hidle', ?_⟩
    intro hquiet
    simpa [isQuiet, hperform] using hquiet

/-- **To start operations one after the other is a course,** and if no listener raises a failure
then none is raised in this course. -/
theorem Course.exists_startAll {start p : Performance ρ L} {performed : List (Operation ρ L)}
    {ops : List (Operation ρ L)} (h : Course start performed [] p) (hidle : p.agenda = [])
    (hquiet : p.isUndisturbed ops = true) :
    ∃ performed', Course start performed' [] (p.startAll ops) ∧ (p.startAll ops).agenda = [] := by
  induction ops generalizing p performed with
  | nil => exact ⟨performed, h, hidle⟩
  | cons op ops ih =>
      rw [isUndisturbed, Bool.and_eq_true] at hquiet
      obtain ⟨hfirst, hrest⟩ := hquiet
      obtain ⟨performed', raised, hcourse, hidle', hnone⟩ := h.exists_start hidle op
      rw [hnone hfirst] at hcourse
      exact ih hcourse hidle' hrest

end Performance

/-! ## What a channel holds -/

namespace Channel

/-- The channel holds what was given to it by these operations: all records in their order, the
signals, the first failure, and the listeners. -/
structure Reflects (c : Channel ρ L) (performed : List (Operation ρ L)) : Prop where
  records : c.records = performed.filterMap Operation.pushed?
  ended : c.ended = true ↔ .finish ∈ performed
  completed : c.completed = true ↔ .complete ∈ performed
  failure : c.failure = performed.findSome? Operation.failure?
  recordListeners : c.recordListeners = performed.filterMap (Operation.listener? (·.onRecord))
  endListeners : c.endListeners = performed.filterMap (Operation.listener? (·.onEnd))
  completeListeners :
    c.completeListeners = performed.filterMap (Operation.listener? (·.onComplete))
  errorListeners : c.errorListeners = performed.filterMap (Operation.listener? (·.onError))

theorem reflects_nil (awaitsWriter : Bool) :
    ({ awaitsWriter } : Channel ρ L).Reflects [] :=
  ⟨rfl, by simp, by simp, rfl, rfl, rfl, rfl, rfl⟩

/-- What an operation adds to a channel. -/
structure Adds (op : Operation ρ L) (c d : Channel ρ L) : Prop where
  records : d.records = c.records ++ op.pushed?.toList
  ended : d.ended = true ↔ c.ended = true ∨ .finish = op
  completed : d.completed = true ↔ c.completed = true ∨ .complete = op
  failure : d.failure = c.failure.or op.failure?
  recordListeners : d.recordListeners = c.recordListeners ++ (op.listener? (·.onRecord)).toList
  endListeners : d.endListeners = c.endListeners ++ (op.listener? (·.onEnd)).toList
  completeListeners :
    d.completeListeners = c.completeListeners ++ (op.listener? (·.onComplete)).toList
  errorListeners : d.errorListeners = c.errorListeners ++ (op.listener? (·.onError)).toList

theorem adds_of_effect {p q : Performance ρ L} {op : Operation ρ L} (h : p.Effect op q) :
    Adds op p.channel q.channel := by
  cases h with
  | push hpush =>
      rw [push] at hpush
      split at hpush
      · cases hpush
      · cases hpush
        constructor <;> simp [Performance.owe, Operation.pushed?, Operation.failure?,
          Operation.listener?]
  | finish =>
      rw [finish]
      by_cases hended : p.channel.ended = true <;>
        constructor <;> simp [Performance.owe, Operation.pushed?, Operation.failure?,
          Operation.listener?, hended]
  | complete =>
      rw [complete]
      by_cases hcompleted : p.channel.completed = true <;>
        constructor <;> simp [Performance.owe, Operation.pushed?, Operation.failure?,
          Operation.listener?, hcompleted]
  | fail =>
      rw [fail]
      cases hfailure : p.channel.failure <;>
        constructor <;> simp [Performance.owe, Operation.pushed?, Operation.failure?,
          Operation.listener?, hfailure]
  | subscribe =>
      constructor <;> simp [Performance.owe, subscribe, Operation.pushed?, Operation.failure?,
        Operation.listener?]
  | look hlooks =>
      cases op <;> cases hlooks <;> constructor <;> simp [Operation.pushed?, Operation.failure?,
        Operation.listener?]

theorem filterMap_concat {α β : Type} (f : α → Option β) (l : List α) (a : α) :
    (l ++ [a]).filterMap f = l.filterMap f ++ (f a).toList := by
  rw [List.filterMap_append]
  cases h : f a <;> simp [h]

/-- **What an operation keeps.** -/
theorem Reflects.concat {c d : Channel ρ L} {performed : List (Operation ρ L)}
    {op : Operation ρ L} (h : c.Reflects performed) (hadds : Adds op c d) :
    d.Reflects (performed ++ [op]) where
  records := by rw [hadds.records, h.records, filterMap_concat]
  ended := by rw [hadds.ended, h.ended, List.mem_append, List.mem_singleton]
  completed := by rw [hadds.completed, h.completed, List.mem_append, List.mem_singleton]
  failure := by
    rw [hadds.failure, h.failure, List.findSome?_append, List.findSome?_singleton]
  recordListeners := by rw [hadds.recordListeners, h.recordListeners, filterMap_concat]
  endListeners := by rw [hadds.endListeners, h.endListeners, filterMap_concat]
  completeListeners := by rw [hadds.completeListeners, h.completeListeners, filterMap_concat]
  errorListeners := by rw [hadds.errorListeners, h.errorListeners, filterMap_concat]

end Channel

/-- **What a course keeps.**  The channel holds what the operations have given to it, whether or
not listeners have raised failures. -/
theorem Performance.Course.reflects [DecidableEq L] {start p : Performance ρ L}
    {performed : List (Operation ρ L)} {raised : List Failure}
    (h : Course start performed raised p) (hstart : start.channel.Reflects []) :
    p.channel.Reflects performed := by
  induction h with
  | refl => exact hstart
  | start _ _ hperform ih => exact ih.concat (Channel.adds_of_effect (perform_effect hperform))
  | @perform _ _ p _ rest _ _ _ _ hperform ih =>
      have hadds := Channel.adds_of_effect (perform_effect hperform)
      exact Channel.Reflects.concat ih hadds
  | call _ _ ih => exact ih
  | refuse _ _ _ ih => exact ih
  | raise _ _ _ ih => exact ih

end MarkupCatalog
