import Mathlib.Data.List.Basic
import MarkupCatalog.Proofs.Channel.Course

/-!
# What a channel shows at every moment

In a `Course` a failure that a listener raises ends everything that is under way.  A listener
may also catch the failure of something that it has started, at any depth, and go on from there.
The chronicle of a performance covers both.  It notes every operation that was tried, with what
came of it, and every call; after each of its entries somebody may look at the channel.

What is seen then follows from the operations that were tried up to that moment, those that were
refused included: this is `Channel.Shows`.

* `Channel.Shows.step` — every step of a performance keeps it, hence every chronicle does;
* `Channel.Shows.waited` — what somebody gets who waits;
* `Channel.Shows.lasts` — nothing is ever taken back.  This needs no second induction: it
  compares what is shown for some operations with what is shown for these and later ones.
-/

namespace MarkupCatalog

variable {ρ L : Type}

/-! ## What was tried -/

/-- Does the operation end the channel? -/
def Operation.isFinish : Operation ρ L → Bool
  | .finish => true
  | _ => false

/-- Does the operation tell the channel that the file is closed? -/
def Operation.isComplete : Operation ρ L → Bool
  | .complete => true
  | _ => false

/-- The records that were given to a channel before it was ended. -/
def Operation.accepted (ops : List (Operation ρ L)) : List ρ :=
  (ops.takeWhile fun op => !op.isFinish).filterMap Operation.pushed?

theorem Operation.accepted_singleton (op : Operation ρ L) :
    accepted [op] = op.pushed?.toList := by
  cases op <;> rfl

/-- What comes after the end is not accepted. -/
theorem Operation.accepted_append (ops more : List (Operation ρ L)) :
    accepted (ops ++ more) =
      accepted ops ++ if ops.any Operation.isFinish then [] else accepted more := by
  induction ops with
  | nil => simp [accepted]
  | cons op ops ih =>
      by_cases hop : op.isFinish = true
      · simp [accepted, hop]
      · have hcons (l : List (Operation ρ L)) :
            accepted (op :: l) = op.pushed?.toList ++ accepted l := by
          cases hpushed : op.pushed? <;> simp [accepted, hop, hpushed]
        rw [List.cons_append, hcons, hcons, ih, List.append_assoc, List.any_cons,
          Bool.eq_false_iff.mpr hop, Bool.false_or]

/-- What somebody gets who waits: the first failure if there is one, and otherwise whether the
file is closed, or the channel has ended and there is no file to wait for. -/
def Operation.waitAnswer (awaitsWriter : Bool) (ops : List (Operation ρ L)) :
    Except Failure Bool :=
  match ops.findSome? Operation.failure? with
  | some f => .error f
  | none =>
      .ok (ops.any Operation.isComplete || (ops.any Operation.isFinish && !awaitsWriter))

/-! ## What is shown -/

namespace Channel

/-- What a channel holds after these operations were tried with it. -/
structure Shows (c : Channel ρ L) (awaitsWriter : Bool) (ops : List (Operation ρ L)) : Prop where
  awaits : c.awaitsWriter = awaitsWriter
  /-- The records are those that were given before the end, in their order. -/
  records : c.records = Operation.accepted ops
  ended : c.ended = ops.any Operation.isFinish
  completed : c.completed = ops.any Operation.isComplete
  /-- The failure is the first one. -/
  failure : c.failure = ops.findSome? Operation.failure?
  settled : c.settled = (c.completed || c.failure.isSome || (c.ended && !c.awaitsWriter))

theorem shows_nil (awaitsWriter : Bool) :
    ({ awaitsWriter } : Channel ρ L).Shows awaitsWriter [] :=
  ⟨rfl, rfl, rfl, rfl, rfl, rfl⟩

variable {c d : Channel ρ L} {awaitsWriter : Bool} {ops more : List (Operation ρ L)}

theorem Shows.waited (h : c.Shows awaitsWriter ops) :
    c.wait = Operation.waitAnswer awaitsWriter ops := by
  rw [wait, Operation.waitAnswer, h.settled, h.completed, h.ended, h.awaits, ← h.failure]
  cases c.failure with
  | some f => simp
  | none =>
      cases ops.any Operation.isComplete <;> cases ops.any Operation.isFinish <;>
        cases awaitsWriter <;> rfl

/-- What stays as it is, whatever is tried with the channel. -/
structure Lasts (c d : Channel ρ L) : Prop where
  records : c.records <+: d.records
  closed : c.ended = true → d.records = c.records
  ended : c.ended = true → d.ended = true
  completed : c.completed = true → d.completed = true
  failure : ∀ f, c.failure = some f → d.failure = some f

/-- **Nothing is taken back** by operations that are tried later. -/
theorem Shows.lasts (hc : c.Shows awaitsWriter ops) (hd : d.Shows awaitsWriter (ops ++ more)) :
    c.Lasts d where
  records := by
    rw [hc.records, hd.records, Operation.accepted_append]
    exact List.prefix_append _ _
  closed := by
    intro hended
    rw [hc.ended] at hended
    rw [hc.records, hd.records, Operation.accepted_append, if_pos hended, List.append_nil]
  ended := by
    intro hended
    rw [hc.ended] at hended
    rw [hd.ended, List.any_append, hended, Bool.true_or]
  completed := by
    intro hcompleted
    rw [hc.completed] at hcompleted
    rw [hd.completed, List.any_append, hcompleted, Bool.true_or]
  failure := by
    intro f hf
    rw [hc.failure] at hf
    rw [hd.failure, List.findSome?_append, hf, Option.some_or]

end Channel

/-! ## One step -/

namespace Performance

/-- **Inversion of a refusal.** -/
theorem perform_refused {p : Performance ρ L} {op : Operation ρ L} {f : Failure}
    (h : p.perform op = .error f) :
    (∃ r, op = .push r ∧ p.channel.ended = true ∧ f = .channelEnded) ∨ op = .wait ∨
      op = .raise f := by
  cases op with
  | push r =>
      simp only [perform, Channel.push] at h
      split at h
      · next hended =>
        cases h
        exact Or.inl ⟨r, rfl, hended, rfl⟩
      · cases h
  | wait => exact Or.inr (Or.inl rfl)
  | raise g =>
      cases h
      exact Or.inr (Or.inr rfl)
  | _ => cases h

/-- A channel that has ended takes no record. -/
theorem Effect.pushed?_eq_none {p q : Performance ρ L} {op : Operation ρ L} (h : p.Effect op q)
    (hended : p.channel.ended = true) : op.pushed? = none := by
  cases h with
  | push hpush =>
      rw [Channel.push, if_pos hended] at hpush
      cases hpush
  | look hlooks =>
      cases op with
      | push r => cases hlooks
      | _ => rfl
  | _ => rfl

/-- An operation settles the channel when the last thing has come that was waited for. -/
theorem Effect.settled {p q : Performance ρ L} {op : Operation ρ L} (h : p.Effect op q)
    (hsettled : p.channel.settled =
      (p.channel.completed || p.channel.failure.isSome ||
        (p.channel.ended && !p.channel.awaitsWriter))) :
    q.channel.awaitsWriter = p.channel.awaitsWriter ∧ q.channel.settled =
      (q.channel.completed || q.channel.failure.isSome ||
        (q.channel.ended && !q.channel.awaitsWriter)) := by
  cases h with
  | push hpush =>
      rw [Channel.push] at hpush
      split at hpush
      · cases hpush
      · cases hpush
        exact ⟨rfl, hsettled⟩
  | finish =>
      rw [Channel.finish]
      split
      · exact ⟨rfl, hsettled⟩
      · next hended =>
        simp [owe, hsettled, hended]
  | complete =>
      rw [Channel.complete]
      split
      · exact ⟨rfl, hsettled⟩
      · simp [owe]
  | fail =>
      rw [Channel.fail]
      split
      · exact ⟨rfl, hsettled⟩
      · simp [owe]
  | subscribe => exact ⟨rfl, hsettled⟩
  | look _ => exact ⟨rfl, hsettled⟩

/-- Something that happens in a performance. -/
inductive Event (ρ L : Type)
  /-- An operation is tried, by a listener or by others. -/
  | tried (op : Operation ρ L) (outcome : Except Failure (Result ρ))
  /-- A listener is called. -/
  | called (c : Call ρ L)

/-- The operation that is tried. -/
def Event.operation? : Event ρ L → Option (Operation ρ L)
  | .tried op _ => some op
  | .called _ => none

/-- The operations that were tried, in their order, whatever came of them. -/
def attempts (events : List (Event ρ L)) : List (Operation ρ L) :=
  events.filterMap Event.operation?

theorem attempts_append (events more : List (Event ρ L)) :
    attempts (events ++ more) = attempts events ++ attempts more :=
  List.filterMap_append

/-- It is time for an operation: a listener is about to perform it, or there is nothing to do
and somebody starts it. -/
def Due (p : Performance ρ L) (op : Operation ρ L) (rest : List (Task ρ L)) : Prop :=
  p.agenda = .perform op :: rest ∨ (p.agenda = [] ∧ rest = [])

variable [DecidableEq L]

/-- One step of a performance. -/
inductive Step (p : Performance ρ L) : Event ρ L → Performance ρ L → Prop
  | perform {op rest q result} : p.Due op rest →
      ({ p with agenda := rest } : Performance ρ L).perform op = .ok (q, result) →
      Step p (.tried op (.ok result)) q
  /-- An operation is refused.  Whoever has tried it goes on, or raises this as a failure, which
  is caught somewhere or nowhere: what is left to do is some end of the agenda. -/
  | refuse {op rest left f} : p.Due op rest →
      ({ p with agenda := rest } : Performance ρ L).perform op = .error f → left <:+ rest →
      Step p (.tried op (.error f)) { p with agenda := left }
  | call {c rest} : p.agenda = .call c :: rest →
      Step p (.called c) (({ p with agenda := rest } : Performance ρ L).call c)

end Performance

namespace Channel

open Performance

variable {p q : Performance ρ L} {awaitsWriter : Bool} {ops : List (Operation ρ L)}
  {op : Operation ρ L}

/-- What an operation that succeeds keeps. -/
theorem Shows.performed {result : Result ρ} (h : p.channel.Shows awaitsWriter ops)
    (hperform : p.perform op = .ok (q, result)) : q.channel.Shows awaitsWriter (ops ++ [op]) := by
  have heffect := perform_effect hperform
  have hadds := adds_of_effect heffect
  obtain ⟨hawaits, hsettled⟩ := heffect.settled h.settled
  refine ⟨hawaits.trans h.awaits, ?_, ?_, ?_, ?_, hsettled⟩
  · rw [hadds.records, h.records, Operation.accepted_append, Operation.accepted_singleton]
    by_cases hended : ops.any Operation.isFinish = true
    · rw [if_pos hended, heffect.pushed?_eq_none (h.ended.trans hended)]
      rfl
    · rw [if_neg hended]
  · rw [List.any_append, ← h.ended, Bool.eq_iff_iff, hadds.ended]
    cases op <;> simp [Operation.isFinish]
  · rw [List.any_append, ← h.completed, Bool.eq_iff_iff, hadds.completed]
    cases op <;> simp [Operation.isComplete]
  · rw [hadds.failure, h.failure, List.findSome?_append, List.findSome?_singleton]

/-- What an operation that is refused keeps: it was no use to try it. -/
theorem Shows.refused {f : Failure} (h : p.channel.Shows awaitsWriter ops)
    (hperform : p.perform op = .error f) : p.channel.Shows awaitsWriter (ops ++ [op]) := by
  have hcases := perform_refused hperform
  have hfinish : op.isFinish = false := by
    obtain ⟨r, hop, -⟩ | hop | hop := hcases <;> rw [hop] <;> rfl
  have hcomplete : op.isComplete = false := by
    obtain ⟨r, hop, -⟩ | hop | hop := hcases <;> rw [hop] <;> rfl
  have hfailure : op.failure? = none := by
    obtain ⟨r, hop, -⟩ | hop | hop := hcases <;> rw [hop] <;> rfl
  have hrecord : (if ops.any Operation.isFinish then [] else op.pushed?.toList) = [] := by
    obtain ⟨r, hop, hended, -⟩ | hop | hop := hcases
    · rw [if_pos (h.ended.symm.trans hended)]
    · simp [hop, Operation.pushed?]
    · simp [hop, Operation.pushed?]
  refine ⟨h.awaits, ?_, ?_, ?_, ?_, h.settled⟩
  · rw [Operation.accepted_append, Operation.accepted_singleton, hrecord, List.append_nil]
    exact h.records
  · simp [h.ended, hfinish]
  · simp [h.completed, hcomplete]
  · simp [h.failure, hfailure]

/-- **What a step keeps.** -/
theorem Shows.step [DecidableEq L] {event : Event ρ L} (h : p.channel.Shows awaitsWriter ops)
    (hstep : p.Step event q) : q.channel.Shows awaitsWriter (ops ++ attempts [event]) := by
  cases hstep with
  | @perform op rest _ result _ hperform =>
      have hbefore : ({ p with agenda := rest } : Performance ρ L).channel.Shows awaitsWriter ops :=
        h
      exact hbefore.performed hperform
  | @refuse op rest left f _ hperform _ =>
      have hbefore : ({ p with agenda := rest } : Performance ρ L).channel.Shows awaitsWriter ops :=
        h
      exact hbefore.refused hperform
  | call _ =>
      rw [show attempts [Event.called _] = ([] : List (Operation ρ L)) from rfl, List.append_nil]
      exact h

end Channel

namespace Performance

variable [DecidableEq L]

/-! ## Chronicles -/

/-- A run of a performance, step by step, with everything that has happened. -/
inductive Chronicle (start : Performance ρ L) : List (Event ρ L) → Performance ρ L → Prop
  | refl : Chronicle start [] start
  | step {events p event q} : Chronicle start events p → p.Step event q →
      Chronicle start (events ++ [event]) q

theorem Chronicle.append {start p q : Performance ρ L} {events more : List (Event ρ L)}
    (h : Chronicle start events p) (hmore : Chronicle p more q) :
    Chronicle start (events ++ more) q := by
  induction hmore with
  | refl => rwa [List.append_nil]
  | step _ hstep ih =>
      rw [← List.append_assoc]
      exact ih.step hstep

/-- **What a chronicle keeps.** -/
theorem Chronicle.shows {start p : Performance ρ L} {events : List (Event ρ L)}
    {awaitsWriter : Bool} (h : Chronicle start events p)
    (hstart : start.channel.Shows awaitsWriter []) :
    p.channel.Shows awaitsWriter (attempts events) := by
  induction h with
  | refl => exact hstart
  | step _ hstep ih =>
      rw [attempts_append]
      exact ih.step hstep

/-! ## Operations that are started one after the other -/

/-- To do everything that is on the agenda takes a chronicle. -/
theorem exists_chronicle_run (p : Performance ρ L) :
    ∃ events, Chronicle p events p.run.1 ∧ p.run.1.agenda = [] := by
  fun_induction Performance.run p with
  | case1 p hagenda => exact ⟨[], .refl, hagenda⟩
  | case2 p op rest hagenda q result hperform ih =>
      obtain ⟨events, hevents, hidle⟩ := ih
      exact ⟨_, (Chronicle.refl.step (.perform (.inl hagenda) hperform)).append hevents, hidle⟩
  | case3 p op rest hagenda f hperform =>
      have hrefuse := Step.refuse (.inl hagenda) hperform (List.nil_suffix)
      exact ⟨_, Chronicle.refl.step hrefuse, rfl⟩
  | case4 p c rest hagenda ih =>
      obtain ⟨events, hevents, hidle⟩ := ih
      exact ⟨_, (Chronicle.refl.step (.call hagenda)).append hevents, hidle⟩

/-- Somebody starts an operation when there is nothing to do. -/
theorem Step.start {p q : Performance ρ L} {result : Result ρ} (op : Operation ρ L)
    (hidle : p.agenda = []) (hperform : p.perform op = .ok (q, result)) :
    p.Step (.tried op (.ok result)) q := by
  apply Step.perform (Or.inr ⟨hidle, rfl⟩)
  rwa [← hidle]

/-- So does an operation that is started, and its own outcome is noted first. -/
theorem exists_chronicle_start {p : Performance ρ L} (hidle : p.agenda = [])
    (op : Operation ρ L) :
    ∃ outcome more, Chronicle p (.tried op outcome :: more) (p.start op).1 ∧
      (p.start op).1.agenda = [] := by
  cases hperform : p.perform op with
  | error f =>
      have hsame : (p.start op).1 = p := by rw [Performance.start, hperform]
      have hrefuse : p.Step (.tried op (.error f)) { p with agenda := [] } := by
        apply Step.refuse (Or.inr ⟨hidle, rfl⟩) _ List.nil_suffix
        rwa [← hidle]
      rw [← hidle] at hrefuse
      rw [hsame]
      exact ⟨_, [], Chronicle.refl.step hrefuse, hidle⟩
  | ok performed =>
      obtain ⟨q, result⟩ := performed
      obtain ⟨more, hmore, hidle'⟩ := exists_chronicle_run q
      have hstarted := Chronicle.refl.step (Step.start op hidle hperform)
      rw [start_fst hperform]
      exact ⟨_, more, hstarted.append hmore, hidle'⟩

/-- So do operations that are started one after the other. -/
theorem exists_chronicle_startAll {p : Performance ρ L} (hidle : p.agenda = [])
    (ops : List (Operation ρ L)) :
    ∃ events, Chronicle p events (p.startAll ops) ∧ ops.Sublist (attempts events) := by
  induction ops generalizing p with
  | nil => exact ⟨[], .refl, List.nil_sublist _⟩
  | cons op ops ih =>
      obtain ⟨outcome, more, hfirst, hidle'⟩ := exists_chronicle_start hidle op
      obtain ⟨events, hevents, hsublist⟩ := ih hidle'
      refine ⟨_, hfirst.append hevents, ?_⟩
      rw [attempts_append]
      have hop : [op].Sublist (attempts (.tried op outcome :: more)) :=
        List.singleton_sublist.mpr List.mem_cons_self
      exact hop.append hsublist

/-! ## Every moment -/

/-- A record that is given to the channel is refused if the channel has ended, and then nothing
changes and nobody is told; otherwise it is taken. -/
theorem Step.push {p q : Performance ρ L} {r : ρ} {outcome : Except Failure (Result ρ)}
    (h : p.Step (.tried (.push r) outcome) q) :
    (p.channel.ended = true → outcome = .error .channelEnded ∧ q.channel = p.channel ∧
      q.calls = p.calls ∧ q.agenda <:+ p.agenda) ∧
    (p.channel.ended = false → outcome = .ok .done ∧
      q.channel.records = p.channel.records ++ [r]) := by
  cases h with
  | @perform _ rest _ result hdue hperform =>
      simp only [Performance.perform, Channel.push] at hperform
      split at hperform
      · cases hperform
      · next hended =>
        cases hperform
        exact ⟨fun h => absurd h hended, fun _ => ⟨rfl, rfl⟩⟩
  | @refuse _ rest left f hdue hperform hleft =>
      obtain ⟨_, _, hended, rfl⟩ | hop | hop := perform_refused hperform
      · have hrest : rest <:+ p.agenda := by
          obtain hagenda | ⟨hagenda, rfl⟩ := hdue
          · rw [hagenda]
            exact List.suffix_cons _ _
          · exact List.nil_suffix
        refine ⟨fun _ => ⟨rfl, rfl, rfl, hleft.trans hrest⟩, ?_⟩
        intro hopen
        exact absurd (hended.symm.trans hopen) (by decide)
      · cases hop
      · cases hop

/-- **What a channel shows at every moment.**  Let a fresh channel be used in any way, by others
and by listeners that perform operations whenever they are called, raise failures and catch
them.  After every operation and at the start of every call, the channel holds the records that
were given to it before its end, its signals, and its first failure, and whoever waits is told
accordingly.  A record is refused exactly if the channel has ended, and this changes nothing.
What was there once remains.  To start operations one after the other is one way to use a
channel. -/
theorem shows_and_lasts (awaitsWriter : Bool) (script : Script ρ L) :
    let start : Performance ρ L := { channel := { awaitsWriter }, script }
    (∀ events p, Chronicle start events p →
      p.channel.Shows awaitsWriter (attempts events) ∧
      p.channel.wait = Operation.waitAnswer awaitsWriter (attempts events) ∧
      (∀ r outcome q, p.Step (.tried (.push r) outcome) q →
        (outcome = .error .channelEnded ↔ p.channel.ended = true) ∧
        (p.channel.ended = true →
          q.channel = p.channel ∧ q.calls = p.calls ∧ q.agenda <:+ p.agenda) ∧
        (p.channel.ended = false →
          outcome = .ok .done ∧ q.channel.records = p.channel.records ++ [r])) ∧
      (∀ r, p.channel.ended = true → p.start (.push r) = (p, .error .channelEnded)) ∧
      (∀ later q, Chronicle p later q → p.channel.Lasts q.channel)) ∧
    (∀ outer, ∃ events, Chronicle start events (start.startAll outer) ∧
      outer.Sublist (attempts events)) ∧
    Failure.channelEnded.message = "cannot push to a channel that has ended" := by
  intro start
  refine ⟨?_, fun outer => exists_chronicle_startAll rfl outer, rfl⟩
  intro events p hp
  have hshows := hp.shows (Channel.shows_nil awaitsWriter)
  refine ⟨hshows, hshows.waited, ?_, ?_, ?_⟩
  · intro r outcome q hstep
    obtain ⟨hclosed, hopen⟩ := hstep.push
    refine ⟨⟨?_, fun hended => (hclosed hended).1⟩, fun hended => (hclosed hended).2, hopen⟩
    intro hrefused
    by_contra hended
    have hdone := (hopen (Bool.eq_false_iff.mpr hended)).1
    rw [hrefused] at hdone
    cases hdone
  · intro r hended
    have hpush : p.perform (.push r) = .error .channelEnded := by
      simp [perform, Channel.push, hended, Except.map]
    rw [Performance.start, hpush]
  · intro later q hlater
    have hboth := (hp.append hlater).shows (Channel.shows_nil awaitsWriter)
    rw [attempts_append] at hboth
    exact hshows.lasts hboth

/-- A listener that adds a record and the end when it is told its first record, and then tries
to add one more. -/
def stubbornScript : Script Nat Nat := [(0, [.push 7, .finish, .push 8])]

/-- The record after the end is refused, which ends the operation of the listener and the one
that it was called for; both records before it stay, and there is still a file to wait for. -/
theorem shows_and_lasts_stubborn :
    let start : Performance Nat Nat :=
      { channel := { awaitsWriter := true }, script := stubbornScript }
    ∃ events p, Chronicle start events p ∧ p.channel.records = [1, 7] ∧ p.channel.ended = true ∧
      p.channel.wait = .ok false ∧ p.start (.push 9) = (p, .error .channelEnded) ∧
      ∀ later q, Chronicle p later q → q.channel.records = [1, 7] := by
  intro start
  have hsubscribed : Chronicle start _ _ :=
    Chronicle.refl.step (.start (.subscribe { onRecord := some 0 }) rfl rfl)
  have htold := (hsubscribed.step (.start (.push 1) rfl rfl)).step (.call rfl)
  have hnested := (htold.step (.perform (.inl rfl) rfl)).step (.call rfl)
  have hended := hnested.step (.perform (.inl rfl) rfl)
  have hrefused := hended.step (.refuse (.inl rfl) rfl List.nil_suffix)
  obtain ⟨hshows, hwait, _, hstart, hlasts⟩ := (shows_and_lasts true stubbornScript).1 _ _ hrefused
  refine ⟨_, _, hrefused, hshows.records, hshows.ended, hwait, hstart 9 rfl, ?_⟩
  intro later q hlater
  exact (hlasts later q hlater).closed rfl

end Performance

end MarkupCatalog
