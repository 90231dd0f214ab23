import Mathlib.Data.List.Count
import Mathlib.Data.List.Permutation
import MarkupCatalog.Proofs.Channel.Course

/-!
# Every listener is told everything once

A channel owes every record to every listener, whenever the listener has been registered, and
each signal to those who listen to it.  `Channel.owed` counts the calls that are owed because of
what a channel holds; it does not say when they are made.

The books of a performance are balanced when the calls that were made and those that are still
on the agenda are the calls that are owed.  Every operation keeps the balance (`owed_push` and
the lemmas after it), and so does every call, however deep the operations of listeners are
nested.  So when nothing is left to do, every call that is owed has been made, and no other:
`calls_eq_owed`.
-/

namespace MarkupCatalog

variable {ρ L : Type} [DecidableEq ρ] [DecidableEq L]

namespace Channel

/-- The number of times that a call is owed because of what the channel holds. -/
def owed (c : Channel ρ L) : Call ρ L → Nat
  | ⟨l, .record r⟩ => c.recordListeners.count l * c.records.count r
  | ⟨l, .ended⟩ => if c.ended then c.endListeners.count l else 0
  | ⟨l, .completed⟩ => if c.completed then c.completeListeners.count l else 0
  | ⟨l, .failed f⟩ => if c.failure = some f then c.errorListeners.count l else 0

/-! ## What each operation owes -/

theorem count_callAll (listeners : List L) (signal : Signal ρ) (l : L) (s : Signal ρ) :
    (callAll listeners signal).count ⟨l, s⟩ = if signal = s then listeners.count l else 0 := by
  by_cases hs : signal = s
  · have hinjective : Function.Injective fun l : L => (⟨l, signal⟩ : Call ρ L) := by
      intro a b hab
      exact (Call.mk.inj hab).1
    rw [if_pos hs, ← hs]
    exact List.count_map_of_injective listeners _ hinjective l
  · rw [if_neg hs, List.count_eq_zero]
    intro hmem
    obtain ⟨l', _, heq⟩ := List.mem_map.mp hmem
    exact hs (Call.mk.inj heq).2

/-- The calls by which a listener is told records. -/
theorem count_backlog (records : List ρ) (l' l : L) (s : Signal ρ) :
    (records.map fun r => (⟨l', .record r⟩ : Call ρ L)).count ⟨l, s⟩ =
      match s with
      | .record r => [l'].count l * records.count r
      | _ => 0 := by
  induction records with
  | nil => cases s <;> simp
  | cons r records ih =>
      rw [List.map_cons, List.count_cons, ih]
      cases s with
      | record r' =>
          by_cases hl : l' = l <;> by_cases hr : r = r' <;> simp [hl, hr]
      | _ => simp

/-- A change of the channel adds to what is owed the calls that come with it. -/
def Owes (c : Channel ρ L) (change : Channel ρ L × List (Call ρ L)) : Prop :=
  ∀ call, change.1.owed call = c.owed call + change.2.count call

theorem owes_push {c : Channel ρ L} {r : ρ} {change : Channel ρ L × List (Call ρ L)}
    (h : c.push r = .ok change) : c.Owes change := by
  rw [push] at h
  split at h
  · cases h
  · cases h
    rintro ⟨l, s⟩
    rw [count_callAll]
    cases s with
    | record r' =>
        by_cases hr : r = r'
        · simp [owed, hr, Nat.mul_add]
        · simp [owed, hr]
    | _ => simp [owed]

theorem owes_finish (c : Channel ρ L) : c.Owes c.finish := by
  rintro ⟨l, s⟩
  rw [finish]
  split
  · simp
  · next hended =>
    rw [count_callAll]
    cases s with
    | ended => simp [owed, hended]
    | _ => simp [owed]

theorem owes_complete (c : Channel ρ L) : c.Owes c.complete := by
  rintro ⟨l, s⟩
  rw [complete]
  split
  · simp
  · next hcompleted =>
    rw [count_callAll]
    cases s with
    | completed => simp [owed, hcompleted]
    | _ => simp [owed]

/-- Only the first failure is told. -/
theorem owes_fail (c : Channel ρ L) (f : Failure) : c.Owes (c.fail f) := by
  rintro ⟨l, s⟩
  rw [fail]
  split
  · simp
  · next hfailure =>
    have hnone : c.failure = none := by simpa using hfailure
    rw [count_callAll]
    cases s with
    | failed g =>
        simp [owed, hnone]
    | _ => simp [owed]

/-- The calls that bring a new subscriber up to date. -/
theorem count_replay (c : Channel ρ L) (s : Subscription L) (l : L) (signal : Signal ρ) :
    (c.replay s).count ⟨l, signal⟩ =
      match signal with
      | .record r => s.onRecord.toList.count l * c.records.count r
      | .ended => if c.ended then s.onEnd.toList.count l else 0
      | .completed => if c.completed then s.onComplete.toList.count l else 0
      | .failed f => if c.failure = some f then s.onError.toList.count l else 0 := by
  have hsignal (due : Bool) (listeners : List L) (told : Signal ρ) :
      (if due then callAll listeners told else []).count ⟨l, signal⟩ =
        if due ∧ told = signal then listeners.count l else 0 := by
    cases due <;> simp [count_callAll]
  simp only [replay, List.count_append, hsignal]
  cases s.onRecord <;> cases c.failure <;> cases signal <;>
    simp [count_callAll, count_backlog]

/-- A new listener is told what it has missed. -/
theorem owes_subscribe (c : Channel ρ L) (s : Subscription L) : c.Owes (c.subscribe s) := by
  rintro ⟨l, signal⟩
  rw [subscribe, count_replay]
  cases signal with
  | record r => simp only [owed, List.count_append, Nat.add_mul]
  | ended | completed | failed f =>
      simp only [owed, List.count_append]
      split <;> rfl

end Channel

namespace Performance

/-! ## The balance -/

/-- The calls on an agenda. -/
def pending : List (Task ρ L) → List (Call ρ L)
  | [] => []
  | .perform _ :: rest => pending rest
  | .call c :: rest => c :: pending rest

omit [DecidableEq ρ] [DecidableEq L] in
theorem pending_calls (calls : List (Call ρ L)) (rest : List (Task ρ L)) :
    pending (calls.map .call ++ rest) = calls ++ pending rest := by
  induction calls with
  | nil => rfl
  | cons c calls ih => rw [List.map_cons, List.cons_append, pending, ih, List.cons_append]

omit [DecidableEq ρ] [DecidableEq L] in
theorem pending_performs (ops : List (Operation ρ L)) (rest : List (Task ρ L)) :
    pending (ops.map .perform ++ rest) = pending rest := by
  induction ops with
  | nil => rfl
  | cons op ops ih => exact ih

/-- The calls that were made and those that are still to be made are the calls that are owed. -/
def Balanced (p : Performance ρ L) : Prop :=
  ∀ call, p.calls.count call + (pending p.agenda).count call = p.channel.owed call

/-- Calls that are put on the agenda are owed from then on. -/
theorem Balanced.owe {p : Performance ρ L} (h : p.Balanced)
    {change : Channel ρ L × List (Call ρ L)} (hchange : p.channel.Owes change) :
    (p.owe change).Balanced := by
  intro call
  show p.calls.count call + (pending (change.2.map .call ++ p.agenda)).count call = _
  rw [pending_calls, List.count_append]
  have hbefore := h call
  have howed := hchange call
  show _ = change.1.owed call
  omega

/-- **What an operation keeps.** -/
theorem Balanced.effect {p q : Performance ρ L} {op : Operation ρ L} (h : p.Balanced)
    (heffect : p.Effect op q) : q.Balanced := by
  cases heffect with
  | push hpush => exact h.owe (Channel.owes_push hpush)
  | finish => exact h.owe p.channel.owes_finish
  | complete => exact h.owe p.channel.owes_complete
  | fail => exact h.owe (p.channel.owes_fail _)
  | subscribe => exact h.owe (p.channel.owes_subscribe _)
  | look _ => exact h

/-- **What a call keeps.**  It goes from the calls that are to be made to those that were made;
the operations of the listener are not performed yet. -/
theorem Balanced.call {p : Performance ρ L} {c : Call ρ L} {rest : List (Task ρ L)}
    (h : p.Balanced) (hagenda : p.agenda = .call c :: rest) :
    (({ p with agenda := rest } : Performance ρ L).call c).Balanced := by
  intro call
  have hbefore := h call
  rw [hagenda, pending, List.count_cons] at hbefore
  show (p.calls ++ [c]).count call + (pending (_ ++ rest)).count call = p.channel.owed call
  rw [pending_performs, List.count_append, List.count_singleton]
  omega

/-- Operations of listeners on the agenda do not count. -/
theorem Balanced.skip {p : Performance ρ L} {op : Operation ρ L} {rest : List (Task ρ L)}
    (h : p.Balanced) (hagenda : p.agenda = .perform op :: rest) :
    ({ p with agenda := rest } : Performance ρ L).Balanced := by
  unfold Balanced at h
  rw [hagenda] at h
  exact h

/-- **What a course keeps,** as long as no listener raises a failure. -/
theorem Course.balanced {start p : Performance ρ L} {performed : List (Operation ρ L)}
    {raised : List Failure} (h : Course start performed raised p) (hstart : start.Balanced)
    (hraised : raised = []) : p.Balanced := by
  induction h with
  | refl => exact hstart
  | start _ _ hperform ih => exact (ih hraised).effect (perform_effect hperform)
  | perform _ hagenda hperform ih =>
      exact ((ih hraised).skip hagenda).effect (perform_effect hperform)
  | call _ hagenda ih => exact (ih hraised).call hagenda
  | refuse _ hagenda _ ih => exact (ih hraised).skip hagenda
  | raise _ _ _ _ => simp at hraised

/-! ## When nothing is left to do -/

/-- The record that a listener is told by a call. -/
def recordFor? (l : L) : Call ρ L → Option ρ
  | ⟨l', .record r⟩ => if l' = l then some r else none
  | _ => none

/-- The records that a listener was told, in the order of the calls. -/
def received (l : L) (calls : List (Call ρ L)) : List ρ := calls.filterMap (recordFor? l)

theorem count_received (l : L) (r : ρ) (calls : List (Call ρ L)) :
    (received l calls).count r = calls.count ⟨l, .record r⟩ := by
  induction calls with
  | nil => rfl
  | cons c calls ih =>
      obtain ⟨l', s⟩ := c
      rw [List.count_cons, ← ih]
      cases s with
      | record r' =>
          by_cases hl : l' = l <;> simp [received, recordFor?, hl, List.count_cons]
      | _ => simp [received, List.filterMap_cons, recordFor?]

/-- **Everybody is told everything once.**  Let a fresh channel be used in any way, by others
and by listeners that perform operations whenever they are called, and let no listener raise a
failure.  When all is done, the channel holds what the operations have given to it; a listener
for records has been told each record once, for each time that it was registered; and each
signal was told once to those who listen to it if it was given, and otherwise never.  Of several
failures the first one is told.  To start operations one after the other is one way to use a
channel. -/
theorem calls_eq_owed (awaitsWriter : Bool) (script : Script ρ L) :
    let start : Performance ρ L := { channel := { awaitsWriter }, script }
    (∀ performed p, Course start performed [] p → p.agenda = [] →
      p.channel.Reflects performed ∧
      (∀ l, p.channel.recordListeners.count l = 1 →
        (received l p.calls).Perm p.channel.records) ∧
      (∀ l r, p.calls.count ⟨l, .record r⟩ =
        p.channel.recordListeners.count l * p.channel.records.count r) ∧
      (∀ l, p.calls.count ⟨l, .ended⟩ =
        if p.channel.ended then p.channel.endListeners.count l else 0) ∧
      (∀ l, p.calls.count ⟨l, .completed⟩ =
        if p.channel.completed then p.channel.completeListeners.count l else 0) ∧
      (∀ l f, p.calls.count ⟨l, .failed f⟩ =
        if p.channel.failure = some f then p.channel.errorListeners.count l else 0)) ∧
    (∀ outer, start.isUndisturbed outer = true →
      ∃ performed, Course start performed [] (start.startAll outer) ∧
        (start.startAll outer).agenda = []) := by
  intro start
  have hbalanced : start.Balanced := by
    rintro ⟨l, _ | _ | _ | _⟩ <;> simp [start, Channel.owed, pending]
  constructor
  · intro performed p hcourse hidle
    have hcalls : ∀ call, p.calls.count call = p.channel.owed call := by
      intro call
      have hbalance := hcourse.balanced hbalanced rfl call
      rw [hidle] at hbalance
      exact hbalance
    refine ⟨hcourse.reflects (Channel.reflects_nil awaitsWriter), ?_,
      fun l r => hcalls _, fun l => hcalls _, fun l => hcalls _, fun l f => hcalls _⟩
    intro l hl
    rw [List.perm_iff_count]
    intro r
    rw [count_received, hcalls, Channel.owed, hl, Nat.one_mul]
  · intro outer hquiet
    exact Course.refl.exists_startAll rfl hquiet

/-- A listener that adds a record, a listener and the end when it is told its first record. -/
def nestedScript : Script Nat Nat := [(0, [.push 7, .subscribe { onRecord := some 1 }, .finish])]

/-- One listener for records and for the end, a record, and one more that comes too late. -/
def nestedOperations : List (Operation Nat Nat) :=
  [.subscribe { onRecord := some 0, onEnd := some 2 }, .push 1, .push 5]

/-- The listener that comes while the first record is being told gets both records, and the end
is told once. -/
theorem calls_eq_owed_nested :
    let start : Performance Nat Nat := { channel := {}, script := nestedScript }
    start.isUndisturbed nestedOperations = true ∧
      (received 1 (start.startAll nestedOperations).calls).Perm [1, 7] ∧
      (start.startAll nestedOperations).calls.count ⟨2, .ended⟩ = 1 := by
  intro start
  have hquiet : start.isUndisturbed nestedOperations = true := by
    simp only [nestedOperations, isUndisturbed, isQuiet_eq_not_isSome]
    cbv
  have hchannel : (start.startAll nestedOperations).channel =
      { records := [1, 7], ended := true, settled := true, recordListeners := [0, 1],
        endListeners := [2] } := by
    cbv
  obtain ⟨htold, hstarted⟩ := calls_eq_owed false nestedScript
  obtain ⟨performed, hcourse, hidle⟩ := hstarted nestedOperations hquiet
  obtain ⟨_, hreceived, _, hended, _⟩ := htold performed _ hcourse hidle
  rw [hchannel] at hreceived hended
  exact ⟨hquiet, hreceived 1 rfl, hended 2⟩

end Performance

end MarkupCatalog
