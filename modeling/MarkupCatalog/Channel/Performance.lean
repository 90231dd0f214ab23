import MarkupCatalog.Channel.Basic

/-!
# Operations on a channel and what the listeners do

A listener may perform operations on the channel that calls it, so one operation can
lead to a whole tree of them.  A performance goes through that tree with an agenda: the
first task is done, and what it gives rise to is put in front of the rest.  An operation
gives rise to the calls that the channel owes, a call to the operations that the listener
performs.  A failure ends the operation that all this began with, and nothing that is
left on the agenda is done any more.

What the listeners do is written down in a script with an entry for each call at which
something happens.  Every performance comes to an end, because no entry is used twice.
-/

namespace MarkupCatalog

/-- What can be done with a channel.  Readers of the records are told apart by name. -/
inductive Operation (ρ L : Type)
  | push (r : ρ)
  | finish
  | complete
  | fail (f : Failure)
  | subscribe (s : Subscription L)
  | wait
  /-- Read all records, if the channel has ended. -/
  | readAll
  /-- Begin to read the records one by one. -/
  | startReading (reader : Text)
  | readNext (reader : Text)
  | raise (f : Failure)
  deriving DecidableEq, Repr

/-- What an operation comes to. -/
inductive Result (ρ : Type)
  | done
  | settled (b : Bool)
  | records (rs : List ρ)
  | next (n : Channel.Next ρ)
  deriving DecidableEq, Repr

/-- What is to be done next. -/
inductive Task (ρ L : Type)
  | perform (op : Operation ρ L)
  | call (c : Call ρ L)
  deriving DecidableEq, Repr

/-- What the listeners do.  At each of its calls a listener takes its first entry, if
there is one, and performs the operations in it. -/
abbrev Script (ρ L : Type) := List (L × List (Operation ρ L))

namespace Script

variable {ρ L : Type} [DecidableEq L]

/-- What a listener performs when it is called, and the script for later calls. -/
def take (listener : L) : Script ρ L → List (Operation ρ L) × Script ρ L
  | [] => ([], [])
  | (l, ops) :: rest =>
      if l = listener then (ops, rest)
      else ((take listener rest).1, (l, ops) :: (take listener rest).2)

/-- The number of operations in a script. -/
def size : Script ρ L → Nat
  | [] => 0
  | (_, ops) :: rest => ops.length + size rest

omit [DecidableEq L] in
@[simp] theorem size_cons (l : L) (ops : List (Operation ρ L)) (s : Script ρ L) :
    size ((l, ops) :: s) = ops.length + size s := rfl

/-- Nothing is lost when an entry is taken. -/
theorem size_take (listener : L) (s : Script ρ L) :
    (s.take listener).1.length + size (s.take listener).2 = s.size := by
  induction s with
  | nil => rfl
  | cons entry rest ih =>
      obtain ⟨l, ops⟩ := entry
      by_cases h : l = listener
      · simp [take, h]
      · simp only [take, h, if_false, size_cons]
        omega

end Script

/-- A channel in use: its state, how many records each reader has taken, the script, what
is to be done, and the calls that have been made. -/
structure Performance (ρ L : Type) where
  channel : Channel ρ L
  readers : List (Text × Nat) := []
  script : Script ρ L := []
  agenda : List (Task ρ L) := []
  calls : List (Call ρ L) := []
  deriving DecidableEq, Repr

namespace Performance

variable {ρ L : Type} [DecidableEq L]

/-- How many records a reader has taken. -/
def taken (p : Performance ρ L) (reader : Text) : Nat :=
  ((p.readers.find? (·.1 = reader)).map (·.2)).getD 0

/-- The performance after a reader has taken so many records. -/
def setTaken (p : Performance ρ L) (reader : Text) (count : Nat) : Performance ρ L :=
  { p with readers := (reader, count) :: p.readers.filter (·.1 != reader) }

/-- The performance after an operation on the channel that owes calls. -/
def owe (p : Performance ρ L) (change : Channel ρ L × List (Call ρ L)) : Performance ρ L :=
  { p with channel := change.1, agenda := change.2.map .call ++ p.agenda }

/-- The next record for a reader. -/
def readNext (p : Performance ρ L) (reader : Text) : Performance ρ L × Channel.Next ρ :=
  match p.channel.next (p.taken reader) with
  | .record r => (p.setTaken reader (p.taken reader + 1), .record r)
  | n => (p, n)

/-- Perform one operation, without the calls that it owes. -/
def perform (p : Performance ρ L) :
    Operation ρ L → Except Failure (Performance ρ L × Result ρ)
  | .push r => (p.channel.push r).map fun change => (p.owe change, .done)
  | .finish => .ok (p.owe p.channel.finish, .done)
  | .complete => .ok (p.owe p.channel.complete, .done)
  | .fail f => .ok (p.owe (p.channel.fail f), .done)
  | .subscribe s => .ok (p.owe (p.channel.subscribe s), .done)
  | .wait => p.channel.wait.map fun b => (p, .settled b)
  | .readAll => .ok (p, if p.channel.ended then .records p.channel.records else .next .blocked)
  | .startReading reader => .ok (p.setTaken reader 0, .done)
  | .readNext reader => .ok ((p.readNext reader).1, .next (p.readNext reader).2)
  | .raise f => .error f

/-- Make a call: the listener gets its signal, and performs what its script says. -/
def call (p : Performance ρ L) (c : Call ρ L) : Performance ρ L :=
  { p with
    script := (p.script.take c.listener).2
    agenda := (p.script.take c.listener).1.map .perform ++ p.agenda
    calls := p.calls ++ [c] }

/-- The number of operations on an agenda. -/
def operations : List (Task ρ L) → Nat
  | [] => 0
  | .perform _ :: rest => operations rest + 1
  | .call _ :: rest => operations rest

omit [DecidableEq L] in
@[simp] theorem operations_calls (calls : List (Call ρ L)) (rest : List (Task ρ L)) :
    operations (calls.map .call ++ rest) = operations rest := by
  induction calls with
  | nil => rfl
  | cons _ _ ih => simpa [operations] using ih

omit [DecidableEq L] in
@[simp] theorem operations_performs (ops : List (Operation ρ L)) (rest : List (Task ρ L)) :
    operations (ops.map .perform ++ rest) = ops.length + operations rest := by
  induction ops with
  | nil => simp
  | cons _ _ ih => simp [operations, ih]; omega

/-- The operations that are still to be performed, those of the script included. -/
def remaining (p : Performance ρ L) : Nat := operations p.agenda + p.script.size

omit [DecidableEq L] in
@[simp] theorem remaining_owe (p : Performance ρ L) (change : Channel ρ L × List (Call ρ L)) :
    (p.owe change).remaining = p.remaining := by
  simp [remaining, owe]

omit [DecidableEq L] in
@[simp] theorem remaining_setTaken (p : Performance ρ L) (reader : Text) (count : Nat) :
    (p.setTaken reader count).remaining = p.remaining := rfl

omit [DecidableEq L] in
@[simp] theorem remaining_readNext (p : Performance ρ L) (reader : Text) :
    (p.readNext reader).1.remaining = p.remaining := by
  unfold readNext
  split <;> simp

omit [DecidableEq L] in
/-- An operation adds calls to the agenda, and no operations. -/
theorem remaining_perform {p q : Performance ρ L} {op : Operation ρ L} {r : Result ρ}
    (h : p.perform op = .ok (q, r)) : q.remaining = p.remaining := by
  cases op with
  | push v =>
      simp only [perform, Except.map] at h
      split at h
      · cases h
      · cases h; simp
  | wait =>
      simp only [perform, Except.map] at h
      split at h
      · cases h
      · cases h; rfl
  | raise f => cases h
  | _ => cases h; simp

/-- A call moves operations from the script to the agenda. -/
@[simp] theorem remaining_call (p : Performance ρ L) (c : Call ρ L) :
    (p.call c).remaining = p.remaining := by
  have := Script.size_take c.listener p.script
  simp only [remaining, call, operations_performs]
  omega

/-- Do everything that is on the agenda.  A failure ends it at once. -/
def run (p : Performance ρ L) : Performance ρ L × Option Failure :=
  match _hp : p.agenda with
  | [] => (p, none)
  | .perform op :: rest =>
      match _h : ({ p with agenda := rest } : Performance ρ L).perform op with
      | .ok (q, _) => run q
      | .error f => ({ p with agenda := [] }, some f)
  | .call c :: rest => run (({ p with agenda := rest } : Performance ρ L).call c)
termination_by (p.remaining, p.agenda.length - operations p.agenda)
decreasing_by
  · have := remaining_perform _h
    apply Prod.Lex.left
    simp only [remaining, _hp, operations] at *
    omega
  · rw [remaining_call]
    have e : ({ p with agenda := rest } : Performance ρ L).remaining = p.remaining := by
      simp [remaining, _hp, operations]
    rw [e]
    apply Prod.Lex.right
    have hle : ∀ l : List (Task ρ L), operations l ≤ l.length := by
      intro l
      induction l with
      | nil => simp [operations]
      | cons t _ ih => cases t <;> simp [operations] <;> omega
    have := hle rest
    simp only [call, _hp, operations, operations_performs, List.length_append, List.length_map,
      List.length_cons]
    omega

/-- Perform an operation and everything that follows from it. -/
def start (p : Performance ρ L) (op : Operation ρ L) :
    Performance ρ L × Except Failure (Result ρ) :=
  match p.perform op with
  | .error f => (p, .error f)
  | .ok (q, result) =>
      match q.run with
      | (q, none) => (q, .ok result)
      | (q, some f) => (q, .error f)

end Performance

end MarkupCatalog
