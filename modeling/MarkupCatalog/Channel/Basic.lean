import MarkupCatalog.Failure
import MarkupCatalog.Log.Record

/-!
# Channels

A channel carries records to those who listen.  It keeps every record, so whoever comes
late still gets all of them, and it gives three signals besides: that no more records
come, that the file with the records is closed, and that something went wrong.

An operation changes the channel first and owes calls to listeners afterwards.  The
definitions here give both: the channel after the operation, and the calls in their
order.  What the listeners do meanwhile is the matter of `MarkupCatalog.Channel.Performance`.
-/

namespace MarkupCatalog

/-- What a listener is told. -/
inductive Signal (ρ : Type)
  | record (r : ρ)
  | ended
  | completed
  | failed (f : Failure)
  deriving DecidableEq, Repr

/-- A call that a channel owes to a listener. -/
structure Call (ρ L : Type) where
  listener : L
  signal : Signal ρ
  deriving DecidableEq, Repr

/-- The listeners that somebody registers at once, at most one for each kind of signal. -/
structure Subscription (L : Type) where
  onRecord : Option L := none
  onEnd : Option L := none
  onComplete : Option L := none
  onError : Option L := none
  deriving DecidableEq, Repr

/-- A channel for records of type `ρ` with listeners of type `L`. -/
structure Channel (ρ L : Type) where
  /-- Is there a file to be closed before the run has settled? -/
  awaitsWriter : Bool := false
  records : List ρ := []
  ended : Bool := false
  completed : Bool := false
  failure : Option Failure := none
  settled : Bool := false
  recordListeners : List L := []
  endListeners : List L := []
  completeListeners : List L := []
  errorListeners : List L := []
  deriving DecidableEq, Repr

namespace Channel

variable {ρ L : Type}

/-- One call of the same kind for each listener. -/
def callAll (listeners : List L) (signal : Signal ρ) : List (Call ρ L) :=
  listeners.map (⟨·, signal⟩)

/-- Add a record.  A channel that has ended takes none. -/
def push (c : Channel ρ L) (r : ρ) : Except Failure (Channel ρ L × List (Call ρ L)) :=
  if c.ended then .error .channelEnded
  else .ok ({ c with records := c.records ++ [r] }, callAll c.recordListeners (.record r))

/-- No more records come.  Only the first time counts. -/
def finish (c : Channel ρ L) : Channel ρ L × List (Call ρ L) :=
  if c.ended then (c, [])
  else ({ c with ended := true, settled := c.settled || !c.awaitsWriter },
    callAll c.endListeners .ended)

/-- The file with the records is closed.  Only the first time counts. -/
def complete (c : Channel ρ L) : Channel ρ L × List (Call ρ L) :=
  if c.completed then (c, [])
  else ({ c with completed := true, settled := true }, callAll c.completeListeners .completed)

/-- Something went wrong.  Only the first failure counts. -/
def fail (c : Channel ρ L) (f : Failure) : Channel ρ L × List (Call ρ L) :=
  if c.failure.isSome then (c, [])
  else ({ c with failure := some f, settled := true }, callAll c.errorListeners (.failed f))

/-- What is noted when a channel fails. -/
def failNote (c : Channel ρ L) (f : Failure) : List Log.Record :=
  if c.failure.isSome then [] else [⟨.debug, "channel", "Channel failed: " ++ f.message⟩]

/-- The calls that bring a new subscriber up to date. -/
def replay (c : Channel ρ L) (s : Subscription L) : List (Call ρ L) :=
  (match s.onRecord with
    | some l => c.records.map fun r => ⟨l, .record r⟩
    | none => [])
  ++ (if c.ended then callAll s.onEnd.toList .ended else [])
  ++ (if c.completed then callAll s.onComplete.toList .completed else [])
  ++ (match c.failure with
    | some f => callAll s.onError.toList (.failed f)
    | none => [])

/-- Register listeners.  They are told what they have missed. -/
def subscribe (c : Channel ρ L) (s : Subscription L) : Channel ρ L × List (Call ρ L) :=
  ({ c with
      recordListeners := c.recordListeners ++ s.onRecord.toList
      endListeners := c.endListeners ++ s.onEnd.toList
      completeListeners := c.completeListeners ++ s.onComplete.toList
      errorListeners := c.errorListeners ++ s.onError.toList },
    c.replay s)

/-- Has the run settled?  A failure is raised again. -/
def wait (c : Channel ρ L) : Except Failure Bool :=
  if !c.settled then .ok false
  else match c.failure with
    | some f => .error f
    | none => .ok true

/-- What somebody gets who asks for the next record. -/
inductive Next (ρ : Type)
  | record (r : ρ)
  /-- There are no more records. -/
  | stopped
  /-- There may be one later. -/
  | blocked
  deriving DecidableEq, Repr

/-- The next record for a reader that has taken so many already. -/
def next (c : Channel ρ L) (taken : Nat) : Next ρ :=
  match c.records[taken]? with
  | some r => .record r
  | none => if c.ended then .stopped else .blocked

end Channel

end MarkupCatalog
