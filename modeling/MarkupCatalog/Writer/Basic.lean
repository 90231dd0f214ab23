import MarkupCatalog.Failure
import MarkupCatalog.Log.Record
import MarkupCatalog.Path

/-!
# Writers

A writer puts chunks of text into a file while the rest of the program goes on.  The
program only adds messages to the writer's queue; the writer takes them one by one, and
tells when all is written, when the file is closed, or that something went wrong.

What the writer does next depends on its stage.  Everything outside it (the file, the
ones who are told, the log) is given as a record of operations on some state, so the same
definition serves for every file and for every way in which an operation can fail.
-/

namespace MarkupCatalog

namespace Writer

/-- What the program has to say to a writer. -/
inductive Message
  | chunk (t : Text)
  | finish
  | abort
  deriving DecidableEq, Repr

/-- Where a writer is in its work. -/
inductive Stage
  | opening
  /-- The file is open; the messages are taken one by one. -/
  | writing
  | flushing
  /-- All is written: this is to be told. -/
  | finishing
  | closing
  /-- The file is closed: this is to be told. -/
  | announcing
  /-- The work is given up: the file is to be closed. -/
  | aborting
  /-- An operation was refused: the file is to be closed. -/
  | recovering (f : Failure)
  /-- An operation was refused: this is to be told. -/
  | reporting (f : Failure)
  | done
  /-- A failure that nobody expects has ended the work. -/
  | dead (f : Failure)
  deriving DecidableEq, Repr

end Writer

/-- A writer: its file, the messages that wait, whether more may come, where it is in its
work, and the refusal that it has reported. -/
structure Writer where
  path : Path
  queue : List Writer.Message := []
  ended : Bool := false
  stage : Writer.Stage := .opening
  error : Option Failure := none
  deriving DecidableEq, Repr

namespace Writer

/-- Add a chunk, unless the end has been announced. -/
def write (w : Writer) (t : Text) : Except Failure Writer :=
  if w.ended then .error .writeAfterEnd
  else .ok { w with queue := w.queue ++ [.chunk t] }

/-- Announce the end, after one more chunk if there is one. -/
def finish (w : Writer) (last : Option Text) : Except Failure Writer := do
  let w ← match last with
    | some t => w.write t
    | none => .ok w
  return { w with ended := true, queue := w.queue ++ [.finish] }

/-- Ask the writer to give up. -/
def abort (w : Writer) : Writer := { w with ended := true, queue := w.queue ++ [.abort] }

/-- What the program can ask of a writer. -/
inductive Request
  | write (t : Text)
  | finish (last : Option Text)
  | abort
  deriving DecidableEq, Repr

/-- The writer after a request. -/
def request (w : Writer) : Request → Except Failure Writer
  | .write t => w.write t
  | .finish last => w.finish last
  | .abort => .ok w.abort

/-- Everything outside a writer, with a state of type `σ`.  An operation changes the
state, and may fail. -/
structure Surroundings (σ : Type) where
  openFile : σ → σ × Option Failure
  write : Text → σ → σ × Option Failure
  flush : σ → σ × Option Failure
  close : σ → σ × Option Failure
  /-- All is written. -/
  onFinish : σ → σ × Option Failure
  /-- The file is closed. -/
  onClose : σ → σ × Option Failure
  /-- An operation was refused. -/
  onError : Failure → σ → σ × Option Failure
  note : Log.Record → σ → σ

/-- A note of a writer. -/
def remark (level : Log.Level) (message : Text) : Log.Record := ⟨level, "sink", message⟩

/-- What is noted when the file is closed. -/
def closeNote (w : Writer) : Log.Record := remark .debug ("Closed " ++ w.path.text)

/-- What is noted when the work is given up. -/
def abortNote (w : Writer) : Log.Record := remark .debug ("Aborted " ++ w.path.text)

/-- What is noted when an operation was refused. -/
def failNote (w : Writer) (f : Failure) : Log.Record :=
  remark .error ("Writing " ++ w.path.text ++ " failed: " ++ f.message)

/-- Where a failure leads: a refusal by the system leads to `next`, and anything else
ends the work. -/
def Stage.after (f : Failure) (next : Failure → Stage) : Stage :=
  if f.isSystem then next f else .dead f

variable {σ : Type}

/-- The writer and everything around it after its next step.  There is none if it has
ended its work, or if it waits for a message. -/
def step (env : Surroundings σ) (w : Writer) (s : σ) : Option (Writer × σ) :=
  match w.stage with
  | .opening =>
      match env.openFile s with
      | (s, none) => some ({ w with stage := .writing }, s)
      | (s, some f) => some ({ w with stage := .after f .reporting }, s)
  | .writing =>
      match w.queue with
      | [] => none
      | .chunk t :: queue =>
          match env.write t s with
          | (s, none) => some ({ w with queue }, s)
          | (s, some f) => some ({ w with queue, stage := .after f .recovering }, s)
      | .finish :: queue => some ({ w with queue, stage := .flushing }, s)
      | .abort :: queue => some ({ w with queue, stage := .aborting }, s)
  | .flushing =>
      match env.flush s with
      | (s, none) => some ({ w with stage := .finishing }, s)
      | (s, some f) => some ({ w with stage := .after f .recovering }, s)
  | .finishing =>
      match env.onFinish s with
      | (s, none) => some ({ w with stage := .closing }, s)
      | (s, some f) => some ({ w with stage := .dead f }, s)
  | .closing =>
      match env.close s with
      | (s, none) => some ({ w with stage := .announcing }, env.note w.closeNote s)
      | (s, some f) => some ({ w with stage := .dead f }, s)
  | .announcing =>
      match env.onClose s with
      | (s, none) => some ({ w with stage := .done }, s)
      | (s, some f) => some ({ w with stage := .dead f }, s)
  | .aborting =>
      match env.close s with
      | (s, none) => some ({ w with stage := .done }, env.note w.abortNote s)
      | (s, some f) => some ({ w with stage := .after f .recovering }, s)
  | .recovering f =>
      match env.close s with
      | (s, none) => some ({ w with stage := .reporting f }, s)
      | (s, some g) => some ({ w with stage := .dead g }, s)
  | .reporting f =>
      match env.onError f (env.note (w.failNote f) s) with
      | (s, none) => some ({ w with stage := .done, error := some f }, s)
      | (s, some g) => some ({ w with stage := .dead g, error := some f }, s)
  | .done => none
  | .dead _ => none

/-- An upper bound for the steps from a stage on, if no message is taken. -/
def Stage.rank : Stage → Nat
  | .opening => 8
  | .writing => 7
  | .flushing => 6
  | .finishing => 5
  | .closing => 4
  | .announcing => 3
  | .aborting => 3
  | .recovering _ => 2
  | .reporting _ => 1
  | .done => 0
  | .dead _ => 0

/-- An upper bound for the steps that a writer can take without new messages. -/
def work (w : Writer) : Nat := w.queue.length + w.stage.rank

/-- Every step brings a writer nearer to the end of its work. -/
theorem work_step {env : Surroundings σ} {w v : Writer} {s t : σ}
    (h : w.step env s = some (v, t)) : v.work < w.work := by
  unfold step at h
  repeat' split at h
  all_goals cases h
  all_goals
    simp only [work, Stage.after, Stage.rank, List.length_cons, *]
    grind

/-- Let a writer work until it has ended or waits for a message. -/
def run (env : Surroundings σ) (w : Writer) (s : σ) : Writer × σ :=
  match _h : w.step env s with
  | none => (w, s)
  | some (v, t) => v.run env t
termination_by w.work
decreasing_by exact work_step _h

/-- Has the writer ended its work? -/
def hasEnded (w : Writer) : Bool :=
  match w.stage with
  | .done => true
  | .dead _ => true
  | _ => false

/-- The failure that has ended the work before its time. -/
def deathCause (w : Writer) : Option Failure :=
  match w.stage with
  | .dead f => some f
  | _ => none

end Writer

end MarkupCatalog
