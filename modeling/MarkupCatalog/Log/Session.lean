import MarkupCatalog.Log.Logger

/-!
# Logging sessions

The logger of a process can be set up any number of times, and messages come in between.
-/

namespace MarkupCatalog.Log

/-- What happens to the logger of a process. -/
inductive Event
  | setUp (v : Verbosity) (file : Option Path)
  | message (r : Record)
  deriving DecidableEq, Repr

/-- The logger of a process, the file system, and all that was written to the console. -/
structure Session where
  logger : Logger
  fs : FileSystem
  console : Text := []

namespace Session

/-- A session whose logger has not been set up. -/
def fresh (clock : Text) (fs : FileSystem) : Session := { logger := { clock }, fs }

/-- Set the logger up. -/
def setUp (s : Session) (v : Verbosity) (file : Option Path) : Session × Option Failure :=
  match s.logger.configure s.fs v file with
  | (logger, fs, failure) => ({ s with logger, fs }, failure)

/-- Report a message. -/
def tell (s : Session) (r : Record) : Session :=
  match s.logger.emit s.fs r with
  | (fs, line) => { logger := s.logger.after s.fs r, fs, console := s.console ++ line }

/-- What an event makes of a session.  The failure of a set-up does not end it. -/
def step (s : Session) : Event → Session
  | .setUp v file => (s.setUp v file).1
  | .message r => s.tell r

/-- What events make of a session one after the other. -/
def run (s : Session) (events : List Event) : Session := events.foldl step s

end Session

end MarkupCatalog.Log
