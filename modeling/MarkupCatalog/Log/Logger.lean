import MarkupCatalog.FileSystem.Operation
import MarkupCatalog.Charset.Utf8
import MarkupCatalog.Log.Record

/-!
# The logger

The logger decides which messages are worth reporting and hands them to its handlers: one
for the console and, if it is asked for, one for a file that grows from run to run.
Setting it up anew removes all handlers that were there before and closes them.  A handler
whose file has refused bytes still holds them back, and then closing it fails.  What is told
on the console about a line that was refused is left out here.
-/

namespace MarkupCatalog.Log

/-- Where messages go.  A handler passes over messages below its level. -/
inductive Handler
  | console (level : Level)
  | file (level : Level) (path : Path) (handle : FileSystem.Handle)
  deriving DecidableEq, Repr

/-- The least level that a handler reports. -/
def Handler.level : Handler → Level
  | .console level => level
  | .file level _ _ => level

/-- The logger.  Before it is set up it has no level of its own and no handlers. -/
structure Logger where
  level : Level := 0
  propagates : Bool := true
  handlers : List Handler := []
  /-- The time that lines of the file are marked with. -/
  clock : Text
  deriving DecidableEq, Repr

/-- How much is reported. -/
structure Verbosity where
  verbose : Bool := false
  quiet : Bool := false
  deriving DecidableEq, Repr

/-- The least level that is reported.  Whoever asks for more and less gets more. -/
def Verbosity.level (v : Verbosity) : Level :=
  if v.verbose then .debug else if v.quiet then .warning else .info

/-- The line for the console. -/
def consoleLine (r : Record) : Text :=
  "[" ++ programName ++ "] " ++ Level.name r.level ++ " " ++ r.message ++ "\n"

/-- The line for the file. -/
def fileLine (clock : Text) (r : Record) : Text :=
  clock ++ " " ++ Level.name r.level ++ " " ++ fullName r.part ++ ": " ++ r.message ++ "\n"

namespace Handler

/-- The handler after it has seen a message.  What its file refuses waits behind it. -/
def after (clock : Text) (fs : FileSystem) (r : Record) : Handler → Handler
  | .console level => .console level
  | .file level path writer =>
      if r.level < level then .file level path writer
      else
        .file level path (writer.writeThrough fs (Charset.Utf8.encode (fileLine clock r))).handle

/-- Close the handler. -/
def close (fs : FileSystem) : Handler → FileSystem × Option Failure
  | .console _ => (fs, none)
  | .file _ _ writer =>
      let outcome := writer.close fs
      (outcome.fs, outcome.fault.map fun fault => .refused ⟨fault, none⟩)

/-- Remove handlers one after the other and close each of them.  One that cannot be closed
is gone all the same, but those after it are left. -/
def closeAll (fs : FileSystem) : List Handler → List Handler × FileSystem × Option Failure
  | [] => ([], fs, none)
  | h :: rest =>
      match h.close fs with
      | (fs, some failure) => (rest, fs, some failure)
      | (fs, none) => closeAll fs rest

end Handler

namespace Logger

/-- The logger with nothing but a console handler. -/
def toConsole (l : Logger) (v : Verbosity) : Logger :=
  { l with level := v.level, propagates := false, handlers := [.console v.level] }

/-- The logger with one more handler. -/
def withHandler (l : Logger) (h : Handler) : Logger := { l with handlers := l.handlers ++ [h] }

/-- Set up a logger whose old handlers are gone.  The console handler is there even if the
file cannot be opened. -/
def configureAnew (l : Logger) (fs : FileSystem) (v : Verbosity) (file : Option Path) :
    Logger × FileSystem × Option Failure :=
  let l := l.toConsole v
  match file with
  | none => (l, fs, none)
  | some path =>
      match fs.ensureDirectories path.parent with
      | (fs, some failure) => (l, fs, some failure)
      | (fs, none) =>
          let absolute := fs.absolutePath path
          match fs.openToWrite true absolute.text with
          | .error failure => (l, fs, some failure)
          | .ok (fs, handle) => (l.withHandler (.file v.level absolute handle), fs, none)

/-- Set the logger up.  If an old handler cannot be closed, no new one is there. -/
def configure (l : Logger) (fs : FileSystem) (v : Verbosity) (file : Option Path) :
    Logger × FileSystem × Option Failure :=
  match Handler.closeAll fs l.handlers with
  | (left, fs, some failure) => ({ l.toConsole v with handlers := left }, fs, some failure)
  | (_, fs, none) => l.configureAnew fs v file

/-- The least level that is looked at. -/
def threshold (l : Logger) : Level := if l.level = 0 then .warning else l.level

/-- What a handler writes to the console, and the file system after it has seen a
message. -/
def handle (clock : Text) (fs : FileSystem) (r : Record) (h : Handler) : FileSystem × Text :=
  if r.level < h.level then (fs, [])
  else match h with
    | .console _ => (fs, consoleLine r)
    | .file _ _ file =>
        ((file.writeThrough fs (Charset.Utf8.encode (fileLine clock r))).fs, [])

/-- Hand a message to each of the handlers. -/
def handleAll (clock : Text) (fs : FileSystem) (r : Record) : List Handler → FileSystem × Text
  | [] => (fs, [])
  | h :: rest =>
      let (fs, first) := handle clock fs r h
      let (fs, others) := handleAll clock fs r rest
      (fs, first ++ others)

/-- Report a message: what is written to the console, and the file system after it.  A
logger without handlers writes bare warnings to the console. -/
def emit (l : Logger) (fs : FileSystem) (r : Record) : FileSystem × Text :=
  if r.level < l.threshold then (fs, [])
  else if l.handlers.isEmpty then
    (fs, if r.level < Level.warning then [] else r.message ++ "\n")
  else handleAll l.clock fs r l.handlers

/-- The logger after a message has been reported. -/
def after (l : Logger) (fs : FileSystem) (r : Record) : Logger :=
  if r.level < l.threshold then l
  else { l with handlers := l.handlers.map (Handler.after l.clock fs r) }

end Logger

/-- A logger with what it was told and what it wrote to the console, for as long as it is not
set up anew.  Until then it makes no difference what its handlers hold back. -/
structure Journal where
  logger : Logger
  records : List Record := []
  console : Text := []

/-- Report a message. -/
def Journal.note (j : Journal) (fs : FileSystem) (r : Record) : Journal × FileSystem :=
  match j.logger.emit fs r with
  | (fs, line) => ({ j with records := j.records ++ [r], console := j.console ++ line }, fs)

end MarkupCatalog.Log
