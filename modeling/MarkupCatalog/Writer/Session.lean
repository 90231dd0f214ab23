import MarkupCatalog.Callback
import MarkupCatalog.Writer.Basic
import MarkupCatalog.Writer.OutputFile

/-!
# A writer with its file

A session is a writer together with its file and the callbacks that are told about its
progress.  After every request the writer works for as long as it has something to do.
-/

namespace MarkupCatalog.Writer

/-- What a writer tells. -/
inductive Notice
  | finished
  | closed
  | failed (f : Failure)
  deriving DecidableEq, Repr

/-- Who is told, and how they take it. -/
structure Callbacks where
  onFinish : Option Callback := none
  onClose : Option Callback := none
  onError : Option Callback := none
  deriving DecidableEq, Repr

/-- What is around a writer: the file, the notices that were heard, and the log. -/
structure Desk where
  file : OutputFile
  notices : List Notice := []
  log : List Log.Record := []

namespace Desk

/-- The desk after an operation on the file. -/
def onFile (operation : OutputFile → OutputFile × Option Failure) (d : Desk) :
    Desk × Option Failure :=
  match operation d.file with
  | (file, failure) => ({ d with file }, failure)

/-- The desk after a callback, if there is one, was told. -/
def tell (callback : Option Callback) (notice : Notice) (d : Desk) : Desk × Option Failure :=
  match callback with
  | none => (d, none)
  | some c => ({ d with notices := d.notices ++ [notice] }, c.raises)

/-- The desk as what is around a writer. -/
def surroundings (path : Path) (charset : Text) (callbacks : Callbacks) : Surroundings Desk where
  openFile := onFile (OutputFile.openFile path charset)
  write chunk := onFile (OutputFile.write chunk)
  flush := onFile OutputFile.flush
  close := onFile OutputFile.close
  onFinish := tell callbacks.onFinish .finished
  onClose := tell callbacks.onClose .closed
  onError f := tell callbacks.onError (.failed f)
  note record d := { d with log := d.log ++ [record] }

end Desk

/-- A writer at work. -/
structure Session where
  writer : Writer
  charset : Text
  callbacks : Callbacks
  desk : Desk

namespace Session

/-- Let the writer work for as long as it can. -/
def proceed (s : Session) : Session :=
  match s.writer.run (Desk.surroundings s.writer.path s.charset s.callbacks) s.desk with
  | (writer, desk) => { s with writer, desk }

/-- Start a writer. -/
def start (fs : FileSystem) (path : Path) (charset : Text) (callbacks : Callbacks) : Session :=
  proceed { writer := { path }, charset, callbacks, desk := { file := { fs } } }

/-- Ask something of the writer. -/
def request (s : Session) (r : Request) : Except Failure Session :=
  (s.writer.request r).map fun writer => { s with writer }.proceed

/-- Give up, unless the end was announced already. -/
def abandon (s : Session) : Session :=
  if s.writer.ended then s else { s with writer := s.writer.abort }.proceed

end Session

end MarkupCatalog.Writer
