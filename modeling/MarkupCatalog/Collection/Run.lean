import MarkupCatalog.Channel.Basic
import MarkupCatalog.Collection.Plan
import MarkupCatalog.Log.Logger
import MarkupCatalog.Writer.Basic
import MarkupCatalog.Writer.OutputFile

/-!
# Collecting records

A collection scans a directory, and then its main line carries out the plan while a
writer, if a file is to be written, puts the records into it.  Both share the channel, the
log and the file system.  The callback of the caller is called by the writer once
everything is written, or by the main line if there is no writer.

The order in which main line and writer take turns is free; here the writer works for as
long as it can after every action of the main line.
-/

namespace MarkupCatalog

/-- The channel of a collection.  Its listeners are numbered. -/
abbrev RecordChannel := Channel Record Nat

namespace Collection

/-- What the main line of a collection and its writer share. -/
structure Shared where
  file : OutputFile
  journal : Log.Journal
  channel : RecordChannel := {}
  /-- The records that the main line has kept. -/
  collected : List Record := []
  /-- What the callback was given at each of its calls. -/
  completions : List (List Record) := []

namespace Shared

/-- Report a message. -/
def note (r : Log.Record) (s : Shared) : Shared :=
  match s.journal.note s.file.fs r with
  | (journal, fs) => { s with journal, file := { s.file with fs } }

/-- Report messages one after the other. -/
def noteAll (rs : List Log.Record) (s : Shared) : Shared := rs.foldl (fun s r => s.note r) s

/-- Use the file. -/
def onFile (operation : OutputFile → OutputFile × Option Failure) (s : Shared) :
    Shared × Option Failure :=
  match operation s.file with
  | (file, failure) => ({ s with file }, failure)

/-- Let the channel fail. -/
def failChannel (f : Failure) (s : Shared) : Shared :=
  { s with channel := (s.channel.fail f).1 }.noteAll (s.channel.failNote f)

/-- Call the callback, if there is one, with the records that were kept. -/
def complete (callback : Option Callback) (s : Shared) : Shared × Option Failure :=
  match callback with
  | none => (s, none)
  | some c => ({ s with completions := s.completions ++ [s.collected] }, c.raises)

/-- Call the callback and report its failure on the channel. -/
def completeSafely (callback : Option Callback) (s : Shared) : Shared :=
  match s.complete callback with
  | (s, none) => s
  | (s, some f) => (s.note (Collection.note .error "Completion callback failed")).failChannel f

/-- What is around the writer of a collection. -/
def surroundings (path : Path) (callback : Option Callback) : Writer.Surroundings Shared where
  openFile := onFile (OutputFile.openFile path "utf-8")
  write chunk := onFile (OutputFile.write chunk)
  flush := onFile OutputFile.flush
  close := onFile OutputFile.close
  onFinish s := (s.completeSafely callback, none)
  onClose s := ({ s with channel := s.channel.complete.1 }, none)
  onError f s := (s.failChannel f, none)
  note := note

end Shared

/-- A collection under way. -/
structure State where
  shared : Shared
  writer : Option Writer := none

namespace State

/-- Let the writer work for as long as it can. -/
def proceed (callback : Option Callback) (s : State) : State :=
  match s.writer with
  | none => s
  | some w =>
      match w.run (Shared.surroundings w.path callback) s.shared with
      | (writer, shared) => ⟨shared, some writer⟩

/-- Ask something of the writer, if there is one. -/
def request (r : Writer.Request) (s : State) : State × Option Failure :=
  match s.writer with
  | none => (s, none)
  | some w =>
      match w.request r with
      | .ok w => ({ s with writer := some w }, none)
      | .error f => (s, some f)

/-- Carry out an action. -/
def act (callback : Option Callback) (s : State) : Action → State × Option Failure
  | .note r => ({ s with shared := s.shared.note r }, none)
  | .write chunk => s.request (.write chunk)
  | .keep r =>
      match s.shared.channel.push r with
      | .error f => (s, some f)
      | .ok (channel, _) =>
          ({ s with shared := { s.shared with
              channel, collected := s.shared.collected ++ [r] } }, none)
  | .fail f => (s, some f)
  | .endChannel =>
      ({ s with shared := { s.shared with channel := s.shared.channel.finish.1 } }, none)
  | .finish =>
      match s.writer with
      | some _ => s.request (.finish (some "]"))
      | none =>
          match s.shared.complete callback with
          | (shared, failure) => ({ s with shared }, failure)

/-- Carry out actions.  A failure ends it, and the writer gives up. -/
def perform (callback : Option Callback) : State → List Action → State × Option Failure
  | s, [] => (s, none)
  | s, a :: rest =>
      match s.act callback a with
      | (s, none) => perform callback (s.proceed callback) rest
      | (s, some f) => ((s.request .abort).1.proceed callback, some f)

end State

end Collection

/-- A collection that is ready to start. -/
structure Collector where
  settings : Settings
  scanner : Scan.Scanner
  parser : Collection.Parser

namespace Collector

/-- The collector with the usual scanner and parser for the settings. -/
def ofSettings (s : Settings) (codecs : Charset.Codecs) : Collector where
  settings := s
  scanner := ⟨s.dialect.keyword, s.extensions, s.excludes, s.charset, codecs⟩
  parser := .ofDialect s.dialect

/-- What a collection comes to: how everything stands afterwards, and the failure that
ended it early. -/
structure Outcome where
  state : Collection.State
  failure : Option Failure

/-- The state before the plan is carried out: the writer, if there is one, has started. -/
def start (c : Collector) (shared : Collection.Shared) : Collection.State :=
  let shared := { shared with channel := { awaitsWriter := c.settings.writesOutput } }
  Collection.State.proceed c.settings.onComplete
    ⟨shared, c.settings.output.map fun path => { path }⟩

/-- Collect all records below the root directory. -/
def run (c : Collector) (fs : FileSystem) (account : Account) (journal : Log.Journal) : Outcome :=
  let root := c.settings.root.text
  let shared : Collection.Shared := { file := { fs }, journal }
  let shared := shared.note (Collection.note .info ("Collecting components under " ++ root))
  match c.scanner.scan shared.file.fs account root with
  | (log, .error f) => ⟨⟨shared.noteAll log, none⟩, some f⟩
  | (log, .ok registry) =>
      let shared := (shared.noteAll log).note
        (Collection.note .debug
          ("Registry holds " ++ Text.ofNat registry.length ++ " annotated files"))
      match (c.start shared).perform c.settings.onComplete
          (Collection.plan c.settings c.parser registry) with
      | (state, failure) => ⟨state, failure⟩

end Collector

end MarkupCatalog
