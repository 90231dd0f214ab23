import MarkupCatalog.FileSystem.Reading

/-!
# Output files

A text file that is being written.  The directories above it are made when it is opened,
and what it held before is lost.  A charset that begins with a mark gets it before the
first chunk.
-/

namespace MarkupCatalog

/-- A file that is written to, and the file system that it is in. -/
structure OutputFile where
  fs : FileSystem
  handle : Option FileSystem.Handle := none
  charset : Charset := .utf8
  codecs : Charset.Codecs := .ascii
  /-- Has nothing been written yet? -/
  fresh : Bool := true

namespace OutputFile

/-- Open a file.  The charset is looked for when the file is there already. -/
def openFile (path : Path) (charset : Text) (f : OutputFile) : OutputFile × Option Failure :=
  match f.fs.ensureDirectories path.parent with
  | (fs, some failure) => ({ f with fs }, some failure)
  | (fs, none) =>
      if charset.contains '\x00' then ({ f with fs }, some .nullInName)
      else match fs.openToWrite false path.text with
        | .error failure => ({ f with fs }, some failure)
        | .ok (fs, handle) =>
            match FileSystem.charsetNamed charset with
            | .error failure => ({ f with fs }, some failure)
            | .ok charset => ({ f with fs, handle := some handle, charset }, none)

/-- The file after an operation on its handle. -/
def after (f : OutputFile) (outcome : FileSystem.Handle.Outcome) : OutputFile × Option Failure :=
  ({ f with fs := outcome.fs, handle := some outcome.handle },
    outcome.fault.map fun fault => .refused ⟨fault, none⟩)

/-- Write a chunk.  One that the charset cannot express is not written at all. -/
def write (chunk : Text) (f : OutputFile) : OutputFile × Option Failure :=
  match f.handle with
  | none => (f, none)
  | some handle =>
      match Charset.encode f.codecs chunk f.fresh f.charset with
      | .error fault => (f, some (FileSystem.writeFailure fault))
      | .ok bytes => { f with fresh := false }.after (handle.write f.fs bytes)

/-- Hand on everything that waits. -/
def flush (f : OutputFile) : OutputFile × Option Failure :=
  match f.handle with
  | some handle => f.after (handle.flush f.fs)
  | none => (f, none)

/-- Close the file. -/
def close (f : OutputFile) : OutputFile × Option Failure :=
  match f.handle with
  | some handle => f.after (handle.close f.fs)
  | none => (f, none)

end OutputFile

end MarkupCatalog
