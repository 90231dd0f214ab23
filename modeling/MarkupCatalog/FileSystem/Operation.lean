import MarkupCatalog.Failure
import MarkupCatalog.FileSystem.Lookup

/-!
# Operations on the file system

Looking, reading, and making directories and files.  An operation that is refused names
the path as it was given.  No path may hold the character U+0000.
-/

namespace MarkupCatalog.FileSystem

/-- The refusal of an operation on a path. -/
def refusal (fault : Fault) (path : Text) : Failure := .refused ⟨fault, some path⟩

/-- Where a path leads to. -/
def lookUp (fs : FileSystem) (goal : Goal) (path : Text) : Except Failure Location :=
  if path.contains '\x00' then .error .nullInPath
  else (fs.locate goal path).mapError (refusal · path)

/-- What a path leads to.  That nothing is there, or nothing can be, is no failure. -/
def find? (fs : FileSystem) (path : Path) : Except Failure (Option Entry) :=
  match fs.lookUp .target path.text with
  | .ok location => .ok location.entry
  | .error .nullInPath => .ok none
  | .error (.refused ⟨.notFound, _⟩) => .ok none
  | .error (.refused ⟨.notDirectory, _⟩) => .ok none
  | .error (.refused ⟨.tooManyLinks, _⟩) => .ok none
  | .error failure => .error failure

/-- Is there something at the path? -/
def isThere (fs : FileSystem) (path : Path) : Except Failure Bool :=
  (fs.find? path).map (·.isSome)

/-- Is there a directory at the path? -/
def isDirectory (fs : FileSystem) (path : Path) : Except Failure Bool :=
  (fs.find? path).map (·.any Entry.isDirectory)

/-- The absolute form of a path, with all links followed.  Links that lead in a circle
are a failure. -/
def resolve (fs : FileSystem) (path : Path) : Except Failure Path :=
  if path.text.contains '\x00' then .error .nullInPath
  else
    let resolved := fs.resolvedPath path
    match fs.locate .target resolved.text with
    | .error .tooManyLinks => .error (.linkLoop resolved.text)
    | _ => .ok resolved

/-- The content of a file.  The devices have none. -/
def readBytes (fs : FileSystem) (path : Text) : Except Failure Bytes := do
  match (← fs.lookUp .target path).entry with
  | some (.file content) => return content
  | some (.directory _) => throw (refusal .isDirectory path)
  | some _ => return []
  | none => throw (refusal .notFound path)

/-- The entries of a directory. -/
def listDirectory (fs : FileSystem) (path : Path) : Except Failure (List (Text × Entry)) := do
  match (← fs.lookUp .target path.text).entry with
  | some (.directory entries) => return entries
  | some _ => throw (refusal .notDirectory path.text)
  | none => throw (refusal .notFound path.text)

/-- Make a directory. -/
def makeDirectory (fs : FileSystem) (path : Path) : Except Failure FileSystem := do
  let location ← fs.lookUp .entry path.text
  match location.entry with
  | some _ => throw (refusal .alreadyExists path.text)
  | none => return fs.put location.place .empty

/-- Make a directory; it may be there already. -/
def ensureDirectory (fs : FileSystem) (path : Path) : Except Failure FileSystem := do
  match fs.makeDirectory path with
  | .ok fs => return fs
  | .error (.refused ⟨.notFound, path⟩) => throw (.refused ⟨.notFound, path⟩)
  | .error (.refused r) => if ← fs.isDirectory path then return fs else throw (.refused r)
  | .error failure => throw failure

/-- Make a directory and the directories above it; they may be there already.  What has
been made stays, whatever comes after it. -/
def ensureDirectories (fs : FileSystem) (path : Path) : FileSystem × Option Failure :=
  match fs.ensureDirectory path with
  | .ok fs => (fs, none)
  | .error (.refused ⟨.notFound, p⟩) =>
      if _h : path.names = [] then (fs, some (.refused ⟨.notFound, p⟩))
      else match ensureDirectories fs path.parent with
        | (fs, some failure) => (fs, some failure)
        | (fs, none) =>
            match fs.ensureDirectory path with
            | .ok fs => (fs, none)
            | .error failure => (fs, some failure)
  | .error failure => (fs, some failure)
termination_by path.names.length
decreasing_by
  have := List.length_pos_iff.mpr ‹¬ path.names = []›
  simp only [Path.parent, List.length_dropLast]
  omega

/-- An open file or device that bytes are written to.  The full device refuses bytes only
when they reach it: `pending` of them wait in the text layer, and `buffered` of them
behind it. -/
inductive Handle
  | file (place : List Text)
  | null
  | full (pending buffered : Nat)
  deriving DecidableEq, Repr

/-- Open a file to write to.  One that is not there is made; unless `keep`, one that is
there is emptied. -/
def openToWrite (fs : FileSystem) (keep : Bool) (path : Text) :
    Except Failure (FileSystem × Handle) := do
  let location ← fs.lookUp .file path
  match location.entry with
  | some (.directory _) => throw (refusal .isDirectory path)
  | some (.device .null) => return (fs, .null)
  | some (.device .full) => return (fs, .full 0 0)
  | some (.file content) =>
      return (fs.put location.place (.file (if keep then content else [])), .file location.place)
  | some (.link _) => throw (refusal .tooManyLinks path)
  | none => return (fs.put location.place (.file []), .file location.place)

namespace Handle

/-- The number of bytes that wait in the text layer before they go on. -/
def textBuffer : Nat := 8192

/-- The number of bytes that wait before they go to a device. -/
def blockBuffer : Nat := 4096

/-- What came of an operation on a handle. -/
structure Outcome where
  fs : FileSystem
  handle : Handle
  fault : Option Fault := none

/-- Hand bytes on to the buffer in front of the full device: do they fit? -/
def fits (buffered count : Nat) : Bool := count + buffered ≤ blockBuffer

/-- Write bytes. -/
def write (h : Handle) (fs : FileSystem) (bytes : Bytes) : Outcome :=
  match h with
  | .file place =>
      match fs.at? place with
      | some (.file content) => ⟨fs.put place (.file (content ++ bytes)), h, none⟩
      | _ => ⟨fs, h, none⟩
  | .null => ⟨fs, h, none⟩
  | .full pending buffered =>
      let count := bytes.length
      -- what waits goes on first if the new bytes do not fit behind it
      let (pending, buffered, failed) :=
        if pending + count ≤ textBuffer then (pending + count, buffered, false)
        else if pending = 0 then (count, buffered, false)
        else if fits buffered pending then (count, buffered + pending, false)
        else (0, buffered, true)
      if failed then ⟨fs, .full pending buffered, some .noSpace⟩
      else if pending < textBuffer then ⟨fs, .full pending buffered, none⟩
      else if fits buffered pending then ⟨fs, .full 0 (buffered + pending), none⟩
      else ⟨fs, .full 0 buffered, some .noSpace⟩

/-- Hand on all bytes that wait. -/
def flush (h : Handle) (fs : FileSystem) : Outcome :=
  match h with
  | .full pending buffered =>
      if pending + buffered = 0 then ⟨fs, h, none⟩
      else if fits buffered pending then ⟨fs, .full 0 (buffered + pending), some .noSpace⟩
      else ⟨fs, .full 0 buffered, some .noSpace⟩
  | _ => ⟨fs, h, none⟩

/-- Write bytes and hand them on at once, unless they are refused before that. -/
def writeThrough (h : Handle) (fs : FileSystem) (bytes : Bytes) : Outcome :=
  let written := h.write fs bytes
  if written.fault.isSome then written else written.handle.flush written.fs

/-- Hand on all bytes that wait, and close.  What cannot be handed on is lost, so a second
attempt succeeds. -/
def close (h : Handle) (fs : FileSystem) : Outcome :=
  match h with
  | .full pending buffered =>
      ⟨fs, .full 0 0, if pending + buffered = 0 then none else some .noSpace⟩
  | _ => ⟨fs, h, none⟩

end Handle

end MarkupCatalog.FileSystem
