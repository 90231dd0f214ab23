import MarkupCatalog.Charset.Fault
import MarkupCatalog.FileSystem.Fault
import MarkupCatalog.Path

/-!
# The file system

A tree of directories, files, symbolic links and devices, and a current directory.  A
place in the tree is the list of names that lead to it from the root, with no link on
the way.
-/

namespace MarkupCatalog

/-- A device that takes bytes: one that drops them and one that has no room for any. -/
inductive Device
  | null
  | full
  deriving DecidableEq, Repr

/-- An entry of the file system.  A directory lists its entries in any order. -/
inductive Entry
  | file (content : Bytes)
  | link (target : Text)
  | device (d : Device)
  | directory (entries : List (Text × Entry))

namespace Entry

/-- Is the entry a directory? -/
def isDirectory : Entry → Bool
  | .directory _ => true
  | _ => false

/-- An empty directory. -/
def empty : Entry := .directory []

/-- The entry of a directory with a name. -/
def child? (name : Text) : Entry → Option Entry
  | .directory entries => (entries.find? (·.1 = name)).map (·.2)
  | _ => none

/-- The entry at a place below this one. -/
def at? (e : Entry) : List Text → Option Entry
  | [] => some e
  | name :: place => (e.child? name).bind (·.at? place)

/-- The entries of a directory after one of them is replaced, or a new one is added. -/
def setChild (name : Text) (child : Entry) : List (Text × Entry) → List (Text × Entry)
  | [] => [(name, child)]
  | (n, e) :: rest => if n = name then (n, child) :: rest else (n, e) :: setChild name child rest

/-- The entry after what stands at a place below it is replaced or added.  Nothing
happens if there is no directory to put it into. -/
def put (new : Entry) : List Text → Entry → Entry
  | [], _ => new
  | name :: place, .directory entries =>
      match place, Entry.child? name (.directory entries) with
      | [], _ => .directory (setChild name new entries)
      | _ :: _, some child => .directory (setChild name (put new place child) entries)
      | _ :: _, none => .directory entries
  | _ :: _, e => e

/-- The entry after what stands at a place below it is taken away. -/
def erase : List Text → Entry → Entry
  | [name], .directory entries => .directory (entries.filter (·.1 != name))
  | name :: place, .directory entries =>
      match Entry.child? name (.directory entries) with
      | some child => .directory (setChild name (erase place child) entries)
      | none => .directory entries
  | _, e => e

end Entry

/-- A file system with a current directory. -/
structure FileSystem where
  root : Entry
  current : List Text

namespace FileSystem

/-- The entry at a place. -/
def at? (fs : FileSystem) (place : List Text) : Option Entry := fs.root.at? place

/-- The file system with another entry at a place. -/
def put (fs : FileSystem) (place : List Text) (new : Entry) : FileSystem :=
  { fs with root := Entry.put new place fs.root }

/-- The file system without the entry at a place. -/
def erase (fs : FileSystem) (place : List Text) : FileSystem :=
  { fs with root := Entry.erase place fs.root }

/-- The current directory as a path. -/
def currentPath (fs : FileSystem) : Path := .absolute fs.current

end FileSystem

end MarkupCatalog
