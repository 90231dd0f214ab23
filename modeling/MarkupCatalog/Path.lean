import MarkupCatalog.Text.Basic

/-!
# Paths

A path is a list of names below the root or below the current directory.  Repeated and
trailing slashes and the name `.` leave no trace in it; the name `..` stays.  Exactly two
leading slashes are kept apart from one.
-/

namespace MarkupCatalog

/-- A path: the slashes in front of it, and its names. -/
structure Path where
  root : Text
  names : List Text
  deriving DecidableEq, Repr

namespace Path

/-- The slashes in front of a path that count. -/
def rootOf : Text → Text
  | '/' :: '/' :: '/' :: _ => ['/']
  | '/' :: '/' :: _ => ['/', '/']
  | '/' :: _ => ['/']
  | _ => []

/-- Does the name belong to a path? -/
def isKept (name : Text) : Bool := !name.isEmpty && name != ['.']

/-- The path that a text writes. -/
def ofText (text : Text) : Path :=
  ⟨rootOf text, (Text.splitOnChar '/' text).filter isKept⟩

/-- The text of a path. -/
def text (p : Path) : Text :=
  if p.root.isEmpty && p.names.isEmpty then ['.']
  else p.root ++ Text.joinWith ['/'] p.names

/-- Does the path start at the root? -/
def isAbsolute (p : Path) : Bool := !p.root.isEmpty

/-- The path `q` as seen from `p`; an absolute path is the same from everywhere. -/
def join (p q : Path) : Path :=
  if q.isAbsolute then q else ⟨p.root, p.names ++ q.names⟩

/-- The path without its last name. -/
def parent (p : Path) : Path := ⟨p.root, p.names.dropLast⟩

/-- The last name of the path. -/
def name (p : Path) : Text := p.names.getLast?.getD []

/-- The absolute path with these names. -/
def absolute (names : List Text) : Path := ⟨['/'], names⟩

/-- The path as seen from a directory above it. -/
def relativeTo? (p base : Path) : Option Path :=
  if p.root = base.root && base.names.isPrefixOf p.names then
    some ⟨[], p.names.drop base.names.length⟩
  else none

end Path

end MarkupCatalog
