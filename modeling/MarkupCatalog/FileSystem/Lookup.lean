import MarkupCatalog.Charset.Utf8
import MarkupCatalog.FileSystem.Basic

/-!
# Looking up a path

A path is followed name by name from the root or from the current directory.  A
symbolic link on the way is replaced by its target; after forty of them the search is
given up.  The last name need not be there: the place at which it would be is found all
the same.
-/

namespace MarkupCatalog.FileSystem

/-- Where a path leads to, and what stands there. -/
structure Location where
  place : List Text
  entry : Option Entry

/-- The greatest number of bytes in a name. -/
def maxName : Nat := 255

/-- The greatest number of bytes in a path. -/
def maxPath : Nat := 4095

/-- The number of links that are followed on one path. -/
def maxLinks : Nat := 40

/-- The number of bytes that a text takes up in the file system. -/
def byteLength (text : Text) : Nat := (Charset.Utf8.encode text).length

/-- What a path is followed for. -/
inductive Goal
  /-- The entry itself, even if it is a link. -/
  | entry
  /-- What a link at the end leads to. -/
  | target
  /-- What a link at the end leads to, which is made if it is not there.  Only a directory
  may have a slash after its name, and no directory is made in this way. -/
  | file
  deriving DecidableEq, Repr

/-- Follow names from a place. -/
def walk (fs : FileSystem) (goal : Goal) (links : Nat) (place : List Text)
    (names : List Text) : Except Fault Location :=
  match names with
  | [] => .ok ⟨place, fs.at? place⟩
  | name :: rest =>
      match fs.at? place with
      | some (.directory entries) =>
          if name.isEmpty || name = ['.'] then walk fs goal links place rest
          else if name = ['.', '.'] then walk fs goal links place.dropLast rest
          else if goal = .file && !rest.isEmpty && rest.all (·.isEmpty) then .error .isDirectory
          else if maxName < byteLength name then .error .nameTooLong
          else
            match Entry.child? name (.directory entries) with
            | none =>
                if rest.all (·.isEmpty) then .ok ⟨place ++ [name], none⟩ else .error .notFound
            | some (.link target) =>
                if rest.isEmpty && goal = .entry then .ok ⟨place ++ [name], some (.link target)⟩
                else
                  match links with
                  | 0 => .error .tooManyLinks
                  | links + 1 =>
                      let start := if target.head? = some '/' then [] else place
                      walk fs goal links start (Text.splitOnChar '/' target ++ rest)
            | some _ => walk fs goal links (place ++ [name]) rest
      | some _ => .error .notDirectory
      | none => .error .notFound
termination_by (links, names.length)

/-- Where a path leads to. -/
def locate (fs : FileSystem) (goal : Goal) (path : Text) : Except Fault Location :=
  if path.isEmpty then .error .notFound
  else if maxPath < byteLength path then .error .nameTooLong
  else
    let start := if path.head? = some '/' then [] else fs.current
    walk fs goal maxLinks start (Text.splitOnChar '/' path)

/-- The links that are being followed, and those that have been, with the places that
they lead to. -/
abbrev Seen := List (List Text × Option (List Text))

/-- How following links ends: at a place, or in a circle, with the names that were not
followed any more. -/
structure Resolved where
  place : List Text
  circular : Bool
  seen : Seen

/-- Follow names as far as there are links, and put the others in their place.  What is
not there is taken as it stands.  `fuel` bounds the number of links inside of links. -/
def resolveFrom (fs : FileSystem) (fuel : Nat) (seen : Seen) (place : List Text)
    (names : List Text) : Resolved :=
  match names with
  | [] => ⟨place, false, seen⟩
  | name :: rest =>
      if name.isEmpty || name = ['.'] then resolveFrom fs fuel seen place rest
      else if name = ['.', '.'] then resolveFrom fs fuel seen place.dropLast rest
      else
        let here := place ++ [name]
        match fs.at? here with
        | some (.link target) =>
            match fuel with
            | 0 => ⟨here ++ rest, true, seen⟩
            | fuel + 1 =>
                match seen.find? (·.1 = here) with
                | some (_, some resolved) => resolveFrom fs (fuel + 1) seen resolved rest
                | some (_, none) => ⟨here ++ rest, true, seen⟩
                | none =>
                    let start := if target.head? = some '/' then [] else place
                    let inner := resolveFrom fs fuel ((here, none) :: seen) start
                      (Text.splitOnChar '/' target)
                    if inner.circular then ⟨inner.place ++ rest, true, inner.seen⟩
                    else resolveFrom fs (fuel + 1) ((here, some inner.place) :: inner.seen)
                      inner.place rest
        | _ => resolveFrom fs fuel seen here rest
termination_by (fuel, names.length)

/-- Names in which each `..` has taken back the name before it. -/
def withoutParents (names : List Text) : List Text :=
  names.foldl (fun done name =>
    if name.isEmpty || name = ['.'] then done
    else if name = ['.', '.'] then done.dropLast
    else done ++ [name]) []

/-- The absolute form of a path, with `.` and `..` removed and no link followed. -/
def absolutePath (fs : FileSystem) (path : Path) : Path :=
  if path.isAbsolute then ⟨path.root, withoutParents path.names⟩
  else .absolute (withoutParents (fs.current ++ path.names))

/-- The absolute form of a path, with all links followed. -/
def resolvedPath (fs : FileSystem) (path : Path) : Path :=
  let start := if path.isAbsolute then [] else fs.current
  .absolute (withoutParents (resolveFrom fs 1000 [] start path.names).place)

end MarkupCatalog.FileSystem
