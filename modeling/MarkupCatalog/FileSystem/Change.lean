import MarkupCatalog.FileSystem.Basic

/-!
# Changes of a file system

What has to be made or written anew so that one tree of entries becomes another.  Nothing
is ever taken away.
-/

namespace MarkupCatalog.Entry

/-- Does the entry before hold the same bytes? -/
def holds (content : Bytes) : Option Entry → Bool
  | some (.file before) => before = content
  | _ => false

mutual

/-- What has to be put where, so that an entry becomes the given one. -/
def changes (before : Option Entry) (place : List Text) : Entry → List (List Text × Entry)
  | .directory entries =>
      (if before.any isDirectory then [] else [(place, .empty)])
        ++ childChanges before place entries
  | .file content => if holds content before then [] else [(place, .file content)]
  | .link _ => []
  | .device _ => []

/-- What has to be put where, so that the entries of a directory become the given ones. -/
def childChanges (before : Option Entry) (place : List Text) :
    List (Text × Entry) → List (List Text × Entry)
  | [] => []
  | (name, e) :: rest =>
      changes (before.bind (child? name)) (place ++ [name]) e ++ childChanges before place rest

end

end MarkupCatalog.Entry
