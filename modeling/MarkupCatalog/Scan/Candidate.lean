import MarkupCatalog.Exclusion.Rule
import MarkupCatalog.FileSystem.Basic

/-!
# Candidate files

The files of a directory tree that are worth reading: their names end with one of the
extensions, and no rule excludes them or a directory above them.  A link is a file, also
if it leads to a directory.

The tree is walked directory by directory, with the entries of each in the order of
their names; the order in which a directory lists its entries does not matter.
-/

namespace MarkupCatalog.Scan

/-- What makes a file a candidate. -/
structure Filter where
  extensions : List Text
  rules : List Exclusion.Rule

namespace Filter

/-- The filter that extensions and exclusion patterns make. -/
def ofPatterns (extensions patterns : List Text) : Filter :=
  ⟨extensions, Exclusion.rules patterns⟩

/-- Does the name end with one of the extensions? -/
def hasExtension (f : Filter) (name : Text) : Bool :=
  f.extensions.any fun extension => extension.isSuffixOf name

/-- The path that rules are matched with. -/
def rulePath (names : List Text) : Text := Text.joinWith ['/'] names

/-- Is the walk to enter the directory at this place below the root? -/
def enters (f : Filter) (names : List Text) : Bool :=
  !Exclusion.isExcluded f.rules (rulePath names) true

/-- Is the file at this place below the root a candidate? -/
def accepts (f : Filter) (names : List Text) : Bool :=
  f.hasExtension (names.getLast?.getD []) && !Exclusion.isExcluded f.rules (rulePath names) false

end Filter

/-- Entries with a result each, in the order of their names. -/
def byName {α : Type} (results : List (Text × α)) : List (Text × α) :=
  results.mergeSort fun a b => Text.le a.1 b.1

mutual

/-- The candidates at and below an entry that is not the root. -/
def candidatesAt (f : Filter) (names : List Text) : Entry → List (List Text)
  | .directory entries =>
      if f.enters names then (byName (candidatesOfEach f names entries)).flatMap (·.2) else []
  | _ => if f.accepts names then [names] else []

/-- The candidates at and below each entry of a directory. -/
def candidatesOfEach (f : Filter) (names : List Text) :
    List (Text × Entry) → List (Text × List (List Text))
  | [] => []
  | (name, entry) :: rest =>
      (name, candidatesAt f (names ++ [name]) entry) :: candidatesOfEach f names rest

end

/-- The candidates below a directory with these entries: for each of them the names that
lead to it. -/
def candidates (f : Filter) (entries : List (Text × Entry)) : List (List Text) :=
  (byName (candidatesOfEach f [] entries)).flatMap (·.2)

end MarkupCatalog.Scan
