import MarkupCatalog.Annotation.Pair
import MarkupCatalog.Text.Lines

/-!
# Metadata

The metadata of an annotation is a finite map from keys to values that remembers
the order in which its keys came up first.  A key that is set again keeps its place
and takes the new value.
-/

namespace MarkupCatalog

/-- Keys and values in the order of the keys' first appearance. -/
abbrev Metadata := List (Text × Text)

namespace Metadata

/-- Sets a key: in place if it is there, otherwise at the end. -/
def insert (m : Metadata) (key value : Text) : Metadata :=
  match m with
  | [] => [(key, value)]
  | (k, v) :: rest => if k = key then (k, value) :: rest else (k, v) :: insert rest key value

/-- The value of a key. -/
def get? (m : Metadata) (key : Text) : Option Text :=
  (m.find? fun entry => entry.1 = key).map (·.2)

/-- Sets a list of pairs one after the other. -/
def insertAll (m : Metadata) (pairs : List (Text × Text)) : Metadata :=
  pairs.foldl (fun m pair => m.insert pair.1 pair.2) m

/-- The key under which a text on the keyword's own line is kept. -/
def nameKey : Text := ['n', 'a', 'm', 'e']

/-- The name that the first line of a header gives when it is not a pair. -/
def nameText (line : Text) : Text :=
  Text.strip ((Text.strip line).dropWhile (· == ':'))

/-- The pair that the first line of a header gives: its own pair, or its text as
the name. -/
def firstPair? (line : Text) : Option (Text × Text) :=
  match Annotation.pair? line with
  | some pair => some pair
  | none => if (nameText line).isEmpty then none else some (nameKey, nameText line)

/-- The pairs of a header, line by line. -/
def headerPairs (header : Text) : List (Text × Text) :=
  match Text.lines header with
  | [] => []
  | first :: rest => (firstPair? first).toList ++ rest.filterMap Annotation.pair?

/-- The metadata of a header: the text between the keyword and the end of the header. -/
def ofHeader (header : Text) : Metadata :=
  insertAll [] (headerPairs header)

/-- The name of the component, if it has one. -/
def name? (m : Metadata) : Option Text := m.get? nameKey

end Metadata

end MarkupCatalog
