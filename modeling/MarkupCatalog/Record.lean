import MarkupCatalog.Annotation.Block
import MarkupCatalog.Json.Printing
import MarkupCatalog.Path
import MarkupCatalog.Settings.Basic

/-!
# Records

A record describes one annotated component: the file that it was found in, its number in
the whole run, what its header says, and its block as it stands and as it is rendered.
-/

namespace MarkupCatalog

/-- The description of a component. -/
structure Record where
  source : Path
  ordinal : Nat
  metadata : Metadata
  raw : Text
  rendered : Text
  deriving DecidableEq, Repr

namespace Record

/-- The record of a block. -/
def ofBlock (template : Template) (source : Path) (ordinal : Nat) (b : Annotation.Block) :
    Record :=
  ⟨source, ordinal, b.metadata, b.raw, template.render b.raw⟩

/-- The name of the component. -/
def name? (r : Record) : Option Text := r.metadata.name?

/-- The record as a JSON value. -/
def json (r : Record) : Json :=
  .object [
    ("source_file", .text r.source.text),
    ("ordinal", .number r.ordinal),
    ("metadata", .object (r.metadata.map fun (key, value) => (key, .text value))),
    ("raw_block", .text r.raw),
    ("rendered", .text r.rendered)]

/-- What is written for a record in a mode. -/
def written (r : Record) : SerializeMode → Json
  | .record => r.json
  | .rendered => .text r.rendered

end Record

end MarkupCatalog
