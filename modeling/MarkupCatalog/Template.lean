import MarkupCatalog.Text.Search

/-!
# Templates

A template is a text with a placeholder in it.  Rendering puts a block in place of
each occurrence of the placeholder, in one pass from left to right: what the block
holds is never looked at again.
-/

namespace MarkupCatalog

/-- A template and the placeholder that stands for the block. -/
structure Template where
  text : Text
  placeholder : Text
  deriving DecidableEq, Repr

namespace Template

/-- The parts of the template around its placeholders.  They depend on the template
alone; an empty placeholder occurs nowhere. -/
def segments (t : Template) : List Text :=
  if t.placeholder.isEmpty then [t.text] else Text.pieces t.placeholder t.text

/-- The template with `block` in place of every placeholder. -/
def render (t : Template) (block : Text) : Text :=
  Text.joinWith block t.segments

end Template

end MarkupCatalog
