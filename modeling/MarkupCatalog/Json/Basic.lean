import MarkupCatalog.Text.Basic

/-!
# JSON values

The values in which records are written down.  The members of an object have an order.
-/

namespace MarkupCatalog

/-- A JSON value.  The only numbers that are needed count something. -/
inductive Json
  | text (t : Text)
  | number (n : Nat)
  | array (items : List Json)
  | object (members : List (Text × Json))

end MarkupCatalog
