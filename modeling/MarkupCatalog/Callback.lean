import MarkupCatalog.Failure

/-!
# Callbacks

Functions that the caller supplies and that are called when something has happened.
-/

namespace MarkupCatalog

/-- A function of the caller.  All that matters of it is how a call ends. -/
structure Callback where
  raises : Option Failure := none
  deriving DecidableEq, Repr

end MarkupCatalog
