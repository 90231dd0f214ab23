import MarkupCatalog.Text.Basic

/-!
# Searching in a text

First and last occurrence of a pattern, and the leftmost occurrences that do not
overlap.  The empty pattern occurs at every offset, the end of the text included.
-/

namespace MarkupCatalog.Text

/-- The offset of the first occurrence of `pattern`. -/
def firstIndex? (pattern : Text) : Text → Option Nat
  | [] => if pattern.isEmpty then some 0 else none
  | c :: rest =>
      if pattern.isPrefixOf (c :: rest) then some 0
      else (firstIndex? pattern rest).map (· + 1)

/-- The offset of the last occurrence of `pattern`. -/
def lastIndex? (pattern : Text) : Text → Option Nat
  | [] => if pattern.isEmpty then some 0 else none
  | c :: rest =>
      match lastIndex? pattern rest with
      | some i => some (i + 1)
      | none => if pattern.isPrefixOf (c :: rest) then some 0 else none

/-- Does `pattern` occur somewhere? -/
def occursIn (pattern text : Text) : Bool :=
  (firstIndex? pattern text).isSome

/-- The offsets, counted from `offset`, at which `pattern` is met when the text is
read from left to right, each occurrence being passed over as a whole.  The first
argument is the number of characters still to be passed over. -/
def occurrencesFrom (pattern : Text) : Nat → Nat → Text → List Nat
  | _, _, [] => []
  | skip + 1, offset, _ :: rest => occurrencesFrom pattern skip (offset + 1) rest
  | 0, offset, c :: rest =>
      if pattern.isPrefixOf (c :: rest) then
        offset :: occurrencesFrom pattern (pattern.length - 1) (offset + 1) rest
      else occurrencesFrom pattern 0 (offset + 1) rest

/-- The leftmost occurrences of `pattern` that do not overlap, in increasing order. -/
def occurrences (pattern text : Text) : List Nat :=
  occurrencesFrom pattern 0 0 text

/-- The pieces between the leftmost occurrences of `pattern` that do not overlap,
`skip` characters of the present occurrence being still to be passed over. -/
def piecesFrom (pattern : Text) : Nat → Text → List Text
  | _, [] => [[]]
  | skip + 1, _ :: rest => piecesFrom pattern skip rest
  | 0, c :: rest =>
      if pattern.isPrefixOf (c :: rest) then
        [] :: piecesFrom pattern (pattern.length - 1) rest
      else match piecesFrom pattern 0 rest with
        | piece :: pieces => (c :: piece) :: pieces
        | [] => [[c]]

/-- The pieces of `text` between the leftmost occurrences of `pattern` that do not
overlap. -/
def pieces (pattern text : Text) : List Text :=
  piecesFrom pattern 0 text

/-- Does the text start with `c`? -/
def startsWith (c : Char) : Text → Bool
  | [] => false
  | d :: _ => d = c

/-- Does the text end with `c`? -/
def endsWith (c : Char) (text : Text) : Bool :=
  text.getLast? = some c

end MarkupCatalog.Text
