import MarkupCatalog.Text.Basic

/-!
# Lines

A line ends at a line feed, a carriage return, the pair of both, a vertical tab, a
form feed, one of the separators U+001C to U+001E, U+0085, U+2028 or U+2029.  A
text that ends with a line end has no empty line after it.
-/

namespace MarkupCatalog.Text

/-- Does the character end a line? -/
def isLineEnd (c : Char) : Bool :=
  let n := c.toNat
  (0x0A ≤ n && n ≤ 0x0D) || (0x1C ≤ n && n ≤ 0x1E) || n == 0x85 || n == 0x2028 || n == 0x2029

/-- Put a character in front of the first line. -/
def consLine (c : Char) : List Text → List Text
  | [] => [[c]]
  | line :: lines => (c :: line) :: lines

/-- The lines of a text, without their ends. -/
def lines : Text → List Text
  | [] => []
  | '\r' :: '\n' :: rest => [] :: lines rest
  | c :: rest => if isLineEnd c then [] :: lines rest else consLine c (lines rest)

/-- The text with every line feed preceded by a carriage return. -/
def withCarriageReturns : Text → Text
  | [] => []
  | c :: rest => if c = '\n' then '\r' :: '\n' :: withCarriageReturns rest
      else c :: withCarriageReturns rest

/-- The text as a reader of text files sees it: a carriage return, alone or before
a line feed, is a line feed. -/
def withLineFeeds : Text → Text
  | [] => []
  | '\r' :: '\n' :: rest => '\n' :: withLineFeeds rest
  | c :: rest => (if c = '\r' then '\n' else c) :: withLineFeeds rest

end MarkupCatalog.Text
