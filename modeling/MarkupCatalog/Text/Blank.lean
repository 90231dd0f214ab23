import MarkupCatalog.Text.Basic

/-!
# Blank characters

White space in the sense of the Unicode bidirectional classes for white space,
segment and paragraph separators together with the space separators: what is
removed at the ends of a text and what separates a key from its value.
-/

namespace MarkupCatalog.Text

/-- Is the character white space? -/
def isBlank (c : Char) : Bool :=
  let n := c.toNat
  (0x09 ≤ n && n ≤ 0x0D) || (0x1C ≤ n && n ≤ 0x20) || n == 0x85 || n == 0xA0 || n == 0x1680
    || (0x2000 ≤ n && n ≤ 0x200A) || n == 0x2028 || n == 0x2029 || n == 0x202F || n == 0x205F
    || n == 0x3000

/-- Every character that core calls white space is blank. -/
theorem isBlank_of_isWhitespace {c : Char} (h : c.isWhitespace = true) : isBlank c = true := by
  simp only [Char.isWhitespace, Bool.or_eq_true, decide_eq_true_eq] at h
  rcases h with ((rfl | rfl) | rfl) | rfl <;> decide

/-- The text without the characters of `drop` at its end. -/
def dropEndWhile (drop : Char → Bool) (text : Text) : Text :=
  (text.reverse.dropWhile drop).reverse

/-- The text without white space at its start. -/
def stripStart (text : Text) : Text := text.dropWhile isBlank

/-- The text without white space at its end. -/
def stripEnd (text : Text) : Text := dropEndWhile isBlank text

/-- The text without white space at its start and end. -/
def strip (text : Text) : Text := stripEnd (stripStart text)

/-- Is there nothing but white space? -/
def isAllBlank (text : Text) : Bool := text.all isBlank

end MarkupCatalog.Text
