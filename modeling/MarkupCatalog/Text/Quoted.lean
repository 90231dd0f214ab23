import MarkupCatalog.Text.Printable
import MarkupCatalog.Text.Search

/-!
# Quoted texts

The form in which messages show a text: between single quotes, or between double
quotes when it holds a single quote and no double quote.  The backslash, the quote
that is used, and every character that cannot be printed are escaped, so the quoted
form stands on one line.
-/

namespace MarkupCatalog.Text

/-- The hexadecimal digits of `n` in lower case, padded with zeros to `width`. -/
def hexDigits (width n : Nat) : Text :=
  let digits := Nat.toDigits 16 n
  List.replicate (width - digits.length) '0' ++ digits

/-- The number of a character, after a backslash, in the shortest of the three forms that
hold it. -/
def escapedNumber (c : Char) : Text :=
  if c.toNat < 0x100 then '\\' :: 'x' :: hexDigits 2 c.toNat
  else if c.toNat < 0x10000 then '\\' :: 'u' :: hexDigits 4 c.toNat
  else '\\' :: 'U' :: hexDigits 8 c.toNat

/-- How one character is written between quotes of the kind `quote`. -/
def quotedChar (quote c : Char) : Text :=
  if c = quote ∨ c = '\\' then ['\\', c]
  else if c = '\n' then ['\\', 'n']
  else if c = '\r' then ['\\', 'r']
  else if c = '\t' then ['\\', 't']
  else if isPrintable c then [c]
  else escapedNumber c

/-- The text with every character outside of ASCII escaped. -/
def escapedToAscii (text : Text) : Text :=
  text.flatMap fun c => if c.toNat < 0x80 then [c] else escapedNumber c

/-- The quote that a text is put between. -/
def quoteFor (text : Text) : Char :=
  if text.contains '\'' && !text.contains '"' then '"' else '\''

/-- The text between quotes. -/
def quoted (text : Text) : Text :=
  let quote := quoteFor text
  quote :: text.flatMap (quotedChar quote) ++ [quote]

end MarkupCatalog.Text
