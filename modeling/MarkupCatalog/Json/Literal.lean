import MarkupCatalog.Text.Quoted

/-!
# Text literals of JSON

A text stands between double quotes.  The double quote, the backslash and the control
characters below U+0020 are always escaped; which others are is a matter of choice.  A
character beyond U+FFFF is escaped as a pair of surrogates.
-/

namespace MarkupCatalog.Json

/-- Which characters are written as they are, apart from those that never are. -/
structure Alphabet where
  keeps : Char → Bool

namespace Alphabet

/-- Every character that may stand in a literal is kept. -/
def unicode : Alphabet := ⟨fun _ => true⟩

/-- Only the printable characters of ASCII are kept. -/
def ascii : Alphabet := ⟨fun c => c.toNat < 0x7F⟩

end Alphabet

/-- The numbers by which a character is escaped: its own, or a pair of surrogates. -/
def units (c : Char) : List Nat :=
  if c.toNat < 0x10000 then [c.toNat]
  else [0xD800 + (c.toNat - 0x10000) / 0x400, 0xDC00 + (c.toNat - 0x10000) % 0x400]

/-- An escape by number. -/
def numericEscape (unit : Nat) : Text := '\\' :: 'u' :: Text.hexDigits 4 unit

/-- The letter that escapes a character, if there is one. -/
def shortEscape? (c : Char) : Option Char :=
  if c = '"' ∨ c = '\\' then some c
  else if c = '\n' then some 'n'
  else if c = '\r' then some 'r'
  else if c = '\t' then some 't'
  else if c = '\x08' then some 'b'
  else if c = '\x0c' then some 'f'
  else none

/-- How a character is written in a literal. -/
def literalChar (a : Alphabet) (c : Char) : Text :=
  match shortEscape? c with
  | some letter => ['\\', letter]
  | none =>
      if 0x20 ≤ c.toNat && a.keeps c then [c]
      else (units c).flatMap numericEscape

/-- A text as a literal. -/
def literal (a : Alphabet) (t : Text) : Text := '"' :: t.flatMap (literalChar a) ++ ['"']

end MarkupCatalog.Json
