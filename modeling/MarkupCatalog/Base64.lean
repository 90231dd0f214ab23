import MarkupCatalog.Charset.Fault

/-!
# Base 64

Bytes written in an alphabet of sixty-four characters, four of which hold three bytes.
-/

namespace MarkupCatalog.Base64

/-- The value of a character of the alphabet. -/
def value? (c : Char) : Option Nat :=
  if 'A' ≤ c ∧ c ≤ 'Z' then some (c.toNat - 'A'.toNat)
  else if 'a' ≤ c ∧ c ≤ 'z' then some (c.toNat - 'a'.toNat + 26)
  else if c.isDigit then some (c.toNat - '0'.toNat + 52)
  else if c == '+' then some 62
  else if c == '/' then some 63
  else none

/-- The character of a value below sixty-four. -/
def digit (n : Nat) : Char :=
  if n < 26 then Char.ofNat ('A'.toNat + n)
  else if n < 52 then Char.ofNat ('a'.toNat + (n - 26))
  else if n < 62 then Char.ofNat ('0'.toNat + (n - 52))
  else if n = 62 then '+'
  else '/'

/-- A value is read back from its character. -/
theorem value?_digit : ∀ n, n < 64 → value? (digit n) = some n := by
  decide

/-- The bytes of a text.  `held` is the number of characters of the present group of four,
`bits` what they leave over, and `pads` the number of padding characters just seen;
characters outside of the alphabet are passed over. -/
def decodeFrom? (held bits pads : Nat) : Text → Option Bytes
  | [] => if held == 0 then some [] else none
  | c :: rest =>
      if c == '=' then
        if 2 ≤ held && 4 ≤ held + pads + 1 then some []
        else decodeFrom? held bits (if 2 ≤ held then pads + 1 else pads) rest
      else
        match value? c, held with
        | none, _ => decodeFrom? held bits pads rest
        | some n, 0 => decodeFrom? 1 n 0 rest
        | some n, 1 => (decodeFrom? 2 (n % 16) 0 rest).map ((bits * 4 + n / 16).toUInt8 :: ·)
        | some n, 2 => (decodeFrom? 3 (n % 4) 0 rest).map ((bits * 16 + n / 4).toUInt8 :: ·)
        | some n, _ => (decodeFrom? 0 0 0 rest).map ((bits * 64 + n).toUInt8 :: ·)

/-- The bytes of a text. -/
def decode? (text : Text) : Option Bytes := decodeFrom? 0 0 0 text

end MarkupCatalog.Base64
