import MarkupCatalog.Text.Quoted

/-!
# Faults of reading and writing text as bytes

A fault names the charset, the span of bytes or characters that cannot be read or
written, and the reason.
-/

namespace MarkupCatalog

/-- The content of a file. -/
abbrev Bytes := List UInt8

namespace Charset

/-- Bytes that are no text: those from `start` up to `stop`, the first of which is
`byte`. -/
structure DecodeFault where
  charset : Text
  byte : UInt8
  start : Nat
  stop : Nat
  reason : Text
  deriving DecidableEq, Repr

/-- What is said about bytes that are no text. -/
def DecodeFault.message (f : DecodeFault) : Text :=
  let place :=
    if f.stop = f.start + 1 then
      "byte 0x" ++ Text.hexDigits 2 f.byte.toNat ++ " in position " ++ Text.ofNat f.start
    else "bytes in position " ++ Text.ofNat f.start ++ "-" ++ Text.ofNat (f.stop - 1)
  "'" ++ f.charset ++ "' codec can't decode " ++ place ++ ": " ++ f.reason

/-- Characters that a charset does not have: those from `start` up to `stop`, the first
of which is `char`. -/
structure EncodeFault where
  charset : Text
  char : Char
  start : Nat
  stop : Nat
  reason : Text
  deriving DecidableEq, Repr

/-- What is said about characters that a charset does not have. -/
def EncodeFault.message (f : EncodeFault) : Text :=
  let place :=
    if f.stop = f.start + 1 then
      "character '" ++ Text.escapedNumber f.char ++ "' in position " ++ Text.ofNat f.start
    else "characters in position " ++ Text.ofNat f.start ++ "-" ++ Text.ofNat (f.stop - 1)
  "'" ++ f.charset ++ "' codec can't encode " ++ place ++ ": " ++ f.reason

end Charset

end MarkupCatalog
