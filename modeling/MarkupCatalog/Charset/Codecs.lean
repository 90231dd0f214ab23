import MarkupCatalog.Charset.Fault

/-!
# What charsets take from outside

Most charsets are read and written by rules and tables of this library.  There are some whose
characters are listed elsewhere, and in some a character may be written by a name or by numbers
that no character has.  All of this comes from codecs, of which nothing is assumed here.
-/

namespace MarkupCatalog.Charset

/-- Why bytes cannot be read in a charset. -/
inductive ReadFault
  | undecodable (fault : DecodeFault)
  /-- A byte order mark is needed and missing. -/
  | unmarked (family : Text)
  /-- Nothing can be read in the charset. -/
  | undefined
  /-- Anything else, in the words of a codec. -/
  | other (message : Text)
  deriving DecidableEq, Repr

/-- Why a text cannot be written in a charset. -/
inductive WriteFault
  | unencodable (fault : EncodeFault)
  /-- Nothing can be written in the charset. -/
  | undefined
  /-- Anything else, in the words of a codec. -/
  | other (message : Text)
  deriving DecidableEq, Repr

/-- What charsets take from outside. -/
structure Codecs where
  /-- The text that bytes stand for in the charset with a name. -/
  decode : String → Bytes → Except ReadFault Text
  /-- The bytes of a text, which stands at the start of a file or further on, in the charset with
  a name. -/
  encode : String → Text → Bool → Except WriteFault Bytes
  /-- The character with a name. -/
  named? : Text → Option Char
  /-- What is read in place of half a pair of surrogates, which no text holds. -/
  half : Nat → Char

end MarkupCatalog.Charset
