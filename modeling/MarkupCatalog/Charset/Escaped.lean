import MarkupCatalog.Charset.Codecs

/-!
# Escaped text

Two charsets in which a byte stands for the character of its number, and a backslash with
a letter and a number behind it for any other character.  The raw one has only the escapes
with four and with eight digits, and leaves every other backslash as it is; the full one
has those of quoted constants too, and so never writes a line end or a lone backslash.

What character a name stands for, and what is read in place of half a pair of surrogates, is for
the codecs to say.
-/

namespace MarkupCatalog.Charset.Escaped

/-- Which escapes there are. -/
inductive Style
  | full
  | raw
  deriving DecidableEq, Repr

/-- The name of the charset in reports. -/
def Style.name : Style → Text
  | .full => "unicodeescape"
  | .raw => "rawunicodeescape"

/-- What is said about a number that no character has. -/
def Style.outOfRange : Style → Text
  | .full => "illegal Unicode character"
  | .raw => "\\Uxxxxxxxx out of range"

/-- Where in a text the next byte stands.  An escape is known by the position of its
backslash. -/
inductive Mode
  | plain
  /-- The byte comes directly after the backslash. -/
  | opened (start : Nat)
  /-- Of the hexadecimal digits after a letter, `count` are still to come. -/
  | hexadecimal (start : Nat) (letter : Char) (count value : Nat)
  /-- At most `count` octal digits may still come. -/
  | octal (count value : Nat)
  /-- A name in braces is to come. -/
  | unnamed (start : Nat)
  /-- The byte belongs to a name, which so far is this text in reverse order. -/
  | naming (start : Nat) (done : Text)
  deriving DecidableEq, Repr

/-- The number of hexadecimal digits after a letter. -/
def width? (style : Style) (letter : Char) : Option Nat :=
  match letter with
  | 'x' => if style = .full then some 2 else none
  | 'u' => some 4
  | 'U' => some 8
  | _ => none

/-- What is said about an escape with too few digits. -/
def truncated (letter : Char) : Text :=
  "truncated \\" ++ letter :: List.replicate ((width? .full letter).getD 0) 'X' ++ " escape"

/-- What is said about a name without braces around it. -/
def malformedName : Text := "malformed \\N character escape"

/-- The value of a hexadecimal digit. -/
def hexValue? (c : Char) : Option Nat :=
  if c.isDigit then some (c.toNat - '0'.toNat)
  else if 'a' ≤ c ∧ c ≤ 'f' then some (c.toNat - 'a'.toNat + 10)
  else if 'A' ≤ c ∧ c ≤ 'F' then some (c.toNat - 'A'.toNat + 10)
  else none

/-- The value of an octal digit. -/
def octalValue? (c : Char) : Option Nat :=
  if '0' ≤ c ∧ c ≤ '7' then some (c.toNat - '0'.toNat) else none

/-- The character with a number; what has none is half a pair of surrogates. -/
def charOf (codecs : Codecs) (n : Nat) : Char :=
  if n.isValidChar then Char.ofNat n else codecs.half n

/-- The characters of the escapes with one letter. -/
def letters : List (Char × List Char) :=
  [('\n', []), ('\\', ['\\']), ('\'', ['\'']), ('"', ['"']), ('b', ['\x08']), ('f', ['\x0C']),
   ('t', ['\t']), ('n', ['\n']), ('r', ['\r']), ('v', ['\x0B']), ('a', ['\x07'])]

/-- Read the character after a backslash. -/
def readLetter (style : Style) (done : Text) (start : Nat) (c : Char) : Text × Mode :=
  match width? style c with
  | some width => (done, .hexadecimal start c width 0)
  | none =>
      if style = .raw then (c :: '\\' :: done, .plain)
      else if c == 'N' then (done, .unnamed start)
      else
        match octalValue? c, letters.find? (·.1 == c) with
        | some n, _ => (done, .octal 2 n)
        | none, some (_, text) => (text ++ done, .plain)
        | none, none => (c :: '\\' :: done, .plain)

/-- Read a character outside of escapes. -/
def readPlain (done : Text) (position : Nat) (c : Char) : Text × Mode :=
  if c == '\\' then (done, .opened position) else (c :: done, .plain)

/-- Read the character of a byte. -/
def readChar (codecs : Codecs) (style : Style) (done : Text) (position : Nat) (c : Char) :
    Mode → Except DecodeFault (Text × Mode)
  | .plain => .ok (readPlain done position c)
  | .opened start => .ok (readLetter style done start c)
  | .hexadecimal start letter count value =>
      match hexValue? c with
      | none => .error ⟨style.name, 0x5C, start, position, truncated letter⟩
      | some n =>
          let value := value * 16 + n
          if 1 < count then .ok (done, .hexadecimal start letter (count - 1) value)
          else if value < 0x110000 then .ok (charOf codecs value :: done, .plain)
          else .error ⟨style.name, 0x5C, start, position + 1, style.outOfRange⟩
  | .octal count value =>
      match octalValue? c with
      | none => .ok (readPlain (charOf codecs value :: done) position c)
      | some n =>
          if 1 < count then .ok (done, .octal (count - 1) (value * 8 + n))
          else .ok (charOf codecs (value * 8 + n) :: done, .plain)
  | .unnamed start =>
      if c == '\x7b' then .ok (done, .naming start [])
      else .error ⟨style.name, 0x5C, start, position, malformedName⟩
  | .naming start name =>
      if c != '\x7d' then .ok (done, .naming start (c :: name))
      else if name.isEmpty then .error ⟨style.name, 0x5C, start, position, malformedName⟩
      else
        match codecs.named? name.reverse with
        | some named => .ok (named :: done, .plain)
        | none => .error ⟨style.name, 0x5C, start, position + 1, "unknown Unicode character name"⟩

/-- The end of the text. -/
def finish (codecs : Codecs) (style : Style) (done : Text) (position : Nat) :
    Mode → Except DecodeFault Text
  | .plain => .ok done
  | .opened start =>
      if style = .raw then .ok ('\\' :: done)
      else .error ⟨style.name, 0x5C, start, position, "\\ at end of string"⟩
  | .hexadecimal start letter _ _ =>
      .error ⟨style.name, 0x5C, start, position, truncated letter⟩
  | .octal _ value => .ok (charOf codecs value :: done)
  | .unnamed start | .naming start _ =>
      .error ⟨style.name, 0x5C, start, position, malformedName⟩

/-- The text that bytes stand for, in reverse order and after the text `done`. -/
def decodeOnto (codecs : Codecs) (style : Style) (done : Text) (position : Nat) (mode : Mode) :
    Bytes → Except DecodeFault Text
  | [] => finish codecs style done position mode
  | b :: rest =>
      match readChar codecs style done position (Char.ofNat b.toNat) mode with
      | .ok (done, mode) => decodeOnto codecs style done (position + 1) mode rest
      | .error fault => .error fault

/-- The text that bytes stand for. -/
def decode (codecs : Codecs) (style : Style) (bytes : Bytes) : Except DecodeFault Text :=
  (decodeOnto codecs style [] 0 .plain bytes).map List.reverse

/-- The written form of a character. -/
def written (style : Style) (c : Char) : Text :=
  match style with
  | .raw => if c.toNat < 0x100 then [c] else Text.escapedNumber c
  | .full =>
      if c == '\\' then "\\\\"
      else if c == '\t' then "\\t"
      else if c == '\n' then "\\n"
      else if c == '\r' then "\\r"
      else if 0x20 ≤ c.toNat && c.toNat < 0x7F then [c]
      else Text.escapedNumber c

/-- The bytes of a text. -/
def encode (style : Style) (text : Text) : Bytes :=
  (text.flatMap (written style)).map fun c => c.toNat.toUInt8

end MarkupCatalog.Charset.Escaped
