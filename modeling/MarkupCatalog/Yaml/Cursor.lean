import MarkupCatalog.Text.Quoted

/-!
# Reading a YAML text

A cursor is a place in a YAML text: what is still to be read, and the offset, line and
column of the place.  Actions on a cursor may fail with a fault.

The end of the text is read as the character U+0000, which never stands in a YAML text
itself.
-/

namespace MarkupCatalog.Yaml

/-- Why a YAML text gives no value. -/
inductive Fault
  /-- The text breaks the rules of YAML, or a node has a tag that does not fit it. -/
  | malformed
  /-- An escape sequence names a number that is no code point. -/
  | codePointTooLarge
  /-- An escape sequence names a number of more than 31 binary digits. -/
  | codePointOverflow
  /-- An integer is expected and something else is found. -/
  | badInteger (base : Nat) (text : Text)
  /-- An integer has too many decimal digits to be read or to be written.  They are counted
  only when it is read. -/
  | tooManyDigits (count : Option Nat)
  | badFloat (text : Text)
  /-- A number is expected and nothing is found. -/
  | emptyNumber
  /-- The weight of a base-60 digit is greater than every number. -/
  | weightTooLarge
  /-- A truth value is expected and something else is found. -/
  | badTruthValue (text : Text)
  /-- A moment is expected and something else is found. -/
  | noMoment
  /-- A moment is expected and a mapping is found that stands for a text. -/
  | mappedMoment
  /-- A part of a date or a time lies outside its range. -/
  | badMoment (problem : Text)
  deriving DecidableEq, Repr

/-- The greatest number of decimal digits of an integer that is read or written. -/
def maxDigits : Nat := 4300

/-- The length at which a text is cut off when a message quotes it as no integer. -/
def maxQuoted : Nat := 200

/-- What is said about a fault. -/
def Fault.message : Fault → Text
  | .malformed => "malformed YAML"
  | .codePointTooLarge => "chr() arg not in range(0x110000)"
  | .codePointOverflow => "Python int too large to convert to C int"
  | .badInteger base text =>
      "invalid literal for int() with base " ++ Text.ofNat base ++ ": "
        ++ (Text.quoted text).take maxQuoted
  | .tooManyDigits count =>
      "Exceeds the limit (" ++ Text.ofNat maxDigits ++ " digits) for integer string conversion"
        ++ (match count with
          | some n => ": value has " ++ Text.ofNat n ++ " digits"
          | none => [])
        ++ "; use sys.set_int_max_str_digits() to increase the limit"
  | .badFloat text => "could not convert string to float: " ++ Text.quoted text
  | .emptyNumber => "string index out of range"
  | .weightTooLarge => "int too large to convert to float"
  | .badTruthValue text => Text.quoted text
  | .noMoment => "'NoneType' object has no attribute 'groupdict'"
  | .mappedMoment => "expected string or bytes-like object, got 'list'"
  | .badMoment problem => problem

/-- The character that stands for the end of the text. -/
def endMark : Char := '\x00'

/-- May the character stand in a YAML text? -/
def isAllowed (c : Char) : Bool :=
  let n := c.toNat
  n == 0x09 || n == 0x0A || n == 0x0D || (0x20 ≤ n && n ≤ 0x7E) || n == 0x85
    || (0xA0 ≤ n && n ≤ 0xD7FF) || (0xE000 ≤ n && n ≤ 0xFFFD) || 0x10000 ≤ n

/-- Does the character end a line? -/
def isBreak (c : Char) : Bool :=
  c == '\r' || c == '\n' || c == '\u0085' || c == '\u2028' || c == '\u2029'

/-- Does the character end a line or the text? -/
def isBreakOrEnd (c : Char) : Bool := isBreak c || c == endMark

/-- Is the character a space, or does it end a line or the text? -/
def isSpaceOrEnd (c : Char) : Bool := c == ' ' || isBreakOrEnd c

/-- Is the character a space or a tabulator, or does it end a line or the text? -/
def isGap (c : Char) : Bool := c == '\t' || isSpaceOrEnd c

/-- A place in a text. -/
structure Cursor where
  rest : Text
  index : Nat
  line : Nat
  column : Nat

namespace Cursor

/-- The start of a text. -/
def ofText (text : Text) : Cursor := ⟨text, 0, 0, 0⟩

/-- The place after the next character.  A byte order mark takes up no column. -/
def next (c : Cursor) : Cursor :=
  match c.rest with
  | [] => c
  | ch :: rest =>
      if isBreak ch && !(ch == '\r' && rest.head? == some '\n') then
        ⟨rest, c.index + 1, c.line + 1, 0⟩
      else if ch == '\uFEFF' then ⟨rest, c.index + 1, c.line, c.column⟩
      else ⟨rest, c.index + 1, c.line, c.column + 1⟩

/-- The place after the next `n` characters. -/
def advance (c : Cursor) : Nat → Cursor
  | 0 => c
  | n + 1 => c.next.advance n

/-- The `n`-th character from here. -/
def peek (c : Cursor) (n : Nat) : Char := (c.rest.drop n).headD endMark

end Cursor

/-- An action that reads from a cursor. -/
abbrev Reader := StateT Cursor (Except Fault)

/-- The `n`-th character from here. -/
def peekAt (n : Nat) : Reader Char := return (← get).peek n

/-- The next character. -/
def peek : Reader Char := peekAt 0

/-- Pass over `n` characters. -/
def skip (n : Nat) : Reader Unit := modify (·.advance n)

/-- Refuse the text. -/
def refuse {α : Type} : Reader α := throw .malformed

/-- Go on only if the condition holds. -/
def demand (condition : Bool) : Reader Unit := if condition then pure () else refuse

/-- Read the longest run of characters with a property. -/
def readWhile (p : Char → Bool) : Reader Text := do
  let run := (← get).rest.takeWhile p
  skip run.length
  return run

/-- Pass over spaces. -/
def skipSpaces : Reader Unit := do
  let _ ← readWhile (· == ' ')

/-- Read a line end, if there is one.  The usual ones are all read as a line feed. -/
def readBreak : Reader Text := do
  let ch ← peek
  if ch == '\r' && (← peekAt 1) == '\n' then
    skip 2
    return ['\n']
  else if ch == '\r' || ch == '\n' || ch == '\u0085' then
    skip 1
    return ['\n']
  else if isBreak ch then
    skip 1
    return [ch]
  else return []

/-- Is there a document marker, three hyphens or three points, at this place? -/
def atDocumentMarker : Reader Bool := do
  let c ← get
  let three := c.rest.take 3
  return (three == ['-', '-', '-'] || three == ['.', '.', '.']) && isGap (c.peek 3)

/-- Pass over a comment, if there is one. -/
def skipComment : Reader Unit := do
  if (← peek) == '#' then
    let _ ← readWhile (!isBreakOrEnd ·)

end MarkupCatalog.Yaml
