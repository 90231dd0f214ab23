import MarkupCatalog.Charset.Fault

/-!
# UTF-8

A character is one to four bytes.  The first byte tells how many follow, and each of
them carries six bits; the second byte is further restricted, so that no character has
two forms and no surrogate is written.

The bytes that a fault names are the first byte and those after it that could still go
on to a character.
-/

namespace MarkupCatalog.Charset.Utf8

/-- The bytes of a character. -/
def encodeChar (c : Char) : Bytes :=
  let n := c.toNat
  if n < 0x80 then [n.toUInt8]
  else if n < 0x800 then [(0xC0 + n / 0x40).toUInt8, (0x80 + n % 0x40).toUInt8]
  else if n < 0x10000 then
    [(0xE0 + n / 0x1000).toUInt8, (0x80 + n / 0x40 % 0x40).toUInt8, (0x80 + n % 0x40).toUInt8]
  else
    [(0xF0 + n / 0x40000).toUInt8, (0x80 + n / 0x1000 % 0x40).toUInt8,
      (0x80 + n / 0x40 % 0x40).toUInt8, (0x80 + n % 0x40).toUInt8]

/-- The bytes of a text. -/
def encode (text : Text) : Bytes := text.flatMap encodeChar

/-- May the byte follow the first one? -/
def isTail (b : UInt8) : Bool := 0x80 ≤ b && b < 0xC0

/-- May the byte follow this first byte directly? -/
def isSecond (first b : UInt8) : Bool :=
  isTail b && !(first == 0xE0 && b < 0xA0) && !(first == 0xED && 0xA0 ≤ b)
    && !(first == 0xF0 && b < 0x90) && !(first == 0xF4 && 0x90 ≤ b)

/-- The six bits of a byte that is not the first one. -/
def tailBits (b : UInt8) : Nat := b.toNat % 0x40

/-- A fault of `length` bytes at a position. -/
def fault (first : UInt8) (position length : Nat) (reason : Text) : DecodeFault :=
  ⟨"utf-8", first, position, position + length, reason⟩

/-- The bytes end inside of a character. -/
def cutShort : Text := "unexpected end of data"

/-- A byte does not go on with the character before it. -/
def notTail : Text := "invalid continuation byte"

/-- The text that bytes stand for, in reverse order and after the text `done`; the
bytes start at a position. -/
def decodeOnto (done : Text) (position : Nat) : Bytes → Except DecodeFault Text
  | [] => .ok done
  | a :: rest =>
      if a < 0x80 then decodeOnto (Char.ofNat a.toNat :: done) (position + 1) rest
      else if a < 0xC2 || 0xF5 ≤ a then .error (fault a position 1 "invalid start byte")
      else if a < 0xE0 then
        match rest with
        | [] => .error (fault a position 1 cutShort)
        | b :: rest =>
            if isSecond a b then
              decodeOnto (Char.ofNat (a.toNat % 0x20 * 0x40 + tailBits b) :: done)
                (position + 2) rest
            else .error (fault a position 1 notTail)
      else if a < 0xF0 then
        match rest with
        | [] => .error (fault a position 1 cutShort)
        | [b] => .error (if isSecond a b then fault a position 2 cutShort
            else fault a position 1 notTail)
        | b :: c :: rest =>
            if !isSecond a b then .error (fault a position 1 notTail)
            else if isTail c then
              decodeOnto (Char.ofNat (a.toNat % 0x10 * 0x1000 + tailBits b * 0x40 + tailBits c)
                :: done) (position + 3) rest
            else .error (fault a position 2 notTail)
      else
        match rest with
        | [] => .error (fault a position 1 cutShort)
        | [b] => .error (if isSecond a b then fault a position 2 cutShort
            else fault a position 1 notTail)
        | [b, c] => .error (if !isSecond a b then fault a position 1 notTail
            else if isTail c then fault a position 3 cutShort else fault a position 2 notTail)
        | b :: c :: d :: rest =>
            if !isSecond a b then .error (fault a position 1 notTail)
            else if !isTail c then .error (fault a position 2 notTail)
            else if isTail d then
              decodeOnto (Char.ofNat (a.toNat % 0x08 * 0x40000 + tailBits b * 0x1000
                + tailBits c * 0x40 + tailBits d) :: done) (position + 4) rest
            else .error (fault a position 3 notTail)

/-- The text that bytes stand for. -/
def decode (bytes : Bytes) : Except DecodeFault Text :=
  (decodeOnto [] 0 bytes).map List.reverse

/-- The byte order mark, which may stand in front of a text. -/
def signature : Bytes := [0xEF, 0xBB, 0xBF]

/-- The text that bytes stand for, without a byte order mark in front.  Positions of
faults are counted after the mark.  A beginning of the mark alone is no text yet. -/
def decodeSigned (bytes : Bytes) : Except DecodeFault Text :=
  if bytes.length < 3 && bytes.isPrefixOf signature then .ok []
  else if signature.isPrefixOf bytes then decode (bytes.drop 3)
  else decode bytes

end MarkupCatalog.Charset.Utf8
