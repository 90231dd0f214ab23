import MarkupCatalog.Charset.Fault

/-!
# UTF-16 and UTF-32

Characters as numbers of two or four bytes, the least or the greatest byte first.  In
UTF-16 a character above U+FFFF is a pair of surrogates.
-/

namespace MarkupCatalog.Charset

/-- Which byte of a number comes first. -/
inductive ByteOrder
  | littleEndian
  | bigEndian
  deriving DecidableEq, Repr

namespace ByteOrder

/-- The two bytes of a number. -/
def pair (order : ByteOrder) (n : Nat) : Bytes :=
  match order with
  | .littleEndian => [(n % 0x100).toUInt8, (n / 0x100).toUInt8]
  | .bigEndian => [(n / 0x100).toUInt8, (n % 0x100).toUInt8]

/-- The four bytes of a number. -/
def quad (order : ByteOrder) (n : Nat) : Bytes :=
  match order with
  | .littleEndian => pair .littleEndian (n % 0x10000) ++ pair .littleEndian (n / 0x10000)
  | .bigEndian => pair .bigEndian (n / 0x10000) ++ pair .bigEndian (n % 0x10000)

/-- The number that two bytes make. -/
def number (order : ByteOrder) (a b : UInt8) : Nat :=
  match order with
  | .littleEndian => a.toNat + b.toNat * 0x100
  | .bigEndian => a.toNat * 0x100 + b.toNat

/-- The number that four bytes make. -/
def number4 (order : ByteOrder) (a b c d : UInt8) : Nat :=
  match order with
  | .littleEndian => order.number a b + order.number c d * 0x10000
  | .bigEndian => order.number a b * 0x10000 + order.number c d

/-- The ending of the names of the charsets with this byte order. -/
def suffix : ByteOrder → Text
  | .littleEndian => "-le"
  | .bigEndian => "-be"

end ByteOrder

namespace Utf16

/-- The name of the charset. -/
def name (order : ByteOrder) : Text := "utf-16" ++ order.suffix

/-- The bytes of a character. -/
def encodeChar (order : ByteOrder) (c : Char) : Bytes :=
  let n := c.toNat
  if n < 0x10000 then order.pair n
  else
    order.pair (0xD800 + (n - 0x10000) / 0x400) ++ order.pair (0xDC00 + (n - 0x10000) % 0x400)

/-- A fault of `length` bytes at a position. -/
def fault (order : ByteOrder) (first : UInt8) (position length : Nat) (reason : Text) :
    DecodeFault :=
  ⟨name order, first, position, position + length, reason⟩

/-- Is the number the first half of a pair of surrogates? -/
def isHigh (n : Nat) : Bool := 0xD800 ≤ n && n < 0xDC00

/-- Is the number the second half of a pair of surrogates? -/
def isLow (n : Nat) : Bool := 0xDC00 ≤ n && n < 0xE000

/-- The text that bytes stand for, in reverse order and after the text `done`. -/
def decodeOnto (order : ByteOrder) (done : Text) (position : Nat) :
    Bytes → Except DecodeFault Text
  | [] => .ok done
  | [a] => .error (fault order a position 1 "truncated data")
  | a :: b :: rest =>
      let n := order.number a b
      if isLow n then .error (fault order a position 2 "illegal encoding")
      else if isHigh n then
        match rest with
        | c :: d :: rest =>
            let m := order.number c d
            if isLow m then
              decodeOnto order (Char.ofNat (0x10000 + (n - 0xD800) * 0x400 + (m - 0xDC00)) :: done)
                (position + 4) rest
            else .error (fault order a position 2 "illegal UTF-16 surrogate")
        | rest => .error (fault order a position (2 + rest.length) "unexpected end of data")
      else decodeOnto order (Char.ofNat n :: done) (position + 2) rest

/-- The text that bytes from a position on stand for. -/
def decode (order : ByteOrder) (position : Nat) (bytes : Bytes) : Except DecodeFault Text :=
  (decodeOnto order [] position bytes).map List.reverse

end Utf16

namespace Utf32

/-- The name of the charset. -/
def name (order : ByteOrder) : Text := "utf-32" ++ order.suffix

/-- The bytes of a character. -/
def encodeChar (order : ByteOrder) (c : Char) : Bytes := order.quad c.toNat

/-- A fault of `length` bytes at a position. -/
def fault (order : ByteOrder) (first : UInt8) (position length : Nat) (reason : Text) :
    DecodeFault :=
  ⟨name order, first, position, position + length, reason⟩

/-- The text that bytes stand for, in reverse order and after the text `done`. -/
def decodeOnto (order : ByteOrder) (done : Text) (position : Nat) :
    Bytes → Except DecodeFault Text
  | a :: b :: c :: d :: rest =>
      let n := order.number4 a b c d
      if 0xD800 ≤ n && n < 0xE000 then
        .error (fault order a position 4 "code point in surrogate code point range(0xd800, 0xe000)")
      else if 0x110000 ≤ n then
        .error (fault order a position 4 "code point not in range(0x110000)")
      else decodeOnto order (Char.ofNat n :: done) (position + 4) rest
  | [] => .ok done
  | a :: rest => .error (fault order a position (rest.length + 1) "truncated data")

/-- The text that bytes from a position on stand for. -/
def decode (order : ByteOrder) (position : Nat) (bytes : Bytes) : Except DecodeFault Text :=
  (decodeOnto order [] position bytes).map List.reverse

end Utf32

end MarkupCatalog.Charset
