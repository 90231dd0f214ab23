import MarkupCatalog.Base64
import MarkupCatalog.Charset.Codecs
import MarkupCatalog.Charset.Wide

/-!
# UTF-7

Most characters of ASCII stand for themselves.  All others are written in sections between
a plus sign and a hyphen: their UTF-16 units, highest bit first, six bits to a character of
base 64.  A plus sign itself is a section with nothing in it.  The hyphen may be missing
before a character that is not of the alphabet.

A section may hold half a pair of surrogates; what is read in its place is for the codecs to say.
-/

namespace MarkupCatalog.Charset.Utf7

/-- The name of the charset in reports. -/
def name : Text := "utf7"

/-- The plus sign, which opens a section. -/
def opener : UInt8 := 0x2B

/-- The hyphen, which closes a section. -/
def closer : UInt8 := 0x2D

/-- Bits of a section that do not make up a whole unit, or a whole character, yet. -/
structure Remainder where
  count : Nat := 0
  bits : Nat := 0
  deriving DecidableEq, Repr

/-- A power of two. -/
def powerOfTwo (n : Nat) : Nat := Nat.pow 2 n

/-- Where in a text the next byte stands.  A section is known by the position of its plus
sign. -/
inductive Mode
  | plain
  /-- The byte comes directly after the plus sign. -/
  | opened (start : Nat)
  /-- The byte is inside of a section, in which the first half of a pair of surrogates may
  wait for the second. -/
  | shifted (start : Nat) (remainder : Remainder) (high : Option Nat)
  deriving DecidableEq, Repr

/-- The text after a unit has been read, in reverse order, and the first half of a pair
that waits. -/
def takeUnit (codecs : Codecs) (done : Text) (unit : Nat) : Option Nat → Text × Option Nat
  | some high =>
      if Utf16.isLow unit then
        (Char.ofNat (0x10000 + (high - 0xD800) * 0x400 + (unit - 0xDC00)) :: done, none)
      else if Utf16.isHigh unit then (codecs.half high :: done, some unit)
      else (Char.ofNat unit :: codecs.half high :: done, none)
  | none =>
      if Utf16.isHigh unit then (done, some unit)
      else if Utf16.isLow unit then (codecs.half unit :: done, none)
      else (Char.ofNat unit :: done, none)

/-- Six more bits of a section. -/
def takeBits (codecs : Codecs) (done : Text) (start : Nat) (r : Remainder) (high : Option Nat)
    (n : Nat) : Text × Mode :=
  let bits := r.bits * 64 + n
  let count := r.count + 6
  if 16 ≤ count then
    let spare := powerOfTwo (count - 16)
    let (done, high) := takeUnit codecs done (bits / spare) high
    (done, .shifted start ⟨count - 16, bits % spare⟩ high)
  else (done, .shifted start ⟨count, bits⟩ high)

/-- What is wrong with the bits that are left over at the end of a section. -/
def Remainder.reason? (r : Remainder) : Option Text :=
  if 6 ≤ r.count then some "partial character in shift sequence"
  else if r.bits ≠ 0 then some "non-zero padding bits in shift sequence"
  else none

/-- Read a byte outside of sections. -/
def readPlain (done : Text) (position : Nat) (b : UInt8) : Except DecodeFault (Text × Mode) :=
  if b == opener then .ok (done, .opened position)
  else if b < 0x80 then .ok (Char.ofNat b.toNat :: done, .plain)
  else .error ⟨name, b, position, position + 1, "unexpected special character"⟩

/-- Read a byte. -/
def readByte (codecs : Codecs) (done : Text) (position : Nat) (b : UInt8) :
    Mode → Except DecodeFault (Text × Mode)
  | .plain => readPlain done position b
  | .opened start =>
      match Base64.value? (Char.ofNat b.toNat) with
      | some n => .ok (takeBits codecs done start {} none n)
      | none =>
          if b == closer then .ok ('+' :: done, .plain)
          else .error ⟨name, opener, start, position + 1, "ill-formed sequence"⟩
  | .shifted start remainder high =>
      match Base64.value? (Char.ofNat b.toNat) with
      | some n => .ok (takeBits codecs done start remainder high n)
      | none =>
          match remainder.reason? with
          | some reason => .error ⟨name, opener, start, position + 1, reason⟩
          | none =>
              let done := if b < 0x80 then (high.map codecs.half).toList ++ done else done
              if b == closer then .ok (done, .plain) else readPlain done position b

/-- The text that bytes stand for, in reverse order and after the text `done`. -/
def decodeOnto (codecs : Codecs) (done : Text) (position : Nat) (mode : Mode) :
    Bytes → Except DecodeFault Text
  | [] =>
      match mode with
      | .shifted start remainder high =>
          if high.isSome || remainder.reason?.isSome then
            .error ⟨name, opener, start, position, "unterminated shift sequence"⟩
          else .ok done
      | _ => .ok done
  | b :: rest =>
      match readByte codecs done position b mode with
      | .ok (done, mode) => decodeOnto codecs done (position + 1) mode rest
      | .error fault => .error fault

/-- The text that bytes stand for. -/
def decode (codecs : Codecs) (bytes : Bytes) : Except DecodeFault Text :=
  (decodeOnto codecs [] 0 .plain bytes).map List.reverse

/-- Does the character stand for itself? -/
def isDirect (c : Char) : Bool :=
  c.isAlphanum || ("'(),-./:?!\"#$%&*;<=>@[]^_`\x7b|\x7d \t\n\r" : Text).contains c

/-- The UTF-16 units of a character. -/
def units (c : Char) : List Nat :=
  let n := c.toNat
  if n < 0x10000 then [n]
  else [0xD800 + (n - 0x10000) / 0x400, 0xDC00 + (n - 0x10000) % 0x400]

/-- The byte of a value of base 64. -/
def digitByte (n : Nat) : UInt8 := (Base64.digit (n % 64)).toNat.toUInt8

/-- Write a unit inside of a section, after the bytes `done` in reverse order. -/
def putUnit (state : Bytes × Remainder) (unit : Nat) : Bytes × Remainder :=
  let count := state.2.count + 16
  let bits := state.2.bits * 0x10000 + unit
  let digits := (List.range (count / 6)).map fun i =>
    digitByte (bits / powerOfTwo (count - 6 * (i + 1)))
  (digits.reverse ++ state.1, ⟨count % 6, bits % powerOfTwo (count % 6)⟩)

/-- Write the bits that are left over at the end of a section. -/
def putRemainder (done : Bytes) (r : Remainder) : Bytes :=
  if r.count = 0 then done else digitByte (r.bits * powerOfTwo (6 - r.count)) :: done

/-- The bytes of a text, in reverse order and after the bytes `done`.  A remainder is there
inside of a section. -/
def encodeOnto (done : Bytes) (remainder : Option Remainder) : Text → Bytes
  | [] =>
      match remainder with
      | some r => closer :: putRemainder done r
      | none => done
  | c :: rest =>
      let byte := c.toNat.toUInt8
      match remainder with
      | some r =>
          if isDirect c then
            let done := putRemainder done r
            let needsCloser := (Base64.value? c).isSome || c == '-'
            encodeOnto (byte :: if needsCloser then closer :: done else done) none rest
          else
            let (done, r) := (units c).foldl putUnit (done, r)
            encodeOnto done (some r) rest
      | none =>
          if c == '+' then encodeOnto (closer :: opener :: done) none rest
          else if isDirect c then encodeOnto (byte :: done) none rest
          else
            let (done, r) := (units c).foldl putUnit (opener :: done, {})
            encodeOnto done (some r) rest

/-- The bytes of a text. -/
def encode (text : Text) : Bytes := (encodeOnto [] none text).reverse

end MarkupCatalog.Charset.Utf7
