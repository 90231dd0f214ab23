import MarkupCatalog.Charset.Fault

/-!
# Charsets of one byte per character

Such a charset is the table of the characters that its bytes stand for.  A byte without
character cannot be read, and a character without byte cannot be written; of the latter
a fault names all that stand together.
-/

namespace MarkupCatalog.Charset

/-- The characters that the bytes, from zero on, stand for. -/
abbrev ByteTable := Array (Option Char)

namespace ByteTable

/-- The character of a byte. -/
def char? (table : ByteTable) (b : UInt8) : Option Char := table[b.toNat]?.join

/-- The byte of a character; the greatest, if there are several. -/
def byte? (table : ByteTable) (c : Char) : Option UInt8 :=
  ((List.range 256).reverse.map Nat.toUInt8).find? fun b => table.char? b = some c

/-- The table in which the first `count` characters have their own numbers. -/
def identity (count : Nat) : ByteTable :=
  ((List.range count).map fun n => some (Char.ofNat n)).toArray

end ByteTable

/-- How faults of a charset with one byte per character are reported. -/
structure Wording where
  charset : Text
  reason : Text

/-- The wording of ASCII. -/
def Wording.ascii : Wording := ⟨"ascii", "ordinal not in range(128)"⟩

/-- The wording of latin-1. -/
def Wording.latin1 : Wording := ⟨"latin-1", "ordinal not in range(256)"⟩

/-- The wording of code pages. -/
def Wording.codePage : Wording := ⟨"charmap", "character maps to <undefined>"⟩

namespace ByteTable

/-- The text that bytes stand for, in reverse order and after the text `done`. -/
def decodeOnto (table : ByteTable) (wording : Wording) (done : Text) (position : Nat) :
    Bytes → Except DecodeFault Text
  | [] => .ok done
  | b :: rest =>
      match table.char? b with
      | some c => decodeOnto table wording (c :: done) (position + 1) rest
      | none => .error ⟨wording.charset, b, position, position + 1, wording.reason⟩

/-- The text that bytes stand for. -/
def decode (table : ByteTable) (wording : Wording) (bytes : Bytes) : Except DecodeFault Text :=
  (decodeOnto table wording [] 0 bytes).map List.reverse

/-- The bytes of a text, in reverse order and after the bytes `done`. -/
def encodeOnto (table : ByteTable) (wording : Wording) (done : Bytes) (position : Nat) :
    Text → Except EncodeFault Bytes
  | [] => .ok done
  | c :: rest =>
      match table.byte? c with
      | some b => encodeOnto table wording (b :: done) (position + 1) rest
      | none =>
          let run := rest.takeWhile fun d => (table.byte? d).isNone
          .error ⟨wording.charset, c, position, position + 1 + run.length, wording.reason⟩

/-- The bytes of a text. -/
def encode (table : ByteTable) (wording : Wording) (text : Text) : Except EncodeFault Bytes :=
  (encodeOnto table wording [] 0 text).map List.reverse

end ByteTable

end MarkupCatalog.Charset
