import MarkupCatalog.Charset.CodePage
import MarkupCatalog.Charset.Escaped
import MarkupCatalog.Charset.Utf7
import MarkupCatalog.Charset.Utf8

/-!
# Charsets

The charsets by which files are read and written.  Those whose characters are listed elsewhere
are read and written by codecs.

Where no other codecs are at hand, only the characters of ASCII are covered in these charsets, and
all others are refused (`Codecs.ascii`).
-/

namespace MarkupCatalog

/-- A charset: a way to write text as bytes. -/
inductive Charset
  | utf8
  | utf8Signed
  | utf7
  | utf16
  | utf16Ordered (order : Charset.ByteOrder)
  | utf32
  | utf32Ordered (order : Charset.ByteOrder)
  | ascii
  | latin1
  | codePage (page : Charset.CodePage)
  /-- A charset that is left to the codecs. -/
  | foreign (name : String)
  | escaped (style : Charset.Escaped.Style)
  /-- The charset of no text at all. -/
  | undefined
  deriving DecidableEq, Repr

namespace Charset

/-- Bytes without a byte order mark, and the order that the mark told. -/
def byteOrder? (unit : ByteOrder → Nat → Bytes) (bytes : Bytes) : Option ByteOrder :=
  if (unit .littleEndian 0xFEFF).isPrefixOf bytes then some .littleEndian
  else if (unit .bigEndian 0xFEFF).isPrefixOf bytes then some .bigEndian
  else none

/-- Read bytes whose byte order a mark in front of them tells.  Without mark they are
read in the usual order, and refused when there is something in them. -/
def decodeMarked (family : Text) (width : Nat) (unit : ByteOrder → Nat → Bytes)
    (decode : ByteOrder → Nat → Bytes → Except DecodeFault Text) (bytes : Bytes) :
    Except ReadFault Text :=
  match byteOrder? unit bytes with
  | some order => (decode order width (bytes.drop width)).mapError .undecodable
  | none =>
      match decode .littleEndian 0 bytes with
      | .error fault => .error (.undecodable fault)
      | .ok text => if text.isEmpty then .ok [] else .error (.unmarked family)

/-- The text that bytes stand for. -/
def decode (codecs : Codecs) (bytes : Bytes) : Charset → Except ReadFault Text
  | .utf8 => (Utf8.decode bytes).mapError .undecodable
  | .utf8Signed => (Utf8.decodeSigned bytes).mapError .undecodable
  | .utf7 => (Utf7.decode codecs bytes).mapError .undecodable
  | .utf16 => decodeMarked "UTF-16" 2 ByteOrder.pair Utf16.decode bytes
  | .utf16Ordered order => (Utf16.decode order 0 bytes).mapError .undecodable
  | .utf32 => decodeMarked "UTF-32" 4 ByteOrder.quad Utf32.decode bytes
  | .utf32Ordered order => (Utf32.decode order 0 bytes).mapError .undecodable
  | .ascii => ((ByteTable.identity 128).decode .ascii bytes).mapError .undecodable
  | .latin1 => ((ByteTable.identity 256).decode .latin1 bytes).mapError .undecodable
  | .codePage page => (page.table.decode .codePage bytes).mapError .undecodable
  | .foreign name => codecs.decode name bytes
  | .escaped style => (Escaped.decode codecs style bytes).mapError .undecodable
  | .undefined => .error .undefined

/-- The bytes of a text, which stands at the start of a file or further on: a byte order
mark is written once. -/
def encode (codecs : Codecs) (text : Text) (atStart : Bool) : Charset → Except WriteFault Bytes
  | .utf8 => .ok (Utf8.encode text)
  | .utf8Signed => .ok ((if atStart then Utf8.signature else []) ++ Utf8.encode text)
  | .utf7 => .ok (Utf7.encode text)
  | .utf16 =>
      .ok ((if atStart then ByteOrder.pair .littleEndian 0xFEFF else [])
        ++ text.flatMap (Utf16.encodeChar .littleEndian))
  | .utf16Ordered order => .ok (text.flatMap (Utf16.encodeChar order))
  | .utf32 =>
      .ok ((if atStart then ByteOrder.quad .littleEndian 0xFEFF else [])
        ++ text.flatMap (Utf32.encodeChar .littleEndian))
  | .utf32Ordered order => .ok (text.flatMap (Utf32.encodeChar order))
  | .ascii => ((ByteTable.identity 128).encode .ascii text).mapError .unencodable
  | .latin1 => ((ByteTable.identity 256).encode .latin1 text).mapError .unencodable
  | .codePage page => (page.table.encode .codePage text).mapError .unencodable
  | .foreign name => codecs.encode name text atStart
  | .escaped style => .ok (Escaped.encode style text)
  | .undefined => .error .undefined

/-! ## Codecs for ASCII -/

/-- The foreign charsets that name the hosts of a network; what they do not cover is reported as
for ASCII. -/
def hostNames : List String := ["idna", "punycode"]

/-- Read bytes of which only those of ASCII are covered. -/
def decodeAscii (name : String) (bytes : Bytes) : Except DecodeFault Text :=
  if hostNames.contains name then (ByteTable.identity 128).decode .ascii bytes
  else
    match bytes.findIdx? (0x80 ≤ ·) with
    | none => .ok (bytes.map fun b => Char.ofNat b.toNat)
    | some position =>
        let reason : Text :=
          if position + 1 = bytes.length then "incomplete multibyte sequence"
          else "illegal multibyte sequence"
        .error ⟨name, bytes.getD position 0, position, position + 1, reason⟩

/-- Write characters of which only those of ASCII are covered. -/
def encodeAscii (name : String) (text : Text) : Except EncodeFault Bytes :=
  if hostNames.contains name then (ByteTable.identity 128).encode .ascii text
  else
    match text.findIdx? (0x80 ≤ ·.toNat) with
    | none => .ok (text.map (·.toNat.toUInt8))
    | some position =>
        .error ⟨name, text.getD position ' ', position, position + 1, "illegal multibyte sequence"⟩

/-- The codecs by which only ASCII is covered, and no character has a name. -/
def Codecs.ascii : Codecs where
  decode name bytes := (decodeAscii name bytes).mapError .undecodable
  encode name text _ := (encodeAscii name text).mapError .unencodable
  named? _ := none
  half _ := '\uFFFD'

end Charset

end MarkupCatalog
