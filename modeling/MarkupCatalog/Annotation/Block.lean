import MarkupCatalog.Annotation.Metadata
import MarkupCatalog.Text.Search

/-!
# Annotated blocks

An annotation is a keyword inside an open comment, followed by a header and by the
block it documents.

* A keyword is a *marker* when a comment opener comes before it and no closer lies
  between the last such opener and the keyword.
* The header runs from the end of the keyword to the first *terminator*: a comment
  closer or a blank line.  A terminator has to end before the next marker.
* The block runs from the end of the terminator to the next marker, without the
  comment opener that belongs to that marker, or to the end of the text.
* A last marker without terminator gives no block; any other marker without
  terminator gives an empty one.
-/

namespace MarkupCatalog.Annotation

/-- The keyword and the comment delimiters by which annotations are recognised. -/
structure Dialect where
  keyword : Text
  opening : Text
  closing : Text
  keyword_ne_nil : keyword ≠ []

/-- One annotation of a text: its metadata, its block word for word, the offset of
its keyword and the offset at which its block ends. -/
structure Block where
  metadata : Metadata
  raw : Text
  start : Nat
  stop : Nat
  deriving DecidableEq, Repr

/-- Is the character a space or a tabulator? -/
def isSpaceOrTab (c : Char) : Bool := c == ' ' || c == '\t'

/-- The text after a line end at its front, and the length of that line end. -/
def lineBreak? : Text → Option (Nat × Text)
  | '\n' :: rest => some (1, rest)
  | '\r' :: '\n' :: rest => some (2, rest)
  | _ => none

/-- The length of a blank line at the front of a text: two line ends with nothing but
spaces and tabulators between them. -/
def blankLineLength? (text : Text) : Option Nat := do
  let (first, rest) ← lineBreak? text
  let (second, _) ← lineBreak? (rest.dropWhile isSpaceOrTab)
  return first + (rest.takeWhile isSpaceOrTab).length + second

/-- Where the first blank line of a text starts and ends. -/
def findBlankLine? : Text → Option (Nat × Nat)
  | [] => none
  | c :: rest =>
      match blankLineLength? (c :: rest) with
      | some n => some (0, n)
      | none => (findBlankLine? rest).map fun (i, j) => (i + 1, j + 1)

/-- The one of two spans that starts first; of two with the same start, the shorter. -/
def earlier (a b : Nat × Nat) : Nat × Nat :=
  if a.1 < b.1 ∨ (a.1 = b.1 ∧ a.2 ≤ b.2) then a else b

namespace Dialect

variable (d : Dialect)

/-- Is a comment open at the end of `before`?  The last opener decides: the comment
is open unless a closer follows it. -/
def insideComment (before : Text) : Bool :=
  match Text.lastIndex? d.opening before with
  | none => false
  | some i => (Text.lastIndex? d.closing (before.drop (i + d.opening.length))).isNone

/-- The offsets of the keywords that stand inside a comment. -/
def markers (text : Text) : List Nat :=
  (Text.occurrences d.keyword text).filter fun i => d.insideComment (text.take i)

/-- Where the comment closer that comes first in a region starts and ends. -/
def findClosing? (region : Text) : Option (Nat × Nat) :=
  (Text.firstIndex? d.closing region).map fun i => (i, i + d.closing.length)

/-- Where the header's terminator starts and ends, in the region between a keyword
and the next marker. -/
def terminator? (region : Text) : Option (Nat × Nat) :=
  match d.findClosing? region, findBlankLine? region with
  | some closed, some blank => some (earlier closed blank)
  | some closed, none => some closed
  | none, blank => blank

/-- The part of a region before its last comment opener, or all of it. -/
def beforeOpener (region : Text) : Text :=
  match Text.lastIndex? d.opening region with
  | some i => region.take i
  | none => region

/-- The annotation whose keyword stands at `start`, when the next marker stands at
`next`. -/
def blockAt? (text : Text) (start : Nat) (next : Option Nat) : Option Block :=
  let headerStart := start + d.keyword.length
  let region := text.slice headerStart (next.getD text.length)
  match d.terminator? region, next with
  | none, none => none
  | none, some stop =>
      some { metadata := Metadata.ofHeader (d.beforeOpener region), raw := [], start, stop }
  | some (headerEnd, blockStart), next =>
      let rest := region.drop blockStart
      let raw := if next.isSome then d.beforeOpener rest else rest
      some { metadata := Metadata.ofHeader (region.take headerEnd), raw, start,
             stop := headerStart + blockStart + raw.length }

/-- The blocks of the markers, each of which ends where the next one starts. -/
def blocksAt (text : Text) : List Nat → List Block
  | [] => []
  | [last] => (d.blockAt? text last none).toList
  | start :: next :: rest =>
      (d.blockAt? text start (some next)).toList ++ blocksAt text (next :: rest)

/-- The annotations of a text in the order of their keywords. -/
def parse (text : Text) : List Block :=
  d.blocksAt text (d.markers text)

end Dialect

end MarkupCatalog.Annotation
