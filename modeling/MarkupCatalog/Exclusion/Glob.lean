import MarkupCatalog.Text.Basic

/-!
# Wildcard patterns

A pattern is matched against a whole text.  `*` stands for any run of characters,
`?` for one character, and a bracketed set for one character of the set, or outside
of it when the set starts with `!`.

In a set a closing bracket that comes first is an ordinary character, and `a-c` is a
range.  A hyphen at the front or the end of a set, or right after a range, is an
ordinary character.  A range whose ends are in the wrong order is empty and is taken
out of the set before anything else is decided about it.  A set without closing
bracket is an ordinary opening bracket.  No character escapes another.
-/

namespace MarkupCatalog.Glob

/-- One part of a pattern. -/
inductive Part
  /-- Any run of characters. -/
  | run
  /-- Any one character. -/
  | any
  /-- This character. -/
  | literal (c : Char)
  /-- A character in one of the ranges, or in none of them if `negated`. -/
  | oneOf (negated : Bool) (ranges : List (Char × Char))
  deriving DecidableEq, Repr

/-- A character of a set: itself, or the hyphen between the ends of a range. -/
inductive SetItem
  | plain (c : Char)
  | through
  deriving DecidableEq, Repr

/-- Cuts the inside of a set at the hyphens that make ranges.  A hyphen makes a range
unless it is one of the first `skip` characters; after it, two characters are passed
over before the next one is looked for. -/
def cutRanges : Nat → Text → List Text
  | _, [] => [[]]
  | 0, '-' :: rest => [] :: cutRanges 2 rest
  | skip, c :: rest =>
      match cutRanges (skip - 1) rest with
      | piece :: pieces => (c :: piece) :: pieces
      | [] => [[c]]

/-- A hyphen at the very end makes no range: it belongs to the piece before it. -/
def keepLastHyphen : List Text → List Text
  | [] => []
  | [piece, []] => [piece ++ ['-']]
  | piece :: pieces => piece :: keepLastHyphen pieces

/-- Takes the empty ranges out: when the last character of a piece comes after the
first one of the next piece, both go and the pieces become one. -/
def dropEmptyRanges : List Text → List Text
  | [] => []
  | piece :: pieces =>
      match dropEmptyRanges pieces with
      | [] => [piece]
      | next :: rest =>
          match piece.getLast?, next with
          | some a, b :: after =>
              if b.toNat < a.toNat then (piece.dropLast ++ after) :: rest
              else piece :: next :: rest
          | _, _ => piece :: next :: rest

/-- The pieces of a set with the range hyphens between them. -/
def setItems : List Text → List SetItem
  | [] => []
  | [piece] => piece.map .plain
  | piece :: pieces => piece.map .plain ++ .through :: setItems pieces

/-- The character an item is when it stands alone or ends a range. -/
def SetItem.char : SetItem → Char
  | .plain c => c
  | .through => '-'

/-- The ranges that a set of items stands for; a single character is a range of its
own. -/
def itemRanges : List SetItem → List (Char × Char)
  | [] => []
  | a :: .through :: b :: rest => (a.char, b.char) :: itemRanges rest
  | a :: rest => (a.char, a.char) :: itemRanges rest

/-- The part that the inside of a bracketed set stands for. -/
def setPart (inside : Text) : Part :=
  let skip := if inside.head? = some '!' then 2 else 1
  match setItems (dropEmptyRanges (keepLastHyphen (cutRanges skip inside))) with
  | .plain '!' :: items => .oneOf true (itemRanges items)
  | items => .oneOf false (itemRanges items)

/-- The inside of a set that starts at the front of a text, and its length, if a
bracket closes it. -/
def setInside? (text : Text) : Option Text :=
  let (mark, rest) := match text with
    | '!' :: rest => (['!'], rest)
    | rest => ([], rest)
  let (first, rest) := match rest with
    | ']' :: rest => ([']'], rest)
    | rest => ([], rest)
  if rest.contains ']' then some (mark ++ first ++ rest.takeWhile (· != ']')) else none

/-- The parts of a pattern; the first `skip` characters belong to a set that has been
read already. -/
def partsFrom : Nat → Text → List Part
  | _, [] => []
  | skip + 1, _ :: rest => partsFrom skip rest
  | 0, '*' :: rest => .run :: partsFrom 0 rest
  | 0, '?' :: rest => .any :: partsFrom 0 rest
  | 0, '[' :: rest =>
      match setInside? rest with
      | some inside => setPart inside :: partsFrom (inside.length + 1) rest
      | none => .literal '[' :: partsFrom 0 rest
  | 0, c :: rest => .literal c :: partsFrom 0 rest

/-- The parts of a pattern. -/
def parts (pattern : Text) : List Part := partsFrom 0 pattern

/-- Does the part stand for this one character?  A run is treated apart. -/
def Part.accepts (c : Char) : Part → Bool
  | .run => true
  | .any => true
  | .literal d => c == d
  | .oneOf negated ranges =>
      (ranges.any fun r => r.1.toNat ≤ c.toNat && c.toNat ≤ r.2.toNat) != negated

/-- Do the parts, in order, make up the whole text? -/
def matchParts : List Part → Text → Bool
  | [], text => text.isEmpty
  | .run :: parts, [] => matchParts parts []
  | .run :: parts, c :: text => matchParts parts (c :: text) || matchParts (.run :: parts) text
  | _ :: _, [] => false
  | part :: parts, c :: text => part.accepts c && matchParts parts text
termination_by parts text => parts.length + text.length

/-- Which values of a list are true, or have a true one after them? -/
def anyFrom : List Bool → List Bool
  | [] => []
  | b :: rest =>
      match anyFrom rest with
      | [] => [b]
      | later :: more => (b || later) :: later :: more

/-- Which ends of a text do the parts make up?  The text itself comes first and the empty
end last, so every part is compared with every character once. -/
def matchEnds : List Part → Text → List Bool
  | [], text => text.map (fun _ => false) ++ [true]
  | .run :: parts, text => anyFrom (matchEnds parts text)
  | part :: parts, text =>
      List.zipWith (fun c rest => part.accepts c && rest) text ((matchEnds parts text).drop 1)
        ++ [false]

/-- The empty text has one end. -/
theorem matchEnds_nil (parts : List Part) : matchEnds parts [] = [matchParts parts []] := by
  induction parts with
  | nil => simp [matchEnds, matchParts]
  | cons part parts ih => cases part <;> simp [matchEnds, matchParts, ih, anyFrom]

/-- A text has one end more than the text after its first character. -/
theorem matchEnds_cons (parts : List Part) (c : Char) (text : Text) :
    matchEnds parts (c :: text) = matchParts parts (c :: text) :: matchEnds parts text := by
  induction parts generalizing c text with
  | nil => simp [matchEnds, matchParts]
  | cons part parts ih =>
      have ends : ∀ t, ∃ more, matchEnds parts t = matchParts parts t :: more := by
        intro t
        cases t with
        | nil => exact ⟨[], matchEnds_nil parts⟩
        | cons d t => exact ⟨_, ih d t⟩
      cases part with
      | run =>
          have runs : ∀ t, ∃ more,
              anyFrom (matchEnds parts t) = matchParts (.run :: parts) t :: more := by
            intro t
            induction t with
            | nil => exact ⟨[], by simp [matchEnds_nil, anyFrom, matchParts]⟩
            | cons d t iht =>
                obtain ⟨more, h⟩ := iht
                exact ⟨_, by rw [ih, anyFrom, h, matchParts]⟩
          obtain ⟨more, h⟩ := runs text
          simp only [matchEnds, ih, anyFrom, h, matchParts]
      | any | literal | oneOf =>
          obtain ⟨more, h⟩ := ends text
          simp [matchEnds, ih, h, matchParts]

/-- Does the pattern match the whole text? -/
def isMatch (pattern text : Text) : Bool :=
  (matchEnds (parts pattern) text).headD false

/-- A pattern matches a text that its parts make up. -/
theorem isMatch_eq (pattern text : Text) :
    isMatch pattern text = matchParts (parts pattern) text := by
  cases text with
  | nil => simp [isMatch, matchEnds_nil]
  | cons c text => simp [isMatch, matchEnds_cons]

end MarkupCatalog.Glob
