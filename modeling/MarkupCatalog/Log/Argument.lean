import MarkupCatalog.Decimal.Format
import MarkupCatalog.Text.Quoted

/-!
# Arguments of messages

The values that a message can have for arguments, and the texts that show them.
-/

namespace MarkupCatalog.Log

/-- A value that fills a gap of a message. -/
inductive Argument
  | text (t : Text)
  | number (n : Int)
  | decimal (x : Double)
  | truth (b : Bool)
  | nothing
  | sequence (items : List Argument)
  | mapping (entries : List (Text × Argument))

namespace Argument

mutual

/-- The value with quotes around its texts. -/
def quoted : Argument → Text
  | .text t => Text.quoted t
  | .number n => Text.ofInt n
  | .decimal x => Decimal.write Decimal.plain x
  | .truth true => "True"
  | .truth false => "False"
  | .nothing => "None"
  | .sequence items => "[" ++ Text.joinWith ", " (quotedItems items) ++ "]"
  | .mapping entries => "\x7b" ++ Text.joinWith ", " (quotedEntries entries) ++ "\x7d"

/-- The items of a sequence, each with quotes around its texts. -/
def quotedItems : List Argument → List Text
  | [] => []
  | item :: items => item.quoted :: quotedItems items

/-- The entries of a mapping, each with quotes around its texts. -/
def quotedEntries : List (Text × Argument) → List Text
  | [] => []
  | (key, value) :: entries => (Text.quoted key ++ ": " ++ value.quoted) :: quotedEntries entries

end

/-- The value as it is. -/
def plain : Argument → Text
  | .text t => t
  | a => a.quoted

/-- The value as a whole number.  What comes after the point is left out. -/
def whole? : Argument → Option Int
  | .number n => some n
  | .decimal x => some x.truncate
  | .truth b => some (if b then 1 else 0)
  | _ => none

/-- The value as a number with digits after the point. -/
def double? : Argument → Option Double
  | .number n => some (Double.ofRatio (n < 0) ⟨n.natAbs, 1⟩)
  | .decimal x => some x
  | .truth b => some (Double.ofRatio false ⟨if b then 1 else 0, 1⟩)
  | _ => none

/-- The value as a single character. -/
def char? : Argument → Option Char
  | .text [c] => some c
  | .number (.ofNat n) => if n.isValidChar then some (Char.ofNat n) else none
  | .truth b => some (if b then '\x01' else '\x00')
  | _ => none

end Argument

end MarkupCatalog.Log
