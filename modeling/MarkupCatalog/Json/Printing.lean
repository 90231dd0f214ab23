import MarkupCatalog.Json.Basic
import MarkupCatalog.Json.Literal

/-!
# Printing JSON

Two ways to write a value: on one line with all characters as they are, and over several
lines in ASCII for the console.
-/

namespace MarkupCatalog.Json

mutual

/-- A value on one line. -/
def compact : Json → Text
  | .text t => literal .unicode t
  | .number n => Text.ofNat n
  | .array items => "[" ++ Text.joinWith ", " (compactItems items) ++ "]"
  | .object members => "\x7b" ++ Text.joinWith ", " (compactMembers members) ++ "\x7d"

/-- Values on one line each. -/
def compactItems : List Json → List Text
  | [] => []
  | item :: items => item.compact :: compactItems items

/-- Members on one line each. -/
def compactMembers : List (Text × Json) → List Text
  | [] => []
  | (key, value) :: members =>
      (literal .unicode key ++ ": " ++ value.compact) :: compactMembers members

end

/-- A new line that is indented by so many steps. -/
def newLine (depth : Nat) : Text := '\n' :: List.replicate (2 * depth) ' '

/-- Parts on lines of their own, between two brackets; if there are none, the brackets
stand together. -/
def bracketed (opening closing : Text) (depth : Nat) (parts : List Text) : Text :=
  if parts.isEmpty then opening ++ closing
  else opening ++ newLine (depth + 1)
    ++ Text.joinWith (',' :: newLine (depth + 1)) parts
    ++ newLine depth ++ closing

mutual

/-- A value over several lines, of which all but the first are indented. -/
def indented (depth : Nat) : Json → Text
  | .text t => literal .ascii t
  | .number n => Text.ofNat n
  | .array items => bracketed "[" "]" depth (indentedItems (depth + 1) items)
  | .object members => bracketed "\x7b" "\x7d" depth (indentedMembers (depth + 1) members)

/-- Values over several lines. -/
def indentedItems (depth : Nat) : List Json → List Text
  | [] => []
  | item :: items => item.indented depth :: indentedItems depth items

/-- Members over several lines. -/
def indentedMembers (depth : Nat) : List (Text × Json) → List Text
  | [] => []
  | (key, value) :: members =>
      (literal .ascii key ++ ": " ++ value.indented depth) :: indentedMembers depth members

end

end MarkupCatalog.Json
