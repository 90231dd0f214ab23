import MarkupCatalog.Text.Blank
import MarkupCatalog.Text.Word

/-!
# Header pairs

A line of an annotation header gives a pair when, without the white space at its
ends and a leading run of `*` and `-`, it reads `key: value` or `@key value`.

* A key starts with an ASCII letter or an underscore and goes on with word
  characters, points and hyphens.
* A value holds no line feed, and white space around it does not belong to it.
* After `@key` the value may be missing, and is then empty.
-/

namespace MarkupCatalog.Annotation

/-- May a key start with this character? -/
def isKeyStart (c : Char) : Bool := c.isAlpha || c == '_'

/-- May a key go on with this character? -/
def isKeyRest (c : Char) : Bool := Text.isWord c || c == '.' || c == '-'

/-- Is the text a key? -/
def isKey : Text → Bool
  | [] => false
  | c :: rest => isKeyStart c && rest.all isKeyRest

/-- Does the character decorate the start of a header line? -/
def isDecoration (c : Char) : Bool := c == '*' || c == '-'

/-- What is left of a line when decoration and surrounding white space are gone. -/
def lineCore (line : Text) : Text :=
  Text.strip ((Text.strip line).dropWhile isDecoration)

/-- Cuts the longest key off the front. -/
def takeKey? : Text → Option (Text × Text)
  | [] => none
  | c :: rest =>
      if isKeyStart c then some (c :: rest.takeWhile isKeyRest, rest.dropWhile isKeyRest)
      else none

/-- The value that a rest of a line holds, if the rest stays on one line. -/
def value? (rest : Text) : Option Text :=
  let text := Text.stripStart rest
  if text.contains '\n' then none else some (Text.stripEnd text)

/-- The value after the key of an `@key value` line. -/
def atValue? : Text → Option Text
  | [] => some []
  | c :: rest => if Text.isBlank c then value? rest else none

/-- The value after the key of a `key: value` line. -/
def colonValue? (rest : Text) : Option Text :=
  match Text.stripStart rest with
  | ':' :: rest => value? rest
  | _ => none

/-- The pair that a line without decoration gives. -/
def corePair? : Text → Option (Text × Text)
  | '@' :: core => do
      let (key, rest) ← takeKey? core
      let value ← atValue? rest
      return (key, value)
  | core => do
      let (key, rest) ← takeKey? core
      let value ← colonValue? rest
      return (key, value)

/-- The pair that a header line gives, if it gives one. -/
def pair? (line : Text) : Option (Text × Text) :=
  corePair? (lineCore line)

end MarkupCatalog.Annotation
