import MarkupCatalog.Yaml.Scalar

/-!
# Tags

A tag tells what a node of a YAML document stands for.  A plain scalar without tag gets
one by its form: a truth value, a number with or without a point, a moment in time,
nothing at all, or a text.
-/

namespace MarkupCatalog.Yaml

namespace Tag

/-- The tags of the YAML type repository start with this. -/
def core : Text := "tag:yaml.org,2002:"

/-- The tag of the YAML type repository with a name. -/
def ofName (name : Text) : Text := core ++ name

/-- Is the character a decimal digit? -/
def isDigit (c : Char) : Bool := c.isDigit

/-- Is the character a decimal digit or an underscore? -/
def isDigitOrLine (c : Char) : Bool := c.isDigit || c == '_'

/-- The text without a sign in front. -/
def unsigned : Text → Text
  | '-' :: rest => rest
  | '+' :: rest => rest
  | text => text

/-- Is the text a non-empty run of characters with a property? -/
def isRun (p : Char → Bool) (text : Text) : Bool := !text.isEmpty && text.all p

/-- Is the text a base-60 digit: one or two decimal digits below 60? -/
def isSixty : Text → Bool
  | [a] => a.isDigit
  | [a, b] => a.isDigit && a ≤ '5' && b.isDigit
  | _ => false

/-- Does the text start with a digit from `least` on and go on with digits and
underscores? -/
def isNumeral (least : Char) : Text → Bool
  | [] => false
  | c :: rest => c.isDigit && least ≤ c && rest.all isDigitOrLine

/-- Does the text read as an integer? -/
def isInteger (text : Text) : Bool :=
  match unsigned text with
  | '0' :: 'b' :: digits => isRun (fun c => c == '0' || c == '1' || c == '_') digits
  | '0' :: 'x' :: digits =>
      isRun (fun c => c.isDigit || ('a' ≤ c && c ≤ 'f') || ('A' ≤ c && c ≤ 'F') || c == '_') digits
  | ['0'] => true
  | '0' :: digits => isRun (fun c => ('0' ≤ c && c ≤ '7') || c == '_') digits
  | digits =>
      match Text.splitOnChar ':' digits with
      | first :: rest => isNumeral '1' first && rest.all isSixty
      | [] => false

/-- Is the text an exponent with its sign, or nothing? -/
def isExponent : Text → Bool
  | [] => true
  | e :: sign :: digits =>
      (e == 'e' || e == 'E') && (sign == '-' || sign == '+') && isRun isDigit digits
  | _ => false

/-- Is the text a run of digits and underscores with an exponent, or without? -/
def isFraction (text : Text) : Bool := isExponent (text.dropWhile isDigitOrLine)

/-- Does the text read as a number with a decimal point? -/
def isFloat (text : Text) : Bool :=
  let size := unsigned text
  let isSigned := size.length < text.length
  match size with
  | '.' :: rest =>
      ["inf", "Inf", "INF"].any (·.toList == rest)
        || (!isSigned && (["nan", "NaN", "NAN"].any (·.toList == rest)
          || (rest.headD ' ').isDigit && isFraction rest))
  | _ =>
      let whole := size.takeWhile (· != '.')
      match size.dropWhile (· != '.') with
      | '.' :: rest =>
          (isNumeral '0' whole && isFraction rest)
            || (match Text.splitOnChar ':' whole with
              | first :: sixties =>
                  isNumeral '0' first && !sixties.isEmpty && sixties.all isSixty
                    && rest.all isDigitOrLine
              | [] => false)
      | _ => false

/-- The spellings of the truth values. -/
def trueWords : List String :=
  ["yes", "Yes", "YES", "true", "True", "TRUE", "on", "On", "ON"]

/-- The spellings of the truth value "false". -/
def falseWords : List String :=
  ["no", "No", "NO", "false", "False", "FALSE", "off", "Off", "OFF"]

/-- The spellings of "nothing". -/
def nullWords : List String := ["~", "null", "Null", "NULL"]

/-- Signs that name other nodes, and are no plain scalars. -/
def signWords : List String := ["!", "&", "*"]

/-- The name of the tag that a scalar gets by its form.  A line feed after other characters
does not count. -/
def nameOfPlain (text : Text) : Text :=
  let core := withoutLastBreak text
  let isOneOf (words : List String) : Bool := words.any (·.toList == core)
  if text.isEmpty then "null"
  else if core.isEmpty then "str"
  else if isOneOf trueWords || isOneOf falseWords then "bool"
  else if isFloat core then "float"
  else if isInteger core then "int"
  else if core == ['<', '<'] then "merge"
  else if isOneOf nullWords then "null"
  else if (Moment.ofText? core).any Moment.isFull then "timestamp"
  else if core == ['='] then "value"
  else if isOneOf signWords then "yaml"
  else "str"

end Tag

end MarkupCatalog.Yaml
