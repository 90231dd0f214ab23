import MarkupCatalog.Decimal.Double
import MarkupCatalog.Text.Blank
import MarkupCatalog.Text.Digit
import MarkupCatalog.Text.Lowercase
import MarkupCatalog.Yaml.Tag

/-!
# Numbers in a YAML document

What a scalar with the tag of a number stands for.  The digits of every script count as
digits, and white space around a number does not count.  A colon divides the digits of a
base-60 number.
-/

namespace MarkupCatalog.Yaml

/-- The value of a digit in a base. -/
def digitValue? (base : Nat) (c : Char) : Option Nat := do
  let n ← if c.isDigit then some (c.toNat - '0'.toNat)
    else if c.isAlpha then some (c.toLower.toNat - 'a'.toNat + 10)
    else none
  if n < base then some n else none

/-- The number that digits write in a base. -/
def digits? (base : Nat) (text : Text) : Option Nat :=
  if text.isEmpty then none
  else text.foldl (fun n c => do return (← n) * base + (← digitValue? base c)) (some 0)

/-- A character of a number in the first hundred and twenty-seven: white space as a space,
a digit as a digit, and what is foreign to numbers as a question mark. -/
def plainChar (c : Char) : Char :=
  if c.toNat < 0x7F then c
  else if Text.isBlank c then ' '
  else match Text.decimalValue? c with
    | some d => Char.ofNat ('0'.toNat + d)
    | none => '?'

/-- Is the character white space around a number? -/
def isMargin (c : Char) : Bool := c == ' ' || ('\t' ≤ c && c ≤ '\r')

/-- The text of a number in plain characters, without white space around it. -/
def plainNumber (text : Text) : Text :=
  Text.dropEndWhile isMargin ((text.map plainChar).dropWhile isMargin)

/-- The digits without the mark that their base may have in front. -/
def withoutBaseMark (base : Nat) : Text → Text
  | '0' :: c :: rest =>
      let mark := c.toLower
      if (base == 2 && mark == 'b') || (base == 8 && mark == 'o') || (base == 16 && mark == 'x')
      then rest
      else '0' :: c :: rest
  | text => text

/-- The integer that a text writes in a base.  In base ten the number of digits is limited,
and too many of them are reported before anything that follows them. -/
def integer (base : Nat) (text : Text) : Except Fault Int := do
  let core := plainNumber text
  let size := withoutBaseMark base (Tag.unsigned core)
  let count := (size.takeWhile fun c => (digitValue? base c).isSome).length
  if base == 10 && maxDigits < count then throw (.tooManyDigits (some count))
  match digits? base size with
  | none => throw (.badInteger base text)
  | some n => return if core.head? == some '-' then -(n : Int) else n

/-- The digits of a text with a fraction and an exponent: a number and a power of ten. -/
def decimal? (text : Text) : Option (Nat × Int) := do
  let whole := text.takeWhile Char.isDigit
  let rest := text.dropWhile Char.isDigit
  let (fraction, rest) := match rest with
    | '.' :: rest => (rest.takeWhile Char.isDigit, rest.dropWhile Char.isDigit)
    | rest => ([], rest)
  let digits ← digits? 10 (whole ++ fraction)
  let power ← match rest with
    | [] => some 0
    | e :: rest => do
        if e != 'e' && e != 'E' then none
        let n ← digits? 10 (Tag.unsigned rest)
        some (if rest.head? == some '-' then -(n : Int) else n)
  return (digits, power - fraction.length)

/-- The number that a text without sign writes. -/
def unsignedFloat? (text : Text) : Option Double :=
  if text == "inf".toList || text == "infinity".toList then some (.infinite false)
  else if text == "nan".toList then some .undefined
  else (decimal? text).map fun (digits, power) => Double.ofDecimal false digits power

/-- The number that a text writes. -/
def floating (text : Text) : Except Fault Double :=
  let core := plainNumber text
  match unsignedFloat? (Tag.unsigned core) with
  | some x => .ok (if core.head? == some '-' then x.neg else x)
  | none => .error (.badFloat text)

/-- The sum of base-60 digits, the first of which has the given weight. -/
def sixties (weight : Int) : List Int → Int
  | [] => 0
  | digit :: rest => digit * weight + sixties (weight * 60) rest

/-- The sum of base-60 digits, the first of which has the given weight, after the sum of
those before it. -/
def floatSixties (sum : Double) (weight : Nat) : List Double → Except Fault Double
  | [] => .ok sum
  | digit :: rest =>
      match Double.ofNat? weight with
      | some w => floatSixties (sum.add (digit.mul w)) (weight * 60) rest
      | none => .error .weightTooLarge

/-- The value of an integer scalar. -/
def integerValue (text : Text) : Except Fault Int := do
  let text := text.filter (· != '_')
  let size := Tag.unsigned text
  if size.isEmpty then throw .emptyNumber
  let negate (n : Int) : Int := if text.head? == some '-' then -n else n
  match size with
  | ['0'] => return 0
  | '0' :: 'b' :: digits => return negate (← integer 2 digits)
  | '0' :: 'x' :: digits => return negate (← integer 16 digits)
  | '0' :: _ => return negate (← integer 8 size)
  | _ =>
      let parts ← (Text.splitOnChar ':' size).mapM (integer 10)
      return negate (sixties 1 parts.reverse)

/-- The value of a scalar with a decimal point. -/
def floatValue (text : Text) : Except Fault Double := do
  let text := Text.lowercase (text.filter (· != '_'))
  if text.isEmpty then throw .emptyNumber
  let negate (x : Double) : Double := if text.head? == some '-' then x.neg else x
  let size := Tag.unsigned text
  if size == ".inf".toList then return negate (.infinite false)
  if size == ".nan".toList then return .undefined
  if size.contains ':' then
    let parts ← (Text.splitOnChar ':' size).mapM floating
    return negate (← floatSixties (.finite false 0 0) 1 parts.reverse)
  return negate (← floating size)

end MarkupCatalog.Yaml
