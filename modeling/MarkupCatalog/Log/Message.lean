import MarkupCatalog.Decimal.Fixed
import MarkupCatalog.Log.Argument

/-!
# Messages with arguments

A message may leave gaps for its arguments.  A gap is a percent sign, settings, and a
letter that tells how the argument is shown: `%s` as it is, `%r` with quotes if it is a
text, `%d` as a whole number, and so on.  The settings give the least width, the side on
which it is filled up, the precision, and what is done about signs.  A gap with a name in
parentheses is filled from a mapping.  A percent sign itself is written twice.

A message without arguments is taken as it stands, and so is a gap that no argument fits.
-/

namespace MarkupCatalog.Log

/-- A number among the settings of a gap: given, or the next argument. -/
inductive Amount
  | given (n : Nat)
  | argument
  deriving DecidableEq, Repr

/-- A gap of a message. -/
structure Gap where
  name : Option Text := none
  flags : Text := []
  width : Option Amount := none
  precision : Option Amount := none
  letter : Char
  deriving DecidableEq, Repr

/-- The number at the front of a text, and the rest. -/
def readAmount (text : Text) : Option Amount × Text :=
  match text with
  | '*' :: rest => (some .argument, rest)
  | _ =>
      let digits := text.takeWhile Char.isDigit
      if digits.isEmpty then (none, text)
      else
        let value := digits.foldl (fun n c => n * 10 + (c.toNat - '0'.toNat)) 0
        (some (.given value), text.drop digits.length)

/-- The name in parentheses at the front of a text, and the rest. -/
def readName (text : Text) : Option Text × Text :=
  match text with
  | '(' :: rest =>
      if rest.contains ')' then
        let name := rest.takeWhile (· != ')')
        (some name, rest.drop (name.length + 1))
      else (none, text)
  | _ => (none, text)

/-- The gap whose percent sign stands before a text, and what comes after the gap. -/
def readGap? (text : Text) : Option (Gap × Text) :=
  let (name, text) := readName text
  let flags := text.takeWhile fun c => ("-+ #0" : Text).contains c
  let (width, text) := readAmount (text.drop flags.length)
  let (precision, text) := match text with
    | '.' :: rest =>
        let (amount, rest) := readAmount rest
        (some (amount.getD (.given 0)), rest)
    | _ => (none, text)
  let text := match text with
    | c :: rest => if ("hlL" : Text).contains c then rest else text
    | [] => []
  match text with
  | letter :: rest => some (⟨name, flags, width, precision, letter⟩, rest)
  | [] => none

/-- What is put into a gap: a sign and a mark in front, which stay in front of zeros that
fill up, and the rest. -/
structure Filling where
  sign : Text := []
  mark : Text := []
  body : Text

/-- The sign of a number. -/
def signOf (flags : Text) (negative : Bool) : Text :=
  if negative then ['-']
  else if flags.contains '+' then ['+']
  else if flags.contains ' ' then [' ']
  else []

/-- A whole number in a base.  Every letter but `d` also takes the mark of its base, if
that is asked for. -/
def wholeFilling (flags : Text) (precision : Nat) (letter : Char) (n : Int) : Filling :=
  let base := if letter == 'o' then 8 else if letter == 'd' then 10 else 16
  let digits := Decimal.padLeft precision (Nat.toDigits base n.natAbs)
  { sign := signOf flags (n < 0)
    mark := if flags.contains '#' && letter != 'd' then ['0', letter] else []
    body := if letter == 'X' then digits.map Char.toUpper else digits }

/-- A number with digits after the point, in the manner of a letter. -/
def doubleFilling (flags : Text) (precision : Nat) (letter : Char) (x : Double) : Filling :=
  let pointed := flags.contains '#'
  let body : Text := match x with
    | .undefined => "nan"
    | .infinite _ => "inf"
    | .finite _ mantissa exponent =>
        let size := Double.size mantissa exponent
        if letter.toLower == 'f' then Decimal.fixed pointed precision size
        else if letter.toLower == 'e' then Decimal.exponential pointed precision size
        else Decimal.general pointed precision size
  { sign := signOf flags x.isNegative
    body := if letter.isUpper then body.map Char.toUpper else body }

/-- What an argument puts into a gap, if it fits. -/
def filling? (flags : Text) (precision : Option Nat) (letter : Char) (a : Argument) :
    Option Filling :=
  let cut (t : Text) : Filling := ⟨[], [], (precision.map t.take).getD t⟩
  match letter with
  | 's' => some (cut a.plain)
  | 'r' => some (cut a.quoted)
  | 'a' => some (cut (Text.escapedToAscii a.quoted))
  | 'c' => a.char?.map fun c => ⟨[], [], [c]⟩
  | 'd' | 'i' | 'u' => a.whole?.map (wholeFilling flags (precision.getD 0) 'd')
  | 'o' | 'x' | 'X' => a.whole?.map (wholeFilling flags (precision.getD 0) letter)
  | 'e' | 'E' | 'f' | 'F' | 'g' | 'G' =>
      a.double?.map (doubleFilling flags (precision.getD 6) letter)
  | _ => none

/-- Are the letters those of numbers, which may be filled up with zeros? -/
def isNumeric (letter : Char) : Bool := !("srac" : Text).contains letter

/-- A filling of at least the given width. -/
def Filling.text (f : Filling) (flags : Text) (width : Nat) (numeric : Bool) : Text :=
  let missing := width - (f.sign.length + f.mark.length + f.body.length)
  if flags.contains '-' then f.sign ++ f.mark ++ f.body ++ List.replicate missing ' '
  else if flags.contains '0' && numeric then
    f.sign ++ f.mark ++ List.replicate missing '0' ++ f.body
  else List.replicate missing ' ' ++ f.sign ++ f.mark ++ f.body

/-- What the gaps are filled from: the arguments that are left, and the mapping that names
are looked for in. -/
structure Supply where
  arguments : List Argument
  named : List (Text × Argument) := []

namespace Supply

/-- A number among the settings of a gap. -/
def amount (s : Supply) : Option Amount → Option Int × Supply
  | none => (none, s)
  | some (.given n) => (some n, s)
  | some .argument =>
      match s.arguments with
      | a :: rest => (a.whole?, { s with arguments := rest })
      | [] => (none, s)

/-- The argument for a gap. -/
def next? (s : Supply) : Option Text → Option (Argument × Supply)
  | some name => (s.named.find? (·.1 = name)).map fun entry => (entry.2, s)
  | none =>
      match s.arguments with
      | a :: rest => some (a, { s with arguments := rest })
      | [] => none

/-- The text for a gap. -/
def fill? (s : Supply) (gap : Gap) : Option (Text × Supply) := do
  let (width, s) := s.amount gap.width
  let (precision, s) := s.amount gap.precision
  if gap.letter == '%' then return (['%'], s)
  let (a, s) ← s.next? gap.name
  let width := width.getD 0
  let flags := if width < 0 then '-' :: gap.flags else gap.flags
  let filling ← filling? flags (precision.map Int.toNat) gap.letter a
  return (filling.text flags width.natAbs (isNumeric gap.letter), s)

end Supply

/-- Fill the gaps of a message from left to right; the first `skip` characters belong to a
gap that has been filled already. -/
def fillGaps : Nat → Text → Supply → Text
  | _, [], _ => []
  | skip + 1, _ :: rest, s => fillGaps skip rest s
  | 0, '%' :: rest, s =>
      match readGap? rest with
      | none => '%' :: fillGaps 0 rest s
      | some (gap, after) =>
          match s.fill? gap with
          | some (text, s) => text ++ fillGaps (rest.length - after.length) rest s
          | none => '%' :: fillGaps 0 rest s
  | 0, c :: rest, s => c :: fillGaps 0 rest s

/-- What a list of arguments supplies.  Names are looked for in a single mapping. -/
def supply : List Argument → Supply
  | [.mapping (entry :: entries)] => ⟨[.mapping (entry :: entries)], entry :: entries⟩
  | args => ⟨args, []⟩

/-- A message with its arguments. -/
def message (template : Text) (args : List Argument) : Text :=
  if args.isEmpty then template else fillGaps 0 template (supply args)

end MarkupCatalog.Log
