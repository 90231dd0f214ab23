import MarkupCatalog.Json.Basic

/-!
# Reading JSON

A reader of JSON in full: every value of the grammar is read, whatever blanks stand between
its parts, and nothing else.  It is an automaton that takes one character after the other;
what is not yet complete waits on a stack.

* A text has no character below U+0020 in it.  An escape by number is one character, or two
  of them are a pair of surrogates; half a pair is refused, since it is no character.
* A number is read exactly, as a decimal fraction.
* The members of an object keep their order.  A key that comes again keeps its place and
  takes the new value.
-/

namespace MarkupCatalog.Json

/-- A JSON value as a reader hands it over. -/
inductive Value
  | null
  | bool (b : Bool)
  /-- The number `mantissa * 10 ^ exponent`. -/
  | number (mantissa exponent : Int)
  | text (t : Text)
  | array (items : List Value)
  | object (members : List (Text × Value))

namespace Value

/-- Set a member: in place if it is there, otherwise at the end. -/
def setMember (key : Text) (value : Value) : List (Text × Value) → List (Text × Value)
  | [] => [(key, value)]
  | (k, v) :: rest => if k = key then (k, value) :: rest else (k, v) :: setMember key value rest

end Value

/-! ## Texts -/

/-- The character that a letter after a backslash stands for. -/
def unescape? (c : Char) : Option Char :=
  if c = '"' ∨ c = '\\' ∨ c = '/' then some c
  else if c = 'n' then some '\n'
  else if c = 'r' then some '\r'
  else if c = 't' then some '\t'
  else if c = 'b' then some '\x08'
  else if c = 'f' then some '\x0c'
  else none

/-- The value of a hexadecimal digit. -/
def hexValue? (c : Char) : Option Nat :=
  if '0' ≤ c ∧ c ≤ '9' then some (c.toNat - '0'.toNat)
  else if 'a' ≤ c ∧ c ≤ 'f' then some (c.toNat - 'a'.toNat + 10)
  else if 'A' ≤ c ∧ c ≤ 'F' then some (c.toNat - 'A'.toNat + 10)
  else none

/-- How far the reader of a text has come with a character. -/
inductive Glyph
  | plain
  /-- After a backslash. -/
  | escaped
  /-- Inside of an escape by number: the first half of a pair that waits, the digits so far
  and their value. -/
  | unit (high : Option Nat) (count value : Nat)
  /-- After the first half of a pair. -/
  | pair (high : Nat)
  /-- After the first half of a pair and a backslash. -/
  | pairEscaped (high : Nat)
  deriving DecidableEq, Repr

/-- Is the number the first half of a pair of surrogates? -/
def isHigh (unit : Nat) : Bool := 0xD800 ≤ unit && unit < 0xDC00

/-- Is the number the second half of a pair of surrogates? -/
def isLow (unit : Nat) : Bool := 0xDC00 ≤ unit && unit < 0xE000

/-- The end of an escape by number, after the text `done`. -/
def endUnit (high : Option Nat) (unit : Nat) (done : Text) : Option (Glyph × Text) :=
  match high with
  | none =>
      if isHigh unit then some (.pair unit, done)
      else if isLow unit then none
      else some (.plain, done ++ [Char.ofNat unit])
  | some high =>
      if isLow unit then
        some (.plain, done ++ [Char.ofNat (0x10000 + (high - 0xD800) * 0x400 + (unit - 0xDC00))])
      else none

/-- The reader of a text after one more character of it. -/
def feedText (done : Text) (c : Char) : Glyph → Option (Glyph × Text)
  | .plain =>
      if c = '\\' then some (.escaped, done)
      else if c.toNat < 0x20 then none
      else some (.plain, done ++ [c])
  | .escaped =>
      if c = 'u' then some (.unit none 0 0, done)
      else (unescape? c).map fun d => (.plain, done ++ [d])
  | .unit high count value =>
      match hexValue? c with
      | none => none
      | some d =>
          if count < 3 then some (.unit high (count + 1) (16 * value + d), done)
          else endUnit high (16 * value + d) done
  | .pair high => if c = '\\' then some (.pairEscaped high, done) else none
  | .pairEscaped high => if c = 'u' then some (.unit (some high) 0 0, done) else none

/-! ## Numbers and words -/

/-- The number that digits stand for, of which there is one at least. -/
def digits? (t : Text) : Option Nat :=
  if t.isEmpty || !t.all Char.isDigit then none else some (Nat.ofDigitChars 10 t 0)

/-- The exponent of a number, if there is one, up to its end. -/
def exponent? : Text → Option Int
  | [] => some 0
  | e :: rest =>
      if e = 'e' ∨ e = 'E' then
        match rest with
        | '-' :: digits => (digits? digits).map fun n => -(n : Int)
        | '+' :: digits => (digits? digits).map fun n => (n : Int)
        | digits => (digits? digits).map fun n => (n : Int)
      else none

/-- The digits behind the point of a number, if there is one, and the rest. -/
def fraction? : Text → Option (Text × Text)
  | '.' :: rest =>
      let fraction := rest.takeWhile Char.isDigit
      if fraction.isEmpty then none else some (fraction, rest.dropWhile Char.isDigit)
  | rest => some ([], rest)

/-- A number without sign, as a mantissa and an exponent.  No zero stands in front of other
digits. -/
def unsigned? (t : Text) : Option (Nat × Int) := do
  let whole := t.takeWhile Char.isDigit
  if whole.isEmpty || (whole.head? = some '0' && whole != ['0']) then none
  let (fraction, rest) ← fraction? (t.dropWhile Char.isDigit)
  let exponent ← exponent? rest
  return (Nat.ofDigitChars 10 (whole ++ fraction) 0, exponent - fraction.length)

/-- The value that a word or a number stands for. -/
def scalar? (t : Text) : Option Value :=
  if t = "null".toList then some .null
  else if t = "true".toList then some (.bool true)
  else if t = "false".toList then some (.bool false)
  else
    match t with
    | '-' :: t => (unsigned? t).map fun (mantissa, exponent) => .number (-mantissa) exponent
    | t => (unsigned? t).map fun (mantissa, exponent) => .number mantissa exponent

/-! ## Values -/

/-- May the character stand between the parts of a value? -/
def isBlank (c : Char) : Bool := c = ' ' || c = '\t' || c = '\n' || c = '\r'

/-- Does the character end a word or a number? -/
def isDelimiter (c : Char) : Bool := isBlank c || c = ',' || c = ']' || c = '\x7d'

/-- A value that is not complete because a part of it is being read. -/
inductive Frame
  | array (items : List Value)
  | object (members : List (Text × Value)) (key : Text)

/-- What the reader is about to read. -/
inductive Mode
  | value
  /-- The first item of an array, or its end. -/
  | firstItem
  | afterItem (items : List Value)
  /-- The first member of an object, or its end. -/
  | firstMember
  | member (members : List (Text × Value))
  | colon (members : List (Text × Value)) (key : Text)
  | afterMember (members : List (Text × Value))
  | text (glyph : Glyph) (done : Text)
  | key (members : List (Text × Value)) (glyph : Glyph) (done : Text)
  /-- A word or a number. -/
  | scalar (done : Text)
  /-- The whole value is read. -/
  | done (v : Value)

/-- The state of a reader. -/
structure State where
  mode : Mode
  stack : List Frame

namespace State

/-- A value is complete. -/
def receive (v : Value) : List Frame → State
  | [] => ⟨.done v, []⟩
  | .array items :: stack => ⟨.afterItem (items ++ [v]), stack⟩
  | .object members key :: stack => ⟨.afterMember (Value.setMember key v members), stack⟩

/-- The first character of a value. -/
def startValue (c : Char) (stack : List Frame) : Option State :=
  if isBlank c then some ⟨.value, stack⟩
  else if isDelimiter c then none
  else if c = '[' then some ⟨.firstItem, stack⟩
  else if c = '\x7b' then some ⟨.firstMember, stack⟩
  else if c = '"' then some ⟨.text .plain [], stack⟩
  else some ⟨.scalar [c], stack⟩

/-- A character that stands after a value. -/
def feedAfter (s : State) (c : Char) : Option State :=
  if isBlank c then some s
  else
    match s.mode with
    | .afterItem items =>
        if c = ',' then some ⟨.value, .array items :: s.stack⟩
        else if c = ']' then some (receive (.array items) s.stack)
        else none
    | .afterMember members =>
        if c = ',' then some ⟨.member members, s.stack⟩
        else if c = '\x7d' then some (receive (.object members) s.stack)
        else none
    | _ => none

/-- The reader after one more character. -/
def feed (s : State) (c : Char) : Option State :=
  match s.mode with
  | .value => startValue c s.stack
  | .firstItem =>
      if isBlank c then some s
      else if c = ']' then some (receive (.array []) s.stack)
      else startValue c (.array [] :: s.stack)
  | .firstMember =>
      if isBlank c then some s
      else if c = '\x7d' then some (receive (.object []) s.stack)
      else if c = '"' then some ⟨.key [] .plain [], s.stack⟩
      else none
  | .member members =>
      if isBlank c then some s
      else if c = '"' then some ⟨.key members .plain [], s.stack⟩
      else none
  | .colon members key =>
      if isBlank c then some s
      else if c = ':' then some ⟨.value, .object members key :: s.stack⟩
      else none
  | .text glyph done =>
      if glyph = .plain ∧ c = '"' then some (receive (.text done) s.stack)
      else (feedText done c glyph).map fun (glyph, done) => ⟨.text glyph done, s.stack⟩
  | .key members glyph done =>
      if glyph = .plain ∧ c = '"' then some ⟨.colon members done, s.stack⟩
      else (feedText done c glyph).map fun (glyph, done) => ⟨.key members glyph done, s.stack⟩
  | .scalar done =>
      if isDelimiter c then (scalar? done).bind fun v => feedAfter (receive v s.stack) c
      else some ⟨.scalar (done ++ [c]), s.stack⟩
  | .afterItem _ | .afterMember _ | .done _ => feedAfter s c

/-- The reader after a text. -/
def run : State → Text → Option State
  | s, [] => some s
  | s, c :: t => (s.feed c).bind fun s => s.run t

/-- The value that was read, if it is complete. -/
def result? (s : State) : Option Value :=
  match s with
  | ⟨.done v, _⟩ => some v
  | ⟨.scalar t, []⟩ => scalar? t
  | _ => none

end State

/-- The value that a text writes. -/
def read? (t : Text) : Option Value := ((State.mk .value []).run t).bind State.result?

end MarkupCatalog.Json
