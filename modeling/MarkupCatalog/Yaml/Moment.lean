import MarkupCatalog.Yaml.Cursor

/-!
# Moments

A date, or a date with a time of day and perhaps an offset from universal time, as YAML
writes it.
-/

namespace MarkupCatalog.Yaml

/-- Is the character a space or a tabulator? -/
def isSpaceOrTab (c : Char) : Bool := c == ' ' || c == '\t'

/-- The text without a line feed at its end. -/
def withoutLastBreak (text : Text) : Text :=
  if text.getLast? == some '\n' then text.dropLast else text

/-- The parts of a date, and of the time and the offset if there are any. -/
structure Moment where
  year : Text
  month : Text
  day : Text
  time : Option (Text × Text × Text) := none
  /-- The sign, hours and minutes of an offset. -/
  offset : Option (Char × Text × Text) := none

namespace Moment

/-- Cut off one digit, or two if there are two. -/
def takeTwo? : Text → Option (Text × Text)
  | a :: b :: rest =>
      if a.isDigit then
        if b.isDigit then some ([a, b], rest) else some ([a], b :: rest)
      else none
  | [a] => if a.isDigit then some ([a], []) else none
  | [] => none

/-- Cut off two digits. -/
def takePair? : Text → Option (Text × Text)
  | a :: b :: rest => if a.isDigit && b.isDigit then some ([a, b], rest) else none
  | _ => none

/-- Cut off a given character. -/
def takeChar? (c : Char) : Text → Option Text
  | d :: rest => if c = d then some rest else none
  | [] => none

/-- The parts of the offset at the end of a time: nothing, `Z`, or hours and perhaps
minutes with a sign. -/
def offset? (text : Text) : Option (Option (Char × Text × Text)) :=
  match text.dropWhile isSpaceOrTab with
  | [] => if text.isEmpty then some none else none
  | ['Z'] => some none
  | sign :: rest => do
      if sign != '-' && sign != '+' then none
      let (hours, rest) ← takeTwo? rest
      match rest with
      | [] => some (some (sign, hours, ['0']))
      | ':' :: rest => do
          let (minutes, rest) ← takePair? rest
          if rest.isEmpty then some (some (sign, hours, minutes)) else none
      | _ => none

/-- The moment that a text writes. -/
def ofText? (text : Text) : Option Moment := do
  let year := text.take 4
  if year.length < 4 || !year.all Char.isDigit then none
  let rest ← takeChar? '-' (text.drop 4)
  let (month, rest) ← takeTwo? rest
  let rest ← takeChar? '-' rest
  let (day, rest) ← takeTwo? rest
  if rest.isEmpty then
    return { year, month, day }
  let rest ← match rest with
    | 'T' :: rest => some rest
    | 't' :: rest => some rest
    | c :: rest => if isSpaceOrTab c then some (rest.dropWhile isSpaceOrTab) else none
    | [] => none
  let (hour, rest) ← takeTwo? rest
  let rest ← takeChar? ':' rest
  let (minute, rest) ← takePair? rest
  let rest ← takeChar? ':' rest
  let (second, rest) ← takePair? rest
  let rest := match rest with
    | '.' :: rest => rest.dropWhile Char.isDigit
    | rest => rest
  let offset ← offset? rest
  return { year, month, day, time := some (hour, minute, second), offset }

/-- Is the moment written in full?  A date alone has two digits for month and day. -/
def isFull (m : Moment) : Bool := m.time.isSome || (m.month.length == 2 && m.day.length == 2)

/-- The number of days of a month. -/
def daysInMonth (year month : Nat) : Nat :=
  if month == 2 then
    if year % 4 == 0 && (year % 100 != 0 || year % 400 == 0) then 29 else 28
  else if [4, 6, 9, 11].contains month then 30 else 31

/-- Days and seconds as the message about an offset writes them. -/
def durationText (seconds : Int) : Text :=
  let days := seconds.fdiv 86400
  let rest := seconds.fmod 86400
  let parts := (if days = 0 then [] else ["days=" ++ Text.ofInt days])
    ++ (if rest = 0 then [] else ["seconds=" ++ Text.ofInt rest])
  "datetime.timedelta(" ++ (if parts.isEmpty then ['0'] else Text.joinWith ", " parts) ++ ")"

/-- The number that digits write. -/
def number (digits : Text) : Nat := digits.foldl (fun n c => n * 10 + (c.toNat - '0'.toNat)) 0

/-- Is there such a date? -/
def checkDate (m : Moment) : Except Fault Unit := do
  if number m.year = 0 then throw (.badMoment "year 0 is out of range")
  if number m.month < 1 ∨ 12 < number m.month then throw (.badMoment "month must be in 1..12")
  if number m.day < 1 ∨ daysInMonth (number m.year) (number m.month) < number m.day then
    throw (.badMoment "day is out of range for month")

/-- Is there such an offset? -/
def checkOffset : Option (Char × Text × Text) → Except Fault Unit
  | none => .ok ()
  | some (sign, hours, minutes) => do
      let size : Int := 3600 * number hours + 60 * number minutes
      if 86400 ≤ size then
        throw (.badMoment ("offset must be a timedelta strictly between -timedelta(hours=24) and "
          ++ "timedelta(hours=24), not "
          ++ durationText (if sign == '-' then -size else size) ++ "."))

/-- Is there such a moment?  The first part that is out of range is reported. -/
def check (m : Moment) : Except Fault Unit :=
  match m.time with
  | none => m.checkDate
  | some (hour, minute, second) => do
      checkOffset m.offset
      m.checkDate
      if 23 < number hour then throw (.badMoment "hour must be in 0..23")
      if 59 < number minute then throw (.badMoment "minute must be in 0..59")
      if 59 < number second then throw (.badMoment "second must be in 0..59")

end Moment

end MarkupCatalog.Yaml
