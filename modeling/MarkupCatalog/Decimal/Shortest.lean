import MarkupCatalog.Decimal.Double
import MarkupCatalog.Text.Blank

/-!
# Shortest decimals

The decimal with the fewest digits that is rounded to a given number.  For one digit,
then two, and so on, the two decimals with that many digits next to the number are
tried; the first length at which one of them is rounded to the number is the answer.
If both are, the nearer one is taken.
-/

namespace MarkupCatalog.Decimal

open Double (Ratio)

/-- The decimal `digits · 10 ^ exponent`. -/
structure Scaled where
  digits : Nat
  exponent : Int
  deriving DecidableEq, Repr

/-- The ratios that are rounded to one number: those strictly between `low` and
`high`, and these two as well when `closed`. -/
structure Interval where
  low : Ratio
  high : Ratio
  closed : Bool

/-- The interval of ratios that are rounded to `mantissa · 2 ^ exponent`.  Just below a
power of two the numbers lie twice as close. -/
def interval (mantissa : Nat) (exponent : Int) : Interval :=
  { low :=
      if mantissa = Double.twoTo 52 ∧ -1074 < exponent then
        Double.size (4 * mantissa - 1) (exponent - 2)
      else Double.size (2 * mantissa - 1) (exponent - 1)
    high := Double.size (2 * mantissa + 1) (exponent - 1)
    closed := mantissa % 2 = 0 }

/-- Is the first ratio less than the second, or equal to it if `orEqual`? -/
def ratioLt (a b : Ratio) (orEqual : Bool) : Bool :=
  if orEqual then a.num * b.den ≤ b.num * a.den else a.num * b.den < b.num * a.den

/-- Does the interval hold the ratio? -/
def Interval.holds (i : Interval) (r : Ratio) : Bool :=
  ratioLt i.low r i.closed && ratioLt r i.high i.closed

/-- The ratio times a power of ten. -/
def timesTen (r : Ratio) (power : Int) : Ratio :=
  match power with
  | .ofNat p => ⟨r.num * Double.tenTo p, r.den⟩
  | .negSucc p => ⟨r.num, r.den * Double.tenTo (p + 1)⟩

/-- The least power of ten above a ratio, found from a guess in at most `fuel` steps. -/
def powerAbove (r : Ratio) : Nat → Int → Int
  | 0, guess => guess
  | fuel + 1, guess =>
      let scaled := timesTen r (-guess)
      if scaled.den ≤ scaled.num then powerAbove r fuel (guess + 1)
      else if scaled.num * 10 < scaled.den then powerAbove r fuel (guess - 1)
      else guess

/-- The decimal with its last digit at `10 ^ exponent` that is rounded to the number,
if there is one. -/
def nearest? (i : Interval) (r : Ratio) (exponent : Int) : Option Scaled :=
  let scaled := timesTen r (-exponent)
  let low := scaled.num / scaled.den
  let twice := 2 * (scaled.num % scaled.den)
  match i.holds (timesTen ⟨low, 1⟩ exponent), i.holds (timesTen ⟨low + 1, 1⟩ exponent) with
  | true, true =>
      if twice < scaled.den ∨ (twice = scaled.den ∧ low % 2 = 0) then some ⟨low, exponent⟩
      else some ⟨low + 1, exponent⟩
  | true, false => some ⟨low, exponent⟩
  | false, true => some ⟨low + 1, exponent⟩
  | false, false => none

/-- The first decimal that is rounded to the number when the last digit goes down from
`10 ^ exponent`. -/
def shortestFrom (i : Interval) (r : Ratio) : Nat → Int → Scaled
  | 0, exponent => ⟨(timesTen r (-exponent)).num / (timesTen r (-exponent)).den, exponent⟩
  | fuel + 1, exponent =>
      match nearest? i r exponent with
      | some decimal => decimal
      | none => shortestFrom i r fuel (exponent - 1)

/-- The shortest decimal that is rounded to `mantissa · 2 ^ exponent`.  Seventeen digits
always suffice. -/
def shortest (mantissa : Nat) (exponent : Int) : Scaled :=
  let r := Double.size mantissa exponent
  let guess : Int := ((Double.bitLength mantissa : Int) + exponent) * 30103 / 100000
  shortestFrom (interval mantissa exponent) r 17 (powerAbove r 8 guess - 1)

/-- The digits of a decimal without zeros at the end, and the place of its point
counted from the front of the digits. -/
def Scaled.places (s : Scaled) : Text × Int :=
  let digits := Text.ofNat s.digits
  (Text.dropEndWhile (· == '0') digits, digits.length + s.exponent)

end MarkupCatalog.Decimal
