import MarkupCatalog.Decimal.Format

/-!
# Numbers with a given precision

A finite number with so many places after the point, or with so many digits and an
exponent.  The exact size of the number is rounded once, a half to the even neighbour.
-/

namespace MarkupCatalog.Decimal

open Double (Ratio)

/-- The digits of the multiple of `10 ^ exponent` nearest to a ratio. -/
def roundedTo (r : Ratio) (exponent : Int) : Nat :=
  let scaled := timesTen r (-exponent)
  Double.roundDiv scaled.num scaled.den

/-- A ratio with so many places after the point.  The point itself is left out if nothing
follows it, unless `pointed`. -/
def fixed (pointed : Bool) (places : Nat) (r : Ratio) : Text :=
  let digits := padLeft (places + 1) (Text.ofNat (roundedTo r (-places)))
  let whole := digits.length - places
  digits.take whole ++ (if places = 0 && !pointed then [] else ['.']) ++ digits.drop whole

/-- The first `places + 1` digits of a ratio, and the power of ten of the first one. -/
def significant (places : Nat) (r : Ratio) : Text × Int :=
  if r.num = 0 then (List.replicate (places + 1) '0', 0)
  else
    let guess : Int :=
      ((Double.bitLength r.num : Int) - Double.bitLength r.den) * 30103 / 100000
    let power := powerAbove r 8 guess - 1
    let rounded := roundedTo r (power - places)
    if rounded < Double.tenTo (places + 1) then (Text.ofNat rounded, power)
    else (Text.ofNat (rounded / 10), power + 1)

/-- Digits with the point after the first one, and an exponent. -/
def withExponent (pointed : Bool) (digits : Text) (power : Int) : Text :=
  let point : Text := if digits.length ≤ 1 && !pointed then [] else ['.']
  digits.take 1 ++ point ++ digits.drop 1
    ++ 'e' :: (if power < 0 then '-' else '+') :: padLeft 2 (Text.ofNat power.natAbs)

/-- A ratio with an exponent and so many places after the point. -/
def exponential (pointed : Bool) (places : Nat) (r : Ratio) : Text :=
  let (digits, power) := significant places r
  withExponent pointed digits power

/-- A ratio with so many digits, with an exponent only if the point is far off.  Zeros at
the end are left out, unless `pointed`. -/
def general (pointed : Bool) (precision : Nat) (r : Ratio) : Text :=
  let precision := max precision 1
  let (digits, power) := significant (precision - 1) r
  let trim (t : Text) : Text := if pointed then t else Text.dropEndWhile (· == '0') t
  if -4 ≤ power ∧ power < precision then
    let text := fixed pointed (precision - 1 - power).toNat r
    if text.contains '.' && !pointed then Text.dropEndWhile (· == '.') (trim text) else text
  else withExponent pointed (digits.take 1 ++ trim (digits.drop 1)) power

end MarkupCatalog.Decimal
