import MarkupCatalog.Decimal.Shortest

/-!
# How a number is written

A finite number is written with the digits of its shortest decimal.  If the point falls
among them or a few places off, it is written in place, with at least one digit on both
sides; otherwise an exponent with a sign and two or more digits is used.
-/

namespace MarkupCatalog.Decimal

/-- The decisions of a number format. -/
structure Format where
  /-- The first place of the point, to the left, at which an exponent is used. -/
  smallest : Int
  /-- The last place of the point, to the right, at which no exponent is used. -/
  largest : Int
  /-- The least number of digits of an exponent. -/
  exponentWidth : Nat

/-- An exponent is used below `10 ^ (-4)` and from `10 ^ 16` on. -/
def plain : Format := ⟨-4, 16, 2⟩

/-- Zeros in front of digits up to a width. -/
def padLeft (width : Nat) (digits : Text) : Text :=
  List.replicate (width - digits.length) '0' ++ digits

/-- The digits with the point in its place. -/
def positional (digits : Text) (point : Int) : Text :=
  match point with
  | .ofNat p =>
      let whole := digits.take p ++ List.replicate (p - digits.length) '0'
      let rest := digits.drop p
      (if whole.isEmpty then ['0'] else whole) ++ '.' :: (if rest.isEmpty then ['0'] else rest)
  | .negSucc p => '0' :: '.' :: (List.replicate (p + 1) '0' ++ digits)

/-- The digits with the point after the first one, and an exponent. -/
def scientific (format : Format) (digits : Text) (point : Int) : Text :=
  let mantissa := match digits with
    | first :: [] => [first]
    | first :: rest => first :: '.' :: rest
    | [] => ['0']
  let power := point - 1
  let sign := if power < 0 then '-' else '+'
  mantissa ++ 'e' :: sign :: padLeft format.exponentWidth (Text.ofNat power.natAbs)

/-- A number as a text. -/
def write (format : Format) : Double → Text
  | .undefined => "nan"
  | .infinite negative => if negative then "-inf" else "inf"
  | .finite negative 0 _ => if negative then "-0.0" else "0.0"
  | .finite negative mantissa exponent =>
      let (digits, point) := (shortest mantissa exponent).places
      let size :=
        if point ≤ format.smallest ∨ format.largest < point then scientific format digits point
        else positional digits point
      if negative then '-' :: size else size

end MarkupCatalog.Decimal
