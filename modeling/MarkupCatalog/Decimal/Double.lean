/-!
# Double-precision numbers

Numbers with 53 significant binary digits and exponents from -1074 on, as plain data:
a sign, a mantissa and a power of two.  Every operation computes its exact result as
a ratio of natural numbers and rounds that once, to the nearest number, and to the
one with the even mantissa when two are equally near.
-/

namespace MarkupCatalog

/-- A double-precision number.  A finite one is `mantissa · 2 ^ exponent`, or its
negative. -/
inductive Double
  | finite (negative : Bool) (mantissa : Nat) (exponent : Int)
  | infinite (negative : Bool)
  | undefined
  deriving DecidableEq, Repr

namespace Double

/-- A non-negative ratio. -/
structure Ratio where
  num : Nat
  den : Nat

/-- A power of two. -/
def twoTo (e : Nat) : Nat := Nat.pow 2 e

/-- A power of ten. -/
def tenTo (e : Nat) : Nat := Nat.pow 10 e

/-- The number of binary digits of `n`. -/
def bitLength (n : Nat) : Nat := if n = 0 then 0 else n.log2 + 1

/-- The quotient rounded to the nearest integer, a half to the even one. -/
def roundDiv (num den : Nat) : Nat :=
  let q := num / den
  let twice := 2 * (num % den)
  if den < twice ∨ (twice = den ∧ q % 2 = 1) then q + 1 else q

/-- The ratio divided by a power of two. -/
def Ratio.scale (r : Ratio) (exponent : Int) : Ratio :=
  match exponent with
  | .ofNat e => ⟨r.num, r.den * twoTo e⟩
  | .negSucc e => ⟨r.num * twoTo (e + 1), r.den⟩

/-- The exponent at which a ratio is rounded: 53 digits are kept, and none below
`2 ^ (-1074)`. -/
def roundingExponent (r : Ratio) : Int :=
  let guess : Int := (bitLength r.num : Int) - bitLength r.den - 53
  let scaled := r.scale guess
  max (if scaled.num < twoTo 53 * scaled.den then guess else guess + 1) (-1074)

/-- The finite number, with no more than 53 binary digits in its mantissa.  Rounding up
gives one more if it carries all the way. -/
def normal (negative : Bool) (mantissa : Nat) (exponent : Int) : Double :=
  if mantissa = twoTo 53 then .finite negative (twoTo 52) (exponent + 1)
  else .finite negative mantissa exponent

/-- The number nearest to a ratio. -/
def ofRatio (negative : Bool) (r : Ratio) : Double :=
  if r.num = 0 then .finite negative 0 0
  else
    let exponent := roundingExponent r
    let scaled := r.scale exponent
    let mantissa := roundDiv scaled.num scaled.den
    if 1024 < (bitLength mantissa : Int) + exponent then .infinite negative
    else normal negative mantissa exponent

/-- The exact size of `mantissa · 2 ^ exponent`. -/
def size (mantissa : Nat) (exponent : Int) : Ratio :=
  (⟨mantissa, 1⟩ : Ratio).scale (-exponent)

/-- The number nearest to `digits · 10 ^ exponent`.  Beyond 400 places nothing but zero
and infinity is left. -/
def ofDecimal (negative : Bool) (digits : Nat) (exponent : Int) : Double :=
  let places : Int := (Nat.toDigits 10 digits).length
  if digits = 0 then .finite negative 0 0
  else if 400 < places + exponent then .infinite negative
  else if places + exponent < -400 then .finite negative 0 0
  else match exponent with
    | .ofNat e => ofRatio negative ⟨digits * tenTo e, 1⟩
    | .negSucc e => ofRatio negative ⟨digits, tenTo (e + 1)⟩

/-- The number nearest to a natural number, if that is not too large to have one. -/
def ofNat? (n : Nat) : Option Double :=
  match ofRatio false ⟨n, 1⟩ with
  | .finite negative mantissa exponent => some (.finite negative mantissa exponent)
  | _ => none

/-- Is the number written with a minus sign? -/
def isNegative : Double → Bool
  | .finite negative _ _ => negative
  | .infinite negative => negative
  | .undefined => false

/-- Is the number zero? -/
def isZero : Double → Bool
  | .finite _ mantissa _ => mantissa = 0
  | _ => false

/-- The product of two numbers.  Zero times infinity is undefined. -/
def mul (x y : Double) : Double :=
  let negative := x.isNegative != y.isNegative
  match x, y with
  | .finite _ m e, .finite _ n f => ofRatio negative (size (m * n) (e + f))
  | .undefined, _ => .undefined
  | _, .undefined => .undefined
  | x, y => if x.isZero || y.isZero then .undefined else .infinite negative

/-- The integer `mantissa · 2 ^ shift`, or its negative. -/
def signed (negative : Bool) (mantissa shift : Nat) : Int :=
  if negative then -(mantissa * twoTo shift : Nat) else (mantissa * twoTo shift : Nat)

/-- The sum of two numbers.  A sum that is zero has a minus sign only if both of them
have; the two infinities have no sum. -/
def add (x y : Double) : Double :=
  match x, y with
  | .finite a m e, .finite b n f =>
      let low := min e f
      let sum := signed a m (e - low).toNat + signed b n (f - low).toNat
      if sum = 0 then .finite (a && b) 0 0 else ofRatio (sum < 0) (size sum.natAbs low)
  | .infinite a, .infinite b => if a = b then .infinite a else .undefined
  | .undefined, _ => .undefined
  | _, .undefined => .undefined
  | .infinite a, _ => .infinite a
  | _, .infinite b => .infinite b

/-- The number with the other sign. -/
def neg : Double → Double
  | .finite negative m e => .finite (!negative) m e
  | .infinite negative => .infinite (!negative)
  | .undefined => .undefined

/-- The whole part of a number; there is none beyond the finite ones. -/
def truncate : Double → Int
  | .finite negative mantissa exponent =>
      let size := match exponent with
        | .ofNat e => mantissa * twoTo e
        | .negSucc e => mantissa / twoTo (e + 1)
      if negative then -(size : Int) else size
  | _ => 0

end Double

end MarkupCatalog
