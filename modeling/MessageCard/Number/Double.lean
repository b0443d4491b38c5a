/-!
Double-precision numbers, held as their 64 bits.  A finite number is a fraction of powers of
two, so products, quotients and conversions are rounded once from an exact fraction, to the
nearest number and to the even one of two.
-/

namespace MessageCard

/-- A double-precision number of IEEE 754. -/
structure Double where
  bits : UInt64
deriving DecidableEq, Repr, Inhabited

namespace Double

/-- The bits below the sign. -/
def magnitude (x : Double) : Nat :=
  x.bits.toNat % Nat.pow 2 63

/-- Whether the sign bit is set. -/
def isNegative (x : Double) : Bool :=
  x.bits.toNat / Nat.pow 2 63 == 1

/-- The magnitude of the infinities; above it are the numbers that are not numbers. -/
def infiniteMagnitude : Nat :=
  2047 * Nat.pow 2 52

/-- Whether the number is neither infinite nor a NaN. -/
def isFinite (x : Double) : Bool :=
  x.magnitude < infiniteMagnitude

/-- Whether the number is no number. -/
def isNaN (x : Double) : Bool :=
  infiniteMagnitude < x.magnitude

/-- Whether the number is a zero of either sign. -/
def isZero (x : Double) : Bool :=
  x.magnitude == 0

/-- The number with the given sign and magnitude. -/
def ofMagnitude (negative : Bool) (magnitude : Nat) : Double :=
  { bits := UInt64.ofNat ((if negative then Nat.pow 2 63 else 0) + magnitude) }

/-- The zero without a sign. -/
def zero : Double :=
  ofMagnitude false 0

/-- A finite number is `significand * 2 ^ (exponent - 1074)` but for its sign; the significand
has 53 bits unless the exponent is 0. -/
def significand (x : Double) : Nat :=
  let field := x.magnitude / Nat.pow 2 52
  if field = 0 then x.magnitude else Nat.pow 2 52 + x.magnitude % Nat.pow 2 52

/-- The power of two that scales the significand, plus 1074. -/
def exponent (x : Double) : Nat :=
  x.magnitude / Nat.pow 2 52 - 1

/-- The quotient rounded to the nearest integer, and to the even one of two. -/
def roundDiv (num den : Nat) : Nat :=
  let quotient := num / den
  let twice := 2 * (num % den)
  if twice < den then quotient
  else if den < twice then quotient + 1
  else quotient + quotient % 2

/-- The fraction with the denominator, or the numerator, scaled by a power of two. -/
def scaled (num den : Nat) (power : Int) : Nat × Nat :=
  if 0 ≤ power then (num * Nat.pow 2 power.toNat, den)
  else (num, den * Nat.pow 2 (-power).toNat)

/-- The magnitude nearest to a fraction, infinite when the fraction is out of range.  The
fraction is scaled so that its integer part has 53 bits, or to the finest grid. -/
def roundedMagnitude (num den : Nat) : Nat :=
  if num = 0 then 0
  else
    let guess : Int := (Nat.log2 num : Int) - Nat.log2 den - 52
    let (n, d) := scaled num den (-guess)
    let power := if n < Nat.pow 2 52 * d then guess - 1 else guess
    let power := max power (-1074)
    let (n, d) := scaled num den (-power)
    min ((power + 1074).toNat * Nat.pow 2 52 + roundDiv n d) infiniteMagnitude

/-- The number nearest to a fraction with the given sign. -/
def ofRatio (negative : Bool) (num den : Nat) : Double :=
  ofMagnitude negative (roundedMagnitude num den)

/-- The number nearest to a natural number. -/
def ofNat (n : Nat) : Double :=
  ofRatio false n 1

/-- The number nearest to `digits * 10 ^ power`.  Powers far beyond the range are not formed:
the answer is infinite or zero. -/
def ofDecimal (negative : Bool) (digits : Nat) (power : Int) : Double :=
  if digits = 0 then ofMagnitude negative 0
  else
    let length : Int := (Nat.toDigits 10 digits).length
    if 400 < power + length then ofMagnitude negative infiniteMagnitude
    else if power + length < -400 then ofMagnitude negative 0
    else if 0 ≤ power then ofRatio negative (digits * Nat.pow 10 power.toNat) 1
    else ofRatio negative digits (Nat.pow 10 (-power).toNat)

/-- The exact value of a finite number without its sign, as a fraction. -/
def ratio (x : Double) : Nat × Nat :=
  scaled x.significand 1 ((x.exponent : Int) - 1074)

/-- The product of two finite numbers that have no sign. -/
def mul (x y : Double) : Double :=
  let (a, b) := x.ratio
  let (c, d) := y.ratio
  ofRatio false (a * c) (b * d)

/-- The quotient of two finite numbers that have no sign. -/
def div (x y : Double) : Double :=
  let (a, b) := x.ratio
  let (c, d) := y.ratio
  ofRatio false (a * d) (b * c)

/-- The number with the other sign. -/
def neg (x : Double) : Double :=
  ofMagnitude (!x.isNegative) x.magnitude

/-- A key that orders all numbers but NaNs: the zeros share one. -/
def key (x : Double) : Int :=
  if x.isNegative then -(x.magnitude : Int) else x.magnitude

/-- Whether one number is below another; never so for a NaN. -/
def lt (x y : Double) : Bool :=
  !x.isNaN && !y.isNaN && x.key < y.key

/-- The number moved to the nearer bound when it lies outside them; a NaN stays as it is. -/
def clamp (x low high : Double) : Double :=
  if x.lt low then low else if high.lt x then high else x

end Double

end MessageCard
