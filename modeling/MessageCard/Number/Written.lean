import MessageCard.Number.Shortest
import MessageCard.Text.Blank

/-!
Numbers as text.  Two written forms use the shortest digits: the plain form never has an
exponent and drops an empty fraction, the JSON form marks a double by a point or an exponent.
Of two decimals as near to the number, the plain form takes the greater one, the JSON form the
even one.
Numeric text is read with one correct rounding.
-/

namespace MessageCard

namespace Decimal

/-- The decimal digits of a natural number. -/
def digitsOf (n : Nat) : List Char :=
  Nat.toDigits 10 n

/-- The digits before and after the point, of which the first part may be empty. -/
def places (d : Decimal) : List Char × List Char :=
  let digits := digitsOf d.digits
  if 0 ≤ d.power then (digits ++ List.replicate d.power.toNat '0', [])
  else
    let behind := (-d.power).toNat
    if digits.length ≤ behind then
      ([], List.replicate (behind - digits.length) '0' ++ digits)
    else (digits.take (digits.length - behind), digits.drop (digits.length - behind))

/-- The digits with the point where it belongs; an empty integer part is a zero, an empty
fraction is written as given. -/
def positional (d : Decimal) (emptyFraction : List Char) : List Char :=
  let (front, behind) := d.places
  (if front.isEmpty then ['0'] else front) ++
    (if behind.isEmpty then emptyFraction else '.' :: behind)

/-- The power of ten of the first digit. -/
def leadingPower (d : Decimal) : Int :=
  d.power + (digitsOf d.digits).length - 1

/-- One digit, the other digits behind a point, and the power of the first, with its sign. -/
def scientific (d : Decimal) : List Char :=
  let digits := digitsOf d.digits
  let fraction := digits.drop 1
  let power := d.leadingPower
  digits.take 1 ++ (if fraction.isEmpty then [] else '.' :: fraction) ++
    ['e', if 0 ≤ power then '+' else '-'] ++ digitsOf power.natAbs

end Decimal

namespace Double

/-- A finite number behind its sign. -/
def signed (x : Double) (text : List Char) : String :=
  String.ofList (if x.isNegative then '-' :: text else text)

/-- The plain form: the shortest digits, never an exponent, no empty fraction. -/
def plain (x : Double) : String :=
  if x.isNaN then "NaN"
  else if x.isFinite then x.signed ((Decimal.shortest .greater x).positional [])
  else if x.isNegative then "-inf" else "inf"

/-- The JSON form of a finite number: positional with a fraction while the first digit stands
between the powers -5 and 15 of ten, else with an exponent. -/
def json (x : Double) : String :=
  let d := Decimal.shortest .even x
  let power := d.leadingPower
  x.signed (if x.isZero || (-5 ≤ power && power ≤ 15) then d.positional ['.', '0']
    else d.scientific)

end Double

/-- The value of a digit. -/
def digitValue (c : Char) : Nat :=
  c.toNat - '0'.toNat

/-- The number that decimal digits spell, read on from a value. -/
def readDigits (start : Nat) (digits : List Char) : Nat :=
  digits.foldl (fun value c => value * 10 + digitValue c) start

/-- Splits off a sign; true for minus. -/
def splitSign : List Char → Bool × List Char
  | '-' :: rest => (true, rest)
  | '+' :: rest => (false, rest)
  | text => (false, text)

/-- Reads the exponent that may end numeric text: nothing, or `e`, a sign and digits. -/
def readExponent : List Char → Option Int
  | [] => some 0
  | c :: rest =>
      if c = 'e' ∨ c = 'E' then
        let (negative, digits) := splitSign rest
        if digits.isEmpty || !digits.all Char.isDigit then none
        else
          let power : Int := readDigits 0 digits
          some (if negative then -power else power)
      else none

/-- Reads the numeric text of a finite number: a sign, digits with a point among them, and an
exponent; digits may be missing on one side of the point. -/
def readNumeric (text : List Char) : Option Double :=
  let (negative, rest) := splitSign text
  let front := rest.takeWhile Char.isDigit
  let rest := rest.dropWhile Char.isDigit
  let (behind, rest) :=
    match rest with
    | '.' :: more => (more.takeWhile Char.isDigit, more.dropWhile Char.isDigit)
    | _ => ([], rest)
  if front.isEmpty && behind.isEmpty then none
  else
    match readExponent rest with
    | none => none
    | some power =>
        let x := Double.ofDecimal negative (readDigits (readDigits 0 front) behind)
          (power - behind.length)
        if x.isFinite then some x else none

end MessageCard
