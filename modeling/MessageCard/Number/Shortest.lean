import MessageCard.Number.Double

/-!
The shortest decimal of a double: the fewest digits that read back as the number, and of
those the nearest to it.  Two may be as near; the written form decides between them.  When no
decimal of up to 17 digits reads back, all digits of the exact value are taken, so the result
always reads back.
-/

namespace MessageCard

/-- A decimal without a sign, `digits * 10 ^ power`. -/
structure Decimal where
  digits : Nat
  power : Int
deriving DecidableEq, Repr

namespace Decimal

/-- The value as a fraction. -/
def ratio (d : Decimal) : Nat × Nat :=
  if 0 ≤ d.power then (d.digits * Nat.pow 10 d.power.toNat, 1)
  else (d.digits, Nat.pow 10 (-d.power).toNat)

/-- Moves zeros at the end of the digits into the power; the bound is the number of zeros
that may be moved. -/
def trimmed : Nat → Nat → Int → Decimal
  | 0, digits, power => { digits, power }
  | bound + 1, digits, power =>
      if digits ≠ 0 ∧ digits % 10 = 0 then trimmed bound (digits / 10) (power + 1)
      else { digits, power }

/-- Whether a decimal reads back as the number. -/
def readsAs (d : Decimal) (x : Double) : Bool :=
  let (num, den) := d.ratio
  Double.roundedMagnitude num den == x.magnitude

/-- The floor of the decimal logarithm of a fraction that is not zero, from a guess by its
binary logarithm. -/
def log10 (num den : Nat) : Int :=
  let guess : Int := ((Nat.log2 num : Int) - Nat.log2 den - 1) * 30103 / 100000
  let atLeast (k : Int) : Bool :=
    if 0 ≤ k then den * Nat.pow 10 k.toNat ≤ num else den ≤ num * Nat.pow 10 (-k).toNat
  if atLeast (guess + 2) then guess + 2
  else if atLeast (guess + 1) then guess + 1
  else if atLeast guess then guess
  else guess - 1

/-- Which of two decimals at one distance from a number is taken: the even one, or the one
that is greater, sign apart. -/
inductive Tie
  | even
  | greater
deriving DecidableEq, Repr

/-- The nearest natural number to a fraction. -/
def Tie.nearest (tie : Tie) (num den : Nat) : Nat :=
  match tie with
  | even => Double.roundDiv num den
  | greater => (2 * num + den) / (2 * den)

/-- The two neighbours of a fraction on the grid of a power of ten, the nearer one first. -/
def neighbours (tie : Tie) (num den : Nat) (power : Int) : List Decimal :=
  let (n, d) :=
    if 0 ≤ power then (num, den * Nat.pow 10 power.toNat)
    else (num * Nat.pow 10 (-power).toNat, den)
  let below : Decimal := { digits := n / d, power }
  let above : Decimal := { digits := n / d + 1, power }
  if tie.nearest n d = n / d then [below, above] else [above, below]

/-- The candidates of 1 to 17 digits, in the order in which they are tried. -/
def candidates (tie : Tie) (num den : Nat) : List Decimal :=
  let top := log10 num den
  (List.range 17).flatMap fun (more : Nat) => neighbours tie num den (top - more)

/-- All digits of the exact value of a finite number. -/
def exact (x : Double) : Decimal :=
  let power : Int := (x.exponent : Int) - 1074
  if 0 ≤ power then { digits := x.significand * Nat.pow 2 power.toNat, power := 0 }
  else { digits := x.significand * Nat.pow 5 (-power).toNat, power }

/-- The shortest decimal that reads back as the finite number, sign apart. -/
def shortest (tie : Tie) (x : Double) : Decimal :=
  if x.isZero then { digits := 0, power := 0 }
  else
    let (num, den) := x.ratio
    let found := ((candidates tie num den).find? (·.readsAs x)).getD (exact x)
    trimmed 20 found.digits found.power

end Decimal

end MessageCard
