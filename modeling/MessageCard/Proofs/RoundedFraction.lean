import Mathlib.Data.Int.Log
import Mathlib.Data.Rat.Floor
import Mathlib.Tactic.FieldSimp
import Mathlib.Tactic.Ring
import MessageCard.Proofs.DoubleValue

/-! Rounding a fraction to a double.  The result depends on the value of the fraction alone, and a
value that a double stands for is rounded to that double.
-/

namespace MessageCard.Double

variable {num den other otherDen : Nat}

-----------------------------------------------------------------------------------------
-- Quotients
-----------------------------------------------------------------------------------------

theorem roundDiv_mul_right {factor : Nat} (positive : 0 < factor)
    : roundDiv (num * factor) (den * factor) = roundDiv num den := by
  have twice : 2 * (num % den * factor) = 2 * (num % den) * factor := (Nat.mul_assoc ..).symm
  simp only [roundDiv, Nat.mul_div_mul_right _ _ positive, Nat.mul_mod_mul_right, twice,
    Nat.mul_lt_mul_right positive]

/-- Fractions of the same value are rounded to the same integer: over a common denominator they are
the same.
-/
theorem roundDiv_eq_of_mul_eq (positive : 0 < den) (otherPositive : 0 < otherDen)
    (same : num * otherDen = other * den)
    : roundDiv num den = roundDiv other otherDen := by
  rw [← roundDiv_mul_right otherPositive, same, Nat.mul_comm den, roundDiv_mul_right positive]

-----------------------------------------------------------------------------------------
-- Scaled fractions
-----------------------------------------------------------------------------------------

/-- The value of a fraction. -/
def quotient (fraction : Nat × Nat) : ℚ :=
  fraction.1 / fraction.2

theorem scaled_pos (positive : 0 < den) (num : Nat) (power : Int)
    : 0 < (scaled num den power).2 := by
  rw [scaled]
  split
  · exact positive
  · exact Nat.mul_pos positive (Nat.two_pow_pos _)

/-- Scaling a fraction scales its value, cases on the sign of the power. -/
theorem quotient_scaled (num den : Nat) (power : Int)
    : quotient (scaled num den power) = quotient (num, den) * 2 ^ power := by
  rcases lt_or_ge power 0 with down | up
  · obtain ⟨n, rfl⟩ : ∃ n : Nat, power = -n := ⟨(-power).toNat, by omega⟩
    simp only [scaled, if_neg (not_le.mpr down), quotient, Nat.pow_eq, Int.neg_neg,
      Int.toNat_natCast, Nat.cast_mul, Nat.cast_pow, Nat.cast_ofNat, zpow_neg, zpow_natCast]
    rw [div_mul_eq_div_div, div_eq_mul_inv _ ((2 : ℚ) ^ n)]
  · obtain ⟨n, rfl⟩ := Int.eq_ofNat_of_zero_le up
    simp only [scaled, if_pos up, quotient, Nat.pow_eq, Int.toNat_natCast, Nat.cast_mul,
      Nat.cast_pow, Nat.cast_ofNat, zpow_natCast]
    ring

/-- Fractions of the same value are rounded to the same integer. -/
theorem roundDiv_eq_of_quotient (positive : 0 < den) (otherPositive : 0 < otherDen)
    (same : quotient (num, den) = quotient (other, otherDen))
    : roundDiv num den = roundDiv other otherDen := by
  refine roundDiv_eq_of_mul_eq positive otherPositive ?_
  have left : (den : ℚ) ≠ 0 := Nat.cast_ne_zero.mpr positive.ne'
  have right : (otherDen : ℚ) ≠ 0 := Nat.cast_ne_zero.mpr otherPositive.ne'
  rw [quotient, quotient, div_eq_div_iff left right] at same
  exact_mod_cast same

-----------------------------------------------------------------------------------------
-- The binade of a fraction
-----------------------------------------------------------------------------------------

theorem log_natCast_bounds {n : Nat} (nonzero : n ≠ 0)
    : (2 : ℚ) ^ (Nat.log2 n : Int) ≤ n ∧ (n : ℚ) < 2 ^ ((Nat.log2 n : Int) + 1) := by
  have lower : ((2 ^ Nat.log2 n : Nat) : ℚ) ≤ n := Nat.cast_le.mpr (Nat.log2_self_le nonzero)
  have upper : (n : ℚ) < ((2 ^ (Nat.log2 n + 1) : Nat) : ℚ) := Nat.cast_lt.mpr Nat.lt_log2_self
  refine ⟨?_, ?_⟩
  · simpa using lower
  · rw [← Nat.cast_succ, zpow_natCast]
    simpa using upper

/-- The logarithm of a fraction is the difference of those of its parts, or one less. -/
theorem log_quotient (nonzero : num ≠ 0) (positive : 0 < den)
    : (Nat.log2 num : Int) - Nat.log2 den - 1 ≤ Int.log 2 (quotient (num, den))
      ∧ Int.log 2 (quotient (num, den)) < (Nat.log2 num : Int) - Nat.log2 den + 1 := by
  obtain ⟨numLower, numUpper⟩ := log_natCast_bounds nonzero
  obtain ⟨denLower, denUpper⟩ := log_natCast_bounds positive.ne'
  have denPositive : (0 : ℚ) < den := Nat.cast_pos.mpr positive
  have numPositive : (0 : ℚ) < num := Nat.cast_pos.mpr (Nat.pos_of_ne_zero nonzero)
  have quotientPositive : 0 < quotient (num, den) := div_pos numPositive denPositive
  have two : (2 : ℚ) ≠ 0 := two_ne_zero
  constructor
  · rw [← Int.zpow_le_iff_le_log (by decide) quotientPositive, quotient, le_div_iff₀ denPositive]
    rw [Nat.cast_ofNat]
    calc (2 : ℚ) ^ ((Nat.log2 num : Int) - Nat.log2 den - 1) * den
        ≤ 2 ^ ((Nat.log2 num : Int) - Nat.log2 den - 1) * 2 ^ ((Nat.log2 den : Int) + 1) :=
          mul_le_mul_of_nonneg_left denUpper.le (zpow_pos two_pos _).le
      _ = 2 ^ (Nat.log2 num : Int) := by
          rw [← zpow_add₀ two]
          congr 1
          omega
      _ ≤ num := numLower
  · rw [← Int.lt_zpow_iff_log_lt (by decide) quotientPositive, quotient, div_lt_iff₀ denPositive]
    rw [Nat.cast_ofNat]
    calc (num : ℚ)
        < 2 ^ ((Nat.log2 num : Int) + 1) := numUpper
      _ = 2 ^ ((Nat.log2 num : Int) - Nat.log2 den + 1) * 2 ^ (Nat.log2 den : Int) := by
          rw [← zpow_add₀ two]
          congr 1
          omega
      _ ≤ 2 ^ ((Nat.log2 num : Int) - Nat.log2 den + 1) * den :=
          mul_le_mul_of_nonneg_left denLower (zpow_pos two_pos _).le

/-- The power of two of the last place of a double next to a positive number. -/
def lastPlace (q : ℚ) : Int :=
  max (Int.log 2 q - 52) (-1074)

/-- The nearest integer to a number that is not negative, and the even one of two. -/
def nearest (q : ℚ) : Nat :=
  roundDiv q.num.toNat q.den

/-- The magnitude nearest to a positive number, which is rounded in units of its last place. -/
def nearestMagnitude (q : ℚ) : Nat :=
  min ((lastPlace q + 1074).toNat * 2 ^ 52 + nearest (q * 2 ^ (-lastPlace q))) infiniteMagnitude

theorem roundDiv_eq_nearest (num : Nat) (positive : 0 < den)
    : roundDiv num den = nearest (quotient (num, den)) := by
  refine roundDiv_eq_of_quotient positive (Rat.den_pos _) ?_
  have up : 0 ≤ quotient (num, den) := div_nonneg (Nat.cast_nonneg _) (Nat.cast_nonneg _)
  generalize quotient (num, den) = q at up ⊢
  have top : ((q.num.toNat : Int) : ℚ) = q.num :=
    congrArg Int.cast (Int.toNat_of_nonneg (Rat.num_nonneg.mpr up))
  rw [Int.cast_natCast] at top
  rw [quotient, top, Rat.num_div_den]

theorem nearest_natCast (n : Nat) : nearest n = n := by
  simp [nearest, roundDiv, Nat.mod_one]

/-- A fraction that is scaled by a power of two is small when its logarithm is. -/
theorem scaled_lt_iff (nonzero : num ≠ 0) (positive : 0 < den) (power : Int)
    : (scaled num den (-power)).1 < 2 ^ 52 * (scaled num den (-power)).2
      ↔ Int.log 2 (quotient (num, den)) < power + 52 := by
  have denPositive : (0 : ℚ) < (scaled num den (-power)).2 :=
    Nat.cast_pos.mpr (scaled_pos positive num (-power))
  have quotientPositive : 0 < quotient (num, den) :=
    div_pos (Nat.cast_pos.mpr (Nat.pos_of_ne_zero nonzero)) (Nat.cast_pos.mpr positive)
  have scale : (0 : ℚ) < 2 ^ power := zpow_pos two_pos power
  calc (scaled num den (-power)).1 < 2 ^ 52 * (scaled num den (-power)).2
      ↔ quotient (scaled num den (-power)) < 2 ^ 52 := by
        rw [quotient, div_lt_iff₀ denPositive]
        exact_mod_cast Iff.rfl
    _ ↔ quotient (num, den) < 2 ^ (power + 52) := by
        rw [quotient_scaled, zpow_neg, mul_inv_lt_iff₀ scale, zpow_add₀ two_ne_zero, mul_comm]
        norm_num
    _ ↔ Int.log 2 (quotient (num, den)) < power + 52 :=
        Int.lt_zpow_iff_log_lt (by decide) quotientPositive

/-- The rounding of fractions gives the nearest magnitude: its guess of the logarithm is corrected when
the scaled fraction turns out too small.
-/
theorem roundedMagnitude_eq (nonzero : num ≠ 0) (positive : 0 < den)
    : roundedMagnitude num den = nearestMagnitude (quotient (num, den)) := by
  have small := scaled_lt_iff nonzero positive
    ((Nat.log2 num : Int) - Nat.log2 den - 52)
  obtain ⟨lower, upper⟩ := log_quotient nonzero positive
  have corrected
      : (if (scaled num den (-((Nat.log2 num : Int) - Nat.log2 den - 52))).1
            < 2 ^ 52 * (scaled num den (-((Nat.log2 num : Int) - Nat.log2 den - 52))).2
          then (Nat.log2 num : Int) - Nat.log2 den - 52 - 1
          else (Nat.log2 num : Int) - Nat.log2 den - 52)
        = Int.log 2 (quotient (num, den)) - 52 := by
    simp only [small]
    split <;> omega
  have rounded := roundDiv_eq_nearest (scaled num den (-lastPlace (quotient (num, den)))).1
    (scaled_pos positive num (-lastPlace (quotient (num, den))))
  rw [quotient_scaled] at rounded
  rw [nearestMagnitude, ← rounded]
  simp only [roundedMagnitude, if_neg nonzero, Nat.pow_eq, corrected, lastPlace]

-----------------------------------------------------------------------------------------
-- Doubles as they are
-----------------------------------------------------------------------------------------

/-- The last place of a number that has so many of them is found again: a number with 53 bits starts
52 places above its last one, and a smaller one is on the finest grid.
-/
theorem lastPlace_eq {significand : Nat} {place : Int} (positive : 0 < significand)
    (small : significand < 2 ^ 53) (finest : -1074 ≤ place)
    (full : 2 ^ 52 ≤ significand ∨ place = -1074)
    : lastPlace (significand * 2 ^ place) = place := by
  have scale : (0 : ℚ) < 2 ^ place := zpow_pos two_pos place
  have numberPositive : (0 : ℚ) < significand * 2 ^ place :=
    mul_pos (Nat.cast_pos.mpr positive) scale
  have upper : Int.log 2 ((significand : ℚ) * 2 ^ place) < 53 + place := by
    rw [← Int.lt_zpow_iff_log_lt (by decide) numberPositive, Nat.cast_ofNat,
      zpow_add₀ two_ne_zero]
    exact mul_lt_mul_of_pos_right (by exact_mod_cast small) scale
  rw [lastPlace]
  rcases full with large | rfl
  · have lower : 52 + place ≤ Int.log 2 ((significand : ℚ) * 2 ^ place) := by
      rw [← Int.zpow_le_iff_le_log (by decide) numberPositive, Nat.cast_ofNat,
        zpow_add₀ two_ne_zero]
      exact mul_le_mul_of_nonneg_right (by exact_mod_cast large) scale.le
    omega
  · omega

/-- The parts of a magnitude: the significand has 53 bits unless it is on the finest grid, and the
exponent counts the binades up to it.
-/
theorem significand_exponent (x : Double)
    : x.significand < 2 ^ 53
      ∧ (2 ^ 52 ≤ x.significand ∨ x.exponent = 0)
      ∧ x.exponent * 2 ^ 52 + x.significand = x.magnitude := by
  simp only [significand, exponent, Nat.pow_eq]
  split <;> omega

theorem significand_pos {x : Double} (nonzero : x.isZero = false) : 0 < x.significand := by
  obtain ⟨_, full, parts⟩ := x.significand_exponent
  simp only [isZero, beq_eq_false_iff_ne] at nonzero
  rcases full with large | subnormal <;> omega

/-- The number that a finite double other than zero stands for is nearest to it. -/
theorem nearestMagnitude_self {x : Double} (finite : x.isFinite = true)
    (nonzero : x.isZero = false)
    : nearestMagnitude (x.significand * 2 ^ ((x.exponent : Int) - 1074)) = x.magnitude := by
  obtain ⟨small, full, parts⟩ := x.significand_exponent
  simp only [isFinite, decide_eq_true_eq] at finite
  have place : lastPlace (x.significand * 2 ^ ((x.exponent : Int) - 1074)) = x.exponent - 1074 :=
    lastPlace_eq (significand_pos nonzero) small (by omega) (full.imp_right (by omega))
  have units
      : (x.significand : ℚ) * 2 ^ ((x.exponent : Int) - 1074)
          * 2 ^ (-((x.exponent : Int) - 1074))
        = x.significand := by
    rw [mul_assoc, ← zpow_add₀ two_ne_zero, add_neg_cancel, zpow_zero, mul_one]
  have count : ((x.exponent : Int) - 1074 + 1074).toNat = x.exponent := by omega
  rw [nearestMagnitude, place, units, nearest_natCast, count, parts]
  exact Nat.min_eq_left finite.le

/-- Doubles of the same sign and magnitude are the same. -/
theorem ext_magnitude {x y : Double} (sign : x.isNegative = y.isNegative)
    (magnitude : x.magnitude = y.magnitude)
    : x = y := by
  have left := x.bits.toNat_lt
  have right := y.bits.toNat_lt
  simp only [Double.magnitude, Nat.pow_eq] at magnitude
  have same : x.bits.toNat = y.bits.toNat := by
    simp only [isNegative, Nat.pow_eq, Bool.beq_eq_decide_eq, decide_eq_decide] at sign
    omega
  cases x
  cases y
  exact congrArg Double.mk (UInt64.toNat_inj.mp same)

end MessageCard.Double
