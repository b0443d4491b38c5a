import Mathlib.Algebra.Order.Field.Rat
import Mathlib.Algebra.Order.Ring.Rat
import Mathlib.Order.Monotone.Basic
import Mathlib.Tactic.NormNum
import Mathlib.Tactic.Positivity
import MessageCard.Compilation.Image

/-! The order of doubles is the order of the numbers that they stand for.  Magnitudes are compared
as natural numbers; counted in steps of the finest grid they grow strictly, so comparing the
magnitudes compares the values.  Clamping then keeps a width between its bounds as numbers.
-/

namespace MessageCard

namespace Double

/-- The number of steps of `2 ^ -1074` up to a magnitude. -/
def gridSteps (magnitude : Nat) : Nat :=
  let field := magnitude / 2 ^ 52
  if field = 0 then magnitude else (2 ^ 52 + magnitude % 2 ^ 52) * 2 ^ (field - 1)

/-- The rational number that a finite double stands for. -/
def value (x : Double) : ℚ :=
  (if x.isNegative then -1 else 1) * (x.significand * 2 ^ x.exponent : Nat) / 2 ^ 1074

/-- A magnitude is more steps up than the one before it, also across the end of a binade. -/
theorem gridSteps_lt_succ (magnitude : Nat)
    : gridSteps magnitude < gridSteps (magnitude + 1) := by
  obtain ⟨field, fraction, below, rfl⟩
      : ∃ field fraction, fraction < 2 ^ 52 ∧ magnitude = 2 ^ 52 * field + fraction :=
    ⟨magnitude / 2 ^ 52, magnitude % 2 ^ 52, by omega, by omega⟩
  have here : (2 ^ 52 * field + fraction) / 2 ^ 52 = field := by omega
  have part : (2 ^ 52 * field + fraction) % 2 ^ 52 = fraction := by omega
  by_cases last : fraction + 1 = 2 ^ 52
  · have next : (2 ^ 52 * field + fraction + 1) / 2 ^ 52 = field + 1 := by omega
    have start : (2 ^ 52 * field + fraction + 1) % 2 ^ 52 = 0 := by omega
    simp only [gridSteps, here, part, next, start, Nat.add_one_ne_zero, if_false,
      Nat.add_sub_cancel]
    cases field with
    | zero =>
        rw [if_pos rfl]
        omega
    | succ field =>
        have doubled : 2 ^ (field + 1) = 2 * 2 ^ field := Nat.pow_succ'
        rw [if_neg (by omega), Nat.add_sub_cancel]
        calc (2 ^ 52 + fraction) * 2 ^ field
            < 2 ^ 52 * 2 * 2 ^ field :=
              Nat.mul_lt_mul_of_pos_right (by omega) (Nat.two_pow_pos field)
          _ = (2 ^ 52 + 0) * 2 ^ (field + 1) := by
              rw [doubled, Nat.add_zero, Nat.mul_assoc]
  · have next : (2 ^ 52 * field + fraction + 1) / 2 ^ 52 = field := by omega
    have after : (2 ^ 52 * field + fraction + 1) % 2 ^ 52 = fraction + 1 := by omega
    simp only [gridSteps, here, part, next, after]
    split
    · omega
    · exact Nat.mul_lt_mul_of_pos_right (by omega) (Nat.two_pow_pos _)

theorem gridSteps_strictMono : StrictMono gridSteps :=
  strictMono_nat_of_lt_succ gridSteps_lt_succ

/-- The significand, scaled by its exponent, is the number of steps up to the magnitude. -/
theorem significand_scaled (x : Double)
    : x.significand * 2 ^ x.exponent = gridSteps x.magnitude := by
  simp only [significand, exponent, gridSteps, Nat.pow_eq]
  split
  · rename_i subnormal
    rw [subnormal, Nat.zero_sub, Nat.pow_zero, Nat.mul_one]
  · rfl

/-- The value, counted in steps of the grid: downwards for a negative number. -/
theorem value_eq (x : Double)
    : x.value
      = ((if x.isNegative then -(gridSteps x.magnitude : Int) else gridSteps x.magnitude : Int)
          : ℚ) / 2 ^ 1074 := by
  rw [value, significand_scaled]
  split <;> simp

/-- A number so many times `2 ^ 1074` steps up stands for that natural number. -/
theorem value_eq_natCast {x : Double} (n : Nat) (positive : x.isNegative = false)
    (steps : gridSteps x.magnitude = n * 2 ^ 1074)
    : x.value = n := by
  have scale : (2 : ℚ) ^ 1074 ≠ 0 := by positivity
  rw [value_eq, positive, if_neg Bool.false_ne_true, steps, Int.cast_natCast, Nat.cast_mul,
    Nat.cast_pow, Nat.cast_ofNat, mul_div_cancel_right₀ _ scale]

/-- Keys are in the order of the values, by cases on the signs. -/
theorem key_lt_iff (x y : Double) : x.key < y.key ↔ x.value < y.value := by
  have grow : gridSteps x.magnitude < gridSteps y.magnitude ↔ x.magnitude < y.magnitude :=
    gridSteps_strictMono.lt_iff_lt
  have shrink : gridSteps y.magnitude < gridSteps x.magnitude ↔ y.magnitude < x.magnitude :=
    gridSteps_strictMono.lt_iff_lt
  have left : 0 < gridSteps x.magnitude ↔ 0 < x.magnitude :=
    gridSteps_strictMono.lt_iff_lt (a := 0)
  have right : 0 < gridSteps y.magnitude ↔ 0 < y.magnitude :=
    gridSteps_strictMono.lt_iff_lt (a := 0)
  rw [value_eq, value_eq, div_lt_div_iff_of_pos_right (by positivity), Int.cast_lt]
  simp only [key]
  -- zeros of either sign share a key and a value
  split <;> split <;> omega

theorem isNaN_of_isFinite {x : Double} (finite : x.isFinite = true) : x.isNaN = false := by
  simp only [isFinite, isNaN, decide_eq_true_eq, decide_eq_false_iff_not] at finite ⊢
  omega

/-- Finite numbers are compared as the numbers that they stand for. -/
theorem lt_iff_value_lt {x y : Double} (left : x.isFinite = true) (right : y.isFinite = true)
    : x.lt y = true ↔ x.value < y.value := by
  simp [lt, isNaN_of_isFinite left, isNaN_of_isFinite right, key_lt_iff]

/-- A finite number, clamped between finite bounds, is finite and lies between them. -/
theorem clamp_value_mem {x low high : Double} (finite : x.isFinite = true)
    (lowFinite : low.isFinite = true) (highFinite : high.isFinite = true)
    (ordered : low.value ≤ high.value)
    : (x.clamp low high).isFinite = true
      ∧ low.value ≤ (x.clamp low high).value
      ∧ (x.clamp low high).value ≤ high.value := by
  rw [clamp]
  split
  · exact ⟨lowFinite, le_refl _, ordered⟩
  · rename_i notBelow
    rw [lt_iff_value_lt finite lowFinite, not_lt] at notBelow
    split
    · exact ⟨highFinite, ordered, le_refl _⟩
    · rename_i notAbove
      rw [lt_iff_value_lt highFinite finite, not_lt] at notAbove
      exact ⟨finite, notBelow, notAbove⟩

end Double

-----------------------------------------------------------------------------------------
-- Widths of images
-----------------------------------------------------------------------------------------

namespace ImageSize

theorem minWidth_value : minWidth.value = 278 :=
  Double.value_eq_natCast 278 (by decide +kernel) (by decide +kernel)

theorem maxWidth_value : maxWidth.value = 580 :=
  Double.value_eq_natCast 580 (by decide +kernel) (by decide +kernel)

/-- A width moved into the bounds is a number between them. -/
theorem clampWidth_value_mem {width : Double} (finite : width.isFinite = true)
    : (clampWidth width).isFinite = true
      ∧ 278 ≤ (clampWidth width).value
      ∧ (clampWidth width).value ≤ 580 := by
  have ordered : minWidth.value ≤ maxWidth.value := by
    rw [minWidth_value, maxWidth_value]
    norm_num
  have bounds := Double.clamp_value_mem finite (by decide +kernel) (by decide +kernel) ordered
  rwa [minWidth_value, maxWidth_value] at bounds

end ImageSize

end MessageCard
