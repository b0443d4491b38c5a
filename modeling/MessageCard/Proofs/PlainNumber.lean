import MessageCard.Proofs.EscapedText
import MessageCard.Proofs.QuotedText
import MessageCard.Proofs.RoundedFraction

/-! The plain form of numbers.  The shortest decimal of a finite double reads back as the double, and
the digits around the point tell the number that a decimal stands for; so no two finite doubles have
the same plain form.
-/

namespace MessageCard

namespace Decimal

-----------------------------------------------------------------------------------------
-- The number that a decimal stands for
-----------------------------------------------------------------------------------------

/-- The number that a decimal stands for. -/
def value (d : Decimal) : ℚ :=
  d.digits * 10 ^ d.power

theorem ratio_pos (d : Decimal) : 0 < d.ratio.2 := by
  rw [ratio]
  split
  · exact Nat.one_pos
  · exact Nat.pow_pos (by decide)

theorem quotient_ratio (d : Decimal) : Double.quotient d.ratio = d.value := by
  rcases d with ⟨digits, power⟩
  rcases lt_or_ge power 0 with down | up
  · obtain ⟨n, rfl⟩ : ∃ n : Nat, power = -n := ⟨(-power).toNat, by omega⟩
    simp only [ratio, if_neg (not_le.mpr down), Double.quotient, value, Nat.pow_eq, Int.neg_neg,
      Int.toNat_natCast, Nat.cast_pow, Nat.cast_ofNat, zpow_neg, zpow_natCast, div_eq_mul_inv]
  · obtain ⟨n, rfl⟩ := Int.eq_ofNat_of_zero_le up
    simp [ratio, Double.quotient, value]

/-- A zero moved from the digits into the power leaves the number as it is.  By induction on the bound.
-/
theorem value_trimmed (bound digits : Nat) (power : Int)
    : (trimmed bound digits power).value = digits * 10 ^ power := by
  induction bound generalizing digits power with
  | zero => rfl
  | succ bound ih =>
      rw [trimmed]
      split
      · rename_i zero
        have tens : digits = digits / 10 * 10 := by omega
        have ten : (10 : ℚ) ≠ 0 := by norm_num
        rw [ih, zpow_add_one₀ ten]
        nth_rewrite 2 [tens]
        push_cast
        ring
      · rfl

/-- All digits of a finite number stand for it: a power of five makes a power of ten of one of two. -/
theorem value_exact (x : Double)
    : (exact x).value = x.significand * 2 ^ ((x.exponent : Int) - 1074) := by
  rw [exact]
  generalize (x.exponent : Int) - 1074 = power
  rcases lt_or_ge power 0 with down | up
  · obtain ⟨n, rfl⟩ : ∃ n : Nat, power = -n := ⟨(-power).toNat, by omega⟩
    have ten : (10 : ℚ) = 5 * 2 := by norm_num
    have five : (5 : ℚ) ^ n ≠ 0 := by positivity
    simp only [if_neg (not_le.mpr down), value, Nat.pow_eq, Int.neg_neg, Int.toNat_natCast,
      Nat.cast_mul, Nat.cast_pow, Nat.cast_ofNat, zpow_neg, zpow_natCast]
    rw [ten, mul_pow, mul_inv, mul_assoc, mul_inv_cancel_left₀ five]
  · obtain ⟨n, rfl⟩ := Int.eq_ofNat_of_zero_le up
    simp [value]

-----------------------------------------------------------------------------------------
-- The shortest decimal
-----------------------------------------------------------------------------------------

/-- A decimal that is not zero reads back as a number when that is the nearest to it. -/
theorem readsAs_iff {d : Decimal} {x : Double} (nonzero : x.isZero = false)
    : d.readsAs x = true
      ↔ d.value ≠ 0 ∧ Double.nearestMagnitude d.value = x.magnitude := by
  simp only [Double.isZero, beq_eq_false_iff_ne] at nonzero
  have parts : d.value ≠ 0 ↔ d.ratio.1 ≠ 0 := by
    rw [← quotient_ratio, Double.quotient, div_ne_zero_iff, Nat.cast_ne_zero, Nat.cast_ne_zero]
    exact and_iff_left d.ratio_pos.ne'
  simp only [readsAs, beq_iff_eq]
  by_cases zero : d.ratio.1 = 0
  · simp [parts, zero, Double.roundedMagnitude, nonzero.symm]
  · rw [Double.roundedMagnitude_eq zero d.ratio_pos, quotient_ratio, parts]
    exact (and_iff_right zero).symm

/-- The shortest decimal of a finite double other than zero reads back: a candidate is taken only if it
does, and the decimal of all digits stands for the number itself.
-/
theorem shortest_readsAs (tie : Tie) {x : Double} (finite : x.isFinite = true)
    (nonzero : x.isZero = false)
    : (shortest tie x).readsAs x = true := by
  have all : (exact x).readsAs x = true := by
    have nearest := Double.nearestMagnitude_self finite nonzero
    rw [readsAs_iff nonzero, value_exact]
    have significand : (x.significand : ℚ) ≠ 0 :=
      Nat.cast_ne_zero.mpr (Double.significand_pos nonzero).ne'
    exact ⟨mul_ne_zero significand (zpow_ne_zero _ two_ne_zero), nearest⟩
  have taken (tried : List Decimal)
      : ((tried.find? (·.readsAs x)).getD (exact x)).readsAs x = true := by
    cases found : tried.find? (·.readsAs x) with
    | none => exact all
    | some d =>
        have reads := List.find?_some found
        exact reads
  rw [shortest, nonzero, if_neg Bool.false_ne_true, readsAs_iff nonzero, value_trimmed]
  exact (readsAs_iff nonzero).mp (taken _)

theorem shortest_zero (tie : Tie) {x : Double} (zero : x.isZero = true)
    : (shortest tie x).value = 0 := by
  simp [shortest, zero, value]

/-- The shortest decimal of a finite double tells its magnitude. -/
theorem magnitude_eq_of_shortest {tie : Tie} {x y : Double} (finite : x.isFinite = true)
    (otherFinite : y.isFinite = true)
    (same : (shortest tie x).value = (shortest tie y).value)
    : x.magnitude = y.magnitude := by
  have reads {z : Double} (finite : z.isFinite = true) (nonzero : z.isZero = false) :=
    (readsAs_iff nonzero).mp (shortest_readsAs tie finite nonzero)
  cases zero : x.isZero <;> cases otherZero : y.isZero
  · rw [← (reads finite zero).2, ← (reads otherFinite otherZero).2, same]
  · exact ((reads finite zero).1 (same.trans (shortest_zero tie otherZero))).elim
  · exact ((reads otherFinite otherZero).1 (same.symm.trans (shortest_zero tie zero))).elim
  · simp only [Double.isZero, beq_iff_eq] at zero otherZero
    rw [zero, otherZero]

-----------------------------------------------------------------------------------------
-- Digits and the point
-----------------------------------------------------------------------------------------

/-- The number that digits before and after a point spell. -/
def spelled (front behind : List Char) : ℚ :=
  Nat.ofDigitChars 10 (front ++ behind) 0 / 10 ^ behind.length

/-- The point, and the digits after it if there are any. -/
def fraction (behind : List Char) : List Char :=
  if behind.isEmpty then [] else '.' :: behind

/-- The digits of a decimal around its point spell its number: cases on where the point is. -/
theorem places_spelled (d : Decimal) : spelled d.places.1 d.places.2 = d.value := by
  rcases d with ⟨digits, power⟩
  rcases lt_or_ge power 0 with down | up
  · obtain ⟨n, rfl⟩ : ∃ n : Nat, power = -n := ⟨(-power).toNat, by omega⟩
    simp only [places, if_neg (not_le.mpr down), Int.neg_neg, Int.toNat_natCast, digitsOf]
    split
    · rename_i short
      have width : n - (Nat.toDigits 10 digits).length + (Nat.toDigits 10 digits).length = n := by
        omega
      simp [spelled, value, Nat.ofDigitChars_append, width, div_eq_mul_inv]
    · rename_i long
      have width
          : (Nat.toDigits 10 digits).length - ((Nat.toDigits 10 digits).length - n) = n := by
        omega
      simp [spelled, value, width, div_eq_mul_inv]
  · obtain ⟨n, rfl⟩ := Int.eq_ofNat_of_zero_le up
    simp [places, spelled, value, digitsOf, Nat.ofDigitChars_append, mul_comm]

/-- The text of a decimal is made of digits around a point that spell its number. -/
theorem positional_spelled (d : Decimal)
    : ∃ front behind,
        d.positional [] = front ++ fraction behind
        ∧ front ≠ []
        ∧ (∀ c ∈ front, c.isDigit = true)
        ∧ (∀ c ∈ behind, c.isDigit = true)
        ∧ spelled front behind = d.value := by
  obtain ⟨front, behind⟩ := Html.places_digits d
  have number := d.places_spelled
  by_cases empty : d.places.1 = []
  · refine ⟨['0'], d.places.2, ?_, by simp, by simp, behind, ?_⟩
    · simp [positional, empty, fraction]
    · rw [← number, empty]
      simp [spelled, Nat.ofDigitChars_cons]
  · refine ⟨d.places.1, d.places.2, ?_, empty, front, behind, number⟩
    simp [positional, empty, fraction]

/-- The text of a decimal starts with a digit, so a sign before it stands out. -/
theorem positional_unsigned (d : Decimal) (rest : List Char) : d.positional [] ≠ '-' :: rest := by
  obtain ⟨front, behind, text, nonempty, digits, _, _⟩ := d.positional_spelled
  rw [text]
  cases front with
  | nil => exact (nonempty rfl).elim
  | cons c front =>
      intro signed
      have digit := digits c List.mem_cons_self
      rw [(List.cons.inj signed).1] at digit
      simp at digit

/-- The text of a decimal tells its number: the point, if there is one, ends the digits before it. -/
theorem value_eq_of_positional {d e : Decimal} (same : d.positional [] = e.positional [])
    : d.value = e.value := by
  obtain ⟨front, behind, text, _, digits, _, number⟩ := d.positional_spelled
  obtain ⟨otherFront, otherBehind, otherText, _, otherDigits, _, otherNumber⟩ :=
    e.positional_spelled
  have noPoint {digits : List Char} (each : ∀ c ∈ digits, c.isDigit = true) : '.' ∉ digits :=
    fun member => by simpa using each '.' member
  rw [text, otherText] at same
  rw [← number, ← otherNumber]
  cases behind with
  | nil =>
      cases otherBehind with
      | nil => rw [show front = otherFront by simpa [fraction] using same]
      | cons c rest =>
          refine (noPoint digits ?_).elim
          rw [show front = otherFront ++ '.' :: c :: rest by simpa [fraction] using same]
          simp
  | cons c rest =>
      cases otherBehind with
      | nil =>
          refine (noPoint otherDigits ?_).elim
          rw [show otherFront = front ++ '.' :: c :: rest by simpa [fraction] using same.symm]
          simp
      | cons d more =>
          obtain ⟨rfl, after⟩ :=
            Text.delimited_inj (noPoint digits) (noPoint otherDigits) same
          rw [after]

end Decimal

-----------------------------------------------------------------------------------------
-- Plain forms
-----------------------------------------------------------------------------------------

namespace Double

/-- The characters of a plain form are digits, a sign, a point or letters of a word. -/
theorem plain_alphabet {x : Double} {c : Char} (member : c ∈ x.plain.toList)
    : c.isDigit = true ∨ c ∈ ['-', '.', 'N', 'a', 'i', 'n', 'f'] := by
  have word {text : List Char}
      (letters : (text.all fun c => ['-', '.', 'N', 'a', 'i', 'n', 'f'].contains c) = true)
      (listed : c ∈ text)
      : c.isDigit = true ∨ c ∈ ['-', '.', 'N', 'a', 'i', 'n', 'f'] :=
    Or.inr (by simpa using List.all_eq_true.mp letters c listed)
  have unsigned
      : c ∈ (Decimal.shortest .greater x).positional []
        → c.isDigit = true ∨ c ∈ ['-', '.', 'N', 'a', 'i', 'n', 'f'] := by
    obtain ⟨front, behind, text, _, digits, decimals, _⟩ :=
      (Decimal.shortest .greater x).positional_spelled
    intro listed
    rw [text, Decimal.fraction] at listed
    rcases List.mem_append.mp listed with before | after
    · exact Or.inl (digits c before)
    · split at after
      · cases after
      · rcases List.mem_cons.mp after with rfl | later
        · exact Or.inr (by decide)
        · exact Or.inl (decimals c later)
  rw [plain] at member
  split_ifs at member
  · exact word (by decide) member
  · rw [signed, String.toList_ofList] at member
    split at member
    · rcases List.mem_cons.mp member with rfl | later
      · exact Or.inr (by decide)
      · exact unsigned later
    · exact unsigned member
  · exact word (by decide) member
  · exact word (by decide) member

theorem plain_toList {x : Double} (finite : x.isFinite = true)
    : x.plain.toList
      = (if x.isNegative then ['-'] else [])
        ++ (Decimal.shortest .greater x).positional [] := by
  rw [plain, if_neg (by simp [isNaN_of_isFinite finite]), if_pos finite, signed,
    String.toList_ofList]
  split <;> rfl

/-- No two finite doubles have the same plain form: it tells the sign, and the shortest decimal tells
the magnitude.
-/
theorem plain_injective {x y : Double} (finite : x.isFinite = true)
    (otherFinite : y.isFinite = true) (same : x.plain = y.plain)
    : x = y := by
  have texts := congrArg String.toList same
  rw [plain_toList finite, plain_toList otherFinite] at texts
  have sign : x.isNegative = y.isNegative := by
    cases left : x.isNegative <;> cases right : y.isNegative
    · rfl
    · rw [left, right] at texts
      exact (Decimal.positional_unsigned _ _ texts).elim
    · rw [left, right] at texts
      exact (Decimal.positional_unsigned _ _ texts.symm).elim
    · rfl
  rw [sign] at texts
  have decimals := Decimal.value_eq_of_positional (List.append_cancel_left texts)
  exact ext_magnitude sign (Decimal.magnitude_eq_of_shortest finite otherFinite decimals)

end Double

end MessageCard
