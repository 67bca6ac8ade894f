import Mathlib.Algebra.Group.Int.Even
import Mathlib.Algebra.Order.Ring.Abs
import Montage.Proofs.Number.Printed
import Montage.Proofs.Number.Relative

namespace Montage

/-!
# Nearest integers and nearest numbers

What rounding arrives at, said without the steps that round: an integer at most
a half away, the even one of two that are equally near, and a number of the
format that no other one is nearer than.
-/

/-! ## Nearest integers -/

/-- An integer is the nearest one to a number, halves to even. -/
structure IsNearestInteger
    (nearest : Int)
    (number : ℚ) :
    Prop where
  near : |number - nearest| ≤ 1 / 2
  tie : |number - nearest| = 1 / 2 → Even nearest

namespace IsNearestInteger

variable {low high nearest : Int} {first second number : ℚ}

/-- Nearest integers are in the order of the numbers. -/
theorem mono
    (isLow : IsNearestInteger low first)
    (isHigh : IsNearestInteger high second)
    (ordered : first ≤ second) :
    low ≤ high := by
  by_contra reversed
  have next : high + 1 ≤ low := by omega
  have apart : (high : ℚ) + 1 ≤ low := by exact_mod_cast next
  have lowNear := abs_le.mp isLow.near
  have highNear := abs_le.mp isHigh.near
  -- Both are halves away, and they are neighbours.
  have lowTie : |first - low| = 1 / 2 := by
    rw [abs_of_nonpos (by linarith)]
    linarith
  have highTie : |second - high| = 1 / 2 := by
    rw [abs_of_nonneg (by linarith)]
    linarith
  have neighbours : (low : ℚ) = high + 1 := by linarith
  have isNext : low = high + 1 := by exact_mod_cast neighbours
  have lowEven := isLow.tie lowTie
  rw [isNext, Int.even_add_one] at lowEven
  exact lowEven (isHigh.tie highTie)

theorem unique
    (isLow : IsNearestInteger low number)
    (isHigh : IsNearestInteger high number) :
    low = high :=
  le_antisymm (isLow.mono isHigh le_rfl) (isHigh.mono isLow le_rfl)

/-- What is not farther from an integer has the same nearest one. -/
theorem of_nearer
    (isNearest : IsNearestInteger nearest first)
    (nearer : |second - nearest| ≤ |first - nearest|) :
    IsNearestInteger nearest second where
  near := nearer.trans isNearest.near
  tie half := isNearest.tie (le_antisymm isNearest.near (half ▸ nearer))

theorem neg
    (isNearest : IsNearestInteger nearest number) :
    IsNearestInteger (-nearest) (-number) := by
  have same : |-number - ((-nearest : Int) : ℚ)| = |number - nearest| := by
    rw [Int.cast_neg, neg_sub_neg, abs_sub_comm]
  exact
    { near := same ▸ isNearest.near
      tie := fun half => (isNearest.tie (same ▸ half)).neg }

/-- A sign is put in front of both. -/
theorem signed
    (negative : Bool)
    {units : Nat}
    (isNearest : IsNearestInteger units number) :
    IsNearestInteger (Binary64.signedUnits negative units)
      (Binary64.sign negative * number) := by
  cases negative with
  | false => simpa [Binary64.signedUnits, Binary64.sign] using isNearest
  | true => simpa [Binary64.signedUnits, Binary64.sign] using isNearest.neg

end IsNearestInteger

/-- A quotient that is a half away is rounded to an even number. -/
theorem even_roundHalfEven
    (numerator : Nat)
    {denominator : Nat}
    (positive : 0 < denominator)
    (tie :
      2 * ((roundHalfEven numerator denominator * denominator : Int) -
        numerator).natAbs = denominator) :
    Even (roundHalfEven numerator denominator) := by
  have parts := Nat.div_add_mod numerator denominator
  have small := Nat.mod_lt numerator positive
  rw [Nat.mul_comm] at parts
  unfold roundHalfEven at tie ⊢
  dsimp only at tie ⊢
  generalize numerator / denominator = quotient at parts tie ⊢
  generalize numerator % denominator = left at parts small tie ⊢
  have next :
      (quotient + 1) * denominator = quotient * denominator + denominator :=
    Nat.succ_mul _ _
  generalize isWhole : quotient * denominator = whole at parts next
  split at tie
  · rw [← Nat.cast_mul, isWhole] at tie
    omega
  · split at tie
    · rw [← Nat.cast_mul, next] at tie
      omega
    · rename_i notBelow notAbove
      rw [if_neg notBelow, if_neg notAbove, Nat.even_iff]
      omega

theorem isNearestInteger_roundHalfEven
    (numerator : Nat)
    {denominator : Nat}
    (positive : 0 < denominator) :
    IsNearestInteger (roundHalfEven numerator denominator : Nat)
      (numerator / denominator) := by
  have near := roundHalfEven_near numerator positive
  have even := even_roundHalfEven numerator positive
  generalize roundHalfEven numerator denominator = rounded at near even ⊢
  have divisor : (0 : ℚ) < denominator := by exact_mod_cast positive
  have distance :
      |(numerator / denominator : ℚ) - ((rounded : Int) : ℚ)| =
        (2 * ((rounded * denominator : Int) - numerator).natAbs : Nat) /
          (2 * denominator) := by
    have factored :
        (numerator / denominator : ℚ) - ((rounded : Int) : ℚ) =
          -((rounded * denominator - numerator) / denominator) := by
      push_cast
      field_simp
      ring
    rw [factored, abs_neg, abs_div, abs_of_pos divisor]
    push_cast [Nat.cast_natAbs]
    field_simp
  rw [← Nat.cast_le (α := ℚ)] at near
  constructor
  · rw [distance, div_le_iff₀ (by positivity)]
    linarith
  · intro half
    rw [distance, div_eq_iff (by positivity)] at half
    have tie :
        ((2 * ((rounded * denominator : Int) - numerator).natAbs : Nat) : ℚ) =
          denominator := by
      linarith
    exact_mod_cast even (by exact_mod_cast tie)

/-! ## Nearest significands -/

/-- No other multiple of the divisor is nearer than the rounded quotient. -/
theorem roundHalfEven_nearest
    (numerator : Nat)
    {denominator : Nat}
    (positive : 0 < denominator)
    (other : Nat) :
    ((roundHalfEven numerator denominator * denominator : Int) -
        numerator).natAbs ≤
      ((other * denominator : Int) - numerator).natAbs := by
  have near := roundHalfEven_near numerator positive
  generalize roundHalfEven numerator denominator = rounded at near ⊢
  rw [← Nat.cast_mul] at near
  rw [← Nat.cast_mul, ← Nat.cast_mul]
  rcases Nat.lt_trichotomy other rounded with below | same | above
  · have step := Nat.mul_le_mul_right denominator (Nat.succ_le_of_lt below)
    rw [Nat.succ_mul] at step
    omega
  · rw [same]
  · have step := Nat.mul_le_mul_right denominator (Nat.succ_le_of_lt above)
    rw [Nat.succ_mul] at step
    omega

/-- No count that the format holds is nearer than the rounded quotient. -/
theorem roundSignificant_nearest
    (numerator : Nat)
    {denominator units : Nat}
    (positive : 0 < denominator)
    (representable : Representable units) :
    ((roundSignificant numerator denominator * denominator : Int) -
        numerator).natAbs ≤
      ((units * denominator : Int) - numerator).natAbs := by
  obtain ⟨-, significand, shift, short, isUnits⟩ := representable
  have kept := powerOfTwo_excessBits_mul_le (numerator / denominator)
  unfold roundSignificant
  dsimp only
  generalize excessBits (numerator / denominator) = dropped at kept ⊢
  have steps : 0 < denominator * powerOfTwo dropped :=
    Nat.mul_pos positive (powerOfTwo_pos dropped)
  have nearest := roundHalfEven_nearest numerator steps
  generalize roundHalfEven numerator (denominator * powerOfTwo dropped) =
    rounded at nearest ⊢
  have regrouped (count : Nat) :
      ((count * powerOfTwo dropped : Nat) : Int) * denominator =
        count * (denominator * powerOfTwo dropped : Nat) := by
    push_cast
    ring
  rw [regrouped]
  rcases Nat.lt_or_ge shift dropped with fine | coarse
  · -- Finer counts lie below the least one with all significant digits.
    have small : units ≤ powerOfTwo 52 * powerOfTwo dropped :=
      calc units
          = significand * powerOfTwo shift := isUnits
        _ ≤ powerOfTwo 53 * powerOfTwo shift :=
          Nat.mul_le_mul_right _ short.le
        _ = powerOfTwo (53 + shift) := (powerOfTwo_add _ _).symm
        _ ≤ powerOfTwo (52 + dropped) :=
          powerOfTwo_le_powerOfTwo (by omega)
        _ = powerOfTwo 52 * powerOfTwo dropped := powerOfTwo_add _ _
    have reached :
        powerOfTwo 52 * powerOfTwo dropped * denominator ≤ numerator :=
      calc powerOfTwo 52 * powerOfTwo dropped * denominator
          ≤ numerator / denominator * denominator :=
            Nat.mul_le_mul_right _ (kept (by omega))
        _ ≤ numerator := Nat.div_mul_le_self _ _
    have lower := Nat.mul_le_mul_right denominator small
    have least := nearest (powerOfTwo 52)
    rw [← regrouped (powerOfTwo 52),
      ← Nat.cast_mul (powerOfTwo 52 * powerOfTwo dropped)] at least
    rw [← Nat.cast_mul units]
    omega
  · have isMultiple :
        units = significand * powerOfTwo (shift - dropped) *
          powerOfTwo dropped := by
      rw [isUnits, Nat.mul_assoc, ← powerOfTwo_add, Nat.sub_add_cancel coarse]
    rw [isMultiple, regrouped]
    exact nearest _

/-! ## Nearest numbers -/

namespace Binary64

/-- A finite number that no other finite one is nearer to a value than. -/
structure IsNearest
    (number : Binary64)
    (value : ℚ) :
    Prop where
  isFinite : number.isFinite = true
  nearest :
    ∀ other : Binary64,
      other.isFinite = true →
      |number.exact - value| ≤ |other.exact - value|

/-- The distance of two magnitudes, in shares of the divisor. -/
theorem abs_magnitude_sub
    (units numerator : Nat)
    {denominator : Nat}
    (positive : 0 < denominator) :
    |(units : ℚ) / unitsPerOne - numerator / denominator / unitsPerOne| =
      (((units * denominator : Int) - numerator).natAbs : ℚ) /
        (denominator * unitsPerOne) := by
  have unit : (0 : ℚ) < unitsPerOne := by exact_mod_cast unitsPerOne_pos
  have divisor : (0 : ℚ) < denominator := by exact_mod_cast positive
  have factored :
      (units : ℚ) / unitsPerOne - numerator / denominator / unitsPerOne =
        (units * denominator - numerator) / (denominator * unitsPerOne) := by
    field_simp
  rw [factored, abs_div, abs_of_pos (mul_pos divisor unit)]
  push_cast [Nat.cast_natAbs]
  rfl

/-- A rounded quotient of units is the nearest number, if it is finite. -/
theorem isNearest_ofUnits
    (negative : Bool)
    (numerator : Nat)
    {denominator : Nat}
    (positive : 0 < denominator)
    (isFinite : (ofUnits negative numerator denominator).isFinite = true) :
    (ofUnits negative numerator denominator).IsNearest
      (sign negative * (numerator / denominator / unitsPerOne)) where
  isFinite := isFinite
  nearest := by
    intro other otherFinite
    have unit : (0 : ℚ) < unitsPerOne := by
      exact_mod_cast unitsPerOne_pos
    have divisor : (0 : ℚ) < denominator := by exact_mod_cast positive
    cases other with
    | nan => cases otherFinite
    | infinite otherNegative => cases otherFinite
    | finite otherNegative units representable =>
        have nearest :=
          roundSignificant_nearest numerator positive representable
        unfold ofUnits at isFinite ⊢
        split at isFinite
        · rename_i inRange
          have magnitude :
              |sign negative * ((numerator : ℚ) / denominator / unitsPerOne)| =
                numerator / denominator / unitsPerOne := by
            rw [abs_mul, abs_sign, one_mul, abs_of_nonneg
              (div_nonneg (div_nonneg (Nat.cast_nonneg _) divisor.le) unit.le)]
          rw [dif_pos inRange]
          calc |(finite negative (roundSignificant numerator denominator)
                    (representable_roundSignificant inRange)).exact -
                sign negative * (numerator / denominator / unitsPerOne)|
              = |(roundSignificant numerator denominator : ℚ) / unitsPerOne -
                  numerator / denominator / unitsPerOne| := by
                rw [exact_finite, signedUnits_eq, mul_div_assoc, ← mul_sub,
                  abs_mul, abs_sign, one_mul]
            _ ≤ |(units : ℚ) / unitsPerOne -
                  numerator / denominator / unitsPerOne| := by
                rw [abs_magnitude_sub _ _ positive,
                  abs_magnitude_sub _ _ positive]
                exact div_le_div_of_nonneg_right (by exact_mod_cast nearest)
                  (mul_pos divisor unit).le
            _ ≤ |(finite otherNegative units representable).exact -
                  sign negative * (numerator / denominator / unitsPerOne)| := by
                have reversed :=
                  abs_abs_sub_abs_le_abs_sub
                    (finite otherNegative units representable).exact
                    (sign negative * (numerator / denominator / unitsPerOne))
                rwa [abs_exact_finite, magnitude] at reversed
        · cases isFinite

/-- A finite product is the nearest number to the product. -/
theorem isNearest_multiply
    {left right : Binary64}
    (isFinite : (left * right).isFinite = true) :
    (left * right).IsNearest (left.exact * right.exact) := by
  obtain ⟨negative, numerator, isUnits, product⟩ :=
    exists_ofUnits_of_multiply isFinite
  rw [isUnits] at isFinite ⊢
  rw [← product]
  exact isNearest_ofUnits negative numerator unitsPerOne_pos isFinite

/-! ## Decimals that are read -/

theorem ofDecimal_zero
    (negative : Bool)
    (exponent : Int) :
    ofDecimal negative 0 exponent = zero negative := by
  unfold ofDecimal
  exact if_pos rfl

/-- A decimal that is neither large nor tiny is a rounded quotient of units. -/
theorem exists_ofUnits_of_ofDecimal
    (negative : Bool)
    {mantissa : Nat}
    {exponent : Int}
    (notZero : mantissa ≠ 0)
    (notLarge : ¬ 400 < (mantissa.log2 : Int) * 3 / 10 + exponent)
    (notTiny :
      ¬ (mantissa.log2 : Int) * 3 / 10 + exponent < -2000 - mantissa.log2) :
    ∃ numerator denominator : Nat,
      0 < denominator ∧
        ofDecimal negative mantissa exponent =
          ofUnits negative numerator denominator ∧
        (numerator / denominator / unitsPerOne : ℚ) =
          Decimal.value ⟨mantissa, exponent⟩ := by
  have unit : (unitsPerOne : ℚ) ≠ 0 := by
    exact_mod_cast unitsPerOne_pos.ne'
  have cast (power : Nat) : ((powerOfTen power : Nat) : ℚ) = 10 ^ power := by
    simp [powerOfTen]
  unfold ofDecimal
  dsimp only
  rw [if_neg notZero, if_neg notLarge, if_neg notTiny]
  cases exponent with
  | ofNat power =>
      refine ⟨_, 1, Nat.one_pos, rfl, ?_⟩
      push_cast [cast]
      rw [Decimal.value, Int.ofNat_eq_natCast, zpow_natCast]
      field_simp
  | negSucc power =>
      refine ⟨_, _, Nat.pow_pos (by decide), rfl, ?_⟩
      push_cast [cast]
      rw [Decimal.value, zpow_negSucc]
      field_simp

/-- What is tiny is less than half a unit. -/
theorem value_le_halfUnit
    {mantissa : Nat}
    {exponent : Int}
    (isTiny :
      (mantissa.log2 : Int) * 3 / 10 + exponent < -2000 - mantissa.log2) :
    Decimal.value ⟨mantissa, exponent⟩ ≤ (1 / 2 / unitsPerOne : ℚ) := by
  have short : (mantissa : ℚ) ≤ 10 ^ ((mantissa.log2 : Int) + 1) := by
    have below : mantissa < 2 ^ (mantissa.log2 + 1) := Nat.lt_log2_self
    have wide : 2 ^ (mantissa.log2 + 1) ≤ 10 ^ (mantissa.log2 + 1) :=
      Nat.pow_le_pow_left (by decide) _
    exact_mod_cast below.le.trans wide
  obtain ⟨places, isPlaces⟩ : ∃ places, 1 + 1074 = places := ⟨_, rfl⟩
  have wide : 2 * unitsPerOne ≤ 10 ^ places :=
    calc 2 * unitsPerOne
        = powerOfTwo places := by
          have two : powerOfTwo 1 = 2 := rfl
          rw [← isPlaces, powerOfTwo_add, two, unitsPerOne]
      _ ≤ 10 ^ places := Nat.pow_le_pow_left (by decide) _
  have unit : (2 * unitsPerOne : ℚ) ≤ 10 ^ (places : Int) := by
    exact_mod_cast wide
  calc (Decimal.value ⟨mantissa, exponent⟩ : ℚ)
      ≤ 10 ^ ((mantissa.log2 : Int) + 1) * 10 ^ exponent :=
        mul_le_mul_of_nonneg_right short (zpow_nonneg (by norm_num) _)
    _ = 10 ^ ((mantissa.log2 : Int) + 1 + exponent) :=
        (zpow_add₀ (by norm_num) _ _).symm
    _ ≤ 10 ^ (-places : Int) := zpow_le_zpow_right₀ (by norm_num) (by omega)
    _ ≤ 1 / 2 / unitsPerOne := by
        have positive : (0 : ℚ) < 2 * unitsPerOne := by
          exact_mod_cast Nat.mul_pos Nat.two_pos unitsPerOne_pos
        rw [zpow_neg, div_div, ← one_div]
        exact one_div_le_one_div_of_le positive unit

/-- A decimal is read as a number that approximates it, if that is finite. -/
theorem ofDecimal_approximates
    (negative : Bool)
    (mantissa : Nat)
    (exponent : Int)
    (isFinite : (ofDecimal negative mantissa exponent).isFinite = true) :
    (ofDecimal negative mantissa exponent).Approximates
      (sign negative * Decimal.value ⟨mantissa, exponent⟩) := by
  have zeroApproximates
      (small : Decimal.value ⟨mantissa, exponent⟩ ≤ (1 / 2 / unitsPerOne : ℚ)) :
      (zero negative).Approximates
        (sign negative * Decimal.value ⟨mantissa, exponent⟩) := by
    have nonnegative : (0 : ℚ) ≤ Decimal.value ⟨mantissa, exponent⟩ :=
      mul_nonneg (Nat.cast_nonneg _) (zpow_nonneg (by norm_num) _)
    have share : 0 ≤ roundingShare := by
      norm_num [roundingShare]
    rw [Approximates, exact_of_isZero rfl, zero_sub, abs_neg, abs_mul, abs_sign,
      one_mul, abs_of_nonneg nonnegative]
    exact small.trans (le_add_of_nonneg_left (mul_nonneg nonnegative share))
  by_cases isZero : mantissa = 0
  · subst isZero
    rw [ofDecimal_zero]
    refine zeroApproximates ?_
    rw [Decimal.value, Nat.cast_zero, zero_mul]
    exact halfUnit_nonnegative
  by_cases isLarge : 400 < (mantissa.log2 : Int) * 3 / 10 + exponent
  · unfold ofDecimal at isFinite
    dsimp only at isFinite
    rw [if_neg isZero, if_pos isLarge] at isFinite
    cases isFinite
  by_cases isTiny :
      (mantissa.log2 : Int) * 3 / 10 + exponent < -2000 - mantissa.log2
  · have isZeroNumber :
        ofDecimal negative mantissa exponent = zero negative := by
      unfold ofDecimal
      dsimp only
      rw [if_neg isZero, if_neg isLarge, if_pos isTiny]
    rw [isZeroNumber]
    exact zeroApproximates (value_le_halfUnit isTiny)
  obtain ⟨numerator, denominator, positive, isQuotient, isValue⟩ :=
    exists_ofUnits_of_ofDecimal negative isZero isLarge isTiny
  rw [isQuotient] at isFinite ⊢
  rw [← isValue]
  exact ofUnits_approximates negative numerator positive isFinite

/-- A short decimal is read as the nearest number. -/
theorem isNearest_ofDecimal
    (negative : Bool)
    {mantissa power : Nat}
    (few : power ≤ 300)
    (short : mantissa < powerOfTwo 1000) :
    (ofDecimal negative mantissa (-(power : Int))).IsNearest
      (sign negative * Decimal.value ⟨mantissa, -power⟩) := by
  have isFinite :
      (ofDecimal negative mantissa (-(power : Int))).isFinite = true :=
    (within_ofDecimal negative le_rfl (by omega)
      (lt_of_le_of_lt (by omega : _ ≤ 2 * powerOfTwo 1000)
        (by decide +kernel))).isFinite
  by_cases isZero : mantissa = 0
  · subst isZero
    have zeroPlace : (zero negative).exact = 0 :=
      exact_of_isZero rfl
    rw [ofDecimal_zero]
    exact
      { isFinite := rfl
        nearest := fun other _ => by simp [zeroPlace, Decimal.value] }
  · have bits := log2_lt isZero short
    obtain ⟨numerator, denominator, positive, isQuotient, isValue⟩ :=
      exists_ofUnits_of_ofDecimal negative isZero
        (by omega : ¬ 400 < (mantissa.log2 : Int) * 3 / 10 + -(power : Int))
        (by omega)
    rw [isQuotient] at isFinite ⊢
    rw [← isValue]
    exact isNearest_ofUnits negative numerator positive isFinite

end Binary64

end Montage
