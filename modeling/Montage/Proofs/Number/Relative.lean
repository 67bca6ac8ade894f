import Mathlib.Algebra.Order.Field.Basic
import Mathlib.Algebra.Order.Ring.Rat
import Mathlib.Tactic.FieldSimp
import Mathlib.Tactic.Linarith
import Mathlib.Tactic.NormNum
import Mathlib.Tactic.Positivity
import Mathlib.Tactic.Ring
import Montage.Proofs.Number.Order

namespace Montage

/-!
# Errors of rounded numbers

A rounded result is the exact one but for a small share of it, or for half a
unit. Here numbers are the rational ones that they stand for, of any size.
-/

/-! ## One rounding -/

/-- The greatest share of a result that rounding can change. -/
def roundingShare : ℚ := 1 / 2 ^ 53

/-- Where bits are dropped, fifty-three are left. -/
theorem powerOfTwo_excessBits_mul_le
    (whole : Nat)
    (drops : excessBits whole ≠ 0) :
    powerOfTwo 52 * powerOfTwo (excessBits whole) ≤ whole := by
  have positive : whole ≠ 0 := by
    rintro rfl
    exact drops rfl
  rw [← powerOfTwo_add]
  have shorter : 52 + excessBits whole ≤ Nat.log2 whole := by
    unfold excessBits at drops ⊢
    omega
  exact (powerOfTwo_le_powerOfTwo shorter).trans (Nat.log2_self_le positive)

theorem roundSignificant_error
    (numerator : Nat)
    {denominator : Nat}
    (positive : 0 < denominator) :
    2 * powerOfTwo 52 *
        ((roundSignificant numerator denominator * denominator : Int) -
          numerator).natAbs ≤
      numerator + powerOfTwo 52 * denominator := by
  have steps := powerOfTwo_pos (excessBits (numerator / denominator))
  have kept :=
    powerOfTwo_excessBits_mul_le (numerator / denominator)
  unfold roundSignificant
  dsimp only
  generalize excessBits (numerator / denominator) = shift at steps kept ⊢
  generalize isStep : powerOfTwo shift = step at steps kept ⊢
  have rounded := roundHalfEven_near numerator (Nat.mul_pos positive steps)
  have regrouped :
      ((roundHalfEven numerator (denominator * step) * step : Nat) : Int) *
          denominator =
        roundHalfEven numerator (denominator * step) *
          (denominator * step : Nat) := by
    push_cast
    ring
  rw [regrouped]
  generalize
    (((roundHalfEven numerator (denominator * step) *
      (denominator * step : Nat) : Int) - numerator)).natAbs = error
    at rounded ⊢
  by_cases isZero : shift = 0
  · have one : step = 1 := by
      rw [← isStep, isZero]
      rfl
    rw [one, Nat.mul_one] at rounded
    calc 2 * powerOfTwo 52 * error
        = powerOfTwo 52 * (2 * error) := by ring
      _ ≤ powerOfTwo 52 * denominator := Nat.mul_le_mul_left _ rounded
      _ ≤ numerator + powerOfTwo 52 * denominator := Nat.le_add_left _ _
  · calc 2 * powerOfTwo 52 * error
        = powerOfTwo 52 * (2 * error) := by ring
      _ ≤ powerOfTwo 52 * (denominator * step) :=
        Nat.mul_le_mul_left _ rounded
      _ = powerOfTwo 52 * step * denominator := by ring
      _ ≤ numerator / denominator * denominator :=
        Nat.mul_le_mul_right _ (kept isZero)
      _ ≤ numerator := Nat.div_mul_le_self _ _
      _ ≤ numerator + powerOfTwo 52 * denominator := Nat.le_add_right _ _

/-- A rounded quotient is the quotient but for a share of it, or a half. -/
theorem roundSignificant_relative
    (numerator : Nat)
    {denominator : Nat}
    (positive : 0 < denominator) :
    |(roundSignificant numerator denominator : ℚ) - numerator / denominator| ≤
      numerator / denominator * roundingShare + 1 / 2 := by
  have error := roundSignificant_error numerator positive
  generalize roundSignificant numerator denominator = rounded at error ⊢
  have divisor : (0 : ℚ) < denominator := by exact_mod_cast positive
  have scaled :
      2 ^ 53 * |(rounded : ℚ) * denominator - numerator| ≤
        numerator + 2 ^ 52 * denominator := by
    have cast : ((powerOfTwo 52 : Nat) : ℚ) = 2 ^ 52 := by
      norm_num [powerOfTwo]
    have inRationals :
        ((2 * powerOfTwo 52 *
            ((rounded * denominator : Int) - numerator).natAbs : Nat) : ℚ) ≤
          (numerator + powerOfTwo 52 * denominator : Nat) := by
      exact_mod_cast error
    push_cast [Nat.cast_natAbs, cast] at inRationals
    linarith
  have quotient :
      |(rounded : ℚ) - numerator / denominator| =
        |(rounded : ℚ) * denominator - numerator| / denominator := by
    rw [← abs_of_pos divisor, ← abs_div, abs_of_pos divisor]
    congr 1
    field_simp
  rw [quotient, div_le_iff₀ divisor, roundingShare]
  have expanded :
      ((numerator : ℚ) / denominator * (1 / 2 ^ 53) + 1 / 2) * denominator =
        (numerator + 2 ^ 52 * denominator) / 2 ^ 53 := by
    field_simp
  rw [expanded, le_div_iff₀ (by positivity)]
  linarith

/-! ## Numbers and what they stand for -/

namespace Binary64

/-- The place of a number, in ones. -/
def exact (number : Binary64) : ℚ :=
  (number.position.getD 0 : ℚ) / unitsPerOne

/-- A number is a result but for one rounding. -/
def Approximates (number : Binary64) (result : ℚ) : Prop :=
  |number.exact - result| ≤
    |result| * roundingShare + 1 / 2 / unitsPerOne

theorem halfUnit_nonnegative : (0 : ℚ) ≤ 1 / 2 / unitsPerOne :=
  div_nonneg (by norm_num) (Nat.cast_nonneg _)

theorem halfUnit_small : (1 / 2 / unitsPerOne : ℚ) ≤ 1 / 2 ^ 100 := by
  have large : (2 : ℚ) ^ 100 ≤ unitsPerOne := by
    have cast : ((powerOfTwo 100 : Nat) : ℚ) = 2 ^ 100 := by
      norm_num [powerOfTwo]
    rw [← cast]
    exact_mod_cast powerOfTwo_le_powerOfTwo (by decide : 100 ≤ 1074)
  rw [div_div]
  exact one_div_le_one_div_of_le (by positivity) (by linarith)

theorem exact_finite
    (negative : Bool)
    {units : Nat}
    (representable : Representable units) :
    (finite negative units representable).exact =
      (signedUnits negative units : ℚ) / unitsPerOne :=
  rfl

theorem exact_of_position
    {number : Binary64}
    {place : Int}
    (isPlace : number.position = some place) :
    number.exact = place / unitsPerOne := by
  rw [exact, isPlace]
  rfl

/-- Numbers stand for others in their order. -/
theorem exact_le_of_atMost
    {first second : Binary64}
    (ordered : first.atMost second = true) :
    first.exact ≤ second.exact := by
  obtain ⟨low, high, isLow, isHigh, places⟩ := atMost_iff.mp ordered
  have unit : (0 : ℚ) < unitsPerOne := by
    exact_mod_cast unitsPerOne_pos
  rw [exact_of_position isLow, exact_of_position isHigh]
  exact (div_le_div_iff_of_pos_right unit).mpr (by exact_mod_cast places)

/-- A whole number stands for itself. -/
theorem exact_of_whole
    {number : Binary64}
    {whole : Nat}
    (isPlace : number.position = some ((whole * unitsPerOne : Nat) : Int)) :
    number.exact = whole := by
  have unit : (unitsPerOne : ℚ) ≠ 0 := by
    exact_mod_cast unitsPerOne_pos.ne'
  rw [exact_of_position isPlace, Int.cast_natCast, Nat.cast_mul,
    mul_div_assoc, div_self unit, mul_one]

theorem exact_natural
    (number : Nat)
    (short : number < powerOfTwo 53) :
    (OfNat.ofNat number : Binary64).exact = number :=
  exact_of_whole (position_natural number short)

theorem exact_of_isZero
    {number : Binary64}
    (isZero : number.isZero = true) :
    number.exact = 0 := by
  cases number with
  | nan => cases isZero
  | infinite negative => cases isZero
  | finite negative units representable =>
      have noUnits : units = 0 := of_decide_eq_true isZero
      subst noUnits
      have noPlace : signedUnits negative 0 = 0 := by
        cases negative <;> rfl
      rw [exact_finite, noPlace, Int.cast_zero, zero_div]

/-- A finite number is a zero exactly if it stands for zero. -/
theorem isZero_iff
    {number : Binary64}
    (isFinite : number.isFinite = true) :
    number.isZero = true ↔ number.exact = 0 := by
  refine ⟨exact_of_isZero, fun isOrigin => ?_⟩
  cases number with
  | nan => cases isFinite
  | infinite negative => cases isFinite
  | finite negative units representable =>
      have unit : (unitsPerOne : ℚ) ≠ 0 := by
        exact_mod_cast unitsPerOne_pos.ne'
      rw [exact_finite, div_eq_zero_iff, or_iff_left unit, Int.cast_eq_zero]
        at isOrigin
      have magnitude := natAbs_signedUnits negative units
      rw [isOrigin, Int.natAbs_zero] at magnitude
      exact decide_eq_true magnitude.symm

/-- One with a sign. -/
def sign (negative : Bool) : ℚ :=
  if negative then -1 else 1

theorem abs_sign (negative : Bool) : |sign negative| = 1 := by
  cases negative <;> simp [sign]

theorem sign_bne (left right : Bool) :
    sign (left != right) = sign left * sign right := by
  cases left <;> cases right <;> simp [sign]

theorem signedUnits_eq (negative : Bool) (units : Nat) :
    (signedUnits negative units : ℚ) = sign negative * units := by
  cases negative <;> simp [signedUnits, sign]

theorem abs_exact_finite
    (negative : Bool)
    {units : Nat}
    (representable : Representable units) :
    |(finite negative units representable).exact| =
      (units : ℚ) / unitsPerOne := by
  rw [exact_finite, signedUnits_eq, mul_div_assoc, abs_mul, abs_sign, one_mul,
    abs_of_nonneg (div_nonneg (Nat.cast_nonneg _) (Nat.cast_nonneg _))]

/-- A rounded quotient of units approximates it. -/
theorem ofUnits_approximates
    (negative : Bool)
    (numerator : Nat)
    {denominator : Nat}
    (positive : 0 < denominator)
    (isFinite : (ofUnits negative numerator denominator).isFinite = true) :
    (ofUnits negative numerator denominator).Approximates
      (sign negative * (numerator / denominator / unitsPerOne)) := by
  have near := roundSignificant_relative numerator positive
  have unit : (0 : ℚ) < unitsPerOne := by
    exact_mod_cast unitsPerOne_pos
  have nonnegative : (0 : ℚ) ≤ numerator / denominator :=
    div_nonneg (Nat.cast_nonneg _) (Nat.cast_nonneg _)
  unfold ofUnits at isFinite ⊢
  split at isFinite
  · rename_i inRange
    rw [dif_pos inRange, Approximates, exact_finite, signedUnits_eq]
    generalize roundSignificant numerator denominator = rounded at near ⊢
    generalize (unitsPerOne : ℚ) = one at unit ⊢
    generalize (numerator : ℚ) / denominator = quotient at near nonnegative ⊢
    have factored :
        sign negative * rounded / one - sign negative * (quotient / one) =
          sign negative * ((rounded - quotient) / one) := by
      ring
    rw [factored, abs_mul, abs_mul, abs_sign, one_mul, one_mul, abs_div,
      abs_div, abs_of_pos unit, abs_of_nonneg nonnegative, div_le_iff₀ unit]
    calc |(rounded : ℚ) - quotient|
        ≤ quotient * roundingShare + 1 / 2 := near
      _ = (quotient / one * roundingShare + 1 / 2 / one) * one := by
        field_simp
  · cases isFinite

/-- The product of finite numbers is the rounded one. -/
theorem multiply_finite
    (negative otherNegative : Bool)
    {units otherUnits : Nat}
    (representable : Representable units)
    (otherHolds : Representable otherUnits) :
    finite negative units representable *
        finite otherNegative otherUnits otherHolds =
      ofUnits (negative != otherNegative) (units * otherUnits)
        unitsPerOne := by
  change multiply _ _ = _
  rw [multiply]

/-- A finite product is a rounded quotient of units, which is the product. -/
theorem exists_ofUnits_of_multiply
    {left right : Binary64}
    (isFinite : (left * right).isFinite = true) :
    ∃ (negative : Bool) (numerator : Nat),
      left * right = ofUnits negative numerator unitsPerOne ∧
        sign negative * ((numerator : ℚ) / unitsPerOne / unitsPerOne) =
          left.exact * right.exact := by
  obtain ⟨leftFinite, rightFinite⟩ := isFinite_of_multiply isFinite
  cases left with
  | nan => cases leftFinite
  | infinite negative => cases leftFinite
  | finite negative units representable =>
      cases right with
      | nan => cases rightFinite
      | infinite otherNegative => cases rightFinite
      | finite otherNegative otherUnits otherHolds =>
          refine ⟨negative != otherNegative, units * otherUnits,
            multiply_finite _ _ _ _, ?_⟩
          rw [exact_finite, exact_finite, sign_bne, signedUnits_eq,
            signedUnits_eq, Nat.cast_mul]
          generalize (unitsPerOne : ℚ) = one
          ring

/-- A finite product approximates the product. -/
theorem multiply_approximates
    {left right : Binary64}
    (isFinite : (left * right).isFinite = true) :
    (left * right).Approximates (left.exact * right.exact) := by
  obtain ⟨negative, numerator, isUnits, product⟩ :=
    exists_ofUnits_of_multiply isFinite
  rw [isUnits] at isFinite ⊢
  rw [← product]
  exact ofUnits_approximates negative numerator unitsPerOne_pos isFinite

theorem position_negate (number : Binary64) :
    (negate number).position = number.position.map fun place => -place := by
  cases number with
  | nan => rfl
  | infinite negative =>
      cases negative with
      | true => exact congrArg some (neg_neg _).symm
      | false => rfl
  | finite negative units representable =>
      cases negative with
      | true => exact congrArg some (neg_neg _).symm
      | false => rfl

/-- A number with the other sign is as far from zero. -/
theorem exact_negate (number : Binary64) :
    (-number).exact = -number.exact := by
  change (negate number).exact = _
  rw [exact, exact, position_negate]
  cases number.position with
  | none =>
      rw [Option.map_none, Option.getD_none, Int.cast_zero, zero_div, neg_zero]
  | some place =>
      rw [Option.map_some, Option.getD_some, Option.getD_some, Int.cast_neg,
        neg_div]

/-- A finite sum of finite numbers approximates the sum. -/
theorem add_approximates
    {left right : Binary64}
    (leftFinite : left.isFinite = true)
    (rightFinite : right.isFinite = true)
    (isFinite : (left + right).isFinite = true) :
    (left + right).Approximates (left.exact + right.exact) := by
  cases left with
  | nan => cases leftFinite
  | infinite negative => cases leftFinite
  | finite negative units representable =>
      cases right with
      | nan => cases rightFinite
      | infinite otherNegative => cases rightFinite
      | finite otherNegative otherUnits otherHolds =>
          change (add _ _).isFinite = true at isFinite
          change (add _ _).Approximates _
          rw [add] at isFinite ⊢
          generalize isSum :
            signedUnits negative units +
              signedUnits otherNegative otherUnits = sum at isFinite ⊢
          have exactSum :
              (finite negative units representable).exact +
                  (finite otherNegative otherUnits otherHolds).exact =
                sum / unitsPerOne := by
            rw [exact_finite, exact_finite, ← isSum]
            push_cast
            ring
          rw [exactSum]
          split at isFinite
          · rename_i noSum
            rw [if_pos noSum, Approximates, noSum,
              exact_of_isZero (by rfl), Int.cast_zero, zero_div, sub_self,
              abs_zero, zero_mul, zero_add]
            exact halfUnit_nonnegative
          · rename_i someSum
            rw [if_neg someSum]
            have near :=
              ofUnits_approximates (decide (sum < 0)) sum.natAbs Nat.one_pos
                isFinite
            have signed :
                sign (decide (sum < 0)) *
                    ((sum.natAbs : ℚ) / (1 : Nat) / unitsPerOne) =
                  sum / unitsPerOne := by
              rw [Nat.cast_one, div_one, Nat.cast_natAbs, Int.cast_abs,
                ← mul_div_assoc]
              generalize (unitsPerOne : ℚ) = one
              by_cases below : sum < 0
              · have negative : (sum : ℚ) < 0 := by exact_mod_cast below
                simp [sign, below, abs_of_neg negative]
              · have atLeast : (0 : ℚ) ≤ sum := by
                  exact_mod_cast not_lt.mp below
                simp [sign, below, abs_of_nonneg atLeast]
            rwa [signed] at near

/-- A finite quotient of finite numbers approximates the quotient. -/
theorem divide_approximates
    {left right quotient : Binary64}
    (leftFinite : left.isFinite = true)
    (rightFinite : right.isFinite = true)
    (isQuotient : left.divide right = .ok quotient)
    (isFinite : quotient.isFinite = true) :
    quotient.Approximates (left.exact / right.exact) := by
  cases left with
  | nan => cases leftFinite
  | infinite negative => cases leftFinite
  | finite negative units representable =>
      cases right with
      | nan => cases rightFinite
      | infinite otherNegative => cases rightFinite
      | finite otherNegative otherUnits otherHolds =>
          unfold divide at isQuotient
          split at isQuotient
          · cases isQuotient
          · rename_i notZero
            have isUnits := Except.ok.inj isQuotient
            dsimp only at isUnits
            subst isUnits
            have positive : 0 < otherUnits := by
              simpa [isZero, Nat.pos_iff_ne_zero] using notZero
            have near :=
              ofUnits_approximates (negative != otherNegative)
                (units * unitsPerOne) positive isFinite
            have quotient :
                sign (negative != otherNegative) *
                    ((units * unitsPerOne : Nat) / (otherUnits : ℚ) /
                      unitsPerOne) =
                  (signedUnits negative units : ℚ) / unitsPerOne /
                    ((signedUnits otherNegative otherUnits : ℚ) /
                      unitsPerOne) := by
              have unit : (unitsPerOne : ℚ) ≠ 0 := by
                exact_mod_cast unitsPerOne_pos.ne'
              have divisor : (otherUnits : ℚ) ≠ 0 := by
                exact_mod_cast positive.ne'
              have square : sign otherNegative ^ 2 = 1 := by
                cases otherNegative <;> simp [sign]
              have signs : sign otherNegative ≠ 0 := by
                cases otherNegative <;> simp [sign]
              rw [sign_bne, signedUnits_eq, signedUnits_eq, Nat.cast_mul]
              generalize (unitsPerOne : ℚ) = one at unit ⊢
              field_simp
              rw [square, mul_one]
            rw [exact_finite, exact_finite, ← quotient]
            exact near

/-- A rounded quotient that is kept is finite. -/
theorem ofUnits_of_unlessInfinite
    {cause : ArithmeticError}
    {negative : Bool}
    {numerator denominator : Nat}
    {result : Binary64}
    (isResult :
      unlessInfinite cause (ofUnits negative numerator denominator) =
        .ok result) :
    ofUnits negative numerator denominator = result ∧
      result.isFinite = true := by
  unfold ofUnits at isResult ⊢
  split at isResult
  · rename_i inRange
    cases isResult
    exact ⟨dif_pos inRange, rfl⟩
  · cases isResult

/-- The rounded quotient of whole numbers approximates the quotient. -/
theorem divideIntegers_approximates
    {dividend divisor : Nat}
    {quotient : Binary64}
    (isQuotient : divideIntegers dividend divisor = .ok quotient) :
    quotient.isFinite = true ∧
      quotient.Approximates ((dividend : ℚ) / divisor) := by
  have noSigns (number : Nat) : decide ((number : Int) < 0) = false :=
    decide_eq_false (by omega)
  unfold divideIntegers at isQuotient
  split at isQuotient
  · cases isQuotient
  rename_i notZero
  have positive : 0 < divisor := by omega
  dsimp only at isQuotient
  rw [noSigns, noSigns, bne_self_eq_false, Int.natAbs_natCast,
    Int.natAbs_natCast] at isQuotient
  split at isQuotient
  · rename_i isZero
    rw [← Except.ok.inj isQuotient, Approximates, exact_of_isZero rfl,
      Int.natCast_eq_zero.mp isZero, Nat.cast_zero, zero_div, sub_zero, abs_zero,
      zero_mul, zero_add]
    exact ⟨rfl, halfUnit_nonnegative⟩
  · obtain ⟨rfl, isFinite⟩ := ofUnits_of_unlessInfinite isQuotient
    have unit : (unitsPerOne : ℚ) ≠ 0 := by
      exact_mod_cast unitsPerOne_pos.ne'
    have near :=
      ofUnits_approximates false (dividend * unitsPerOne) positive isFinite
    have isValue :
        sign false * ((dividend * unitsPerOne : Nat) / (divisor : ℚ) /
            unitsPerOne) =
          dividend / divisor := by
      rw [sign, if_neg Bool.false_ne_true, one_mul, Nat.cast_mul]
      generalize (unitsPerOne : ℚ) = one at unit ⊢
      field_simp
    rw [isValue] at near
    exact ⟨isFinite, near⟩

theorem approximates_exact (number : Binary64) :
    number.Approximates number.exact := by
  have share : 0 ≤ roundingShare := by
    norm_num [roundingShare]
  rw [Approximates, sub_self, abs_zero]
  exact add_nonneg (mul_nonneg (abs_nonneg _) share) halfUnit_nonnegative

/-- A result that is not tiny is met but for a share of it. -/
theorem Approximates.near
    {number : Binary64}
    {result : ℚ}
    (approximates : number.Approximates result)
    (large : 1 / 2 ^ 47 ≤ result) :
    |number.exact - result| ≤ result / 2 ^ 52 := by
  have small := halfUnit_small
  have share : roundingShare = 1 / 2 ^ 53 := rfl
  unfold Approximates at approximates
  have nonnegative : 0 ≤ result := le_trans (by positivity) large
  rw [share, abs_of_nonneg nonnegative] at approximates
  linarith

/-- Finite numbers are compared as what they stand for. -/
theorem less_iff_exact
    {left right : Binary64}
    (leftFinite : left.isFinite = true)
    (rightFinite : right.isFinite = true) :
    left.less right = true ↔ left.exact < right.exact := by
  have unit : (0 : ℚ) < unitsPerOne := by
    exact_mod_cast unitsPerOne_pos
  cases left with
  | nan => cases leftFinite
  | infinite negative => cases leftFinite
  | finite negative units representable =>
      cases right with
      | nan => cases rightFinite
      | infinite otherNegative => cases rightFinite
      | finite otherNegative otherUnits otherHolds =>
          rw [exact_finite, exact_finite, div_lt_div_iff_of_pos_right unit,
            Int.cast_lt]
          exact decide_eq_true_iff

/-- What stands for a bounded number is bounded. -/
theorem within_of_exact
    {number : Binary64}
    {limit : Nat}
    (isFinite : number.isFinite = true)
    (bounded : |number.exact| ≤ limit) :
    number.Within limit := by
  have unit : (0 : ℚ) < unitsPerOne := by
    exact_mod_cast unitsPerOne_pos
  cases number with
  | nan => cases isFinite
  | infinite negative => cases isFinite
  | finite negative units representable =>
      rw [abs_exact_finite, div_le_iff₀ unit] at bounded
      exact ⟨negative, units, representable, rfl, by exact_mod_cast bounded⟩

/-- A quotient by a number that is not less than a unit fraction is bounded. -/
theorem Within.divide_of_exact
    {number divisor quotient : Binary64}
    {limit factor : Nat}
    (within : number.Within limit)
    (divisorFinite : divisor.isFinite = true)
    (isLarge : 1 ≤ factor * divisor.exact)
    (isQuotient : number.divide divisor = .ok quotient)
    (inRange : 2 * (limit * factor) + 1 < powerOfTwo 1024) :
    quotient.Within (2 * (limit * factor) + 1) := by
  have unit : (0 : ℚ) < unitsPerOne := by
    exact_mod_cast unitsPerOne_pos
  cases divisor with
  | nan => cases divisorFinite
  | infinite negative => cases divisorFinite
  | finite negative units representable =>
      refine within.divide divisorFinite rfl ?_ isQuotient inRange
      rw [exact_finite, ← mul_div_assoc, le_div_iff₀ unit, one_mul] at isLarge
      have places :
          (unitsPerOne : Int) ≤ factor * signedUnits negative units := by
        exact_mod_cast isLarge
      have magnitude := natAbs_signedUnits negative units
      rw [← Int.ofNat_le, Nat.cast_mul]
      exact places.trans
        (Int.mul_le_mul_of_nonneg_left Int.le_natAbs (Int.natCast_nonneg _))

/-- A bounded number can be divided by one that is not less than a unit
fraction. -/
theorem exists_quotient
    {left right : Binary64}
    {limit factor : Nat}
    (leftFinite : left.isFinite = true)
    (rightFinite : right.isFinite = true)
    (bounded : |left.exact| ≤ limit)
    (isLarge : 1 ≤ factor * right.exact)
    (inRange : 2 * (limit * factor) + 1 < powerOfTwo 1024) :
    ∃ quotient,
      left.divide right = .ok quotient ∧
        quotient.isFinite = true ∧
        quotient.Approximates (left.exact / right.exact) := by
  have notZero : right.isZero = false := by
    by_contra isZero
    rw [Bool.not_eq_false] at isZero
    rw [exact_of_isZero isZero, mul_zero] at isLarge
    norm_num at isLarge
  obtain ⟨quotient, isQuotient⟩ := (divide_isOk_iff left right).mpr notZero
  have isFinite : quotient.isFinite = true :=
    ((within_of_exact leftFinite bounded).divide_of_exact rightFinite isLarge
      isQuotient inRange).isFinite
  exact ⟨quotient, isQuotient, isFinite,
    divide_approximates leftFinite rightFinite isQuotient isFinite⟩

/-- The nearest integer is at most a half away. -/
theorem round_near
    {number : Binary64}
    {nearest : Int}
    (isNearest : number.round = .ok nearest) :
    |(nearest : ℚ) - number.exact| ≤ 1 / 2 := by
  cases number with
  | nan => cases isNearest
  | infinite negative => cases isNearest
  | finite negative units representable =>
      have near := roundHalfEven_near units unitsPerOne_pos
      have unit : (0 : ℚ) < unitsPerOne := by
        exact_mod_cast unitsPerOne_pos
      have isRounded :
          signedUnits negative (roundHalfEven units unitsPerOne) = nearest :=
        Except.ok.inj isNearest
      rw [exact_finite, ← isRounded, signedUnits_eq, signedUnits_eq]
      generalize roundHalfEven units unitsPerOne = rounded at near ⊢
      generalize unitsPerOne = one at near unit ⊢
      have scaled : 2 * |(rounded : ℚ) * one - units| ≤ one := by
        have inRationals :
            ((2 * ((rounded * one : Int) - units).natAbs : Nat) : ℚ) ≤
              (one : Nat) := by
          exact_mod_cast near
        push_cast [Nat.cast_natAbs] at inRationals
        exact inRationals
      have factored :
          sign negative * (rounded : ℚ) - sign negative * units / one =
            sign negative * ((rounded * one - units) / one) := by
        field_simp
      rw [factored, abs_mul, abs_sign, one_mul, abs_div, abs_of_pos unit,
        div_le_iff₀ unit]
      linarith

end Binary64

/-! ## Shares of quotients -/

section Shares

variable {first second quotient dividend divisor : ℚ}

/-- A quotient of numbers that are met but for a share is met but for twice and
a half the share. -/
theorem quotient_near
    (above : 0 < dividend)
    (below : 0 < divisor)
    (firstNear : |first - dividend| ≤ dividend / 2 ^ 52)
    (secondNear : |second - divisor| ≤ divisor / 2 ^ 52) :
    |first / second - dividend / divisor| ≤
      dividend / divisor * (5 / 2 / 2 ^ 52) := by
  obtain ⟨firstLow, firstHigh⟩ := abs_le.mp firstNear
  obtain ⟨secondLow, secondHigh⟩ := abs_le.mp secondNear
  have positive : 0 < second := by linarith
  obtain ⟨ratio, isRatio⟩ : ∃ ratio, dividend / divisor = ratio := ⟨_, rfl⟩
  have ratioPositive : 0 < ratio := isRatio ▸ div_pos above below
  have isDividend : dividend = ratio * divisor :=
    (div_eq_iff below.ne').mp isRatio
  have product : 0 < ratio * divisor := mul_pos ratioPositive below
  rw [isRatio, abs_le]
  constructor
  · have low : ratio * (1 - 5 / 2 / 2 ^ 52) ≤ first / second := by
      rw [le_div_iff₀ positive]
      calc ratio * (1 - 5 / 2 / 2 ^ 52) * second
          ≤ ratio * (1 - 5 / 2 / 2 ^ 52) * (divisor * (1 + 1 / 2 ^ 52)) :=
            mul_le_mul_of_nonneg_left (by linarith) (by linarith)
        _ = ratio * divisor * ((1 - 5 / 2 / 2 ^ 52) * (1 + 1 / 2 ^ 52)) := by
            ring
        _ ≤ ratio * divisor * (1 - 1 / 2 ^ 52) :=
            mul_le_mul_of_nonneg_left (by norm_num) product.le
        _ ≤ first := by linarith
    linarith
  · have high : first / second ≤ ratio * (1 + 5 / 2 / 2 ^ 52) := by
      rw [div_le_iff₀ positive]
      calc first
          ≤ ratio * divisor * (1 + 1 / 2 ^ 52) := by linarith
        _ ≤ ratio * divisor * ((1 + 5 / 2 / 2 ^ 52) * (1 - 1 / 2 ^ 52)) :=
            mul_le_mul_of_nonneg_left (by norm_num) product.le
        _ = ratio * (1 + 5 / 2 / 2 ^ 52) * (divisor * (1 - 1 / 2 ^ 52)) := by
            ring
        _ ≤ ratio * (1 + 5 / 2 / 2 ^ 52) * second :=
            mul_le_mul_of_nonneg_left (by linarith) (by linarith)
    linarith

end Shares

end Montage
