import Mathlib.Tactic.Ring
import Montage.Number.Amount

namespace Montage

/-!
# Bounds of rounded numbers

Rounding at most doubles a number. So arithmetic that stays far below the
limit of the format has finite results. And a rounded number is close to the
exact one: it is at most as far away as the format's numbers there are apart.
-/

/-- The bits that are dropped are fewer than the number has. -/
theorem powerOfTwo_excessBits_le
    {whole : Nat}
    (drops : excessBits whole ≠ 0) :
    powerOfTwo (excessBits whole) ≤ whole := by
  have positive : whole ≠ 0 := by
    rintro rfl
    exact drops rfl
  calc powerOfTwo (excessBits whole)
      ≤ powerOfTwo whole.log2 :=
        powerOfTwo_le_powerOfTwo (by unfold excessBits; omega)
    _ ≤ whole := Nat.log2_self_le positive

theorem roundSignificant_le
    (numerator denominator : Nat) :
    roundSignificant numerator denominator ≤
      2 * (numerator / denominator) + 1 := by
  unfold roundSignificant
  dsimp only
  generalize shiftDefinition : excessBits (numerator / denominator) = shift
  generalize quotientDefinition : numerator / denominator = quotient
  have rounded :=
    roundHalfEven_le_succ numerator (denominator * powerOfTwo shift)
  rw [← Nat.div_div_eq_div_mul, quotientDefinition] at rounded
  rcases Nat.eq_zero_or_pos shift with isZero | drops
  · have one : powerOfTwo shift = 1 := by
      rw [isZero]
      rfl
    rw [one, Nat.div_one] at rounded
    rw [one]
    omega
  · have fewer : powerOfTwo shift ≤ quotient := by
      rw [← shiftDefinition, ← quotientDefinition]
      apply powerOfTwo_excessBits_le
      omega
    calc roundHalfEven numerator (denominator * powerOfTwo shift) *
          powerOfTwo shift
        ≤ (quotient / powerOfTwo shift + 1) * powerOfTwo shift :=
          Nat.mul_le_mul_right _ rounded
      _ = quotient / powerOfTwo shift * powerOfTwo shift +
            powerOfTwo shift := Nat.succ_mul _ _
      _ ≤ quotient + quotient :=
          Nat.add_le_add (Nat.div_mul_le_self _ _) fewer
      _ ≤ 2 * quotient + 1 := by omega

theorem unitsLimit_eq : unitsLimit = powerOfTwo 1024 * unitsPerOne := by
  have exponent : 2098 = 1024 + 1074 := rfl
  unfold unitsLimit unitsPerOne
  rw [exponent, powerOfTwo_add]

/-- A number of few binary digits is below the larger powers of two. -/
theorem lt_powerOfTwo_of_short
    {count exponent : Nat}
    (short : count < powerOfTwo 64)
    (large : 64 ≤ exponent) :
    count < powerOfTwo exponent :=
  Nat.lt_of_lt_of_le short (powerOfTwo_le_powerOfTwo large)

namespace Binary64

theorem mul_unitsPerOne_lt
    {limit : Nat}
    (inRange : limit < powerOfTwo 1024) :
    limit * unitsPerOne < unitsLimit := by
  have positive : 0 < unitsPerOne := powerOfTwo_pos 1074
  have step := Nat.mul_lt_mul_of_pos_right inRange positive
  rwa [← unitsLimit_eq] at step

theorem isFinite_ofUnits
    (negative : Bool)
    {numerator denominator : Nat}
    (bound : 2 * (numerator / denominator) + 1 < unitsLimit) :
    (ofUnits negative numerator denominator).isFinite = true := by
  have inRange : roundSignificant numerator denominator < unitsLimit :=
    Nat.lt_of_le_of_lt (roundSignificant_le numerator denominator) bound
  simp [ofUnits, inRange, isFinite]

theorem unlessInfinite_of_isFinite
    {cause : ArithmeticError}
    {number : Binary64}
    (isFinite : number.isFinite = true) :
    unlessInfinite cause number = .ok number := by
  cases number with
  | infinite negative => cases isFinite
  | nan => rfl
  | finite negative units representable => rfl

/-- Integers below half of the limit have a finite number nearest to them. -/
theorem ofInteger_eq_ok
    {number : Int}
    (bound : number.natAbs < powerOfTwo 1023) :
    ∃ result, ofInteger number = .ok result ∧ result.isFinite = true := by
  have twice : powerOfTwo 1024 = 2 * powerOfTwo 1023 := by
    have exponent : 1024 = 1 + 1023 := rfl
    have two : powerOfTwo 1 = 2 := rfl
    rw [exponent, powerOfTwo_add, two]
  have positive : 0 < unitsPerOne := powerOfTwo_pos 1074
  have units : 2 * (number.natAbs * unitsPerOne) + 1 < unitsLimit :=
    calc
      2 * (number.natAbs * unitsPerOne) + 1
        ≤ 2 * number.natAbs * unitsPerOne + unitsPerOne := by
          rw [Nat.mul_assoc]
          exact Nat.add_le_add_left positive _
      _ = (2 * number.natAbs + 1) * unitsPerOne := (Nat.succ_mul _ _).symm
      _ < unitsLimit := mul_unitsPerOne_lt (by omega)
  have isFinite :
      (ofUnits (decide (number < 0)) (number.natAbs * unitsPerOne)
        1).isFinite = true := by
    apply isFinite_ofUnits
    rwa [Nat.div_one]
  exact ⟨_, unlessInfinite_of_isFinite isFinite, isFinite⟩

end Binary64

/-! ## Numbers within whole bounds -/

namespace Binary64

theorem atMost_iff
    {left right : Binary64} :
    left.atMost right = true ↔
      ∃ first second,
        left.position = some first ∧
        right.position = some second ∧
        first ≤ second := by
  unfold atMost
  cases left.position <;> cases right.position <;> simp

/-- A number is not at most what is less than it. -/
theorem atMost_of_less
    {first second : Binary64}
    (isLess : first.less second = true) :
    second.atMost first = false := by
  unfold less at isLess
  unfold atMost
  split at isLess
  · rename_i isFirst isSecond
    simp only [isFirst, isSecond, decide_eq_true_eq, decide_eq_false_iff_not]
      at isLess ⊢
    omega
  · cases isLess

/-- A number that is at least zero is one of these. -/
theorem exists_units_of_nonnegative
    {number : Binary64}
    (nonnegative : atMost 0 number = true) :
    ∃ units : Nat, number.position = some (units : Int) := by
  obtain ⟨first, second, isZero, isPlace, isOrdered⟩ :=
    atMost_iff.mp nonnegative
  have zero : (0 : Binary64).position = some 0 := rfl
  rw [zero] at isZero
  cases isZero
  obtain ⟨units, rfl⟩ := Int.eq_ofNat_of_zero_le isOrdered
  exact ⟨units, isPlace⟩

/-- No number that is at least zero is less than the difference of a number and
itself, which is zero or not a number. -/
theorem less_sub_self
    {least : Binary64}
    (nonnegative : atMost 0 least = true)
    (number : Binary64) :
    least.less (number - number) = false := by
  have notLessThanZero
      {other : Binary64}
      (isZero : other.position = some 0) :
      least.less other = false := by
    obtain ⟨units, place⟩ := exists_units_of_nonnegative nonnegative
    simp [less, place, isZero]
  have difference : number - number = add number (negate number) := rfl
  rw [difference]
  cases number with
  | nan => simp [add, less, position]
  | infinite negative => simp [add, negate, less, position]
  | finite negative units representable =>
      have isZero :
          signedUnits negative units + signedUnits (!negative) units = 0 := by
        cases negative <;> simp [signedUnits]
      simp only [add, negate, isZero, ↓reduceIte]
      apply notLessThanZero
      simp [zero, position, signedUnits]

/-- A finite number whose magnitude is at most a whole one. -/
def Within (limit : Nat) (number : Binary64) : Prop :=
  ∃ negative units representable,
    number = finite negative units representable ∧
      units ≤ limit * unitsPerOne

theorem natAbs_signedUnits
    (negative : Bool)
    (units : Nat) :
    (signedUnits negative units).natAbs = units := by
  cases negative <;> simp [signedUnits]

/-- The magnitude of a number is that of its place. -/
theorem within_of_position
    {number : Binary64}
    {place : Int}
    {limit : Nat}
    (isPlace : number.position = some place)
    (bounded : place.natAbs ≤ limit * unitsPerOne)
    (inRange : limit < powerOfTwo 1024) :
    number.Within limit := by
  have below := mul_unitsPerOne_lt inRange
  cases number with
  | nan => cases isPlace
  | infinite negative =>
      have isLimit : signedUnits negative unitsLimit = place :=
        Option.some.inj isPlace
      have magnitude := natAbs_signedUnits negative unitsLimit
      rw [isLimit] at magnitude
      omega
  | finite negative units representable =>
      have isUnits : signedUnits negative units = place :=
        Option.some.inj isPlace
      have magnitude := natAbs_signedUnits negative units
      rw [isUnits] at magnitude
      exact ⟨negative, units, representable, rfl, by omega⟩

/-- A whole number is within itself. -/
theorem within_of_whole
    {number : Binary64}
    {limit : Nat}
    (isPlace : number.position = some ((limit * unitsPerOne : Nat) : Int))
    (inRange : limit < powerOfTwo 1024) :
    number.Within limit :=
  within_of_position isPlace (Nat.le_refl _) inRange

/-- A rounded quotient of units is within a bound of twice the quotient. -/
theorem within_ofUnits
    (negative : Bool)
    {numerator denominator limit : Nat}
    (bounded : 2 * (numerator / denominator) + 1 ≤ limit * unitsPerOne)
    (inRange : limit < powerOfTwo 1024) :
    (ofUnits negative numerator denominator).Within limit := by
  have rounded := roundSignificant_le numerator denominator
  have below := mul_unitsPerOne_lt inRange
  have small : roundSignificant numerator denominator < unitsLimit := by
    omega
  refine ⟨negative, _, representable_roundSignificant small, ?_, by omega⟩
  simp [ofUnits, small]

namespace Within

variable {limit factor : Nat} {number other : Binary64}

/-- A number between zero and a whole one. -/
theorem of_atMost
    (nonnegative : atMost 0 number = true)
    (bounded : number.atMost other = true)
    (isPlace : other.position = some ((limit * unitsPerOne : Nat) : Int))
    (inRange : limit < powerOfTwo 1024) :
    number.Within limit := by
  obtain ⟨units, isUnits⟩ := exists_units_of_nonnegative nonnegative
  obtain ⟨first, second, isFirst, isSecond, isOrdered⟩ :=
    atMost_iff.mp bounded
  rw [isUnits] at isFirst
  rw [isPlace] at isSecond
  cases isFirst
  cases isSecond
  exact within_of_position isUnits (by omega) inRange

theorem isFinite
    (within : number.Within limit) :
    number.isFinite = true := by
  obtain ⟨_, _, _, rfl, _⟩ := within
  rfl

/-- A product is bounded by twice the product of the bounds. -/
theorem multiply
    (left : number.Within limit)
    (right : other.Within factor)
    (inRange : 2 * (limit * factor) + 1 < powerOfTwo 1024) :
    (number * other).Within (2 * (limit * factor) + 1) := by
  obtain ⟨leftNegative, leftUnits, leftHolds, rfl, leftBound⟩ := left
  obtain ⟨rightNegative, rightUnits, rightHolds, rfl, rightBound⟩ := right
  have positive : 0 < unitsPerOne := powerOfTwo_pos 1074
  have quotient :
      leftUnits * rightUnits / unitsPerOne ≤ limit * factor * unitsPerOne := by
    apply Nat.div_le_of_le_mul
    calc leftUnits * rightUnits
        ≤ limit * unitsPerOne * (factor * unitsPerOne) :=
          Nat.mul_le_mul leftBound rightBound
      _ = unitsPerOne * (limit * factor * unitsPerOne) := by ring
  change (Binary64.multiply _ _).Within _
  rw [Binary64.multiply]
  refine within_ofUnits (leftNegative != rightNegative) ?_ inRange
  calc 2 * (leftUnits * rightUnits / unitsPerOne) + 1
      ≤ 2 * (limit * factor * unitsPerOne) + unitsPerOne := by omega
    _ = (2 * (limit * factor) + 1) * unitsPerOne := by ring

end Within

/-- A finite number can be divided by one that is four or more. -/
theorem divide_eq_ok
    {number divisor : Binary64}
    (isFinite : number.isFinite = true)
    (divisorFinite : divisor.isFinite = true)
    (isLarge : atMost 4 divisor = true) :
    ∃ quotient,
      number.divide divisor = .ok quotient ∧ quotient.isFinite = true := by
  cases number with
  | nan => cases isFinite
  | infinite negative => cases isFinite
  | finite negative units representable =>
      cases divisor with
      | nan => cases divisorFinite
      | infinite divisorNegative => cases divisorFinite
      | finite divisorNegative divisorUnits divisorHolds =>
          have positive : 0 < unitsPerOne := powerOfTwo_pos 1074
          have four :
              (4 : Binary64).position =
                some ((4 * unitsPerOne : Nat) : Int) := by
            decide +kernel
          obtain ⟨first, second, isFour, isUnits, isOrdered⟩ :=
            atMost_iff.mp isLarge
          rw [four] at isFour
          cases isFour
          have isSecond :
              signedUnits divisorNegative divisorUnits = second :=
            Option.some.inj isUnits
          have magnitude := natAbs_signedUnits divisorNegative divisorUnits
          rw [isSecond] at magnitude
          have notZero : divisorUnits ≠ 0 := by omega
          have quotient : units * unitsPerOne / divisorUnits ≤ units / 4 := by
            calc units * unitsPerOne / divisorUnits
                ≤ units * unitsPerOne / (4 * unitsPerOne) :=
                  Nat.div_le_div_left (by omega) (by omega)
              _ = units / 4 := Nat.mul_div_mul_right units 4 positive
          have inRange := representable.1
          have far : 4 ≤ unitsLimit := by
            have := powerOfTwo_le_powerOfTwo (by omega : 2 ≤ 2098)
            exact this
          have isFinite :
              (ofUnits (negative != divisorNegative) (units * unitsPerOne)
                divisorUnits).isFinite = true :=
            isFinite_ofUnits _ (by omega)
          have isQuotient :
              divide (finite negative units representable)
                  (finite divisorNegative divisorUnits divisorHolds) =
                .ok (ofUnits (negative != divisorNegative)
                  (units * unitsPerOne) divisorUnits) := by
            unfold divide
            simp [isZero, notZero]
          exact ⟨_, isQuotient, isFinite⟩

/-- A finite number has a nearest integer. -/
theorem round_eq_ok
    {number : Binary64}
    (isFinite : number.isFinite = true) :
    ∃ rounded, number.round = .ok rounded := by
  cases number with
  | finite negative units representable => exact ⟨_, rfl⟩
  | nan => cases isFinite
  | infinite negative => cases isFinite

theorem floor_eq_ok
    {number : Binary64}
    (isFinite : number.isFinite = true) :
    ∃ lower, number.floor = .ok lower := by
  cases number with
  | finite negative units representable => exact ⟨_, rfl⟩
  | nan => cases isFinite
  | infinite negative => cases isFinite

end Binary64

/-- A product with a whole amount below half of the limit can be computed. -/
theorem Amount.multiply_eq_ok
    (amount : Amount)
    {factor : Int}
    (bound : factor.natAbs < powerOfTwo 1023) :
    ∃ product, amount.multiply (.whole factor) = .ok product := by
  obtain ⟨converted, isConverted, _⟩ := Binary64.ofInteger_eq_ok bound
  cases amount with
  | flag value => exact ⟨_, rfl⟩
  | whole value => exact ⟨_, rfl⟩
  | fraction value =>
      refine ⟨.fraction (value * converted), ?_⟩
      simp only [multiply, combine, integer?, toBinary64, isConverted]
      rfl

/-! ## Sums, quotients and conversions -/

namespace Binary64
namespace Within

variable {limit factor : Nat} {number other : Binary64}

/-- A greater bound holds as well. -/
theorem mono
    {greater : Nat}
    (within : number.Within limit)
    (isGreater : limit ≤ greater) :
    number.Within greater := by
  obtain ⟨negative, units, representable, rfl, bound⟩ := within
  exact ⟨negative, units, representable, rfl,
    bound.trans (Nat.mul_le_mul_right _ isGreater)⟩

theorem zero
    (negative : Bool)
    (limit : Nat) :
    (Binary64.zero negative).Within limit :=
  ⟨negative, 0, representable_zero, rfl, Nat.zero_le _⟩

/-- A sum is bounded by twice the sum of the bounds. -/
theorem add
    (left : number.Within limit)
    (right : other.Within factor)
    (inRange : 2 * (limit + factor) + 1 < powerOfTwo 1024) :
    (number + other).Within (2 * (limit + factor) + 1) := by
  obtain ⟨leftNegative, leftUnits, leftHolds, rfl, leftBound⟩ := left
  obtain ⟨rightNegative, rightUnits, rightHolds, rfl, rightBound⟩ := right
  have positive : 0 < unitsPerOne := powerOfTwo_pos 1074
  have magnitude :
      (signedUnits leftNegative leftUnits +
        signedUnits rightNegative rightUnits).natAbs ≤
          (limit + factor) * unitsPerOne := by
    have leftPart := natAbs_signedUnits leftNegative leftUnits
    have rightPart := natAbs_signedUnits rightNegative rightUnits
    rw [Nat.add_mul]
    omega
  change (Binary64.add _ _).Within _
  rw [Binary64.add]
  split
  · exact zero _ _
  · refine within_ofUnits _ ?_ inRange
    rw [Nat.div_one]
    calc 2 * (signedUnits leftNegative leftUnits +
            signedUnits rightNegative rightUnits).natAbs + 1
        ≤ 2 * ((limit + factor) * unitsPerOne) + unitsPerOne := by omega
      _ = (2 * (limit + factor) + 1) * unitsPerOne := by ring

/-- The nearest integer is at most one further away from zero. -/
theorem round
    (within : number.Within limit) :
    ∃ rounded, number.round = .ok rounded ∧ rounded.natAbs ≤ limit + 1 := by
  obtain ⟨negative, units, representable, rfl, bound⟩ := within
  refine ⟨_, rfl, ?_⟩
  rw [natAbs_signedUnits]
  calc roundHalfEven units unitsPerOne
      ≤ units / unitsPerOne + 1 := roundHalfEven_le_succ _ _
    _ ≤ limit + 1 :=
        Nat.succ_le_succ <| Nat.div_le_of_le_mul <| by rwa [Nat.mul_comm]

/-- A quotient by a number that is not smaller than a unit fraction is bounded
by twice the number of fractions. -/
theorem divide
    {divisor quotient : Binary64}
    {place : Int}
    (within : number.Within limit)
    (divisorFinite : divisor.isFinite = true)
    (isPlace : divisor.position = some place)
    (isLarge : unitsPerOne ≤ factor * place.natAbs)
    (isQuotient : number.divide divisor = .ok quotient)
    (inRange : 2 * (limit * factor) + 1 < powerOfTwo 1024) :
    quotient.Within (2 * (limit * factor) + 1) := by
  obtain ⟨negative, units, representable, rfl, bound⟩ := within
  cases divisor with
  | nan => cases divisorFinite
  | infinite divisorNegative => cases divisorFinite
  | finite divisorNegative divisorUnits divisorHolds =>
      have positive : 0 < unitsPerOne := powerOfTwo_pos 1074
      have isUnits : signedUnits divisorNegative divisorUnits = place :=
        Option.some.inj isPlace
      rw [← isUnits, natAbs_signedUnits] at isLarge
      have notZero : divisorUnits ≠ 0 := by
        rintro rfl
        omega
      simp only [Binary64.divide, isZero, notZero, decide_false,
        Bool.false_eq_true, ↓reduceIte, Except.ok.injEq] at isQuotient
      subst isQuotient
      refine within_ofUnits _ ?_ inRange
      have divided :
          units * unitsPerOne / divisorUnits ≤ limit * factor * unitsPerOne := by
        apply Nat.div_le_of_le_mul
        calc units * unitsPerOne
            ≤ limit * unitsPerOne * (factor * divisorUnits) :=
              Nat.mul_le_mul bound isLarge
          _ = divisorUnits * (limit * factor * unitsPerOne) := by ring
      calc 2 * (units * unitsPerOne / divisorUnits) + 1
          ≤ 2 * (limit * factor * unitsPerOne) + unitsPerOne := by omega
        _ = (2 * (limit * factor) + 1) * unitsPerOne := by ring

end Within

/-- The number nearest to an integer is bounded by twice the integer. -/
theorem within_of_ofInteger
    {number : Int}
    {result : Binary64}
    {limit : Nat}
    (isResult : ofInteger number = .ok result)
    (bounded : number.natAbs ≤ limit)
    (inRange : 2 * limit + 1 < powerOfTwo 1024) :
    result.Within (2 * limit + 1) := by
  have positive : 0 < unitsPerOne := powerOfTwo_pos 1074
  have within :
      (ofUnits (decide (number < 0)) (number.natAbs * unitsPerOne) 1).Within
        (2 * limit + 1) := by
    refine within_ofUnits _ ?_ inRange
    rw [Nat.div_one]
    calc 2 * (number.natAbs * unitsPerOne) + 1
        ≤ 2 * (limit * unitsPerOne) + unitsPerOne := by
          have := Nat.mul_le_mul_right unitsPerOne bounded
          omega
      _ = (2 * limit + 1) * unitsPerOne := by ring
  unfold ofInteger at isResult
  rw [unlessInfinite_of_isFinite within.isFinite] at isResult
  rw [← Except.ok.inj isResult]
  exact within

theorem log2_lt
    {number exponent : Nat}
    (notZero : number ≠ 0)
    (below : number < powerOfTwo exponent) :
    number.log2 < exponent :=
  (Nat.log2_lt notZero).mpr below

/-- The number nearest to a decimal without a large exponent is bounded by
twice its digits. -/
theorem within_ofDecimal
    (negative : Bool)
    {mantissa limit : Nat}
    {exponent : Int}
    (bounded : mantissa ≤ limit)
    (noLarge : exponent ≤ 0)
    (inRange : 2 * limit + 1 < powerOfTwo 1024) :
    (ofDecimal negative mantissa exponent).Within (2 * limit + 1) := by
  have positive : 0 < unitsPerOne := powerOfTwo_pos 1074
  have digits : mantissa * unitsPerOne ≤ limit * unitsPerOne :=
    Nat.mul_le_mul_right _ bounded
  have wanted :
      2 * (limit * unitsPerOne) + unitsPerOne =
        (2 * limit + 1) * unitsPerOne := by
    ring
  unfold ofDecimal
  split
  · exact .zero _ _
  · rename_i notZero
    have shortEnough : mantissa.log2 < 1024 :=
      log2_lt notZero (by omega)
    dsimp only
    rw [if_neg (by omega)]
    split
    · exact .zero _ _
    · cases exponent with
      | ofNat power =>
          have isZero : power = 0 := by
            simpa using noLarge
          subst isZero
          refine within_ofUnits _ ?_ inRange
          have one : powerOfTen 0 = 1 := rfl
          rw [one, Nat.mul_one, Nat.div_one]
          omega
      | negSucc power =>
          refine within_ofUnits _ ?_ inRange
          have smaller :
              mantissa * unitsPerOne / powerOfTen (power + 1) ≤
                mantissa * unitsPerOne :=
            Nat.div_le_self _ _
          omega

/-- Only a zero cannot be divided by. -/
theorem divide_isOk_iff
    (number divisor : Binary64) :
    (∃ quotient, number.divide divisor = .ok quotient) ↔
      divisor.isZero = false := by
  unfold divide
  cases isZero : divisor.isZero <;> simp

end Binary64

/-- What is at least one is not rounded to zero. -/
theorem roundSignificant_pos
    {numerator denominator : Nat}
    (positive : 0 < denominator)
    (isLarge : denominator ≤ numerator) :
    0 < roundSignificant numerator denominator := by
  have quotient : 0 < numerator / denominator :=
    Nat.div_pos isLarge positive
  have kept :
      0 < numerator / (denominator *
        powerOfTwo (excessBits (numerator / denominator))) := by
    rw [← Nat.div_div_eq_div_mul]
    refine Nat.div_pos ?_ (powerOfTwo_pos _)
    by_cases drops : excessBits (numerator / denominator) = 0
    · rw [drops]
      exact quotient
    · exact powerOfTwo_excessBits_le drops
  exact Nat.mul_pos (Nat.lt_of_lt_of_le kept (le_roundHalfEven _ _))
    (powerOfTwo_pos _)

/-- The number nearest to an integer is zero only for zero. -/
theorem Binary64.isZero_of_ofInteger
    {number : Int}
    {result : Binary64}
    (isResult : ofInteger number = .ok result)
    (notZero : number ≠ 0) :
    result.isZero = false := by
  have positive : 0 < unitsPerOne := powerOfTwo_pos 1074
  have large : 1 ≤ number.natAbs * unitsPerOne :=
    Nat.mul_pos (Int.natAbs_pos.mpr notZero) positive
  have rounded := roundSignificant_pos Nat.one_pos large
  unfold ofInteger ofUnits at isResult
  split at isResult
  · cases isResult
    simp only [isZero, decide_eq_false_iff_not]
    omega
  · cases isResult

/-- The quotient of integers below the limit can be computed. -/
theorem Binary64.divideIntegers_eq_ok
    {dividend divisor : Int}
    (notZero : divisor ≠ 0)
    (bound : dividend.natAbs < powerOfTwo 1023) :
    ∃ quotient, divideIntegers dividend divisor = .ok quotient := by
  unfold divideIntegers
  rw [if_neg notZero]
  dsimp only
  split
  · exact ⟨_, rfl⟩
  · have positive : 0 < unitsPerOne := powerOfTwo_pos 1074
    have twice : powerOfTwo 1024 = 2 * powerOfTwo 1023 := by
      have exponent : 1024 = 1 + 1023 := rfl
      have two : powerOfTwo 1 = 2 := rfl
      rw [exponent, powerOfTwo_add, two]
    have small :
        dividend.natAbs * unitsPerOne / divisor.natAbs ≤
          dividend.natAbs * unitsPerOne :=
      Nat.div_le_self _ _
    have units : 2 * (dividend.natAbs * unitsPerOne) + 1 < unitsLimit :=
      calc
        2 * (dividend.natAbs * unitsPerOne) + 1
          ≤ (2 * dividend.natAbs + 1) * unitsPerOne := by
            rw [Nat.add_mul, Nat.one_mul, Nat.mul_assoc]
            exact Nat.add_le_add_left positive _
        _ < unitsLimit := mul_unitsPerOne_lt (by omega)
    exact ⟨_, unlessInfinite_of_isFinite (isFinite_ofUnits _ (by omega))⟩

/-! ## Distances of rounded numbers -/

theorem powerOfTwo_eq_mul
    (extra : Nat)
    {exponent low factor : Nat}
    (isSum : exponent = extra + low)
    (isFactor : powerOfTwo extra = factor) :
    powerOfTwo exponent = factor * powerOfTwo low := by
  rw [isSum, powerOfTwo_add, isFactor]

theorem mul_unitsPerOne_lt_of_lt
    (bits : Nat)
    {count exponent : Nat}
    (small : count < powerOfTwo bits)
    (few : bits + 1074 ≤ exponent) :
    count * unitsPerOne < powerOfTwo exponent := by
  have step := Nat.mul_lt_mul_of_pos_right small (powerOfTwo_pos 1074)
  rw [← powerOfTwo_add] at step
  exact Nat.lt_of_lt_of_le step (powerOfTwo_le_powerOfTwo few)

/-- A rounded quotient is at most half of the divisor away. -/
theorem roundHalfEven_near
    (numerator : Nat)
    {denominator : Nat}
    (positive : 0 < denominator) :
    2 * ((roundHalfEven numerator denominator * denominator : Int) -
      numerator).natAbs ≤ denominator := by
  have parts := Nat.div_add_mod numerator denominator
  have small := Nat.mod_lt numerator positive
  rw [Nat.mul_comm] at parts
  unfold roundHalfEven
  dsimp only
  generalize numerator / denominator = quotient at parts ⊢
  generalize numerator % denominator = left at parts small ⊢
  have next :
      (quotient + 1) * denominator = quotient * denominator + denominator :=
    Nat.succ_mul _ _
  generalize isWhole : quotient * denominator = whole at parts next
  split
  · push_cast [← isWhole] at *
    omega
  · split
    · rw [← Nat.cast_mul, next]
      omega
    · rcases Nat.mod_two_eq_zero_or_one quotient with isEven | isOdd
      · rw [isEven, Nat.add_zero, ← Nat.cast_mul, isWhole]
        omega
      · rw [isOdd, ← Nat.cast_mul, next]
        omega

/-- What is nearer than half of the divisor is the rounded quotient. -/
theorem roundHalfEven_eq_of_near
    {numerator denominator quotient : Nat}
    (near :
      2 * ((numerator : Int) - (quotient * denominator : Nat)).natAbs <
        denominator) :
    roundHalfEven numerator denominator = quotient := by
  have rounded := roundHalfEven_near numerator (Nat.zero_lt_of_lt near)
  have apart :
      ((roundHalfEven numerator denominator : Int) - quotient).natAbs *
          denominator < 1 * denominator := by
    have product :
        ((roundHalfEven numerator denominator : Int) - quotient).natAbs *
            denominator =
          ((roundHalfEven numerator denominator * denominator : Int) -
            (quotient * denominator : Nat)).natAbs := by
      rw [Nat.cast_mul, ← Int.sub_mul, Int.natAbs_mul, Int.natAbs_natCast]
    omega
  have same := Nat.lt_of_mul_lt_mul_right apart
  omega

theorem excessBits_le
    {whole shift : Nat}
    (below : whole < powerOfTwo (53 + shift)) :
    excessBits whole ≤ shift := by
  unfold excessBits
  by_cases isZero : whole = 0
  · subst isZero
    simp
  · have := Binary64.log2_lt isZero below
    omega

theorem roundSignificant_near
    {numerator denominator shift : Nat}
    (positive : 0 < denominator)
    (below : numerator / denominator < powerOfTwo (53 + shift)) :
    ((roundSignificant numerator denominator * denominator : Int) -
      numerator).natAbs ≤ denominator * powerOfTwo shift := by
  have few := powerOfTwo_le_powerOfTwo (excessBits_le below)
  have some := powerOfTwo_pos (excessBits (numerator / denominator))
  unfold roundSignificant
  dsimp only
  generalize powerOfTwo (excessBits (numerator / denominator)) = step
    at few some ⊢
  have rounded :=
    roundHalfEven_near numerator (Nat.mul_pos positive some)
  have regrouped :
      ((roundHalfEven numerator (denominator * step) * step : Nat) : Int) *
          denominator =
        roundHalfEven numerator (denominator * step) *
          (denominator * step : Nat) := by
    push_cast
    ring
  have wide := Nat.mul_le_mul_left denominator few
  rw [regrouped]
  omega

namespace Binary64

/-- A rounded quotient of units is close to it. -/
theorem ofUnits_near
    {numerator denominator shift : Nat}
    (positive : 0 < denominator)
    (below : numerator / denominator < powerOfTwo (53 + shift))
    (inRange : shift ≤ 2000) :
    ∃ units representable,
      ofUnits false numerator denominator = finite false units representable ∧
      ((units * denominator : Int) - numerator).natAbs ≤
        denominator * powerOfTwo shift := by
  have bounded := roundSignificant_le numerator denominator
  have twice : powerOfTwo (54 + shift) = 2 * powerOfTwo (53 + shift) := by
    have exponent : 54 + shift = 1 + (53 + shift) := by omega
    rw [exponent, powerOfTwo_add]
    rfl
  have limit : powerOfTwo (54 + shift) ≤ unitsLimit :=
    powerOfTwo_le_powerOfTwo (by omega)
  have small : roundSignificant numerator denominator < unitsLimit := by
    omega
  refine ⟨_, representable_roundSignificant small, ?_,
    roundSignificant_near positive below⟩
  simp [ofUnits, small]

/-- A rounded sum of numbers that are not negative is close to the sum. -/
theorem add_near
    {left right shift : Nat}
    (leftHolds : Representable left)
    (rightHolds : Representable right)
    (below : left + right < powerOfTwo (53 + shift))
    (inRange : shift ≤ 2000) :
    ∃ units representable,
      finite false left leftHolds + finite false right rightHolds =
        finite false units representable ∧
      ((units : Int) - (left + right)).natAbs ≤ powerOfTwo shift := by
  change ∃ units representable, Binary64.add _ _ = _ ∧ _
  rw [Binary64.add]
  by_cases isZero : left + right = 0
  · refine ⟨0, representable_zero, ?_, by omega⟩
    have sum : signedUnits false left + signedUnits false right = 0 := by
      simp only [signedUnits, Bool.false_eq_true, ↓reduceIte]
      omega
    rw [if_pos sum]
    rfl
  · have sum :
        signedUnits false left + signedUnits false right =
          ((left + right : Nat) : Int) := by
      simp [signedUnits]
    rw [sum, if_neg (by omega), decide_eq_false (by omega), Int.natAbs_natCast]
    rw [← Nat.div_one (left + right)] at below
    simpa using ofUnits_near Nat.one_pos below inRange

/-- A rounded product of numbers that are not negative is close to the
product. -/
theorem multiply_near
    {left right shift : Nat}
    (leftHolds : Representable left)
    (rightHolds : Representable right)
    (below : left * right / unitsPerOne < powerOfTwo (53 + shift))
    (inRange : shift ≤ 2000) :
    ∃ units representable,
      finite false left leftHolds * finite false right rightHolds =
        finite false units representable ∧
      ((units * unitsPerOne : Int) - (left * right : Nat)).natAbs ≤
        unitsPerOne * powerOfTwo shift := by
  change ∃ units representable, Binary64.multiply _ _ = _ ∧ _
  rw [Binary64.multiply, Bool.bne_false]
  exact ofUnits_near (powerOfTwo_pos 1074) below inRange

/-- The number nearest to a short decimal is close to it. -/
theorem ofDecimal_near
    (mantissa power : Nat)
    {shift : Nat}
    (few : power ≤ 300)
    (short : mantissa < powerOfTwo 1000)
    (below :
      mantissa * unitsPerOne / powerOfTen power < powerOfTwo (53 + shift))
    (inRange : shift ≤ 2000) :
    ∃ units representable,
      ofDecimal false mantissa (-(power : Int)) =
        finite false units representable ∧
      ((units * powerOfTen power : Int) -
        (mantissa * unitsPerOne : Nat)).natAbs ≤
        powerOfTen power * powerOfTwo shift := by
  have positive : 0 < powerOfTen power := Nat.pow_pos (by decide)
  unfold ofDecimal
  by_cases isZero : mantissa = 0
  · exact ⟨0, representable_zero, if_pos isZero, by simp [isZero]⟩
  · have bits := log2_lt isZero short
    have near := ofUnits_near positive below inRange
    dsimp only
    rw [if_neg isZero, if_neg (by omega), if_neg (by omega)]
    cases power with
    | zero =>
        have isQuotient :
            ofUnits false (mantissa * powerOfTen 0 * unitsPerOne) 1 =
              ofUnits false (mantissa * unitsPerOne) (powerOfTen 0) := by
          have one : powerOfTen 0 = 1 := rfl
          rw [one, Nat.mul_one]
        rw [← isQuotient] at near
        exact near
    | succ power => exact near

end Binary64

end Montage
