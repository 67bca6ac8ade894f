import Montage.Proofs.Number.Bounds

namespace Montage

/-!
# Order of rounded numbers

Rounding keeps the weak order of numbers. So do the nearest integer and the
product with a factor that is not negative. Short integers are not rounded.
-/

theorem unitsPerOne_pos : 0 < unitsPerOne :=
  powerOfTwo_pos 1074

theorem roundHalfEven_mono
    {first second : Nat}
    (ordered : first ≤ second)
    (denominator : Nat) :
    roundHalfEven first denominator ≤ roundHalfEven second denominator := by
  have quotients : first / denominator ≤ second / denominator :=
    Nat.div_le_div_right ordered
  -- With one quotient the rests decide; otherwise a whole step lies between.
  rcases Nat.eq_or_lt_of_le quotients with same | isLess
  · have rests : first % denominator ≤ second % denominator := by
      have firstParts := Nat.div_add_mod first denominator
      have secondParts := Nat.div_add_mod second denominator
      rw [same] at firstParts
      generalize denominator * (second / denominator) = whole at *
      omega
    unfold roundHalfEven
    dsimp only
    rw [same]
    split_ifs <;> omega
  · calc roundHalfEven first denominator
        ≤ first / denominator + 1 := roundHalfEven_le_succ _ _
      _ ≤ second / denominator := isLess
      _ ≤ roundHalfEven second denominator := le_roundHalfEven _ _

theorem excessBits_mono
    {first second : Nat}
    (ordered : first ≤ second) :
    excessBits first ≤ excessBits second := by
  have bits : first.log2 ≤ second.log2 := by
    by_cases isZero : first = 0
    · rw [isZero]
      exact Nat.zero_le _
    · exact (Nat.le_log2 (by omega)).mpr
        ((Nat.log2_self_le isZero).trans ordered)
  unfold excessBits
  omega

/-- Where bits are dropped, a significand has 53 binary digits. -/
theorem powerOfTwo_le_roundHalfEven
    (numerator denominator : Nat)
    (drops : excessBits (numerator / denominator) ≠ 0) :
    powerOfTwo 52 ≤
      roundHalfEven numerator
        (denominator * powerOfTwo (excessBits (numerator / denominator))) := by
  refine Nat.le_trans ?_ (le_roundHalfEven _ _)
  rw [← Nat.div_div_eq_div_mul, Nat.le_div_iff_mul_le (powerOfTwo_pos _),
    ← powerOfTwo_add]
  generalize numerator / denominator = whole at drops ⊢
  have positive : whole ≠ 0 := by
    rintro rfl
    exact drops rfl
  calc powerOfTwo (52 + excessBits whole)
      ≤ powerOfTwo whole.log2 :=
        powerOfTwo_le_powerOfTwo (by unfold excessBits at drops ⊢; omega)
    _ ≤ whole := Nat.log2_self_le positive

theorem roundSignificant_mono
    {first second : Nat}
    (ordered : first ≤ second)
    (denominator : Nat) :
    roundSignificant first denominator ≤
      roundSignificant second denominator := by
  have shifts :=
    excessBits_mono (Nat.div_le_div_right (c := denominator) ordered)
  have firstAbove := roundHalfEven_le_powerOfTwo first denominator
  have secondBelow := powerOfTwo_le_roundHalfEven second denominator
  unfold roundSignificant
  dsimp only
  generalize excessBits (first / denominator) = shift at *
  generalize excessBits (second / denominator) = other at *
  rcases Nat.eq_or_lt_of_le shifts with same | isLess
  · rw [same]
    exact Nat.mul_le_mul_right _ (roundHalfEven_mono ordered _)
  · -- A power of two stands between numbers that are rounded to different
    -- steps.
    calc roundHalfEven first (denominator * powerOfTwo shift) *
          powerOfTwo shift
        ≤ powerOfTwo 53 * powerOfTwo shift := Nat.mul_le_mul_right _ firstAbove
      _ = powerOfTwo (53 + shift) := (powerOfTwo_add 53 shift).symm
      _ ≤ powerOfTwo (52 + other) := powerOfTwo_le_powerOfTwo (by omega)
      _ = powerOfTwo 52 * powerOfTwo other := powerOfTwo_add 52 other
      _ ≤ roundHalfEven second (denominator * powerOfTwo other) *
            powerOfTwo other :=
          Nat.mul_le_mul_right _ (secondBelow (by omega))

theorem roundSignificant_zero (denominator : Nat) :
    roundSignificant 0 denominator = 0 := by
  have zero : roundHalfEven 0 (denominator * powerOfTwo 0) = 0 := by
    unfold roundHalfEven
    simp
  unfold roundSignificant
  rw [Nat.zero_div, show excessBits 0 = 0 from rfl]
  dsimp only
  rw [zero, Nat.zero_mul]

namespace Binary64

/-- What keeps the order of magnitudes, and zero, keeps that of places. -/
theorem signedUnits_mono
    (change : Nat → Nat)
    (mono : ∀ first second, first ≤ second → change first ≤ change second)
    (zero : change 0 = 0)
    {firstNegative secondNegative : Bool}
    {first second : Nat}
    (ordered :
      signedUnits firstNegative first ≤ signedUnits secondNegative second) :
    signedUnits firstNegative (change first) ≤
      signedUnits secondNegative (change second) := by
  cases firstNegative <;> cases secondNegative <;>
    simp only [signedUnits, Bool.false_eq_true, ↓reduceIte] at ordered ⊢
  · exact Int.ofNat_le.mpr (mono first second (Int.ofNat_le.mp ordered))
  · have bothZero : first = 0 ∧ second = 0 := by omega
    rw [bothZero.1, bothZero.2, zero]
    exact Int.le_refl 0
  · omega
  · have := mono second first (by omega)
    omega

theorem position_ofUnits
    (negative : Bool)
    (numerator denominator : Nat) :
    (ofUnits negative numerator denominator).position =
      some (signedUnits negative
        (min (roundSignificant numerator denominator) unitsLimit)) := by
  unfold ofUnits
  split
  · rename_i inRange
    rw [Nat.min_eq_left (Nat.le_of_lt inRange)]
    rfl
  · rename_i beyond
    rw [Nat.min_eq_right (Nat.le_of_not_lt beyond)]
    rfl

/-- A finite number without a minus sign. -/
def IsUnsigned (number : Binary64) : Prop :=
  ∃ units representable, number = finite false units representable

theorem isUnsigned_ofUnits
    {numerator denominator : Nat}
    (isFinite : (ofUnits false numerator denominator).isFinite = true) :
    (ofUnits false numerator denominator).IsUnsigned := by
  unfold ofUnits at isFinite ⊢
  split at isFinite
  · rename_i inRange
    rw [dif_pos inRange]
    exact ⟨_, _, rfl⟩
  · cases isFinite

theorem isUnsigned_ofDecimal
    {mantissa : Nat}
    {exponent : Int}
    (isFinite : (ofDecimal false mantissa exponent).isFinite = true) :
    (ofDecimal false mantissa exponent).IsUnsigned := by
  unfold ofDecimal at isFinite ⊢
  dsimp only at isFinite ⊢
  split at isFinite
  · rename_i isZero
    rw [if_pos isZero]
    exact ⟨0, representable_zero, rfl⟩
  rename_i notZero
  rw [if_neg notZero]
  split at isFinite
  · cases isFinite
  rename_i notLarge
  rw [if_neg notLarge]
  split at isFinite
  · rename_i isTiny
    rw [if_pos isTiny]
    exact ⟨0, representable_zero, rfl⟩
  rename_i notTiny
  rw [if_neg notTiny]
  split at isFinite
  · exact isUnsigned_ofUnits isFinite
  · exact isUnsigned_ofUnits isFinite

/-- A finite sum of numbers without a minus sign has none. -/
theorem IsUnsigned.add
    {left right : Binary64}
    (leftUnsigned : left.IsUnsigned)
    (rightUnsigned : right.IsUnsigned)
    (isFinite : (left + right).isFinite = true) :
    (left + right).IsUnsigned := by
  obtain ⟨units, representable, rfl⟩ := leftUnsigned
  obtain ⟨otherUnits, otherHolds, rfl⟩ := rightUnsigned
  change (Binary64.add _ _).isFinite = true at isFinite
  change (Binary64.add _ _).IsUnsigned
  rw [Binary64.add] at isFinite ⊢
  have notNegative :
      decide (signedUnits false units + signedUnits false otherUnits < 0) =
        false := by
    simp only [signedUnits, Bool.false_eq_true, ↓reduceIte,
      decide_eq_false_iff_not]
    omega
  rw [notNegative] at isFinite ⊢
  split at isFinite
  · rename_i isZero
    rw [if_pos isZero]
    exact ⟨0, representable_zero, rfl⟩
  · rename_i notZero
    rw [if_neg notZero]
    exact isUnsigned_ofUnits isFinite

/-- A number without a minus sign is at least zero. -/
theorem IsUnsigned.nonnegative
    {number : Binary64}
    (unsigned : number.IsUnsigned) :
    Binary64.atMost 0 number = true := by
  obtain ⟨units, representable, rfl⟩ := unsigned
  exact atMost_iff.mpr ⟨0, units, rfl, rfl, Int.natCast_nonneg units⟩

theorem less_iff
    {left right : Binary64} :
    left.less right = true ↔
      ∃ first second,
        left.position = some first ∧
        right.position = some second ∧
        first < second := by
  unfold less
  cases left.position <;> cases right.position <;> simp

/-- What is not reached is greater, if both numbers have places. -/
theorem less_of_not_atMost
    {first second : Binary64}
    {low high : Int}
    (isLow : first.position = some low)
    (isHigh : second.position = some high)
    (notReached : second.atMost first = false) :
    first.less second = true := by
  simp only [atMost, less, isLow, isHigh, decide_eq_false_iff_not,
    decide_eq_true_eq] at notReached ⊢
  omega

/-- What is less is reached. -/
theorem reached_of_less
    {first second : Binary64}
    (isLess : first.less second = true) :
    first.atMost second = true := by
  obtain ⟨low, high, isLow, isHigh, below⟩ := less_iff.mp isLess
  exact atMost_iff.mpr ⟨low, high, isLow, isHigh, below.le⟩

/-- What is less does not reach. -/
theorem not_atMost_of_less
    {first second : Binary64}
    (isLess : first.less second = true) :
    second.atMost first = false := by
  obtain ⟨low, high, isLow, isHigh, below⟩ := less_iff.mp isLess
  simp only [atMost, isLow, isHigh, decide_eq_false_iff_not]
  omega

/-- A number above zero is none of the zeros. -/
theorem isZero_eq_false_of_positive
    {number : Binary64}
    (positive : less 0 number = true) :
    number.isZero = false := by
  obtain ⟨zero, place, isZero, isPlace, above⟩ := less_iff.mp positive
  have origin : zero = 0 := (Option.some.inj isZero).symm
  cases number with
  | nan => rfl
  | infinite negative => rfl
  | finite negative units representable =>
      have isUnits := Option.some.inj isPlace
      have magnitude := natAbs_signedUnits negative units
      simp only [Binary64.isZero, decide_eq_false_iff_not]
      omega

/-- A number above zero is its place, without a minus sign. -/
theorem eq_finite_of_position
    {number : Binary64}
    {units : Nat}
    (isFinite : number.isFinite = true)
    (isPlace : number.position = some (units : Int))
    (positive : 0 < units) :
    ∃ representable, number = finite false units representable := by
  cases number with
  | nan => cases isFinite
  | infinite negative => cases isFinite
  | finite negative other representable =>
      have isUnits : signedUnits negative other = units :=
        Option.some.inj isPlace
      cases negative with
      | true =>
          simp only [signedUnits, ↓reduceIte] at isUnits
          omega
      | false =>
          simp only [signedUnits, Bool.false_eq_true, ↓reduceIte, Nat.cast_inj]
            at isUnits
          subst isUnits
          exact ⟨representable, rfl⟩

/-- A product with a factor that is not negative keeps the order. -/
theorem atMost_multiply
    {first second factor : Binary64}
    (firstFinite : first.isFinite = true)
    (secondFinite : second.isFinite = true)
    (unsigned : factor.IsUnsigned)
    (ordered : first.atMost second = true) :
    (first * factor).atMost (second * factor) = true := by
  obtain ⟨factorUnits, factorHolds, rfl⟩ := unsigned
  cases first with
  | nan => cases firstFinite
  | infinite negative => cases firstFinite
  | finite firstNegative firstUnits firstHolds =>
      cases second with
      | nan => cases secondFinite
      | infinite negative => cases secondFinite
      | finite secondNegative secondUnits secondHolds =>
          obtain ⟨_, _, isFirst, isSecond, places⟩ := atMost_iff.mp ordered
          cases isFirst
          cases isSecond
          change (multiply _ _).atMost (multiply _ _) = true
          rw [multiply, multiply, Bool.bne_false, Bool.bne_false]
          refine atMost_iff.mpr
            ⟨_, _, position_ofUnits _ _ _, position_ofUnits _ _ _, ?_⟩
          refine signedUnits_mono
            (fun units =>
              min (roundSignificant (units * factorUnits) unitsPerOne)
                unitsLimit)
            (fun lower upper isLower => ?_) ?_ places
          · have products :=
              roundSignificant_mono (Nat.mul_le_mul_right factorUnits isLower)
                unitsPerOne
            omega
          · rw [Nat.zero_mul, roundSignificant_zero, Nat.zero_min]

/-- A product is finite only if its factors are. -/
theorem isFinite_of_multiply
    {left right : Binary64}
    (isFinite : (left * right).isFinite = true) :
    left.isFinite = true ∧ right.isFinite = true := by
  change (multiply left right).isFinite = true at isFinite
  cases left with
  | nan => cases isFinite
  | infinite negative =>
      cases right with
      | nan => cases isFinite
      | infinite otherNegative => cases isFinite
      | finite otherNegative units representable =>
          rw [multiply] at isFinite
          split at isFinite <;> cases isFinite
  | finite negative units representable =>
      cases right with
      | nan => cases isFinite
      | infinite otherNegative =>
          rw [multiply] at isFinite
          split at isFinite <;> cases isFinite
      | finite otherNegative otherUnits otherHolds => exact ⟨rfl, rfl⟩

/-- Only a finite number has a nearest integer. -/
theorem isFinite_of_round
    {number : Binary64}
    {nearest : Int}
    (isNearest : number.round = .ok nearest) :
    number.isFinite = true := by
  cases number with
  | nan => cases isNearest
  | infinite negative => cases isNearest
  | finite negative units representable => rfl

/-- The nearest integers are in the order of the numbers. -/
theorem round_mono
    {first second : Binary64}
    {lower upper : Int}
    (ordered : first.atMost second = true)
    (isLower : first.round = .ok lower)
    (isUpper : second.round = .ok upper) :
    lower ≤ upper := by
  cases first with
  | nan => cases isLower
  | infinite negative => cases isLower
  | finite firstNegative firstUnits firstHolds =>
      cases second with
      | nan => cases isUpper
      | infinite negative => cases isUpper
      | finite secondNegative secondUnits secondHolds =>
          obtain ⟨_, _, isFirst, isSecond, places⟩ := atMost_iff.mp ordered
          cases isFirst
          cases isSecond
          cases isLower
          cases isUpper
          have zero : roundHalfEven 0 unitsPerOne = 0 := by
            unfold roundHalfEven
            simp
          exact signedUnits_mono (roundHalfEven · unitsPerOne)
            (fun _ _ isOrdered => roundHalfEven_mono isOrdered unitsPerOne)
            zero places

end Binary64

/-! ## Integers that are held exactly -/

theorem roundHalfEven_of_dvd
    {numerator denominator : Nat}
    (positive : 0 < denominator)
    (divides : denominator ∣ numerator) :
    roundHalfEven numerator denominator = numerator / denominator := by
  have noRest : numerator % denominator = 0 := Nat.mod_eq_zero_of_dvd divides
  unfold roundHalfEven
  simp [noRest, positive]

theorem powerOfTwo_dvd_powerOfTwo
    {left right : Nat}
    (exponents : left ≤ right) :
    powerOfTwo left ∣ powerOfTwo right :=
  Nat.pow_dvd_pow 2 exponents

/-- A whole number of at most 53 binary digits is not rounded. -/
theorem roundSignificant_of_whole
    {whole : Nat}
    (short : whole < powerOfTwo 53) :
    roundSignificant (whole * unitsPerOne) 1 = whole * unitsPerOne := by
  have drops : excessBits (whole * unitsPerOne) ≤ 1074 := by
    rcases Nat.eq_zero_or_pos whole with isZero | positive
    · rw [isZero, Nat.zero_mul]
      decide
    · have digits : whole * unitsPerOne < powerOfTwo (53 + 1074) := by
        rw [powerOfTwo_add]
        unfold unitsPerOne
        exact (Nat.mul_lt_mul_right (powerOfTwo_pos 1074)).mpr short
      have notZero : whole * unitsPerOne ≠ 0 :=
        Nat.mul_ne_zero (Nat.ne_of_gt positive)
          (Nat.ne_of_gt (powerOfTwo_pos 1074))
      have length := Binary64.log2_lt notZero digits
      unfold excessBits
      omega
  have divides :
      powerOfTwo (excessBits (whole * unitsPerOne)) ∣ whole * unitsPerOne :=
    Dvd.dvd.mul_left (powerOfTwo_dvd_powerOfTwo drops) whole
  unfold roundSignificant
  dsimp only
  rw [Nat.div_one, Nat.one_mul, roundHalfEven_of_dvd (powerOfTwo_pos _) divides,
    Nat.div_mul_cancel divides]

/-- A short natural number is held exactly. -/
theorem Binary64.ofUnits_natural
    {number : Nat}
    (short : number < powerOfTwo 53) :
    ∃ representable,
      ofUnits false (number * unitsPerOne) 1 =
        finite false (number * unitsPerOne) representable := by
  have rounded := roundSignificant_of_whole short
  have inRange :
      roundSignificant (number * unitsPerOne) 1 < unitsLimit := by
    rw [rounded]
    exact mul_unitsPerOne_lt <|
      short.trans_le (powerOfTwo_le_powerOfTwo (by decide))
  have holds := representable_roundSignificant inRange
  rw [rounded] at holds
  refine ⟨holds, ?_⟩
  unfold ofUnits
  rw [dif_pos inRange, finite.injEq]
  exact ⟨rfl, rounded⟩

theorem Binary64.ofInteger_natCast
    {number : Nat}
    (short : number < powerOfTwo 53) :
    ∃ representable,
      ofInteger number =
        .ok (finite false (number * unitsPerOne) representable) := by
  obtain ⟨holds, nearest⟩ := ofUnits_natural short
  have noSign : decide ((number : Int) < 0) = false :=
    decide_eq_false (by omega)
  refine ⟨holds, ?_⟩
  rw [ofInteger, noSign, Int.natAbs_natCast, nearest, unlessInfinite]
  intro negative same
  cases same

theorem Binary64.ofDecimal_natural
    {number : Nat}
    (short : number < powerOfTwo 53) :
    ∃ representable,
      ofDecimal false number 0 =
        finite false (number * unitsPerOne) representable := by
  rcases Nat.eq_zero_or_pos number with rfl | positive
  · rw [Nat.zero_mul]
    exact ⟨representable_zero, rfl⟩
  have bits : number.log2 < 53 := log2_lt positive.ne' short
  have notLarge : ¬ 400 < (number.log2 : Int) * 3 / 10 + 0 := by omega
  have notTiny :
      ¬ (number.log2 : Int) * 3 / 10 + 0 < -2000 - (number.log2 : Int) := by
    omega
  have power : powerOfTen 0 = 1 := rfl
  have isNearest :
      ofDecimal false number 0 =
        ofUnits false (number * powerOfTen 0 * unitsPerOne) 1 := by
    simp only [ofDecimal, positive.ne', ↓reduceIte, notLarge, notTiny]
  rw [isNearest, power, Nat.mul_one]
  exact ofUnits_natural short

/-- A short natural number stands for itself. -/
theorem Binary64.position_natural
    (number : Nat)
    (short : number < powerOfTwo 53) :
    (OfNat.ofNat number : Binary64).position =
      some ((number * unitsPerOne : Nat) : Int) := by
  obtain ⟨representable, isNumber⟩ := ofDecimal_natural short
  change (ofDecimal false number 0).position = _
  rw [isNumber]
  rfl

theorem Binary64.within_natural
    (number : Nat)
    (short : number < powerOfTwo 53) :
    (OfNat.ofNat number : Binary64).Within number :=
  within_of_whole (position_natural number short)
    (short.trans_le (powerOfTwo_le_powerOfTwo (by decide)))

theorem Binary64.position_quarter :
    (0.25 : Binary64).position = some ((powerOfTwo 1072 : Nat) : Int) := by
  decide +kernel

/-- The number nearest to a short integer is the integer itself. -/
theorem Binary64.position_of_ofInteger
    {number : Int}
    (short : number.natAbs < powerOfTwo 53)
    {result : Binary64}
    (isResult : ofInteger number = .ok result) :
    result.position = some (number * unitsPerOne) := by
  unfold ofInteger ofUnits at isResult
  split at isResult
  · cases isResult
    simp only [position, signedUnits, Option.some.injEq]
    rw [roundSignificant_of_whole short]
    generalize unitsPerOne = unit
    by_cases negative : number < 0
    · have magnitude := Int.ofNat_natAbs_of_nonpos (Int.le_of_lt negative)
      simp [negative, magnitude]
    · have magnitude := Int.natAbs_of_nonneg (Int.not_lt.mp negative)
      simp [negative, magnitude]
  · cases isResult

end Montage
