import Mathlib.Tactic.FieldSimp
import Mathlib.Tactic.NormNum
import Montage.Proofs.Effect.Ratio
import Montage.Proofs.Number.Printed
import Montage.Proofs.Number.Relative

namespace Montage

/-!
# Whole numbers that are read and printed

An integer has a nearest number unless it is too great for one. A whole number
above zero with at most six digits is read as a `Binary64` without a rounding,
and is printed with all of its digits.
-/

/-! ## Great integers -/

/-- What is more than a half below a multiple is not rounded to it. -/
theorem roundHalfEven_lt
    {numerator denominator limit : Nat}
    (positive : 0 < denominator)
    (below : 2 * numerator + denominator < 2 * (limit * denominator)) :
    roundHalfEven numerator denominator < limit := by
  have near := roundHalfEven_near numerator positive
  have product :
      roundHalfEven numerator denominator * denominator <
        limit * denominator := by
    zify
    generalize
      (roundHalfEven numerator denominator * denominator : Int) = rounded
      at near ⊢
    zify at below
    omega
  exact Nat.lt_of_mul_lt_mul_right product

/-- What is more than half a step below a power of two is not rounded to it. -/
theorem roundSignificant_lt
    {whole shift : Nat}
    (below : 2 * whole + powerOfTwo shift < 2 * powerOfTwo (53 + shift)) :
    roundSignificant whole 1 < powerOfTwo (53 + shift) := by
  have few : excessBits (whole / 1) ≤ shift := by
    refine excessBits_le ?_
    rw [Nat.div_one]
    omega
  unfold roundSignificant
  dsimp only
  rcases Nat.eq_or_lt_of_le few with isMost | isLess
  · rw [powerOfTwo_add] at below ⊢
    rw [isMost, Nat.one_mul]
    exact Nat.mul_lt_mul_of_pos_right
      (roundHalfEven_lt (powerOfTwo_pos shift) below) (powerOfTwo_pos shift)
  · calc _ ≤ powerOfTwo 53 * powerOfTwo (excessBits (whole / 1)) :=
          Nat.mul_le_mul_right _ (roundHalfEven_le_powerOfTwo whole 1)
      _ < powerOfTwo 53 * (2 * powerOfTwo (excessBits (whole / 1))) := by
          have some := powerOfTwo_pos (excessBits (whole / 1))
          exact Nat.mul_lt_mul_of_pos_left (by omega) (powerOfTwo_pos 53)
      _ = powerOfTwo 53 * powerOfTwo (1 + excessBits (whole / 1)) := by
          rw [powerOfTwo_add 1]
          rfl
      _ ≤ powerOfTwo 53 * powerOfTwo shift :=
          Nat.mul_le_mul_left _ (powerOfTwo_le_powerOfTwo (by omega))
      _ = powerOfTwo (53 + shift) := (powerOfTwo_add 53 shift).symm

/-- An integer that is nearer to the greatest number than to the power of two
above it has a nearest number. -/
theorem Binary64.ofInteger_isOk
    {number : Int}
    (inRange : number.natAbs + powerOfTwo 970 < powerOfTwo 1024) :
    ∃ nearest, ofInteger number = .ok nearest := by
  have half : powerOfTwo 2044 = powerOfTwo 970 * unitsPerOne := by
    unfold unitsPerOne
    exact powerOfTwo_eq_mul 970 rfl rfl
  have limit : powerOfTwo (53 + 2045) = powerOfTwo 1024 * unitsPerOne := by
    unfold unitsPerOne
    exact powerOfTwo_eq_mul 1024 rfl rfl
  have step : powerOfTwo 2045 = 2 * powerOfTwo 2044 :=
    powerOfTwo_eq_mul 1 rfl rfl
  have units :
      number.natAbs * unitsPerOne + powerOfTwo 2044 <
        powerOfTwo (53 + 2045) := by
    rw [half, limit, ← Nat.add_mul]
    exact Nat.mul_lt_mul_of_pos_right inRange unitsPerOne_pos
  have rounded :
      roundSignificant (number.natAbs * unitsPerOne) 1 <
        powerOfTwo (53 + 2045) :=
    roundSignificant_lt (by omega)
  have isLimit : powerOfTwo (53 + 2045) = unitsLimit := by
    rw [limit, unitsLimit_eq]
  rw [isLimit] at rounded
  refine ⟨_, unlessInfinite_of_isFinite ?_⟩
  rw [ofUnits, dif_pos rounded]
  rfl

/-! ## Short integers -/

/-- An ASCII digit is kept when a numeral is read. -/
theorem plain_of_isAsciiDigit
    {character : Char}
    (isDigit : isAsciiDigit character = true) :
    isSpace character = false ∧
      asciiDigit character = character ∧
      IsDigitLike character ∧
      character ≠ '_' := by
  have below : character.toNat < 128 := by
    simp only [isAsciiDigit, Bool.and_eq_true, decide_eq_true_eq,
      Char.le_def, UInt32.le_iff_toNat_le] at isDigit
    have high : character.toNat ≤ 57 := isDigit.2
    omega
  have each :
      ∀ code < 128,
        isAsciiDigit (Char.ofNat code) = true →
        isSpace (Char.ofNat code) = false ∧
          asciiDigit (Char.ofNat code) = Char.ofNat code ∧
          Char.ofNat code ≠ '_' := by
    decide +kernel
  obtain ⟨noSpace, same, noUnderscore⟩ :=
    forall_of_ascii
      (fun character =>
        isAsciiDigit character = true →
        isSpace character = false ∧
          asciiDigit character = character ∧
          character ≠ '_')
      each below isDigit
  exact ⟨noSpace, same, .inl isDigit, noUnderscore⟩

/-- Digits that write a number are ASCII digits. -/
theorem map_asciiDigit_decimalDigits (number : Nat) :
    (decimalDigits number).map asciiDigit = decimalDigits number := by
  conv_rhs => rw [← List.map_id (decimalDigits number)]
  exact List.map_congr_left fun character member =>
    (plain_of_isAsciiDigit
      (areDigits_decimalDigits number character member)).2.1

/-- Digits are read as the number that they write. -/
theorem floatOfText_decimalDigits (number : Nat) :
    floatOfText (String.ofList (decimalDigits number)) =
      .ok (Binary64.ofDecimal false number 0) := by
  have areDigits := areDigits_decimalDigits number
  have numeral :
      plainNumeral (String.ofList (decimalDigits number)).toList =
        decimalDigits number := by
    rw [plainNumeral, String.toList_ofList, trimWhere_of_forall
      fun character member =>
        (plain_of_isAsciiDigit (areDigits character member)).1,
      map_asciiDigit_decimalDigits]
  have free : '_' ∉ decimalDigits number := fun member =>
    (plain_of_isAsciiDigit (areDigits '_' member)).2.2.2 rfl
  have isRead :
      readFloat? (decimalDigits number) =
        readDecimal? false (decimalDigits number) := by
    obtain ⟨first, rest, shape⟩ :=
      List.exists_cons_of_ne_nil (decimalDigits_ne_nil number)
    rw [shape] at free areDigits ⊢
    exact readFloat?_of_isDigitLike
      (plain_of_isAsciiDigit (areDigits first List.mem_cons_self)).2.2.1 free
  have taken : (decimalDigits number).takeWhile isAsciiDigit =
      decimalDigits number :=
    List.takeWhile_eq_self_iff.mpr areDigits
  have dropped : (decimalDigits number).dropWhile isAsciiDigit = [] :=
    List.dropWhile_eq_nil_iff.mpr areDigits
  rw [floatOfText, numeral, isRead]
  simp [readDecimal?, taken, dropped, decimalDigits_ne_nil, readExponent?,
    decimalValue_decimalDigits]

/-- A natural number of at most six digits is printed exactly. -/
theorem sixDigitDecimal_natural
    {number : Nat}
    (positive : 0 < number)
    (short : number < 1000000) :
    ((sixDigitDecimal (number * unitsPerOne)).value : ℚ) = number := by
  have one := unitsPerOne_pos
  have digits : (decimalDigits number).length ≤ 6 :=
    @length_decimalDigits_le 5 number (by omega)
  have filled := List.length_pos_of_ne_nil (decimalDigits_ne_nil number)
  have exponent :
      leadingExponent (number * unitsPerOne) =
        (decimalDigits number).length - 1 := by
    rw [leadingExponent,
      if_pos (Nat.le_mul_of_pos_left unitsPerOne positive),
      Nat.mul_div_cancel _ one]
  obtain ⟨places, isPlaces⟩ :
      ∃ places : Nat, (decimalDigits number).length + places = 6 :=
    ⟨6 - (decimalDigits number).length, by omega⟩
  have last :
      leadingExponent (number * unitsPerOne) - 5 = -(places : Int) := by
    rw [exponent]
    omega
  have scaled :
      scaledUnits (number * unitsPerOne) (-(places : Int)) =
        (number * unitsPerOne * powerOfTen places, unitsPerOne) := by
    cases places with
    | zero =>
        rw [Nat.cast_zero, neg_zero]
        simp only [scaledUnits, powerOfTen]
        rw [Nat.pow_eq, Nat.pow_zero, Nat.mul_one, Nat.mul_one]
    | succ places => rfl
  have mantissa :
      roundHalfEven (number * unitsPerOne * powerOfTen places) unitsPerOne =
        number * powerOfTen places := by
    rw [Nat.mul_right_comm, roundHalfEven_of_dvd one (Nat.dvd_mul_left _ _),
      Nat.mul_div_cancel _ one]
  rw [sixDigitDecimal, last, scaled]
  dsimp only
  rw [mantissa, Decimal.value, powerOfTen, Nat.pow_eq, zpow_neg, zpow_natCast]
  push_cast
  field_simp

end Montage
