import Mathlib.Algebra.Field.Rat
import Mathlib.Tactic.FieldSimp
import Montage.Proofs.Effect.Ratio
import Montage.Proofs.Number.Printed
import Montage.Proofs.Subtitle.Lines
import Montage.Proofs.Subtitle.Written

namespace Montage

/-!
# Printed times

A document prints a time in hours, minutes, seconds and hundredths. What is
printed denotes the hundredths that were counted, and is read again as a number
that is printed in the same way. Times are printed in their order, at every
speed: so cues start, stop and follow each other as before.
-/

/-! ## Numerals of digits -/

section Numerals

variable {digits whole fraction : List Char}

theorem isNumberLine_decimalDigits (number : Nat) :
    IsNumberLine (decimalDigits number) where
  filled := by
    unfold decimalDigits
    split <;> simp
  digits _ := isAsciiDigit_of_mem_decimalDigits

theorem isNumberLine_fixedDigits (count number : Nat) :
    IsNumberLine (fixedDigits (count + 1) number) where
  filled := List.cons_ne_nil _ _
  digits _ := isAsciiDigit_of_mem_fixedDigits

theorem length_fixedDigits (count number : Nat) :
    (fixedDigits count number).length = count := by
  induction count with
  | zero => rfl
  | succ count inductionHypothesis =>
      rw [fixedDigits, List.length_cons, inductionHypothesis]

theorem foldl_fixedDigits (count total number : Nat) :
    (fixedDigits count number).foldl
        (fun total digit => 10 * total + digitOf digit) total =
      total * 10 ^ count + number % 10 ^ count := by
  have isDigit : ∀ digit < 10, digitOf (digitChar digit) = digit := by
    decide
  induction count generalizing total with
  | zero => simp [fixedDigits, Nat.mod_one]
  | succ count inductionHypothesis =>
      rw [fixedDigits, List.foldl_cons,
        isDigit _ (Nat.mod_lt _ (by decide)), inductionHypothesis,
        first_digit_add_mod]

/-- Digits after others denote the remaining places. -/
theorem decimalValue_append_fixedDigits
    (digits : List Char)
    (count : Nat)
    {number : Nat}
    (short : number < 10 ^ count) :
    decimalValue (digits ++ fixedDigits count number) =
      decimalValue digits * 10 ^ count + number := by
  rw [decimalValue, List.foldl_append, foldl_fixedDigits,
    Nat.mod_eq_of_lt short]
  rfl

theorem decimalValue_fixedDigits
    (count : Nat)
    {number : Nat}
    (short : number < 10 ^ count) :
    decimalValue (fixedDigits count number) = number := by
  have value := decimalValue_append_fixedDigits [] count short
  rwa [List.nil_append, show decimalValue [] = 0 from rfl, Nat.zero_mul,
    Nat.zero_add] at value

theorem not_mem_of_digits
    {mark : Char}
    (areDigits : ∀ character ∈ digits, isAsciiDigit character = true)
    (noDigit : isAsciiDigit mark = false) :
    mark ∉ digits := by
  intro member
  rw [areDigits mark member] at noDigit
  cases noDigit

/-- ASCII digits and points are read as they are. -/
theorem plainNumeral_of_forall
    (plain :
      ∀ character ∈ digits,
        isAsciiDigit character = true ∨ character = '.') :
    plainNumeral digits = digits := by
  -- All of these are ASCII, so each of them can be tried.
  have kept :
      ∀ character ∈ digits,
        isSpace character = false ∧ asciiDigit character = character := by
    intro character member
    rcases plain character member with isDigit | rfl
    · have isAscii : character.toNat < 128 := by
        simp only [isAsciiDigit, Bool.and_eq_true, decide_eq_true_eq]
          at isDigit
        have below : character.toNat ≤ 57 := isDigit.2
        omega
      exact forall_of_ascii
        (fun character =>
          isAsciiDigit character = true →
            isSpace character = false ∧ asciiDigit character = character)
        (by decide +kernel) isAscii isDigit
    · decide
  rw [plainNumeral, trimWhere_of_forall fun character member =>
    (kept character member).1]
  exact (List.map_congr_left fun character member =>
    (kept character member).2).trans (List.map_id' _)

theorem length_leadingDigits_le (text : List Char) :
    (leadingDigits text).length ≤ text.length := by
  unfold leadingDigits
  dsimp only
  split
  · exact (List.length_filter_le _ _).trans
      (List.takeWhile_sublist _).length_le
  · exact Nat.zero_le _

/-- A run of digits that is not too long is read as the integer it denotes. -/
theorem integerOfText_digits
    (isNumber : IsNumberLine digits)
    (short : digits.length ≤ digitLimit) :
    integerOfText (String.ofList digits) = .ok (decimalValue digits : Int) := by
  have plain : plainNumeral digits = digits :=
    plainNumeral_of_forall fun character member =>
      Or.inl (isNumber.digits character member)
  have noUnderscore : '_' ∉ digits :=
    not_mem_of_digits isNumber.digits (by decide)
  have unsigned : takeSign digits = (false, digits) := by
    obtain ⟨first, rest, rfl⟩ := List.exists_cons_of_ne_nil isNumber.filled
    exact takeSign_of_isDigitLike
      (.inl (isNumber.digits first List.mem_cons_self)) rest
  have fewDigits : ¬ digitLimit < (leadingDigits digits).length :=
    Nat.not_lt.mpr ((length_leadingDigits_le digits).trans short)
  have isWhole : wholeDigits? digits = some (decimalValue digits) := by
    simp [wholeDigits?, isNumber.filled, List.all_eq_true.mpr isNumber.digits]
  have isRead : readInteger? digits = some (decimalValue digits : Int) := by
    simp [readInteger?, unsigned, withoutUnderscores?_of_not_mem noUnderscore,
      isWhole]
  simp only [integerOfText, String.toList_ofList, plain, unsigned, fewDigits,
    ↓reduceIte, isRead]

/-- Digits with a point are read as the nearest number. -/
theorem floatOfText_digits
    (isWhole : IsNumberLine whole)
    (isFraction : ∀ character ∈ fraction, isAsciiDigit character = true) :
    floatOfText (String.ofList (whole ++ '.' :: fraction)) =
      .ok (Binary64.ofDecimal false (decimalValue (whole ++ fraction))
        (-(fraction.length : Int))) := by
  have point : isAsciiDigit '.' = false := by decide
  have isPlain :
      ∀ character ∈ whole ++ '.' :: fraction,
        isAsciiDigit character = true ∨ character = '.' := by
    intro character member
    rcases List.mem_append.mp member with inWhole | isLater
    · exact Or.inl (isWhole.digits character inWhole)
    · rcases List.mem_cons.mp isLater with isPoint | inFraction
      · exact Or.inr isPoint
      · exact Or.inl (isFraction character inFraction)
  have noUnderscore : '_' ∉ whole ++ '.' :: fraction := by
    intro member
    rcases isPlain '_' member with isDigit | isPoint
    · exact absurd isDigit (by decide)
    · exact absurd isPoint (by decide)
  have isDecimal :
      readFloat? (whole ++ '.' :: fraction) =
        readDecimal? false (whole ++ '.' :: fraction) := by
    obtain ⟨first, rest, rfl⟩ := List.exists_cons_of_ne_nil isWhole.filled
    exact readFloat?_of_isDigitLike
      (.inl (isWhole.digits first List.mem_cons_self)) noUnderscore
  have dropped :
      (whole ++ '.' :: fraction).dropWhile isAsciiDigit = '.' :: fraction := by
    rw [List.dropWhile_append_of_pos isWhole.digits]
    simp [point]
  have taken :
      (whole ++ '.' :: fraction).takeWhile isAsciiDigit = whole := by
    rw [List.takeWhile_append_of_pos isWhole.digits]
    simp [point]
  have fractionDropped : fraction.dropWhile isAsciiDigit = [] :=
    List.dropWhile_eq_nil_iff.mpr isFraction
  have fractionTaken : fraction.takeWhile isAsciiDigit = fraction :=
    List.takeWhile_eq_self_iff.mpr isFraction
  have isRead :
      readDecimal? false (whole ++ '.' :: fraction) =
        some (Binary64.ofDecimal false (decimalValue (whole ++ fraction))
          (-(fraction.length : Int))) := by
    simp [readDecimal?, dropped, taken, fractionDropped, fractionTaken,
      isWhole.filled, readExponent?]
  simp only [floatOfText, String.toList_ofList, plainNumeral_of_forall isPlain,
    isDecimal, isRead]

end Numerals

/-! ## Times as they are printed -/

/-- A time in whole hundredths of a second, as a document prints it. -/
structure PrintedTime where
  hours : Nat
  minutes : Nat
  seconds : Nat
  hundredths : Nat
  minutes_lt : minutes < 60
  seconds_lt : seconds < 60
  hundredths_lt : hundredths < 100

namespace PrintedTime

/-- All hundredths of a time. -/
def total (time : PrintedTime) : Nat :=
  360000 * time.hours + 6000 * time.minutes + 100 * time.seconds +
    time.hundredths

/-- The seconds of a time and their hundredths. -/
def secondsText (time : PrintedTime) : List Char :=
  fixedDigits 2 time.seconds ++ '.' :: fixedDigits 2 time.hundredths

/-- The hours, and two digits each of minutes, seconds and hundredths. -/
def text (time : PrintedTime) : String :=
  String.ofList
    (decimalDigits time.hours ++ ':' ::
      (fixedDigits 2 time.minutes ++ ':' :: time.secondsText))

/-- The time of so many hundredths. -/
def ofTotal (total : Nat) : PrintedTime where
  hours := total / 360000
  minutes := total % 360000 / 6000
  seconds := total % 6000 / 100
  hundredths := total % 100
  minutes_lt := by omega
  seconds_lt := by omega
  hundredths_lt := by omega

theorem total_ofTotal (total : Nat) : (ofTotal total).total = total := by
  simp only [PrintedTime.total, ofTotal]
  omega

theorem twoDigits_eq_fixedDigits
    {number : Nat}
    (short : number < 100) :
    twoDigits number = fixedDigits 2 number := by
  unfold twoDigits
  by_cases isSmall : number < 10
  · have noTens : number / 10 = 0 := Nat.div_eq_of_lt isSmall
    have digits : decimalDigits number = [digitChar number] := by
      rw [decimalDigits, if_pos isSmall]
    rw [digits]
    simp [padZeros, fixedDigits, noTens, Nat.mod_eq_of_lt isSmall]
    rfl
  · have tens : number / 10 < 10 := by omega
    have digits :
        decimalDigits number =
          [digitChar (number / 10), digitChar (number % 10)] := by
      rw [decimalDigits, if_neg isSmall, decimalDigits, if_pos tens]
      rfl
    rw [digits]
    simp [padZeros, fixedDigits, Nat.mod_eq_of_lt tens]

/-- Hundredths are printed as the time that has so many of them. -/
theorem centisecondsText_total (time : PrintedTime) :
    String.ofList (centisecondsText time.total) = time.text := by
  have minutesLt := time.minutes_lt
  have secondsLt := time.seconds_lt
  have hundredthsLt := time.hundredths_lt
  have hours : time.total / 360000 = time.hours := by
    unfold total
    omega
  have minutes : time.total % 360000 / 6000 = time.minutes := by
    unfold total
    omega
  have seconds : time.total % 6000 / 100 = time.seconds := by
    unfold total
    omega
  have hundredths : time.total % 100 = time.hundredths := by
    unfold total
    omega
  rw [centisecondsText, hours, minutes, seconds, hundredths,
    twoDigits_eq_fixedDigits (by omega), twoDigits_eq_fixedDigits (by omega),
    twoDigits_eq_fixedDigits (by omega)]
  simp [text, secondsText]

end PrintedTime

/-! ## Reading in any arithmetic -/

/-- The numbers that a time is read into: those of whole seconds and of
decimals, and their sums. -/
structure TimeArithmetic (Number : Type) where
  whole : Int → Outcome Number
  decimal : String → Outcome Number
  sum : Number → Number → Number

namespace TimeArithmetic

/-- Read a time: hours and minutes as integers, the rest as a decimal. -/
def read
    {Number : Type}
    (arithmetic : TimeArithmetic Number)
    (text : String) :
    Outcome Number :=
  match splitAtChar ':' text.toList with
  | [hours, minutes, rest] => do
      let wholeHours ← ofNumeral (integerOfText (String.ofList hours))
      let wholeMinutes ← ofNumeral (integerOfText (String.ofList minutes))
      let seconds ← arithmetic.decimal (String.ofList rest)
      let whole ← arithmetic.whole (wholeHours * 3600 + wholeMinutes * 60)
      pure (arithmetic.sum whole seconds)
  | parts => .error (.partCount 3 parts.length)

/-- Every step is rounded. -/
def rounded : TimeArithmetic Binary64 where
  whole number := ofArithmetic (Binary64.ofInteger number)
  decimal text := ofNumeral (floatOfText text)
  sum := (· + ·)

/-- This is how times are read. -/
theorem read_rounded (text : String) : rounded.read text = readTime text := by
  unfold read readTime
  generalize splitAtChar ':' text.toList = parts
  rcases parts with _ | ⟨hours, _ | ⟨minutes, _ | ⟨rest, _ | ⟨more, others⟩⟩⟩⟩
  all_goals simp only [rounded]

/-- The number that digits with a point denote. -/
def exactDecimal (text : String) : Except NumeralError ℚ :=
  match splitAtChar '.' text.toList with
  | [whole, fraction] =>
      if (whole ++ fraction).all isAsciiDigit && !whole.isEmpty then
        .ok (decimalValue (whole ++ fraction) / 10 ^ fraction.length)
      else
        .error (.notANumber text)
  | _ => .error (.notANumber text)

/-- No step is rounded. -/
def exact : TimeArithmetic ℚ where
  whole number := .ok number
  decimal text := ofNumeral (exactDecimal text)
  sum := (· + ·)

theorem exactDecimal_digits
    {whole fraction : List Char}
    (isWhole : IsNumberLine whole)
    (isFraction : ∀ character ∈ fraction, isAsciiDigit character = true) :
    exactDecimal (String.ofList (whole ++ '.' :: fraction)) =
      .ok (decimalValue (whole ++ fraction) / 10 ^ fraction.length) := by
  have isSplit :
      splitAtChar '.' (whole ++ '.' :: fraction) = [whole, fraction] := by
    rw [splitAtChar_append_cons
        (not_mem_of_digits isWhole.digits (by decide)),
      splitAtChar_of_not_mem (not_mem_of_digits isFraction (by decide))]
  have areDigits : (whole ++ fraction).all isAsciiDigit = true := by
    rw [List.all_append, List.all_eq_true.mpr isWhole.digits,
      List.all_eq_true.mpr isFraction]
    rfl
  have filled : whole.isEmpty = false :=
    List.isEmpty_eq_false_iff.mpr isWhole.filled
  simp only [exactDecimal, String.toList_ofList, isSplit, areDigits, filled,
    Bool.not_false, Bool.and_self, ↓reduceIte]

end TimeArithmetic

namespace PrintedTime

variable {time : PrintedTime}

/-- The parts of a printed time are read one by one. -/
theorem read_text
    {Number : Type}
    (arithmetic : TimeArithmetic Number)
    (short : time.total < powerOfTwo 42) :
    arithmetic.read time.text = (do
      let seconds ← arithmetic.decimal (String.ofList time.secondsText)
      let whole ←
        arithmetic.whole
          ((time.hours * 3600 + time.minutes * 60 : Nat) : Int)
      pure (arithmetic.sum whole seconds)) := by
  have noColon
      {digits : List Char}
      (isNumber : IsNumberLine digits) :
      ':' ∉ digits :=
    not_mem_of_digits isNumber.digits (by decide)
  have secondsFree : ':' ∉ time.secondsText := by
    simp [secondsText, noColon (isNumberLine_fixedDigits 1 _)]
  have isSplit :
      splitAtChar ':' time.text.toList =
        [decimalDigits time.hours, fixedDigits 2 time.minutes,
          time.secondsText] := by
    rw [text, String.toList_ofList,
      splitAtChar_append_cons (noColon (isNumberLine_decimalDigits _)),
      splitAtChar_append_cons (noColon (isNumberLine_fixedDigits 1 _)),
      splitAtChar_of_not_mem secondsFree]
  have fewHours : time.hours < 10 ^ (7 + 1) := by
    have bound : powerOfTwo 42 = 4398046511104 := by decide
    unfold total at short
    omega
  have hours :
      integerOfText (String.ofList (decimalDigits time.hours)) =
        .ok (time.hours : Int) := by
    rw [integerOfText_digits (isNumberLine_decimalDigits _)
        ((length_decimalDigits_le fewHours).trans (by decide)),
      decimalValue_decimalDigits]
  have minutes :
      integerOfText (String.ofList (fixedDigits 2 time.minutes)) =
        .ok (time.minutes : Int) := by
    have minutesLt := time.minutes_lt
    rw [integerOfText_digits (isNumberLine_fixedDigits 1 _)
        (by rw [length_fixedDigits]; decide),
      decimalValue_fixedDigits 2 (by omega)]
  simp only [TimeArithmetic.read, isSplit, hours, minutes]
  rfl

theorem decimalValue_secondsText :
    decimalValue (fixedDigits 2 time.seconds ++ fixedDigits 2 time.hundredths) =
      100 * time.seconds + time.hundredths := by
  have secondsLt := time.seconds_lt
  have hundredthsLt := time.hundredths_lt
  rw [decimalValue_append_fixedDigits _ 2 (by omega),
    decimalValue_fixedDigits 2 (by omega)]
  omega

/-- Without rounding a printed time is its hundredths. -/
theorem exact_read_text
    (short : time.total < powerOfTwo 42) :
    TimeArithmetic.exact.read time.text = .ok ((time.total : ℚ) / 100) := by
  have decimal :
      TimeArithmetic.exact.decimal (String.ofList time.secondsText) =
        .ok (((100 * time.seconds + time.hundredths : Nat) : ℚ) / 10 ^ 2) := by
    rw [← decimalValue_secondsText]
    have isRead :=
      TimeArithmetic.exactDecimal_digits
        (isNumberLine_fixedDigits 1 time.seconds)
        (isNumberLine_fixedDigits 1 time.hundredths).digits
    rw [length_fixedDigits] at isRead
    simp only [TimeArithmetic.exact, secondsText, isRead]
    rfl
  rw [read_text _ short, decimal]
  have value :
      ((time.hours * 3600 + time.minutes * 60 : Nat) : ℚ) +
          ((100 * time.seconds + time.hundredths : Nat) : ℚ) / 10 ^ 2 =
        (time.total : ℚ) / 100 := by
    unfold total
    push_cast
    ring
  rw [← value]
  rfl

end PrintedTime

/-! ## Rounded readings -/

namespace PrintedTime

/-- A count of units is at most ten microseconds away from a time. -/
def IsNear (time : PrintedTime) (units : Nat) : Prop :=
  1000 * (100 * (units : Int) - (time.total * unitsPerOne : Nat)).natAbs ≤
    unitsPerOne

/-- A number tells a time, though it is rounded. -/
def IsToldBy (time : PrintedTime) (seconds : Binary64) : Prop :=
  ∃ units : Nat, seconds.position = some (units : Int) ∧ time.IsNear units

section Roundings

-- The units are variables here: arithmetic shall not compute their number.
variable {whole part second sum product hundredths unit step : Nat}

theorem sum_le_of_roundings
    (perUnit : unit = 140737488355328 * step)
    (few : 100 * whole + part < 4398046511104 * unit)
    (secondNear : (second * (100 : Nat) - (part : Int)).natAbs ≤ 100 * step) :
    whole + second ≤ 68719476735 * unit := by
  omega

theorem near_of_roundings
    (perUnit : unit = 140737488355328 * step)
    (secondNear : (second * (100 : Nat) - (part : Int)).natAbs ≤ 100 * step)
    (sumNear :
      ((sum : Int) - (whole + second)).natAbs ≤ 1073741824 * step) :
    1000 * (100 * (sum : Int) - (100 * whole + part : Nat)).natAbs ≤ unit := by
  omega

theorem product_le_of_near
    (few : hundredths < 4398046511104 * unit)
    (near : 1000 * (100 * (sum : Int) - hundredths).natAbs ≤ unit) :
    sum * 100 ≤ 8796093022207 * unit := by
  omega

theorem rounded_of_near
    (perUnit : unit = 140737488355328 * step)
    (positive : 0 < step)
    (near : 1000 * (100 * (sum : Int) - hundredths).natAbs ≤ unit)
    (productNear :
      ((product : Int) - (sum * 100 : Nat)).natAbs ≤ 137438953472 * step) :
    2 * ((product : Int) - hundredths).natAbs < unit := by
  omega

end Roundings

theorem unitsPerOne_eq :
    unitsPerOne = 140737488355328 * powerOfTwo 1027 :=
  powerOfTwo_eq_mul 47 rfl rfl

theorem powerOfTwo_1057 :
    powerOfTwo 1057 = 1073741824 * powerOfTwo 1027 :=
  powerOfTwo_eq_mul 30 rfl rfl

theorem powerOfTwo_1064 :
    powerOfTwo 1064 = 137438953472 * powerOfTwo 1027 :=
  powerOfTwo_eq_mul 37 rfl rfl

variable {time : PrintedTime}

theorem total_mul_lt
    (short : time.total < powerOfTwo 42) :
    time.total * unitsPerOne < 4398046511104 * unitsPerOne := by
  have bound : powerOfTwo 42 = 4398046511104 := by decide
  rw [← bound]
  exact Nat.mul_lt_mul_of_pos_right short (powerOfTwo_pos 1074)

/-- The seconds of a printed time are read as a number close to them. -/
theorem exists_read_seconds :
    ∃ second representable,
      floatOfText (String.ofList time.secondsText) =
        .ok (.finite false second representable) ∧
      (second * (100 : Nat) -
        ((100 * time.seconds + time.hundredths) * unitsPerOne : Nat) :
          Int).natAbs ≤ 100 * powerOfTwo 1027 := by
  have secondsLt := time.seconds_lt
  have hundredthsLt := time.hundredths_lt
  have isRead :=
    floatOfText_digits (isNumberLine_fixedDigits 1 time.seconds)
      (isNumberLine_fixedDigits 1 time.hundredths).digits
  rw [length_fixedDigits, decimalValue_secondsText] at isRead
  rw [secondsText, isRead]
  generalize isPart : 100 * time.seconds + time.hundredths = part
  have small : part < 6000 := by omega
  have below :
      part * unitsPerOne / powerOfTen 2 < powerOfTwo (53 + 1027) := by
    have minute : 60 * unitsPerOne < powerOfTwo (53 + 1027) :=
      mul_unitsPerOne_lt_of_lt 6 (by decide) (by decide)
    refine Nat.lt_of_le_of_lt (Nat.div_le_of_le_mul ?_) minute
    rw [← Nat.mul_assoc]
    exact Nat.mul_le_mul_right _ small.le
  obtain ⟨second, representable, isSecond, near⟩ :=
    Binary64.ofDecimal_near part 2 (by decide)
      (small.trans (by decide +kernel)) below (by decide)
  have hundred : powerOfTen 2 = 100 := rfl
  rw [hundred] at near
  exact ⟨second, representable, congrArg Except.ok isSecond, near⟩

/-- A printed time is read as a number that tells it, although this is rounded
twice. -/
theorem exists_read
    (short : time.total < powerOfTwo 42) :
    ∃ units representable,
      readTime time.text = .ok (.finite false units representable) ∧
      time.IsNear units := by
  obtain ⟨second, secondHolds, isSecond, secondNear⟩ :=
    time.exists_read_seconds
  generalize isPart : 100 * time.seconds + time.hundredths = part
    at secondNear
  generalize isWhole : time.hours * 3600 + time.minutes * 60 = whole
  have isTotal : 100 * whole + part = time.total := by
    unfold total
    omega
  have totalUnits :
      time.total * unitsPerOne =
        100 * (whole * unitsPerOne) + part * unitsPerOne := by
    rw [← isTotal]
    ring
  have few := total_mul_lt short
  rw [totalUnits] at few
  obtain ⟨wholeHolds, isNumber⟩ :=
    Binary64.ofInteger_natCast <|
      (by omega : whole < powerOfTwo 42).trans_le
        (powerOfTwo_le_powerOfTwo (by decide))
  -- Below `2 ^ 36` seconds the sum is off by `2 ^ 1057` units at most.
  have sumBelow : whole * unitsPerOne + second < powerOfTwo (53 + 1057) :=
    Nat.lt_of_le_of_lt
      (sum_le_of_roundings unitsPerOne_eq few secondNear)
      (mul_unitsPerOne_lt_of_lt 36 (by decide) (by decide))
  obtain ⟨sum, sumHolds, isSum, sumNear⟩ :=
    Binary64.add_near wholeHolds secondHolds sumBelow (by decide)
  rw [powerOfTwo_1057] at sumNear
  refine ⟨sum, sumHolds, ?_, ?_⟩
  · rw [← TimeArithmetic.read_rounded, read_text _ short, isWhole, ← isSum]
    simp only [TimeArithmetic.rounded, isSecond, isNumber]
    rfl
  · rw [IsNear, totalUnits]
    exact near_of_roundings unitsPerOne_eq secondNear sumNear

theorem hundred_eq :
    ∃ representable,
      (100 : Binary64) = .finite false (100 * unitsPerOne) representable := by
  have positive : 0 < unitsPerOne := powerOfTwo_pos 1074
  exact Binary64.eq_finite_of_position
    (Binary64.within_natural 100 (by decide)).isFinite
    (Binary64.position_natural 100 (by decide)) (by omega)

/-- A number that is not too large is multiplied closely by one hundred. -/
theorem multiply_hundred_near
    {units : Nat}
    (representable : Representable units)
    (few : units * 100 ≤ 8796093022207 * unitsPerOne) :
    ∃ product productHolds,
      Binary64.finite false units representable * 100 =
        .finite false product productHolds ∧
      ((product : Int) - (units * 100 : Nat)).natAbs ≤
        137438953472 * powerOfTwo 1027 := by
  have positive : 0 < unitsPerOne := powerOfTwo_pos 1074
  have below :
      units * (100 * unitsPerOne) / unitsPerOne < powerOfTwo (53 + 1064) := by
    rw [← Nat.mul_assoc, Nat.mul_div_cancel _ positive]
    exact Nat.lt_of_le_of_lt few
      (mul_unitsPerOne_lt_of_lt 43 (by decide) (by decide))
  obtain ⟨hundredHolds, isHundred⟩ := hundred_eq
  obtain ⟨product, productHolds, isProduct, near⟩ :=
    Binary64.multiply_near representable hundredHolds below (by decide)
  rw [← isHundred] at isProduct
  refine ⟨product, productHolds, isProduct, ?_⟩
  rw [← powerOfTwo_1064]
  refine Nat.le_of_mul_le_mul_right ?_ positive
  calc ((product : Int) - (units * 100 : Nat)).natAbs * unitsPerOne
      = ((product * unitsPerOne : Int) -
          (units * (100 * unitsPerOne) : Nat)).natAbs := by
        rw [← Nat.mul_assoc, Nat.cast_mul (units * 100), ← Int.sub_mul,
          Int.natAbs_mul, Int.natAbs_natCast]
    _ ≤ unitsPerOne * powerOfTwo 1064 := near
    _ = powerOfTwo 1064 * unitsPerOne := Nat.mul_comm _ _

/-- The time of the nearest hundredths is what is printed. -/
theorem writeTime_of_round
    {seconds : Binary64}
    {nearest : Int}
    (isNearest : (seconds * 100).round = .ok nearest)
    (isTotal : time.total = nearest.toNat) :
    writeTime seconds = .ok time.text := by
  rw [writeTime, centiseconds, isNearest, ← centisecondsText_total, isTotal]
  rfl

/-- A number that tells a printed time is printed as this time. -/
theorem writeTime_of_isNear
    {units : Nat}
    (representable : Representable units)
    (short : time.total < powerOfTwo 42)
    (near : time.IsNear units) :
    writeTime (.finite false units representable) = .ok time.text := by
  obtain ⟨product, productHolds, isProduct, productNear⟩ :=
    multiply_hundred_near representable
      (product_le_of_near (total_mul_lt short) near)
  have rounded : roundHalfEven product unitsPerOne = time.total :=
    roundHalfEven_eq_of_near <|
      rounded_of_near unitsPerOne_eq (powerOfTwo_pos 1027) near productNear
  have isRounded :
      (Binary64.finite false product productHolds).round =
        .ok (time.total : Int) := by
    change Except.ok (Binary64.signedUnits false
      (roundHalfEven product unitsPerOne)) = _
    rw [rounded]
    rfl
  exact writeTime_of_round (by rw [isProduct, isRounded]) rfl

/-- A number of seconds is printed as a time: the nearest hundredths, or none
for a number below zero. What is printed denotes these hundredths exactly, and
it is read again as a number that tells them and is printed alike. -/
structure Prints
    (time : PrintedTime)
    (seconds : Binary64) :
    Prop where
  rounded :
    ∃ nearest,
      (seconds * 100).round = .ok nearest ∧
      (time.total : Int) = max 0 nearest
  written : writeTime seconds = .ok time.text
  exact : TimeArithmetic.exact.read time.text = .ok ((time.total : ℚ) / 100)
  again :
    ∃ number,
      readTime time.text = .ok number ∧
      time.IsToldBy number ∧
      writeTime number = .ok time.text

/-- Every number of seconds that is not large is printed as a time. -/
theorem exists_prints
    {seconds : Binary64}
    {limit : Nat}
    (within : seconds.Within limit)
    (few : limit ≤ 20000000000) :
    ∃ time : PrintedTime, time.Prints seconds := by
  have inRange : 2 * (limit * 100) + 1 < powerOfTwo 1024 :=
    Nat.lt_of_lt_of_le (by omega : _ < 8796093022208)
      (powerOfTwo_le_powerOfTwo (by decide : 43 ≤ 1024))
  obtain ⟨nearest, isNearest, bounded⟩ :=
    (within.multiply Cue.within_hundred inRange).round
  have isTotal := total_ofTotal nearest.toNat
  generalize ofTotal nearest.toNat = time at isTotal
  have bound : powerOfTwo 42 = 4398046511104 := by decide
  have short : time.total < powerOfTwo 42 := by omega
  obtain ⟨units, representable, isRead, near⟩ := exists_read short
  exact ⟨time, {
    rounded := ⟨nearest, isNearest, by omega⟩
    written := writeTime_of_round isNearest isTotal
    exact := exact_read_text short
    again :=
      ⟨_, isRead, ⟨units, rfl, near⟩,
        writeTime_of_isNear representable short near⟩ }⟩

end PrintedTime

/-! ## Order of printed times -/

/-- Hundredths are counted in the order of the times, at every scale without a
minus sign. -/
theorem nearest_le_of_atMost
    {first second scale : Binary64}
    {lower upper : Int}
    (unsigned : scale.IsUnsigned)
    (isLower : (first * scale * 100).round = .ok lower)
    (isUpper : (second * scale * 100).round = .ok upper)
    (ordered : first.atMost second = true) :
    lower ≤ upper := by
  -- To scale, to count hundredths and to round them each keeps the order.
  obtain ⟨firstScaled, _⟩ :=
    Binary64.isFinite_of_multiply (Binary64.isFinite_of_round isLower)
  obtain ⟨secondScaled, _⟩ :=
    Binary64.isFinite_of_multiply (Binary64.isFinite_of_round isUpper)
  obtain ⟨hundredHolds, isHundred⟩ := PrintedTime.hundred_eq
  have scaled :=
    Binary64.atMost_multiply (Binary64.isFinite_of_multiply firstScaled).1
      (Binary64.isFinite_of_multiply secondScaled).1 unsigned ordered
  have counted :=
    Binary64.atMost_multiply firstScaled secondScaled
      ⟨_, hundredHolds, isHundred⟩ scaled
  exact Binary64.round_mono counted isLower isUpper

/-- A cue and the times that its line has. -/
structure PrintedCue where
  cue : Cue
  start : PrintedTime
  stop : PrintedTime

namespace PrintedCue

/-- Both times of a cue, each with what it is printed as. -/
def moments (printed : PrintedCue) : List (Binary64 × PrintedTime) :=
  [(printed.cue.start, printed.start), (printed.cue.stop, printed.stop)]

/-- The line of a cue in a document. -/
def line
    (printed : PrintedCue)
    (limit : Nat)
    (markup : String) :
    String :=
  "Dialogue: 0," ++ printed.start.text ++ "," ++ printed.stop.text ++
    ",Default,,0,0,0,," ++ markup ++
      String.ofList (DocumentSetting.cueText limit printed.cue)

end PrintedCue

/-- The printed times of cues are in the order of the cues' own times. So no
cue stops before it starts, and cues that did not overlap do not overlap as
they are printed. -/
structure KeepsOrder (printed : List PrintedCue) : Prop where
  moments :
    ∀ first ∈ printed.flatMap PrintedCue.moments,
      ∀ second ∈ printed.flatMap PrintedCue.moments,
        first.1.atMost second.1 = true → first.2.total ≤ second.2.total
  proper :
    ∀ one ∈ printed,
      one.cue.start.atMost one.cue.stop = true →
      one.start.total ≤ one.stop.total
  apart :
    ∀ first ∈ printed,
      ∀ second ∈ printed,
        first.cue.stop.atMost second.cue.start = true →
        first.stop.total ≤ second.start.total

/-- If all times are in their order, cues keep theirs. -/
theorem keepsOrder_of_moments
    {printed : List PrintedCue}
    (moments :
      ∀ first ∈ printed.flatMap PrintedCue.moments,
        ∀ second ∈ printed.flatMap PrintedCue.moments,
          first.1.atMost second.1 = true → first.2.total ≤ second.2.total) :
    KeepsOrder printed := by
  have start {one : PrintedCue} (member : one ∈ printed) :
      (one.cue.start, one.start) ∈ printed.flatMap PrintedCue.moments :=
    List.mem_flatMap.mpr ⟨one, member, by simp [PrintedCue.moments]⟩
  have stop {one : PrintedCue} (member : one ∈ printed) :
      (one.cue.stop, one.stop) ∈ printed.flatMap PrintedCue.moments :=
    List.mem_flatMap.mpr ⟨one, member, by simp [PrintedCue.moments]⟩
  exact {
    moments
    proper := fun one member => moments _ (start member) _ (stop member)
    apart := fun first isFirst second isSecond =>
      moments _ (stop isFirst) _ (start isSecond) }

namespace DocumentSetting

variable {setting : DocumentSetting}

/-- Both times of a cue are printed as its line has them. -/
structure Prints
    (setting : DocumentSetting)
    (printed : PrintedCue) :
    Prop where
  start : printed.start.Prints (printed.cue.start * setting.timeScale)
  stop : printed.stop.Prints (printed.cue.stop * setting.timeScale)

/-- At every speed that can be chosen, times keep their sign. -/
theorem timeScale_isUnsigned
    (least : Binary64.atMost 0.25 setting.speed = true)
    (greatest : setting.speed.atMost 4 = true) :
    setting.timeScale.IsUnsigned := by
  have isFinite := (timeScale_within least greatest).isFinite
  obtain ⟨oneHolds, isOne⟩ :=
    Binary64.eq_finite_of_position
      (Binary64.within_natural 1 (by decide)).isFinite
      (Binary64.position_natural 1 (by decide))
      (Nat.mul_pos Nat.one_pos (powerOfTwo_pos 1074))
  obtain ⟨quarter, place, isQuarter, isPlace, atLeast⟩ :=
    Binary64.atMost_iff.mp least
  rw [Binary64.position_quarter] at isQuarter
  rw [← Option.some.inj isQuarter] at atLeast
  have positive : 0 < powerOfTwo 1072 := powerOfTwo_pos 1072
  have noSign
      {negative : Bool}
      {units : Nat}
      (isUnits : Binary64.signedUnits negative units = place) :
      negative = false ∧ units ≠ 0 := by
    cases negative with
    | true =>
        simp only [Binary64.signedUnits, ↓reduceIte] at isUnits
        omega
    | false =>
        simp only [Binary64.signedUnits, Bool.false_eq_true, ↓reduceIte]
          at isUnits
        exact ⟨rfl, by omega⟩
  cases speed : setting.speed with
  | nan =>
      rw [speed] at isPlace
      cases isPlace
  | infinite negative =>
      rw [speed] at isPlace
      obtain ⟨rfl, _⟩ := noSign (Option.some.inj isPlace)
      have isScale : setting.timeScale = .zero false := by
        rw [timeScale, speed, isOne]
        rfl
      rw [isScale]
      exact ⟨0, representable_zero, rfl⟩
  | finite negative units representable =>
      rw [speed] at isPlace
      obtain ⟨rfl, notZero⟩ := noSign (Option.some.inj isPlace)
      have isScale :
          setting.timeScale =
            .ofUnits false (1 * unitsPerOne * unitsPerOne) units := by
        simp only [timeScale, speed, isOne, Binary64.divide, Binary64.isZero,
          notZero, decide_false, Bool.false_eq_true, ↓reduceIte,
          Bool.bne_false]
      rw [isScale] at isFinite ⊢
      exact Binary64.isUnsigned_ofUnits isFinite

theorem exists_printed
    (least : Binary64.atMost 0.25 setting.speed = true)
    (greatest : setting.speed.atMost 4 = true)
    {cue : Cue}
    (isShort : cue.IsShort) :
    ∃ printed : PrintedCue, printed.cue = cue ∧ setting.Prints printed := by
  have within := timeScale_within least greatest
  obtain ⟨start, isStart⟩ :=
    PrintedTime.exists_prints
      (isShort.start.multiply within
        (lt_powerOfTwo_of_short (by decide) (by decide)))
      (by decide)
  obtain ⟨stop, isStop⟩ :=
    PrintedTime.exists_prints
      (isShort.stop.multiply within
        (lt_powerOfTwo_of_short (by decide) (by decide)))
      (by decide)
  exact ⟨⟨cue, start, stop⟩, rfl, ⟨isStart, isStop⟩⟩

theorem exists_all_printed
    (least : Binary64.atMost 0.25 setting.speed = true)
    (greatest : setting.speed.atMost 4 = true)
    {cues : List Cue}
    (areShort : ∀ cue ∈ cues, cue.IsShort) :
    ∃ printed : List PrintedCue,
      printed.map PrintedCue.cue = cues ∧
      ∀ one ∈ printed, setting.Prints one := by
  induction cues with
  | nil => exact ⟨[], rfl, by simp⟩
  | cons cue others inductionHypothesis =>
      rw [List.forall_mem_cons] at areShort
      obtain ⟨one, isCue, prints⟩ :=
        exists_printed least greatest areShort.1
      obtain ⟨printed, areCues, allPrint⟩ := inductionHypothesis areShort.2
      exact ⟨one :: printed, by rw [List.map_cons, isCue, areCues],
        List.forall_mem_cons.mpr ⟨prints, allPrint⟩⟩

theorem Prints.cueLine_eq
    {printed : PrintedCue}
    (prints : setting.Prints printed)
    (limit : Nat)
    (markup : String) :
    setting.cueLine limit markup printed.cue =
      .ok (printed.line limit markup) := by
  rw [cueLine, prints.start.written, prints.stop.written]
  rfl

/-- Times that are printed at the scale of the output keep their order. -/
theorem keepsOrder_of_prints
    (least : Binary64.atMost 0.25 setting.speed = true)
    (greatest : setting.speed.atMost 4 = true)
    {printed : List PrintedCue}
    (prints : ∀ one ∈ printed, setting.Prints one) :
    KeepsOrder printed := by
  have each :
      ∀ moment ∈ printed.flatMap PrintedCue.moments,
        moment.2.Prints (moment.1 * setting.timeScale) := by
    intro moment member
    obtain ⟨one, isOne, isMoment⟩ := List.mem_flatMap.mp member
    simp only [PrintedCue.moments, List.mem_cons, List.not_mem_nil, or_false]
      at isMoment
    rcases isMoment with rfl | rfl
    · exact (prints one isOne).start
    · exact (prints one isOne).stop
  refine keepsOrder_of_moments fun first isFirst second isSecond ordered => ?_
  obtain ⟨lower, isLower, earlierTotal⟩ := (each first isFirst).rounded
  obtain ⟨upper, isUpper, laterTotal⟩ := (each second isSecond).rounded
  have nearest :=
    nearest_le_of_atMost (timeScale_isUnsigned least greatest) isLower isUpper
      ordered
  omega

/-- A document has the lines of its printed cues. -/
theorem document_eq_of_prints
    {printed : List PrintedCue}
    (prints : ∀ one ∈ printed, setting.Prints one)
    {limit : Nat}
    {markup : String}
    (isLimit :
      charactersPerLine setting.width (.integer setting.style.fontSize) =
        .ok limit)
    (isMarkup : setting.markup = .ok markup) :
    setting.document (printed.map PrintedCue.cue) =
      .ok
        (String.join
          ((setting.headLines ++ printed.map (·.line limit markup)).map
            (· ++ "\n"))) := by
  have lines :
      (printed.map PrintedCue.cue).mapM (setting.cueLine limit markup) =
        .ok (printed.map (·.line limit markup)) := by
    induction printed with
    | nil => rfl
    | cons one others inductionHypothesis =>
        rw [List.forall_mem_cons] at prints
        rw [List.map_cons, List.mapM_cons, prints.1.cueLine_eq limit markup,
          inductionHypothesis prints.2]
        rfl
  rw [document_eq isLimit isMarkup, lines]
  rfl

end DocumentSetting

/-- Every time of at most `10 ^ 9` seconds is printed as the nearest hundredths,
or as zero, and what is printed denotes these hundredths exactly. So documents
keep the order of the times of their cues, at every speed that can be chosen. -/
theorem printed_times_denote_hundredths_in_order :
    (∀ text, TimeArithmetic.rounded.read text = readTime text) ∧
    (∀ seconds : Binary64,
      seconds.Within 1000000000 →
      ∃ time : PrintedTime, time.Prints seconds) ∧
    ∀ (setting : DocumentSetting) (cues : List Cue),
      Binary64.atMost 0.25 setting.speed = true →
      setting.speed.atMost 4 = true →
      (∀ cue ∈ cues, cue.IsShort) →
      ∃ printed : List PrintedCue,
        printed.map PrintedCue.cue = cues ∧
        (∀ one ∈ printed, setting.Prints one) ∧
        KeepsOrder printed ∧
        ∀ limit markup,
          charactersPerLine setting.width (.integer setting.style.fontSize) =
            .ok limit →
          setting.markup = .ok markup →
          setting.document cues =
            .ok
              (String.join
                ((setting.headLines ++
                    printed.map (·.line limit markup)).map (· ++ "\n"))) := by
  refine ⟨TimeArithmetic.read_rounded, ?_, ?_⟩
  · intro seconds within
    exact PrintedTime.exists_prints within (by decide)
  · intro setting cues least greatest areShort
    obtain ⟨printed, rfl, prints⟩ :=
      DocumentSetting.exists_all_printed least greatest areShort
    exact ⟨printed, rfl, prints,
      DocumentSetting.keepsOrder_of_prints least greatest prints,
      fun limit markup isLimit isMarkup =>
        DocumentSetting.document_eq_of_prints prints isLimit isMarkup⟩

/-- A setting for three times the speed. -/
def fastSetting : DocumentSetting where
  style := {}
  width := .integer 1080
  height := .integer 1920
  speed := 3

/-- Cues of which one starts where the other stops. -/
def touchingCues : List Cue :=
  [{ start := 0, stop := 1, text := "a" },
    { start := 1, stop := 2.5, text := "b" }]

/-- Hundredths are carried over, and cues that touch still do. -/
theorem touching_cues_are_printed :
    (∃ time : PrintedTime,
      time.Prints 0.999 ∧ time.text = "0:00:01.00") ∧
    ∃ first second : PrintedCue,
      [first.cue, second.cue] = touchingCues ∧
      KeepsOrder [first, second] ∧
      first.stop.text = "0:00:00.33" ∧
      second.start.text = "0:00:00.33" ∧
      second.stop.text = "0:00:00.83" := by
  obtain ⟨_, single, documents⟩ := printed_times_denote_hundredths_in_order
  have within
      {seconds : Binary64}
      (nonnegative : Binary64.atMost 0 seconds = true)
      (small : seconds.atMost 1000000000 = true) :
      seconds.Within 1000000000 :=
    .of_atMost nonnegative small
      (Binary64.position_natural 1000000000 (by decide))
      (lt_powerOfTwo_of_short (by decide) (by decide))
  have isText
      {seconds : Binary64}
      {time : PrintedTime}
      {text : String}
      (prints : time.Prints seconds)
      (computed : (writeTime seconds).toOption = some text) :
      time.text = text := by
    rw [prints.written] at computed
    exact Option.some.inj computed
  have areShort : ∀ cue ∈ touchingCues, cue.IsShort := by
    simp only [touchingCues, List.forall_mem_cons, List.not_mem_nil,
      false_imp_iff, implies_true, and_true]
    exact ⟨
      ⟨within (by decide +kernel) (by decide +kernel),
        within (by decide +kernel) (by decide +kernel)⟩,
      ⟨within (by decide +kernel) (by decide +kernel),
        within (by decide +kernel) (by decide +kernel)⟩⟩
  constructor
  · obtain ⟨time, prints⟩ :=
      single 0.999 (within (by decide +kernel) (by decide +kernel))
    exact ⟨time, prints, isText prints (by decide +kernel)⟩
  · obtain ⟨printed, areCues, prints, order, _⟩ :=
      documents fastSetting touchingCues (by decide +kernel)
        (by decide +kernel) areShort
    obtain ⟨first, second, rfl⟩ :=
      List.length_eq_two.mp <|
        by simpa [touchingCues] using congrArg List.length areCues
    rw [List.forall_mem_cons, List.forall_mem_singleton] at prints
    rw [List.map_cons, List.map_singleton] at areCues
    obtain ⟨isFirst, isSecond⟩ :
        first.cue = ⟨0, 1, "a"⟩ ∧ second.cue = ⟨1, 2.5, "b"⟩ := by
      simpa [touchingCues] using areCues
    have firstStop := prints.1.stop
    have secondStart := prints.2.start
    have secondStop := prints.2.stop
    rw [isFirst] at firstStop
    rw [isSecond] at secondStart secondStop
    exact ⟨first, second, areCues, order,
      isText firstStop (by decide +kernel),
      isText secondStart (by decide +kernel),
      isText secondStop (by decide +kernel)⟩

end Montage
