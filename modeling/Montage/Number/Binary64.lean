namespace Montage

/-!
# Binary64 numbers

The 64-bit binary floating-point numbers, held exactly. A finite number is a
sign and a count of units of `2 ^ -1074`, the smallest positive number of the
format, so equal numbers have equal representations and arithmetic is integer
arithmetic followed by one rounding.
-/

/-! ## Rounding quotients

Every inexact step of the number layer is one rounded quotient of natural
numbers. Halves go to the even neighbour.
-/

/-- The integer nearest to `numerator / denominator`, halves to even. -/
def roundHalfEven
    (numerator denominator : Nat) :
    Nat :=
  let quotient := numerator / denominator
  let twice := 2 * (numerator % denominator)
  if twice < denominator then
    quotient
  else if denominator < twice then
    quotient + 1
  else
    quotient + quotient % 2

/-- A power of two. -/
def powerOfTwo (exponent : Nat) : Nat :=
  Nat.pow 2 exponent

/-- A power of ten. -/
def powerOfTen (exponent : Nat) : Nat :=
  Nat.pow 10 exponent

/-- Powers of two are positive. -/
theorem powerOfTwo_pos (exponent : Nat) : 0 < powerOfTwo exponent :=
  Nat.two_pow_pos exponent

/-- Exponents add up. -/
theorem powerOfTwo_add
    (left right : Nat) :
    powerOfTwo (left + right) = powerOfTwo left * powerOfTwo right :=
  Nat.pow_add 2 left right

/-- A greater exponent gives a greater power. -/
theorem powerOfTwo_le_powerOfTwo
    {left right : Nat}
    (exponents : left ≤ right) :
    powerOfTwo left ≤ powerOfTwo right :=
  Nat.pow_le_pow_right (Nat.succ_pos 1) exponents

/-- Number of binary digits that do not fit into 53 significant ones. -/
def excessBits (whole : Nat) : Nat :=
  whole.log2 + 1 - 53

/--
The number nearest to `numerator / denominator` among those with at most 53
significant binary digits; integers below `2 ^ 53` are all available.
-/
def roundSignificant
    (numerator denominator : Nat) :
    Nat :=
  let shift := excessBits (numerator / denominator)
  roundHalfEven numerator (denominator * powerOfTwo shift) * powerOfTwo shift

/-- Rounding a proper quotient does not move it down. -/
theorem le_roundHalfEven
    (numerator denominator : Nat) :
    numerator / denominator ≤ roundHalfEven numerator denominator := by
  unfold roundHalfEven
  dsimp only
  split
  · omega
  · split <;> omega

/-- Rounding a proper quotient moves it up by at most one. -/
theorem roundHalfEven_le_succ
    (numerator denominator : Nat) :
    roundHalfEven numerator denominator ≤ numerator / denominator + 1 := by
  unfold roundHalfEven
  have halfBound : numerator / denominator % 2 ≤ 1 := by omega
  dsimp only
  split
  · omega
  · split <;> omega

/-- A significand has at most 53 binary digits, or is the next power of two. -/
theorem roundHalfEven_le_powerOfTwo
    (numerator denominator : Nat) :
    roundHalfEven numerator
        (denominator * powerOfTwo (excessBits (numerator / denominator))) ≤
      powerOfTwo 53 := by
  have step :=
    roundHalfEven_le_succ numerator
      (denominator * powerOfTwo (excessBits (numerator / denominator)))
  have quotient :
      numerator /
          (denominator * powerOfTwo (excessBits (numerator / denominator))) <
        powerOfTwo 53 := by
    rw [← Nat.div_div_eq_div_mul]
    refine Nat.div_lt_of_lt_mul ?_
    rw [← powerOfTwo_add]
    refine Nat.lt_of_lt_of_le Nat.lt_log2_self ?_
    refine powerOfTwo_le_powerOfTwo ?_
    unfold excessBits
    omega
  omega

/-! ## The format -/

/-- Units in the number one. -/
def unitsPerOne : Nat :=
  powerOfTwo 1074

/-- First count of units beyond the finite range. -/
def unitsLimit : Nat :=
  powerOfTwo 2098

/-- Counts of units that the format holds: 53 significant binary digits. -/
def Representable (units : Nat) : Prop :=
  units < unitsLimit ∧
    ∃ significand shift,
      significand < powerOfTwo 53 ∧ units = significand * powerOfTwo shift

/-- A binary64 number; zero has two signs and there is one NaN. -/
inductive Binary64
  | nan
  | infinite (negative : Bool)
  | finite (negative : Bool) (units : Nat) (representable : Representable units)
deriving DecidableEq

/-- Why a conversion or division has no result. -/
inductive ArithmeticError
  | integerDivisionByZero
  | floatDivisionByZero
  | integerTooLarge
  | quotientTooLarge
  | infinityToInteger
  | nanToInteger
deriving DecidableEq, Repr

/-- The text that reports an arithmetic error. -/
def ArithmeticError.message : ArithmeticError → String
  | .integerDivisionByZero => "division by zero"
  | .floatDivisionByZero => "float division by zero"
  | .integerTooLarge => "int too large to convert to float"
  | .quotientTooLarge => "integer division result too large for a float"
  | .infinityToInteger => "cannot convert float infinity to integer"
  | .nanToInteger => "cannot convert float NaN to integer"

/-- A rounded count that stays in range is representable. -/
theorem representable_roundSignificant
    {numerator denominator : Nat}
    (inRange : roundSignificant numerator denominator < unitsLimit) :
    Representable (roundSignificant numerator denominator) := by
  refine ⟨inRange, ?_⟩
  unfold roundSignificant
  dsimp only
  have roundedBound := roundHalfEven_le_powerOfTwo numerator denominator
  generalize excessBits (numerator / denominator) = shift at roundedBound ⊢
  by_cases small :
      roundHalfEven numerator (denominator * powerOfTwo shift) < powerOfTwo 53
  · exact ⟨_, shift, small, rfl⟩
  · refine ⟨1, 53 + shift, by decide, ?_⟩
    have exactly :
        roundHalfEven numerator (denominator * powerOfTwo shift) =
          powerOfTwo 53 := by
      omega
    rw [exactly, Nat.one_mul, powerOfTwo_add]

/-- The finite range is not empty. -/
theorem unitsLimit_pos : 0 < unitsLimit :=
  powerOfTwo_pos 2098

/-- Zero is representable. -/
theorem representable_zero : Representable 0 :=
  ⟨unitsLimit_pos, 0, 0, powerOfTwo_pos 53, rfl⟩

namespace Binary64

/-- The number nearest to a signed ratio of units, infinite beyond the range. -/
def ofUnits
    (negative : Bool)
    (numerator denominator : Nat) :
    Binary64 :=
  if inRange : roundSignificant numerator denominator < unitsLimit then
    finite negative _ (representable_roundSignificant inRange)
  else
    infinite negative

/-- Zero of the given sign. -/
def zero (negative : Bool) : Binary64 :=
  finite negative 0 representable_zero

/-- The number nearest to `mantissa * 10 ^ exponent`. -/
def ofDecimal
    (negative : Bool)
    (mantissa : Nat)
    (exponent : Int) :
    Binary64 :=
  if mantissa = 0 then
    zero negative
  else
    let magnitude : Int := mantissa.log2 * 3 / 10 + exponent
    if 400 < magnitude then
      infinite negative
    else if magnitude < -2000 - mantissa.log2 then
      zero negative
    else
      match exponent with
      | .ofNat power =>
          ofUnits negative (mantissa * powerOfTen power * unitsPerOne) 1
      | .negSucc power =>
          ofUnits negative (mantissa * unitsPerOne) (powerOfTen (power + 1))

/-- Decimal literals denote the nearest number. -/
instance : OfScientific Binary64 where
  ofScientific mantissa exponentNegative exponent :=
    ofDecimal false mantissa (if exponentNegative then -exponent else exponent)

/-- Natural number literals denote the nearest number. -/
instance (number : Nat) : OfNat Binary64 number where
  ofNat := ofDecimal false number 0

instance : Inhabited Binary64 where
  default := zero false

/-- Change the sign, also of zeros and infinities. -/
def negate : Binary64 → Binary64
  | nan => nan
  | infinite negative => infinite (!negative)
  | finite negative units representable =>
      finite (!negative) units representable

instance : Neg Binary64 where
  neg := negate

/-- A sign and a magnitude as one integer. -/
def signedUnits
    (negative : Bool)
    (units : Nat) :
    Int :=
  if negative then -(units : Int) else units

/-- The exact sum, rounded; opposite equal numbers give positive zero. -/
def add : Binary64 → Binary64 → Binary64
  | nan, _ => nan
  | _, nan => nan
  | infinite left, infinite right =>
      if left = right then infinite left else nan
  | infinite left, finite .. => infinite left
  | finite .., infinite right => infinite right
  | finite leftNegative leftUnits _, finite rightNegative rightUnits _ =>
      let sum :=
        signedUnits leftNegative leftUnits +
          signedUnits rightNegative rightUnits
      if sum = 0 then
        zero (leftNegative && rightNegative)
      else
        ofUnits (decide (sum < 0)) sum.natAbs 1

/-- The exact difference, rounded. -/
def subtract (left right : Binary64) : Binary64 :=
  add left (negate right)

/-- The exact product, rounded; infinity times zero is NaN. -/
def multiply : Binary64 → Binary64 → Binary64
  | nan, _ => nan
  | _, nan => nan
  | infinite left, infinite right => infinite (left != right)
  | infinite left, finite right units _ =>
      if units = 0 then nan else infinite (left != right)
  | finite left units _, infinite right =>
      if units = 0 then nan else infinite (left != right)
  | finite leftNegative leftUnits _, finite rightNegative rightUnits _ =>
      ofUnits (leftNegative != rightNegative) (leftUnits * rightUnits)
        unitsPerOne

/-- Whether a number is neither NaN nor an infinity. -/
def isFinite : Binary64 → Bool
  | finite .. => true
  | _ => false

/-- Both zeros and nothing else. -/
def isZero : Binary64 → Bool
  | finite _ units _ => units = 0
  | _ => false

/-- The exact quotient, rounded; dividing by a zero has no result. -/
def divide
    (dividend divisor : Binary64) :
    Except ArithmeticError Binary64 :=
  if divisor.isZero then
    .error .floatDivisionByZero
  else
    .ok <|
      match dividend, divisor with
      | nan, _ => nan
      | _, nan => nan
      | infinite _, infinite _ => nan
      | infinite left, finite right _ _ => infinite (left != right)
      | finite left _ _, infinite right => zero (left != right)
      | finite leftNegative leftUnits _, finite rightNegative rightUnits _ =>
          ofUnits (leftNegative != rightNegative)
            (leftUnits * unitsPerOne) rightUnits

instance : Add Binary64 where
  add := add

instance : Sub Binary64 where
  sub := subtract

instance : Mul Binary64 where
  mul := multiply

/-- Place in the numeric order, in units; NaN has none. -/
def position : Binary64 → Option Int
  | nan => none
  | infinite negative => some (signedUnits negative unitsLimit)
  | finite negative units _ => some (signedUnits negative units)

/-- Numeric comparison; false as soon as a NaN takes part. -/
def less (left right : Binary64) : Bool :=
  match left.position, right.position with
  | some first, some second => first < second
  | _, _ => false

/-- Numeric comparison; false as soon as a NaN takes part. -/
def atMost (left right : Binary64) : Bool :=
  match left.position, right.position with
  | some first, some second => first ≤ second
  | _, _ => false

/-- Numeric equality: both zeros are equal and NaN equals nothing. -/
def equals (left right : Binary64) : Bool :=
  match left.position, right.position with
  | some first, some second => first = second
  | _, _ => false

/-- The first argument unless the second is less than it. -/
def minimum (first second : Binary64) : Binary64 :=
  if second.less first then second else first

/-- The first argument unless the second is greater than it. -/
def maximum (first second : Binary64) : Binary64 :=
  if first.less second then second else first

/-- A number that is not infinite, else the reason why there is no result. -/
def unlessInfinite
    (cause : ArithmeticError) :
    Binary64 → Except ArithmeticError Binary64
  | infinite _ => .error cause
  | result => .ok result

/-- The nearest number to an integer, if that is finite. -/
def ofInteger (number : Int) : Except ArithmeticError Binary64 :=
  unlessInfinite .integerTooLarge <|
    ofUnits (decide (number < 0)) (number.natAbs * unitsPerOne) 1

/-- The nearest number to a quotient of integers, if that is finite. -/
def divideIntegers
    (dividend divisor : Int) :
    Except ArithmeticError Binary64 :=
  if divisor = 0 then
    .error .integerDivisionByZero
  else
    let negative := decide (dividend < 0) != decide (divisor < 0)
    if dividend = 0 then
      .ok (zero false)
    else
      unlessInfinite .quotientTooLarge <|
        ofUnits negative (dividend.natAbs * unitsPerOne) divisor.natAbs

/-- Apply a rule for the magnitude to a finite number and restore the sign. -/
def toInteger
    (rule : Bool → Nat → Int) :
    Binary64 → Except ArithmeticError Int
  | nan => .error .nanToInteger
  | infinite _ => .error .infinityToInteger
  | finite negative units _ => .ok (rule negative units)

/-- The nearest integer, halves to even. -/
def round : Binary64 → Except ArithmeticError Int :=
  toInteger fun negative units =>
    signedUnits negative (roundHalfEven units unitsPerOne)

/-- The greatest integer that is not greater. -/
def floor : Binary64 → Except ArithmeticError Int :=
  toInteger fun negative units =>
    (signedUnits negative units).fdiv unitsPerOne

/-- The integer part, toward zero. -/
def truncate : Binary64 → Except ArithmeticError Int :=
  toInteger fun negative units =>
    signedUnits negative (units / unitsPerOne)

/-- The greatest whole number that is not greater than half of a number; a zero
keeps its sign. -/
def floorHalf : Binary64 → Binary64
  | finite negative units _ =>
      let quotient := (signedUnits negative units).fdiv (2 * unitsPerOne)
      if quotient = 0 then
        zero negative
      else
        ofUnits (decide (quotient < 0)) (quotient.natAbs * unitsPerOne) 1
  | _ => nan

/-- Whether a number is finite and has no fractional part. -/
def isIntegral : Binary64 → Bool
  | finite _ units _ => units % unitsPerOne = 0
  | _ => false

end Binary64

end Montage
