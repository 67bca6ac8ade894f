import Montage.Number.Binary64
import Montage.Number.Digits

namespace Montage

/-!
# Decimal text of binary64 numbers

Three texts of a number, each from its exact value: a fixed number of places,
a fixed number of significant digits, and the fewest digits that read back.
How digits are laid out is data, a `NumberLayout`.
-/

/-- Layout of significant digits with a decimal exponent. -/
structure NumberLayout where
  /-- Least exponent written without an exponent mark. -/
  least : Int
  /-- First exponent written with an exponent mark again. -/
  bound : Int
  /-- Whether whole numbers written without an exponent end in `.0`. -/
  keepsPoint : Bool

/-- Text of an infinity. -/
def infinityText (negative : Bool) : List Char :=
  if negative then "-inf".toList else "inf".toList

/-- Text of a NaN. -/
def nanText : List Char :=
  "nan".toList

/-- Put a minus sign in front of a negative number's digits. -/
def withSign
    (negative : Bool)
    (digits : List Char) :
    List Char :=
  if negative then '-' :: digits else digits

/-- Remove the zeros at the end. -/
def dropTrailingZeros (digits : List Char) : List Char :=
  (digits.reverse.dropWhile (· == '0')).reverse

/-- Split the digits of a count of `10 ^ -places` at the decimal point. -/
def splitPlaces
    (places count : Nat) :
    List Char × List Char :=
  let digits := padZeros (places + 1) (decimalDigits count)
  digits.splitAt (digits.length - places)

/-- Join whole and fractional digits; an empty fraction has no point. -/
def joinPlaces
    (whole fraction : List Char) :
    List Char :=
  if fraction.isEmpty then whole else whole ++ '.' :: fraction

namespace NumberLayout

/-- Exponent mark: `e`, the sign, and at least two digits. -/
def exponentMark (exponent : Int) : List Char :=
  'e' :: (if exponent < 0 then '-' else '+') ::
    padZeros 2 (decimalDigits exponent.natAbs)

/-- Write digits `d₀d₁…` that stand for `d₀.d₁…` times a power of ten. -/
def write
    (layout : NumberLayout)
    (digits : List Char)
    (exponent : Int) :
    List Char :=
  if layout.least ≤ exponent ∧ exponent < layout.bound then
    if exponent < 0 then
      '0' :: '.' :: List.replicate (exponent.natAbs - 1) '0' ++ digits
    else
      let width := exponent.toNat + 1
      let whole := digits.take width
      let padded := whole ++ List.replicate (width - whole.length) '0'
      let fraction := digits.drop width
      if fraction.isEmpty ∧ layout.keepsPoint then
        padded ++ ['.', '0']
      else
        joinPlaces padded fraction
  else
    joinPlaces (digits.take 1) (digits.drop 1) ++ exponentMark exponent

/-- Six significant digits: exponents from -4 to 5 need no mark. -/
def sixDigits : NumberLayout where
  least := -4
  bound := 6
  keepsPoint := false

/-- Shortest text: exponents from -4 to 15 need no mark. -/
def shortest : NumberLayout where
  least := -4
  bound := 16
  keepsPoint := true

end NumberLayout

/-- Decimal exponent of the leading digit of a positive count of units. -/
def leadingExponent (units : Nat) : Int :=
  if unitsPerOne ≤ units then
    ((decimalDigits (units / unitsPerOne)).length : Int) - 1
  else
    -((decimalDigits ((unitsPerOne - 1) / units)).length : Int)

/-- A count of units divided by a power of ten, as a ratio of naturals. -/
def scaledUnits
    (units : Nat)
    (exponent : Int) :
    Nat × Nat :=
  match exponent with
  | .ofNat power => (units, unitsPerOne * powerOfTen power)
  | .negSucc power => (units * powerOfTen (power + 1), unitsPerOne)

namespace Binary64

/-- Text with exactly the given number of places, halves to even. -/
def fixedText
    (places : Nat) :
    Binary64 → List Char
  | nan => nanText
  | infinite negative => infinityText negative
  | finite negative units _ =>
      let count := roundHalfEven (units * powerOfTen places) unitsPerOne
      let parts := splitPlaces places count
      withSign negative (joinPlaces parts.1 parts.2)

/-- Text with at most six significant digits. -/
def sixDigitText : Binary64 → List Char
  | nan => nanText
  | infinite negative => infinityText negative
  | finite negative units _ =>
      if units = 0 then
        withSign negative ['0']
      else
        let exponent := leadingExponent units
        let ratio := scaledUnits units (exponent - 5)
        let rounded := decimalDigits (roundHalfEven ratio.1 ratio.2)
        let carried := exponent + ((rounded.length : Int) - 6)
        withSign negative <|
          NumberLayout.sixDigits.write (dropTrailingZeros rounded) carried

/--
The two multiples of `10 ^ exponent` next to a count of units, the nearer one
first and the even one first when they are equally near.
-/
def decimalNeighbours
    (units : Nat)
    (exponent : Int) :
    List Nat :=
  let ratio := scaledUnits units exponent
  let below := ratio.1 / ratio.2
  let nearest := roundHalfEven ratio.1 ratio.2
  if nearest = below then [below, below + 1] else [below + 1, below]

/-- A multiple of a power of ten with the given precision that reads back. -/
def readingBack?
    (units : Nat)
    (precision : Nat) :
    Option (Nat × Int) :=
  let exponent := leadingExponent units - precision + 1
  (decimalNeighbours units exponent).findSome? fun multiple =>
    match ofDecimal false multiple exponent with
    | finite _ read _ =>
        if read = units then some (multiple, exponent) else none
    | _ => none

/-- The fewest digits, at most seventeen, that read back to the number. -/
def shortestDecimal (units : Nat) : Nat × Int :=
  ((List.range 17).findSome? fun index => readingBack? units (index + 1)).getD
    (0, 0)

/-- The shortest text that reads back to the number. -/
def shortestText : Binary64 → List Char
  | nan => nanText
  | infinite negative => infinityText negative
  | finite negative units _ =>
      if units = 0 then
        withSign negative "0.0".toList
      else
        let decimal := shortestDecimal units
        let digits := decimalDigits decimal.1
        withSign negative <|
          NumberLayout.shortest.write (dropTrailingZeros digits)
            (decimal.2 + digits.length - 1)

/-- The shortest text as a string. -/
def toText (number : Binary64) : String :=
  String.ofList number.shortestText

end Binary64

end Montage
