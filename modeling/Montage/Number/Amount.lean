import Montage.Number.Binary64

namespace Montage

/-!
# Amounts

Numbers of several kinds: truth values, which count as zero and one, whole
numbers without bound, and binary64 numbers. An amount keeps its kind. Whole
amounts are compared and combined exactly; as soon as a binary64 number takes
part, the other amount is converted first.
-/

/-- A number of any kind. -/
inductive Amount
  | flag (value : Bool)
  | whole (value : Int)
  | fraction (value : Binary64)
deriving DecidableEq

namespace Amount

/-- The integer that an amount is, unless it is a binary64 number. -/
def integer? : Amount → Option Int
  | flag value => some (if value then 1 else 0)
  | whole value => some value
  | fraction _ => none

/-- The binary64 number nearest to an amount, if that is finite. -/
def toBinary64 : Amount → Except ArithmeticError Binary64
  | flag value => .ok (if value then 1 else 0)
  | whole value => Binary64.ofInteger value
  | fraction value => .ok value

/-- Place in the numeric order: beyond all integers or not, and then in units.
NaN has no place. -/
def position? : Amount → Option (Int × Int)
  | flag value => some (0, if value then unitsPerOne else 0)
  | whole value => some (0, value * unitsPerOne)
  | fraction .nan => none
  | fraction (.infinite negative) => some (if negative then -1 else 1, 0)
  | fraction (.finite negative units _) =>
      some (0, Binary64.signedUnits negative units)

/-- Exact numeric comparison; false as soon as a NaN takes part. -/
def less (left right : Amount) : Bool :=
  match left.position?, right.position? with
  | some first, some second =>
      first.1 < second.1 || (first.1 == second.1 && first.2 < second.2)
  | _, _ => false

/-- The first argument unless the second is less than it. -/
def minimum (first second : Amount) : Amount :=
  if second.less first then second else first

/-- The first argument unless the second is greater than it. -/
def maximum (first second : Amount) : Amount :=
  if first.less second then second else first

/-- Combine amounts as integers, or as binary64 numbers if one is such. -/
def combine
    (integers : Int → Int → Int)
    (numbers : Binary64 → Binary64 → Binary64)
    (left right : Amount) :
    Except ArithmeticError Amount :=
  match left.integer?, right.integer? with
  | some first, some second => .ok (whole (integers first second))
  | _, _ => do
      let first ← left.toBinary64
      let second ← right.toBinary64
      pure (fraction (numbers first second))

/-- The sum of amounts. -/
def add : Amount → Amount → Except ArithmeticError Amount :=
  combine (· + ·) (· + ·)

/-- The product of amounts. -/
def multiply : Amount → Amount → Except ArithmeticError Amount :=
  combine (· * ·) (· * ·)

/-- The quotient of amounts, which is a binary64 number in any case. -/
def divide (left right : Amount) : Except ArithmeticError Binary64 :=
  match left.integer?, right.integer? with
  | some first, some second => Binary64.divideIntegers first second
  | _, _ => do
      let first ← left.toBinary64
      let second ← right.toBinary64
      first.divide second

/-- Half of an amount without what is left over. -/
def half : Amount → Amount
  | flag _ => whole 0
  | whole value => whole (value.fdiv 2)
  | fraction value => fraction value.floorHalf

end Amount

end Montage
