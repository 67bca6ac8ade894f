import Montage.Failure
import Montage.Number.Amount

namespace Montage

/-!
# Values as operands

Reported values may be of any type. Numbers and truth values are amounts; a
value of another type refuses to be computed with and tells why.
-/

/-- An amount as JSON, of its own kind. -/
def Amount.toJson : Amount → Json
  | flag value => .bool value
  | whole value => .integer value
  | fraction value => .number value

namespace Json

/-- The amount that a value is, if it is a number or a truth value. -/
def amount? : Json → Option Amount
  | bool value => some (.flag value)
  | integer value => some (.whole value)
  | number value => some (.fraction value)
  | _ => none

/-- The quotient of two values. -/
def dividedBy (left right : Json) : Outcome Binary64 :=
  match left.amount?, right.amount? with
  | some first, some second => ofArithmetic (first.divide second)
  | _, _ => .error (.shape (.noOperation .quotient (.of left) (.of right)))

/-- A value times a factor; a sequence cannot be repeated that often. -/
def scaled
    (value : Json)
    (factor : Binary64) :
    Outcome Binary64 :=
  match value with
  | text _ => .error (.shape (.noRepetition .number))
  | array _ => .error (.shape (.noRepetition .number))
  | _ =>
      match value.amount? with
      | some amount => (ofArithmetic amount.toBinary64).map (· * factor)
      | none => .error (.shape (.noOperation .product (.of value) .number))

/-- Half of a value without what is left over. -/
def halved (value : Json) : Outcome Amount :=
  match value.amount? with
  | some amount => .ok amount.half
  | none => .error (.shape (.noOperation .wholeQuotient (.of value) .integer))

/-- A value and an integer added up; a sequence can only be continued by its
like. -/
def plus
    (value : Json)
    (summand : Int) :
    Outcome Amount :=
  match value with
  | text _ => .error (.shape (.noConcatenation .text .integer))
  | array _ => .error (.shape (.noConcatenation .array .integer))
  | _ =>
      match value.amount? with
      | some amount => ofArithmetic (amount.add (.whole summand))
      | none => .error (.shape (.noOperation .sum (.of value) .integer))

/-- A value that is ordered among integers. -/
def ordered (value : Json) : Outcome Amount :=
  match value.amount? with
  | some amount => .ok amount
  | none => .error (.shape (.noOrder (.of value) .integer))

end Json

end Montage
