import Mathlib.Algebra.Field.Basic
import Mathlib.Order.Defs.LinearOrder
import Montage.Proofs.Number.Printed

namespace Montage

/-!
# Expressions of filters

Some options are expressions that the filter evaluates for every frame. An
expression is read with the usual precedence and evaluated by ordinary
arithmetic: products bind more tightly than sums, operators of one rank group
to the left, and a name before a parenthesis is a function.
-/

/-- What two values are combined by: an operator, or a function of two
arguments. -/
inductive Operation
  | plus
  | minus
  | times
  | over
  | less
  | equal
  | least
  | greatest
deriving DecidableEq, Repr

/-- An expression of numbers, quantities, operations and choices. -/
inductive Expression
  | number (decimal : Decimal)
  | quantity (name : String)
  | combined (operation : Operation) (left right : Expression)
  | choice (condition chosen other : Expression)
deriving DecidableEq, Repr

/-! ## Values -/

section Values

variable {Number : Type} [Field Number] [LinearOrder Number]

/-- Combine two values; nothing is divided by zero, and a condition is one if
it holds and else zero. -/
def Operation.apply?
    (operation : Operation)
    (left right : Number) :
    Option Number :=
  match operation with
  | .plus => some (left + right)
  | .minus => some (left - right)
  | .times => some (left * right)
  | .over => if right = 0 then none else some (left / right)
  | .less => some (if left < right then 1 else 0)
  | .equal => some (if left = right then 1 else 0)
  | .least => some (min left right)
  | .greatest => some (max left right)

/-- The value of an expression, if all of its quantities have one. -/
def Expression.value?
    (quantities : String → Option Number) :
    Expression → Option Number
  | number decimal => some decimal.value
  | quantity name => quantities name
  | combined operation left right => do
      operation.apply? (← left.value? quantities) (← right.value? quantities)
  | choice condition chosen other => do
      if (← condition.value? quantities) = 0 then
        other.value? quantities
      else
        chosen.value? quantities

end Values

/-! ## Tokens -/

/-- A piece of the text of an expression. -/
inductive ExpressionToken
  | number (decimal : Decimal)
  | name (text : String)
  /-- A name and the parenthesis after it. -/
  | call (function : String)
  | operator (operation : Operation)
  | opening
  | closing
  | comma
deriving DecidableEq, Repr

namespace ExpressionToken

/-- The marks of expressions. -/
def ofMark? : Char → Option ExpressionToken
  | '+' => some (.operator .plus)
  | '-' => some (.operator .minus)
  | '*' => some (.operator .times)
  | '/' => some (.operator .over)
  | '(' => some .opening
  | ')' => some .closing
  | ',' => some .comma
  | _ => none

/-- Whether a character can stand in a name. -/
def isNameCharacter (character : Char) : Bool :=
  isAsciiDigit character || character.isAlpha || character = '_'

/-- Take a name, and the parenthesis after it if there is one. -/
def takeName? (text : List Char) : Option (ExpressionToken × List Char) :=
  let name := text.takeWhile isNameCharacter
  if name = [] then
    none
  else
    match text.dropWhile isNameCharacter with
    | '(' :: rest => some (.call (String.ofList name), rest)
    | rest => some (.name (String.ofList name), rest)

/-- Take the token at the start of a text. -/
def take? : List Char → Option (ExpressionToken × List Char)
  | [] => none
  | character :: rest =>
      match ofMark? character with
      | some token => some (token, rest)
      | none =>
          match takeDecimal? (character :: rest) with
          | some (decimal, after) => some (.number decimal, after)
          | none => takeName? (character :: rest)

/-- The tokens of a text. The countdown passes over the characters of a token
that was already taken. -/
def readAll (taken : Nat) : List Char → Option (List ExpressionToken)
  | [] => some []
  | character :: rest =>
      match taken with
      | remaining + 1 => readAll remaining rest
      | 0 =>
          match take? (character :: rest) with
          | none => none
          | some (token, after) =>
              (readAll (rest.length - after.length) rest).map (token :: ·)

end ExpressionToken

/-! ## Reading -/

/-- What waits, while an expression is read, for the operand that comes. -/
inductive WaitingPart
  /-- A left operand and its operator. -/
  | operand (left : Expression) (operation : Operation)
  /-- An open parenthesis. -/
  | group
  /-- A function and its arguments so far. -/
  | call (function : String) (arguments : List Expression)

/-- How tightly an operator binds. -/
def Operation.rank : Operation → Nat
  | .times => 2
  | .over => 2
  | _ => 1

/-- A function of arguments. -/
def Expression.ofCall? :
    String → List Expression → Option Expression
  | "if", [condition, chosen, other] => some (.choice condition chosen other)
  | "lt", [left, right] => some (.combined .less left right)
  | "eq", [left, right] => some (.combined .equal left right)
  | "min", [left, right] => some (.combined .least left right)
  | "max", [left, right] => some (.combined .greatest left right)
  | _, _ => none

/-- What was read of an expression: the parts that wait, the innermost first,
and the operand that was read last, unless one is expected. -/
structure ExpressionReading where
  waiting : List WaitingPart := []
  last : Option Expression := none

namespace ExpressionReading

/-- Combine what was read last with the operands that wait for it, as long as
their operators bind at least as tightly as a rank. -/
def settle
    (rank : Nat) :
    List WaitingPart → Expression → List WaitingPart × Expression
  | .operand left operation :: rest, right =>
      if rank ≤ operation.rank then
        settle rank rest (.combined operation left right)
      else
        (.operand left operation :: rest, right)
  | waiting, right => (waiting, right)

/-- Read an operand, or what opens one. -/
def takeOperand?
    (waiting : List WaitingPart) :
    ExpressionToken → Option ExpressionReading
  | .number decimal => some { waiting, last := some (.number decimal) }
  | .name text => some { waiting, last := some (.quantity text) }
  | .call function => some { waiting := .call function [] :: waiting }
  | .opening => some { waiting := .group :: waiting }
  | _ => none

/-- Read what stands after an operand. -/
def takeAfter?
    (waiting : List WaitingPart)
    (last : Expression) :
    ExpressionToken → Option ExpressionReading
  | .operator operation =>
      let settled := settle operation.rank waiting last
      some { waiting := .operand settled.2 operation :: settled.1 }
  | .comma =>
      match settle 0 waiting last with
      | (.call function arguments :: rest, argument) =>
          some { waiting := .call function (arguments ++ [argument]) :: rest }
      | _ => none
  | .closing =>
      match settle 0 waiting last with
      | (.group :: rest, inner) => some { waiting := rest, last := some inner }
      | (.call function arguments :: rest, argument) =>
          (Expression.ofCall? function (arguments ++ [argument])).map
            fun called => { waiting := rest, last := some called }
      | _ => none
  | _ => none

/-- Read one token. -/
def take?
    (reading : ExpressionReading)
    (token : ExpressionToken) :
    Option ExpressionReading :=
  match reading.last with
  | none => takeOperand? reading.waiting token
  | some last => takeAfter? reading.waiting last token

/-- The expression that was read, if nothing is left open. -/
def result? (reading : ExpressionReading) : Option Expression :=
  match reading.last.map (settle 0 reading.waiting) with
  | some ([], whole) => some whole
  | _ => none

end ExpressionReading

/-- Read an expression. -/
def readExpression? (text : String) : Option Expression := do
  let tokens ← ExpressionToken.readAll 0 text.toList
  let reading ← tokens.foldlM ExpressionReading.take? {}
  reading.result?

/-- Sums group to the left, and products before sums. -/
example :
    readExpression? "1.5-x*2-max(y,3)" = some
      (.combined .minus
        (.combined .minus (.number ⟨15, -1⟩)
          (.combined .times (.quantity "x") (.number ⟨2, 0⟩)))
        (.combined .greatest (.quantity "y") (.number ⟨3, 0⟩))) := by
  decide +kernel

end Montage
