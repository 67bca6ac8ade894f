import Montage.Text.Split
import Montage.Number.Digits

namespace Montage

/-!
# Issues found in data

What is wrong with submitted data and where. Reading collects every issue of a
value in the order of its fields, so reading is an applicative and not a monad.
-/

/-- One step into a value: a field of an object or an item of a list. -/
inductive LocationStep
  | field (name : String)
  | item (index : Nat)
deriving DecidableEq, Repr

/-- What is wrong with a value. -/
inductive IssueCause
  | missing
  | notText
  | notUnicode
  | notNumber
  | unreadableNumber
  | notInteger
  | unreadableInteger
  | oversizedInteger
  | fractionalInteger
  | notFinite
  | notBoolean
  | unreadableBoolean
  | notList
  | notObject (name : String)
  | notAmong (choices : List String)
  | mismatch (pattern : String)
  | notGreater (bound : Int)
  | notAtLeast (bound : Int)
  | refused (reason : String)
deriving DecidableEq, Repr

/-- A cause and the way to the value it is about. -/
structure Issue where
  cause : IssueCause
  location : List LocationStep
deriving DecidableEq, Repr

/-- Where data comes from decides how a value that is no object is reported. -/
inductive DataOrigin
  | value
  | requestBody
deriving DecidableEq, Repr

/-- Names in single quotes, separated by commas and a final `or`. -/
def listChoices : List String → String
  | [] => ""
  | [last] => "'" ++ last ++ "'"
  | [first, last] => "'" ++ first ++ "' or '" ++ last ++ "'"
  | first :: rest => "'" ++ first ++ "', " ++ listChoices rest

namespace IssueCause

/-- The short name of a cause. -/
def code : IssueCause → DataOrigin → String
  | missing, _ => "missing"
  | notText, _ => "string_type"
  | notUnicode, _ => "string_unicode"
  | notNumber, _ => "float_type"
  | unreadableNumber, _ => "float_parsing"
  | notInteger, _ => "int_type"
  | unreadableInteger, _ => "int_parsing"
  | oversizedInteger, _ => "int_parsing_size"
  | fractionalInteger, _ => "int_from_float"
  | notFinite, _ => "finite_number"
  | notBoolean, _ => "bool_type"
  | unreadableBoolean, _ => "bool_parsing"
  | notList, _ => "list_type"
  | notObject _, .value => "model_type"
  | notObject _, .requestBody => "model_attributes_type"
  | notAmong _, _ => "literal_error"
  | mismatch _, _ => "string_pattern_mismatch"
  | notGreater _, _ => "greater_than"
  | notAtLeast _, _ => "greater_than_equal"
  | refused _, _ => "value_error"

/-- The text that reports a cause. -/
def message : IssueCause → DataOrigin → String
  | missing, _ => "Field required"
  | notText, _ => "Input should be a valid string"
  | notUnicode, _ =>
      "Input should be a valid string, unable to parse raw data as a unicode " ++
        "string"
  | notNumber, _ => "Input should be a valid number"
  | unreadableNumber, _ =>
      "Input should be a valid number, unable to parse string as a number"
  | notInteger, _ => "Input should be a valid integer"
  | unreadableInteger, _ =>
      "Input should be a valid integer, unable to parse string as an integer"
  | oversizedInteger, _ =>
      "Unable to parse input string as an integer, exceeded maximum size"
  | fractionalInteger, _ =>
      "Input should be a valid integer, got a number with a fractional part"
  | notFinite, _ => "Input should be a finite number"
  | notBoolean, _ => "Input should be a valid boolean"
  | unreadableBoolean, _ =>
      "Input should be a valid boolean, unable to interpret input"
  | notList, _ => "Input should be a valid list"
  | notObject name, .value =>
      "Input should be a valid dictionary or instance of " ++ name
  | notObject _, .requestBody =>
      "Input should be a valid dictionary or object to extract fields from"
  | notAmong choices, _ => "Input should be " ++ listChoices choices
  | mismatch pattern, _ => "String should match pattern '" ++ pattern ++ "'"
  | notGreater bound, _ =>
      "Input should be greater than " ++ showInteger bound
  | notAtLeast bound, _ =>
      "Input should be greater than or equal to " ++ showInteger bound
  | refused reason, _ => "Value error, " ++ reason

end IssueCause

/-- A step as text. -/
def LocationStep.toText : LocationStep → String
  | field name => name
  | item index => showNatural index

/-- A read value, or all issues that were found. -/
inductive Checked (α : Type)
  | valid (value : α)
  | invalid (issues : List Issue)

namespace Checked

variable {α β : Type}

/-- Apply a function to a valid value. -/
def map
    (transform : α → β) :
    Checked α → Checked β
  | valid value => valid (transform value)
  | invalid issues => invalid issues

/-- Apply a read function to a read value, keeping the issues of both. -/
def apply
    (transform : Checked (α → β))
    (argument : Checked α) :
    Checked β :=
  match transform, argument with
  | valid function, valid value => valid (function value)
  | valid _, invalid issues => invalid issues
  | invalid issues, valid _ => invalid issues
  | invalid first, invalid second => invalid (first ++ second)

instance : Applicative Checked where
  pure := valid
  seq transform argument := apply transform (argument ())
  map := map

/-- A single issue at the value itself. -/
def refuse (cause : IssueCause) : Checked α :=
  invalid [⟨cause, []⟩]

/-- Tell where the value with these issues stands. -/
def within
    (step : LocationStep) :
    Checked α → Checked α
  | valid value => valid value
  | invalid issues =>
      invalid <| issues.map fun issue =>
        { issue with location := step :: issue.location }

/-- A further check, made only on a valid value. -/
def andThen
    (checked : Checked α)
    (check : α → Checked β) :
    Checked β :=
  match checked with
  | valid value => check value
  | invalid issues => invalid issues

/-- The value, if it is valid. -/
def toOption : Checked α → Option α
  | valid value => some value
  | invalid _ => none

/-- The issues of a value, none if it is valid. -/
def issues : Checked α → List Issue
  | valid _ => []
  | invalid issues => issues

end Checked

end Montage
