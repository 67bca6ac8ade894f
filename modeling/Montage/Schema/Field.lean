import Montage.Json.Value
import Montage.Number.Numeral
import Montage.Schema.Issue
import Montage.Text.Surrogate

namespace Montage

/-!
# Reading fields

Typed reading of JSON values. Reading is lenient: numbers may come as texts,
truth values as numbers, and unknown fields are ignored. Numeric parameters are
clamped into their range and never refused for their size.
-/

/-- Read a text for what it denotes; it may hold no lone surrogates. -/
def readDenoting
    {α : Type}
    (read : String → Checked α)
    (text : String) :
    Checked α :=
  if text.toList.any isLoneSurrogate then
    .refuse .notUnicode
  else
    read text

/-- Read a number; truth values count as one and zero. -/
def readNumber : Json → Checked Binary64
  | .number value => .valid value
  | .integer value =>
      match Binary64.ofInteger value with
      | .ok number => .valid number
      | .error _ => .refuse .notNumber
  | .bool value => .valid (if value then 1 else 0)
  | .text value =>
      readDenoting (fun text =>
        match floatOfField? text with
        | some number => .valid number
        | none => .refuse .unreadableNumber) value
  | _ => .refuse .notNumber

/-- Integers of a 64-bit word are below this bound. -/
def wordBound : Int := 9223372036854775808

/-- Read an integer; a number without fraction is one. -/
def readInteger : Json → Checked Int
  | .integer value => .valid value
  | .number value =>
      match value.truncate with
      | .ok integer =>
          if !value.isIntegral then
            .refuse .fractionalInteger
          else if -wordBound < integer ∧ integer < wordBound then
            .valid integer
          else
            .refuse .oversizedInteger
      | .error _ => .refuse .notFinite
  | .bool value => .valid (if value then 1 else 0)
  | .text value =>
      readDenoting (fun text =>
        if isOversizedField text then
          .refuse .oversizedInteger
        else
          match integerOfField? text with
          | some number => .valid number
          | none => .refuse .unreadableInteger) value
  | _ => .refuse .notInteger

/-- Words for true, in lower case. -/
def trueWords : List String :=
  ["true", "t", "yes", "y", "on", "1"]

/-- Words for false, in lower case. -/
def falseWords : List String :=
  ["false", "f", "no", "n", "off", "0"]

/-- The truth value of an integer; wider ones than a word are none at all. -/
def booleanOfInteger (value : Int) : Checked Bool :=
  if value = 1 then
    .valid true
  else if value = 0 then
    .valid false
  else if -wordBound ≤ value ∧ value < wordBound then
    .refuse .unreadableBoolean
  else
    .refuse .notBoolean

/-- The truth value of a number, which has to be an integer inside a word. -/
def booleanOfNumber (value : Binary64) : Checked Bool :=
  match value.isIntegral, value.truncate with
  | true, .ok integer =>
      if -wordBound < integer then
        booleanOfInteger integer
      else
        .refuse .notBoolean
  | _, _ => .refuse .notBoolean

/-- Read a truth value; one and zero and some words stand for them. -/
def readBoolean : Json → Checked Bool
  | .bool value => .valid value
  | .integer value => booleanOfInteger value
  | .number value => booleanOfNumber value
  | .text value =>
      readDenoting (fun text =>
        let word := String.ofList (text.toList.map Char.toLower)
        if trueWords.contains word then .valid true
        else if falseWords.contains word then .valid false
        else .refuse .unreadableBoolean) value
  | _ => .refuse .notBoolean

/-- Read a text. -/
def readText : Json → Checked String
  | .text value => .valid value
  | _ => .refuse .notText

/-- Read a text that satisfies a pattern. -/
def readMatching
    (satisfies : List Char → Bool)
    (pattern : String)
    (value : Json) :
    Checked String :=
  (readText value).andThen <| readDenoting fun text =>
    if satisfies text.toList then
      .valid text
    else
      .refuse (.mismatch pattern)

/-- Read an integer above zero. -/
def readPositive (value : Json) : Checked Int :=
  (readInteger value).andThen fun integer =>
    if 0 < integer then
      .valid integer
    else
      .refuse (.notGreater 0)

/-- Read a number that is zero or more; NaN is not. -/
def readNonnegative (value : Json) : Checked Binary64 :=
  (readNumber value).andThen fun number =>
    if Binary64.atMost 0 number then
      .valid number
    else
      .refuse (.notAtLeast 0)

/-- Read a value that may be null. -/
def readNullable
    {α : Type}
    (read : Json → Checked α) :
    Json → Checked (Option α)
  | .null => .valid none
  | value => (read value).map some

/-- Read the items of a list, with the issues of all. -/
def readItemsFrom
    {α : Type}
    (read : Json → Checked α)
    (index : Nat) :
    List Json → Checked (List α)
  | [] => .valid []
  | item :: rest =>
      List.cons
        <$> (read item).within (.item index)
        <*> readItemsFrom read (index + 1) rest

/-- Read a list. -/
def readList
    {α : Type}
    (read : Json → Checked α) :
    Json → Checked (List α)
  | .array items => readItemsFrom read 0 items
  | _ => .refuse .notList

/-- Read an object of the given name. -/
def readObject
    {α : Type}
    (name : String)
    (read : Fields → Checked α) :
    Json → Checked α
  | .object fields => read fields
  | _ => .refuse (.notObject name)

namespace Fields

/-- A field that has to be there. -/
def required
    {α : Type}
    (fields : Fields)
    (name : String)
    (read : Json → Checked α) :
    Checked α :=
  match getField? name fields with
  | some value => (read value).within (.field name)
  | none => (Checked.refuse .missing).within (.field name)

/-- A field with a value for its absence. -/
def withDefault
    {α : Type}
    (fields : Fields)
    (name : String)
    (default : α)
    (read : Json → Checked α) :
    Checked α :=
  match getField? name fields with
  | some value => (read value).within (.field name)
  | none => .valid default

/-- A field that may be absent or null. -/
def optional
    {α : Type}
    (fields : Fields)
    (name : String)
    (read : Json → Checked α) :
    Checked (Option α) :=
  fields.withDefault name none (readNullable read)

end Fields

/-- The least and the greatest value of a parameter. -/
structure Range (α : Type) where
  low : α
  high : α

/-- Numbers that parameters take. -/
class Numeric (α : Type) where
  read : Json → Checked α
  toJson : α → Json
  clamp : Range α → α → α

namespace Binary64

/-- Move a number into a range; NaN moves to the upper end. -/
def clamp
    (range : Range Binary64)
    (value : Binary64) :
    Binary64 :=
  maximum range.low (minimum range.high value)

end Binary64

/-- Move an integer into a range. -/
def clampInteger
    (range : Range Int)
    (value : Int) :
    Int :=
  max range.low (min range.high value)

instance : Numeric Binary64 where
  read := readNumber
  toJson := .number
  clamp := Binary64.clamp

instance : Numeric Int where
  read := readInteger
  toJson := .integer
  clamp := clampInteger

/-- A numeric parameter with a default. -/
structure Parameter (α : Type) where
  name : String
  default : α
  range : Range α

/-- A numeric parameter that may be left out. -/
structure OptionalParameter (α : Type) where
  name : String
  range : Range α

/-- The part of a description that tells the range. -/
def Range.describe
    {α : Type}
    [Numeric α]
    (range : Range α) :
    Fields := [
  ("type", .text "number"),
  ("min", Numeric.toJson range.low),
  ("max", Numeric.toJson range.high)]

namespace Parameter

variable {α : Type} [Numeric α]

/-- Read a value of the parameter and clamp it. -/
def readValue
    (parameter : Parameter α)
    (value : Json) :
    Checked α :=
  (Numeric.read value).map (Numeric.clamp parameter.range)

/-- Read the parameter from an object. -/
def read
    (parameter : Parameter α)
    (fields : Fields) :
    Checked α :=
  fields.withDefault parameter.name parameter.default parameter.readValue

/-- Name, default and range of the parameter. -/
def describe (parameter : Parameter α) : String × Json :=
  (parameter.name,
    .object
      (("default", Numeric.toJson parameter.default) ::
        parameter.range.describe))

end Parameter

namespace OptionalParameter

variable {α : Type} [Numeric α]

/-- Read the parameter from an object and clamp its value. -/
def read
    (parameter : OptionalParameter α)
    (fields : Fields) :
    Checked (Option α) :=
  fields.optional parameter.name fun value =>
    (Numeric.read value).map (Numeric.clamp parameter.range)

/-- Name and range of the parameter. -/
def describe (parameter : OptionalParameter α) : String × Json :=
  (parameter.name,
    .object (("default", .null) :: parameter.range.describe))

end OptionalParameter

/-- Types with a name for each value. -/
class Choice (α : Type) where
  all : List α
  name : α → String

namespace Choice

variable {α : Type} [Choice α]

/-- The value of a name. -/
def find? (name : String) : Option α :=
  (Choice.all : List α).find? fun value => Choice.name value == name

/-- The names of all values. -/
def names (α : Type) [Choice α] : List String :=
  (Choice.all : List α).map Choice.name

/-- Read a value by its name. -/
def read : Json → Checked α
  | .text value =>
      readDenoting (fun text =>
        match find? text with
        | some choice => .valid choice
        | none => .refuse (.notAmong (names α))) value
  | _ => .refuse (.notAmong (names α))

/-- Read a field with a default. -/
def readField
    (fields : Fields)
    (name : String)
    (default : α) :
    Checked α :=
  fields.withDefault name default read

/-- A value as JSON. -/
def toJson (value : α) : Json :=
  .text (Choice.name value)

/-- Name, default and choices of a field. -/
def describe
    (name : String)
    (default : α) :
    String × Json :=
  (name,
    .object [
      ("default", toJson default),
      ("type", .text "string"),
      ("enum", Json.ofTexts (names α))])

end Choice

/-- Name and default of a field without range. -/
def describeDefault
    (name : String)
    (default : Json) :
    String × Json :=
  (name, .object [("default", default)])

/-- Name of a field that has to be there. -/
def describeRequired (name : String) : String × Json :=
  (name, .object [("required", .bool true)])

end Montage
