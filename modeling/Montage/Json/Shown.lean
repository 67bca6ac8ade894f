import Montage.Json.Value
import Montage.Number.Decimal
import Montage.Text.Quoted

namespace Montage

/-!
# Values inside texts

How a value is shown inside a text, and whether it counts as given at all.
-/

namespace Json

/-- Whether a value counts as given: no null, no zero, nothing empty. -/
def isGiven : Json → Bool
  | .null => false
  | .bool value => value
  | .integer value => value ≠ 0
  | .number value => !value.isZero
  | .text value => !value.isEmpty
  | .array items => !items.isEmpty
  | .object fields => !fields.isEmpty

mutual

/-- A value as it is shown inside a text. -/
def shown : Json → String
  | .null => "None"
  | .bool value => if value then "True" else "False"
  | .integer value => showInteger value
  | .number value => value.toText
  | .text value => quoted value
  | .array items => "[" ++ ", ".intercalate (shownItems items) ++ "]"
  | .object fields => "\x7b" ++ ", ".intercalate (shownFields fields) ++ "\x7d"

/-- Items as they are shown inside a text. -/
def shownItems : List Json → List String
  | [] => []
  | item :: rest => item.shown :: shownItems rest

/-- Fields as they are shown inside a text. -/
def shownFields : List (String × Json) → List String
  | [] => []
  | (name, value) :: rest =>
      (quoted name ++ ": " ++ value.shown) :: shownFields rest

end

/-- A value as a text of its own; a text stands for itself. -/
def plainText : Json → String
  | .text value => value
  | value => value.shown

/-- The text of a value that counts as given. -/
def givenText? (value : Json) : Option String :=
  if value.isGiven then some value.plainText else none

end Json

end Montage
