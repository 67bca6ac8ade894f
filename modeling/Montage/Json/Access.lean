import Montage.Json.Value

namespace Montage

/-!
# Access to descriptions

A description is a JSON value of which every part may be absent; what is absent
or has another type gives way to a default.
-/

namespace Json

/-- The items of an array; any other value has none. -/
def items : Json → List Json
  | array items => items
  | _ => []

/-- The fields of an object; any other value has none. -/
def entries : Json → Fields
  | object fields => fields
  | _ => []

/-- A field, or null. -/
def member
    (value : Json)
    (name : String) :
    Json :=
  (value.field? name).getD null

/-- A field that is a text. -/
def textAt?
    (value : Json)
    (name : String) :
    Option String :=
  (value.field? name).bind text?

/-- A field that is a text, or a default. -/
def textOr
    (value : Json)
    (name default : String) :
    String :=
  (value.textAt? name).getD default

/-- The value as an integer, if it is one. -/
def integer? : Json → Option Int
  | integer value => some value
  | _ => none

/-- A field that is an integer. -/
def integerAt?
    (value : Json)
    (name : String) :
    Option Int :=
  (value.field? name).bind integer?

/-- A field that is an integer, or a default. -/
def integerOr
    (value : Json)
    (name : String)
    (default : Int) :
    Int :=
  (value.integerAt? name).getD default

/-- Whether the value is the truth value true. -/
def isTrue : Json → Bool
  | bool value => value
  | _ => false

/-- Whether a field is the truth value true. -/
def isTrueAt
    (value : Json)
    (name : String) :
    Bool :=
  (value.member name).isTrue

/-- The items of an array that are texts. -/
def texts (value : Json) : List String :=
  value.items.filterMap text?

/-- An optional value as JSON, null when absent. -/
def ofOption
    {α : Type}
    (toJson : α → Json) :
    Option α → Json
  | some value => toJson value
  | none => null

end Json

end Montage
