import Montage.Number.Binary64

namespace Montage

/-!
# JSON values

Values of the exchange format. Integers and binary64 numbers are distinct, and
an object keeps its fields in the order in which their names first came.
-/

/-- A JSON value. -/
inductive Json
  | null
  | bool (value : Bool)
  | integer (value : Int)
  | number (value : Binary64)
  | text (value : String)
  | array (items : List Json)
  | object (fields : List (String × Json))
deriving Inhabited

/-- The named values of an object. -/
abbrev Fields := List (String × Json)

/-- Set a field: a known name keeps its place, a new one goes to the end. -/
def setField
    {α : Type}
    (name : String)
    (value : α) :
    List (String × α) → List (String × α)
  | [] => [(name, value)]
  | field :: rest =>
      if field.1 = name then
        (name, value) :: rest
      else
        field :: setField name value rest

/-- The value of a field, if there is one of that name. -/
def getField?
    {α : Type}
    (name : String) :
    List (String × α) → Option α
  | [] => none
  | field :: rest =>
      if field.1 = name then some field.2 else getField? name rest

/-- Fields from pairs in order, where later values replace earlier ones. -/
def fieldsOf
    {α : Type}
    (pairs : List (String × α)) :
    List (String × α) :=
  pairs.foldl (fun fields pair => setField pair.1 pair.2 fields) []

/-- Setting a field makes its value the one that is found. -/
theorem getField?_setField_self
    {α : Type}
    (name : String)
    (value : α)
    (fields : List (String × α)) :
    getField? name (setField name value fields) = some value := by
  induction fields with
  | nil => simp [setField, getField?]
  | cons field rest inductionHypothesis =>
      by_cases same : field.1 = name
      · simp [setField, getField?, same]
      · simp [setField, getField?, same, inductionHypothesis]

/-- Setting a field leaves every other field as it was. -/
theorem getField?_setField_of_ne
    {α : Type}
    {name other : String}
    (different : other ≠ name)
    (value : α)
    (fields : List (String × α)) :
    getField? other (setField name value fields) = getField? other fields := by
  induction fields with
  | nil => simp [setField, getField?, Ne.symm different]
  | cons field rest inductionHypothesis =>
      by_cases same : field.1 = name
      · simp [setField, getField?, same, Ne.symm different]
      · simp [setField, getField?, same, inductionHypothesis]

namespace Json

/-- The fields of an object. -/
def fields? : Json → Option (List (String × Json))
  | object fields => some fields
  | _ => none

/-- A field of an object. -/
def field?
    (name : String)
    (value : Json) :
    Option Json :=
  value.fields?.bind (getField? name)

/-- The value as text, if it is text. -/
def text? : Json → Option String
  | text value => some value
  | _ => none

/-- An optional text, null when absent. -/
def ofText? : Option String → Json
  | some value => text value
  | none => null

/-- An optional number, null when absent. -/
def ofNumber? : Option Binary64 → Json
  | some value => number value
  | none => null

/-- An optional integer, null when absent. -/
def ofInteger? : Option Int → Json
  | some value => integer value
  | none => null

/-- A list of texts. -/
def ofTexts (texts : List String) : Json :=
  array (texts.map text)

mutual

/-- Whether every number in a value is finite. -/
def isFinite : Json → Bool
  | number value => value.isFinite
  | array items => areFinite items
  | object fields => fieldsAreFinite fields
  | _ => true

/-- Whether every number in values is finite. -/
def areFinite : List Json → Bool
  | [] => true
  | value :: rest => value.isFinite && areFinite rest

/-- Whether every number in fields is finite. -/
def fieldsAreFinite : List (String × Json) → Bool
  | [] => true
  | (_, value) :: rest => value.isFinite && fieldsAreFinite rest

end

end Json

end Montage
