import Montage.Json.Value
import Montage.Number.Decimal
import Montage.Text.Quoted

namespace Montage

/-!
# Writing JSON

Compact text with ASCII characters only. Numbers are written with the fewest
digits that read back; NaN and the infinities have their own words.
-/

namespace Json

/-- The escape of one UTF-16 code unit. -/
def unitEscape (unit : Nat) : List Char :=
  '\\' :: 'u' :: hexDigits 4 unit

/-- One character inside a string. -/
def writeCharacter (character : Char) : List Char :=
  let code := numberOf character
  if character = '"' ∨ character = '\\' then
    ['\\', character]
  else if 0x20 ≤ code ∧ code < 0x7F then
    [character]
  else if code < 0x10000 then
    unitEscape code
  else
    unitEscape (0xD800 + (code - 0x10000) / 0x400) ++
      unitEscape (0xDC00 + (code - 0x10000) % 0x400)

/-- A string in double quotes. -/
def writeString (value : String) : List Char :=
  '"' :: value.toList.flatMap writeCharacter ++ ['"']

/-- A number as JSON text. -/
def writeNumber : Binary64 → List Char
  | .nan => "NaN".toList
  | .infinite negative => withSign negative "Infinity".toList
  | finite => finite.shortestText

/-- Put commas between texts and brackets around them. -/
def writeSequence
    (opening closing : Char)
    (items : List (List Char)) :
    List Char :=
  opening :: (List.intercalate [','] items) ++ [closing]

mutual

/-- A value as compact JSON text. -/
def writeValue : Json → List Char
  | null => "null".toList
  | bool true => "true".toList
  | bool false => "false".toList
  | integer value => integerText value
  | number value => writeNumber value
  | text value => writeString value
  | array items => writeSequence '[' ']' (writeItems items)
  | object fields => writeSequence '{' '}' (writeFields fields)

/-- The items of an array. -/
def writeItems : List Json → List (List Char)
  | [] => []
  | item :: rest => writeValue item :: writeItems rest

/-- The fields of an object. -/
def writeFields : List (String × Json) → List (List Char)
  | [] => []
  | (name, value) :: rest =>
      (writeString name ++ ':' :: writeValue value) :: writeFields rest

end

/-- A value as a line of text. -/
def write (value : Json) : String :=
  String.ofList (writeValue value)

end Json

end Montage
