import Montage.Json.Value
import Montage.Number.Numeral
import Montage.Text.Quoted
import Montage.Text.Surrogate

namespace Montage

/-!
# Reading JSON

A reader that tells where and why it stops. Beyond the standard it takes `NaN`,
`Infinity` and `-Infinity`; of fields with one name the last value counts. Two
limits keep reading cheap: on the digits of an integer, and on the nesting of
arrays and objects.
-/

namespace Json

/-- Why a text is no JSON document. -/
inductive ReadCause
  | expectingValue
  | expectingName
  | expectingColon
  | expectingComma
  | extraData
  | byteOrderMark
  | unterminatedString
  | controlCharacter
  | invalidEscape
  | invalidUnicodeEscape
deriving DecidableEq, Repr

/-- The text that reports a cause. -/
def ReadCause.message : ReadCause → String
  | expectingValue => "Expecting value"
  | expectingName => "Expecting property name enclosed in double quotes"
  | expectingColon => "Expecting ':' delimiter"
  | expectingComma => "Expecting ',' delimiter"
  | extraData => "Extra data"
  | byteOrderMark => "Unexpected UTF-8 BOM (decode using utf-8-sig)"
  | unterminatedString => "Unterminated string starting at"
  | controlCharacter => "Invalid control character at"
  | invalidEscape => "Invalid \\escape"
  | invalidUnicodeEscape => "Invalid \\uXXXX escape"

/-- What holds other values. -/
inductive Container
  | array
  | object
deriving DecidableEq, Repr

/-- The name of a container. -/
def Container.name : Container → String
  | .array => "array"
  | .object => "object"

/--
Why a document is not read: a cause at an offset in characters, an integer
with too many digits, or a container that is nested too deeply.
-/
inductive ReadError
  | malformed (cause : ReadCause) (offset : Nat)
  | tooManyDigits (count : Nat)
  | tooDeep (container : Container)
deriving DecidableEq, Repr

/-- How deeply arrays and objects may be nested. -/
def nestingLimit : Nat := 980

/-- The rest of a document and its offset. -/
structure Cursor where
  rest : List Char
  offset : Nat

namespace Cursor

/-- Move forward by a number of characters. -/
def advance
    (cursor : Cursor)
    (count : Nat) :
    Cursor where
  rest := cursor.rest.drop count
  offset := cursor.offset + count

/-- Characters that may stand between tokens. -/
def isSeparator (character : Char) : Bool :=
  character == ' ' || character == '\t' || character == '\n' ||
    character == '\r'

/-- Skip the space before a token. -/
def skipSpace (cursor : Cursor) : Cursor :=
  cursor.advance (cursor.rest.takeWhile isSeparator).length

/-- Fail at this place. -/
def fail
    {α : Type}
    (cursor : Cursor)
    (cause : ReadCause) :
    Except ReadError α :=
  .error (.malformed cause cursor.offset)

end Cursor

/-- The character that a one-letter escape stands for. -/
def escapedCharacter? : Char → Option Char
  | '"' => some '"'
  | '\\' => some '\\'
  | '/' => some '/'
  | 'b' => some '\x08'
  | 'f' => some '\x0C'
  | 'n' => some '\n'
  | 'r' => some '\r'
  | 't' => some '\t'
  | _ => none

/-- The number that four hexadecimal digits denote. -/
def fourHexDigits? : List Char → Option Nat
  | first :: second :: third :: fourth :: _ => do
      let a ← hexValue? first
      let b ← hexValue? second
      let c ← hexValue? third
      let d ← hexValue? fourth
      return ((a * 16 + b) * 16 + c) * 16 + d
  | _ => none

/-- What follows a backslash: the character, and how many were read. -/
inductive Escape
  | character (value : Char) (length : Nat)
  | unknown
  | malformedUnit
  | malformedSecondUnit
  | missing

/-- Read what follows a backslash. -/
def readEscape : List Char → Escape
  | [] => .missing
  | 'u' :: rest =>
      if rest.length ≤ 4 then
        .malformedUnit
      else
        match fourHexDigits? rest with
        | none => .malformedUnit
        | some unit =>
            match opensSurrogates unit && decide (6 < (rest.drop 4).length),
                rest.drop 4 with
            | true, '\\' :: 'u' :: second =>
                match fourHexDigits? second with
                | none => .malformedSecondUnit
                | some low =>
                    if closesSurrogates low then
                      .character (joinSurrogates unit low) 11
                    else
                      .character (characterOf unit) 5
            | _, _ => .character (characterOf unit) 5
  | letter :: _ =>
      match escapedCharacter? letter with
      | some value => .character value 1
      | none => .unknown

/--
Read a string after its opening quote. The countdown passes over characters
that an escape has read already; `opening` is the offset of the quote.
-/
def readString
    (opening : Nat)
    (held offset : Nat) :
    List Char → Except ReadError (List Char × Cursor)
  | [] => .error (.malformed .unterminatedString opening)
  | character :: rest =>
      match held with
      | remaining + 1 => readString opening remaining (offset + 1) rest
      | 0 =>
          if character = '"' then
            .ok ([], ⟨rest, offset + 1⟩)
          else if character = '\\' then
            match readEscape rest with
            | .missing => .error (.malformed .unterminatedString opening)
            | .unknown => .error (.malformed .invalidEscape offset)
            | .malformedUnit =>
                .error (.malformed .invalidUnicodeEscape (offset + 1))
            | .malformedSecondUnit =>
                .error (.malformed .invalidUnicodeEscape (offset + 7))
            | .character value length =>
                (readString opening length (offset + 1) rest).map fun result =>
                  (value :: result.1, result.2)
          else if character.toNat ≤ 0x1F then
            .error (.malformed .controlCharacter offset)
          else
            (readString opening 0 (offset + 1) rest).map fun result =>
              (character :: result.1, result.2)

/-- Length of the digits that continue an unsigned integer. -/
def integerLength : List Char → Nat
  | '0' :: _ => 1
  | digits => (digits.takeWhile isAsciiDigit).length

/-- Length of a point and at least one digit. -/
def fractionLength : List Char → Nat
  | '.' :: rest =>
      let digits := (rest.takeWhile isAsciiDigit).length
      if digits = 0 then 0 else digits + 1
  | _ => 0

/-- Length of an exponent mark, a sign and at least one digit. -/
def exponentLength : List Char → Nat
  | mark :: rest =>
      if mark = 'e' ∨ mark = 'E' then
        let signLength :=
          match rest with
          | '+' :: _ => 1
          | '-' :: _ => 1
          | _ => 0
        let digits := ((rest.drop signLength).takeWhile isAsciiDigit).length
        if digits = 0 then 0 else 1 + signLength + digits
      else
        0
  | [] => 0

/-- A number in a text: its value, unless it is too long, and its length. -/
structure WrittenNumber where
  value : Except ReadError Json
  length : Nat

/-- The integer of a sign and digits, of which there are not too many. -/
def integerOfDigits
    (negative : Bool)
    (digits : List Char) :
    Except ReadError Json :=
  if digitLimit < digits.length then
    .error (.tooManyDigits digits.length)
  else
    let magnitude := decimalValue digits
    .ok (integer (if negative then -(magnitude : Int) else magnitude))

/-- Read a number. -/
def readNumber? (text : List Char) : Option WrittenNumber :=
  let signed := takeSign text
  let signLength := if signed.1 then 1 else 0
  let body := text.drop signLength
  let whole := integerLength body
  if whole = 0 then
    none
  else
    let fraction := fractionLength (body.drop whole)
    let exponent := exponentLength (body.drop (whole + fraction))
    let length := signLength + whole + fraction + exponent
    if fraction + exponent = 0 then
      some ⟨integerOfDigits signed.1 (body.take whole), length⟩
    else
      (readFloat? (text.take length)).map fun value =>
        ⟨.ok (number value), length⟩

/-- Words that are values. -/
def constants : List (String × Json) := [
  ("null", null),
  ("true", bool true),
  ("false", bool false),
  ("NaN", number .nan),
  ("Infinity", number (.infinite false)),
  ("-Infinity", number (.infinite true))]

/-- Read a word or a number. -/
def readScalar (cursor : Cursor) : Except ReadError (Json × Cursor) :=
  match constants.find? fun constant =>
      constant.1.toList.isPrefixOf cursor.rest with
  | some constant => .ok (constant.2, cursor.advance constant.1.length)
  | none =>
      match readNumber? cursor.rest with
      | some written =>
          written.value.map fun value =>
            (value, cursor.advance written.length)
      | none => cursor.fail .expectingValue

mutual

/--
Read a value; `nesting` bounds the containers that may open, and `steps` the
recursion.
-/
def readValue :
    Nat → Nat → Cursor → Except ReadError (Json × Cursor)
  | 0, _, cursor => cursor.fail .expectingValue
  | steps + 1, nesting, cursor =>
      match cursor.rest, nesting with
      | '"' :: rest, _ =>
          (readString cursor.offset 0 (cursor.offset + 1) rest).map
            fun result => (text (String.ofList result.1), result.2)
      | '{' :: _, 0 => .error (.tooDeep .object)
      | '{' :: _, inner + 1 =>
          let inside := (cursor.advance 1).skipSpace
          match inside.rest with
          | '}' :: _ => .ok (object [], inside.advance 1)
          | _ => readFields steps inner [] inside
      | '[' :: _, 0 => .error (.tooDeep .array)
      | '[' :: _, inner + 1 =>
          let inside := (cursor.advance 1).skipSpace
          match inside.rest with
          | ']' :: _ => .ok (array [], inside.advance 1)
          | _ => readItems steps inner [] inside
      | _, _ => readScalar cursor

/-- Read the remaining fields of an object, at least one. -/
def readFields :
    Nat → Nat → List (String × Json) → Cursor →
      Except ReadError (Json × Cursor)
  | 0, _, _, cursor => cursor.fail .expectingName
  | steps + 1, nesting, fields, cursor =>
      match cursor.rest with
      | '"' :: rest => do
          let name ← readString cursor.offset 0 (cursor.offset + 1) rest
          let colon := name.2.skipSpace
          match colon.rest with
          | ':' :: _ => do
              let value ←
                readValue steps nesting (colon.advance 1).skipSpace
              let extended :=
                setField (String.ofList name.1) value.1 fields
              let after := value.2.skipSpace
              match after.rest with
              | '}' :: _ => .ok (object extended, after.advance 1)
              | ',' :: _ =>
                  readFields steps nesting extended
                    (after.advance 1).skipSpace
              | _ => after.fail .expectingComma
          | _ => colon.fail .expectingColon
      | _ => cursor.fail .expectingName

/-- Read the remaining items of an array, at least one. -/
def readItems :
    Nat → Nat → List Json → Cursor → Except ReadError (Json × Cursor)
  | 0, _, _, cursor => cursor.fail .expectingValue
  | steps + 1, nesting, items, cursor => do
      let value ← readValue steps nesting cursor
      let after := value.2.skipSpace
      match after.rest with
      | ']' :: _ => .ok (array (items ++ [value.1]), after.advance 1)
      | ',' :: _ =>
          readItems steps nesting (items ++ [value.1])
            (after.advance 1).skipSpace
      | _ => after.fail .expectingComma

end

/-- Read the characters of a whole document. -/
def readCharacters (characters : List Char) : Except ReadError Json :=
  if characters.head? = some '\uFEFF' then
    .error (.malformed .byteOrderMark 0)
  else do
    let start : Cursor := ⟨characters, 0⟩
    let value ←
      readValue (2 * characters.length + 2) nestingLimit start.skipSpace
    let after := value.2.skipSpace
    if after.rest.isEmpty then
      .ok value.1
    else
      after.fail .extraData

/-- Read a whole document. -/
def read (document : String) : Except ReadError Json :=
  readCharacters document.toList

/-- Read a document that may open with a byte order mark. -/
def readMarked : List Char → Except ReadError Json
  | '\uFEFF' :: rest => readCharacters rest
  | characters => readCharacters characters

/-- A cause with its line and column, both counted from one. -/
def ReadCause.report
    (cause : ReadCause)
    (offset : Nat)
    (document : String) :
    String :=
  let before := document.toList.take offset
  let line := before.count '\n' + 1
  let column := (before.reverse.takeWhile (· ≠ '\n')).length + 1
  cause.message ++ ": line " ++ showNatural line ++ " column " ++
    showNatural column ++ " (char " ++ showNatural offset ++ ")"

end Json

end Montage
