import Montage.Number.Decimal
import Montage.Text.Blank
import Montage.Text.Digit

namespace Montage

/-!
# Reading numerals

Numbers from text. One grammar serves two dialects: free text, where blanks
around the numeral and the digits of every script count, and data fields, which
take ASCII digits only. In both an underscore may stand between two digits.
-/

/-- Whether each underscore stands between two digits. -/
def underscoresBetweenDigits
    (previousIsDigit : Bool) :
    List Char → Bool
  | [] => true
  | character :: rest =>
      if character = '_' then
        previousIsDigit &&
          (rest.head?.any isAsciiDigit) &&
          underscoresBetweenDigits false rest
      else
        underscoresBetweenDigits (isAsciiDigit character) rest

/-- Remove underscores that stand between digits; others spoil the numeral. -/
def withoutUnderscores? (text : List Char) : Option (List Char) :=
  if underscoresBetweenDigits false text then
    some (text.filter (· ≠ '_'))
  else
    none

/-- A sign, if there is one: whether it is a minus, and the rest. -/
def takeSign : List Char → Bool × List Char
  | '-' :: rest => (true, rest)
  | '+' :: rest => (false, rest)
  | text => (false, text)

/-- A nonempty run of ASCII digits and nothing else. -/
def wholeDigits? (text : List Char) : Option Nat :=
  if !text.isEmpty && text.all isAsciiDigit then
    some (decimalValue text)
  else
    none

/-- The exponent after the mark; no mark is exponent zero. -/
def readExponent? : List Char → Option Int
  | [] => some 0
  | mark :: rest =>
      if mark = 'e' ∨ mark = 'E' then
        let signed := takeSign rest
        (wholeDigits? signed.2).map fun digits =>
          if signed.1 then -(digits : Int) else digits
      else
        none

/-- A decimal number without sign: digits, a point, digits and an exponent. -/
def readDecimal?
    (negative : Bool)
    (text : List Char) :
    Option Binary64 :=
  let whole := text.takeWhile isAsciiDigit
  let afterWhole := text.dropWhile isAsciiDigit
  let fraction :=
    match afterWhole with
    | '.' :: rest => rest.takeWhile isAsciiDigit
    | _ => []
  let afterFraction :=
    match afterWhole with
    | '.' :: rest => rest.dropWhile isAsciiDigit
    | _ => afterWhole
  if whole.isEmpty && fraction.isEmpty then
    none
  else
    (readExponent? afterFraction).map fun exponent =>
      Binary64.ofDecimal negative (decimalValue (whole ++ fraction))
        (exponent - fraction.length)

/-- A number of the common grammar, in ASCII and without blanks around it. -/
def readFloat? (text : List Char) : Option Binary64 :=
  let signed := takeSign text
  let name := String.ofList (signed.2.map Char.toLower)
  if name = "inf" ∨ name = "infinity" then
    some (.infinite signed.1)
  else if name = "nan" then
    some .nan
  else
    (withoutUnderscores? signed.2).bind (readDecimal? signed.1)

/-- An integer of the common grammar, in ASCII and without blanks around it. -/
def readInteger? (text : List Char) : Option Int :=
  let signed := takeSign text
  ((withoutUnderscores? signed.2).bind wholeDigits?).map fun digits =>
    if signed.1 then -(digits : Int) else digits

/-- The most digits that a written integer may have. -/
def digitLimit : Nat := 4300

/-- Whether an integer has few enough digits to be written. -/
def isWrittenInteger (number : Int) : Bool :=
  number.natAbs < powerOfTen digitLimit

/-- Why a text is no numeral, or a number has none. -/
inductive NumeralError
  | notANumber (text : String)
  | notAnInteger (text : String)
  | tooManyDigits (count : Nat)
  | unwritten
deriving DecidableEq, Repr

/-- Free text as the grammar wants it: without white space around it, and with
ASCII digits. -/
def plainNumeral (text : List Char) : List Char :=
  (trimWhere isSpace text).map asciiDigit

/-- Read a number from free text. -/
def floatOfText (text : String) : Except NumeralError Binary64 :=
  match readFloat? (plainNumeral text.toList) with
  | some number => .ok number
  | none => .error (.notANumber text)

/-- The digits that open a text, with single underscores between them. -/
def leadingDigits (text : List Char) : List Char :=
  let run := text.takeWhile fun character =>
    isAsciiDigit character || character = '_'
  if underscoresBetweenDigits false run then
    run.filter isAsciiDigit
  else
    []

/-- Read an integer from free text; its digits are counted first. -/
def integerOfText (text : String) : Except NumeralError Int :=
  let numeral := plainNumeral text.toList
  let count := (leadingDigits (takeSign numeral).2).length
  if digitLimit < count then
    .error (.tooManyDigits count)
  else
    match readInteger? numeral with
    | some number => .ok number
    | none => .error (.notAnInteger text)

/-- A data field as the grammar wants it: trimmed. -/
def fieldNumeral (text : String) : List Char :=
  trimWhere isSpace text.toList

/-- Read a number from a data field. -/
def floatOfField? (text : String) : Option Binary64 :=
  readFloat? (fieldNumeral text)

/-- The numeral before a point that only zeros follow. -/
def withoutZeroFraction (numeral : List Char) : List Char :=
  match numeral.dropWhile (· ≠ '.') with
  | _ :: zeros =>
      if !zeros.isEmpty && zeros.all (· == '0') then
        numeral.takeWhile (· ≠ '.')
      else
        numeral
  | [] => numeral

/-- Read an integer from a data field, which may end in a point and zeros. -/
def integerOfField? (text : String) : Option Int :=
  readInteger? (withoutZeroFraction (fieldNumeral text))

/-- Whether a numeral opens with too many digits, zeros in front not counted. -/
def opensOversized (numeral : List Char) : Bool :=
  let digits := (takeSign numeral).2.dropWhile (· == '0')
  digitLimit < (digits.takeWhile isAsciiDigit).length

/-- Whether a data field opens like an integer that has too many digits. -/
def isOversizedField (text : String) : Bool :=
  let numeral := withoutZeroFraction (fieldNumeral text)
  opensOversized numeral ||
    (withoutUnderscores? numeral).any opensOversized

end Montage
