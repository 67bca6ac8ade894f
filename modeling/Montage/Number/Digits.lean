namespace Montage

/-!
# Decimal digits

Natural numbers and integers as their plain decimal text, and the number that
a run of digits denotes.
-/

/-- The character that writes a digit below ten. -/
def digitChar (digit : Nat) : Char :=
  Char.ofNat (48 + digit)

/-- The digit that an ASCII character stands for, as an offset from `'0'`. -/
def digitOf (character : Char) : Nat :=
  character.toNat - 48

/-- Decimal digits of a number, most significant first, without padding. -/
def decimalDigits (number : Nat) : List Char :=
  if number < 10 then
    [digitChar number]
  else
    decimalDigits (number / 10) ++ [digitChar (number % 10)]

/-- The number denoted by a run of digits; the empty run denotes zero. -/
def decimalValue (digits : List Char) : Nat :=
  digits.foldl (fun total digit => 10 * total + digitOf digit) 0

/-- Decimal text of an integer of any size: a minus sign for negative ones, then
digits. Writers with a limit ask for it first (`isWrittenInteger`). -/
def integerText : Int → List Char
  | .ofNat number => decimalDigits number
  | .negSucc number => '-' :: decimalDigits (number + 1)

/-- Put zeros in front until the text has the given width. -/
def padZeros
    (width : Nat)
    (digits : List Char) :
    List Char :=
  List.replicate (width - digits.length) '0' ++ digits

/-- Decimal text of an integer as a string. -/
def showInteger (number : Int) : String :=
  String.ofList (integerText number)

/-- Decimal text of a natural number as a string. -/
def showNatural (number : Nat) : String :=
  String.ofList (decimalDigits number)

end Montage
