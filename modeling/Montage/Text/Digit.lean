namespace Montage

/-!
# Digits of all scripts

Decimal digits come in runs of ten, one run a script, each from zero to nine;
a number may be written with the digits of any script. Patterns of data fields
know some scripts more. A wider class, which also holds superscripts and circled
digits, tells whether a line is a number.
-/

/-- Code points of the zeros that start the runs of decimal digits. -/
def decimalZeros : List Nat := [
    0x30, 0x660, 0x6F0, 0x7C0, 0x966, 0x9E6, 0xA66, 0xAE6, 0xB66, 0xBE6, 0xC66, 0xCE6,
    0xD66, 0xDE6, 0xE50, 0xED0, 0xF20, 0x1040, 0x1090, 0x17E0, 0x1810, 0x1946, 0x19D0,
    0x1A80, 0x1A90, 0x1B50, 0x1BB0, 0x1C40, 0x1C50, 0xA620, 0xA8D0, 0xA900, 0xA9D0, 0xA9F0,
    0xAA50, 0xABF0, 0xFF10, 0x104A0, 0x10D30, 0x11066, 0x110F0, 0x11136, 0x111D0, 0x112F0,
    0x11450, 0x114D0, 0x11650, 0x116C0, 0x11730, 0x118E0, 0x11950, 0x11C50, 0x11D50,
    0x11DA0, 0x16A60, 0x16AC0, 0x16B50, 0x1D7CE, 0x1D7D8, 0x1D7E2, 0x1D7EC, 0x1D7F6,
    0x1E140, 0x1E2F0, 0x1E950, 0x1FBF0]

/-- Code points of further zeros, of scripts that only patterns know. -/
def patternZeros : List Nat := [
    0x10D40, 0x116D0, 0x116DA, 0x11BF0, 0x11F50, 0x1CCF0, 0x1E4F0, 0x1E5F1]

/-- First and last code points of digits that are not decimal digits. -/
def otherDigits : List (Nat × Nat) := [
    (0xB2, 0xB3), (0xB9, 0xB9), (0x1369, 0x1371), (0x19DA, 0x19DA), (0x2070, 0x2070),
    (0x2074, 0x2079), (0x2080, 0x2089), (0x2460, 0x2468), (0x2474, 0x247C),
    (0x2488, 0x2490), (0x24EA, 0x24EA), (0x24F5, 0x24FD), (0x24FF, 0x24FF),
    (0x2776, 0x277E), (0x2780, 0x2788), (0x278A, 0x2792), (0x10A40, 0x10A43),
    (0x10E60, 0x10E68), (0x11052, 0x1105A), (0x1F100, 0x1F10A)]

/-- The value of a decimal digit of any script. -/
def decimalDigit? (character : Char) : Option Nat :=
  (decimalZeros.find? fun start =>
      start ≤ character.toNat && character.toNat < start + 10).map
    fun start => character.toNat - start

/-- Whether a character is a decimal digit of any script. -/
def isDecimalDigit (character : Char) : Bool :=
  (decimalDigit? character).isSome

/-- Whether a pattern takes a character as a decimal digit. -/
def isPatternDigit (character : Char) : Bool :=
  isDecimalDigit character ||
    patternZeros.any fun start =>
      start ≤ character.toNat && character.toNat < start + 10

/-- Whether a character is a digit in the wider sense. -/
def isAnyDigit (character : Char) : Bool :=
  isDecimalDigit character ||
    otherDigits.any fun range =>
      range.1 ≤ character.toNat && character.toNat ≤ range.2

/-- The ASCII digit of the same value; other characters stay. -/
def asciiDigit (character : Char) : Char :=
  match decimalDigit? character with
  | some value => Char.ofNat (48 + value)
  | none => character

/-- The ten ASCII digits. -/
def isAsciiDigit (character : Char) : Bool :=
  '0' ≤ character && character ≤ '9'

/-- The value of a decimal digit is below ten. -/
theorem decimalDigit?_lt
    {character : Char}
    {value : Nat}
    (found : decimalDigit? character = some value) :
    value < 10 := by
  obtain ⟨start, isFound, rfl⟩ := Option.map_eq_some_iff.1 found
  have inRun := List.find?_some isFound
  simp only [Bool.and_eq_true, decide_eq_true_eq] at inRun
  omega

/-- An ASCII digit is a decimal digit. -/
theorem isDecimalDigit_of_isAsciiDigit
    {character : Char}
    (isDigit : isAsciiDigit character = true) :
    isDecimalDigit character = true := by
  simp only [isAsciiDigit, Bool.and_eq_true, decide_eq_true_eq, Char.le_def,
    UInt32.le_iff_toNat_le] at isDigit
  have above : 48 ≤ character.toNat := isDigit.1
  have below : character.toNat ≤ 57 := isDigit.2
  simp only [isDecimalDigit, decimalDigit?, Option.isSome_map,
    List.find?_isSome]
  refine ⟨0x30, by decide, ?_⟩
  simp only [Bool.and_eq_true, decide_eq_true_eq]
  omega

end Montage
