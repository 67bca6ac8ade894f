namespace Montage

/-!
# Lone surrogates

Two surrogates together denote one character, and a surrogate alone denotes
none. Some formats let a surrogate stand alone in a text; a private character
stands for it there, so that it can be told again. The private characters from
U+10E000 to U+10E7FF are given up for this: no text has them for themselves, and
where one is found it is a lone surrogate.
-/

/-- Whether a number of two bytes opens a pair of surrogates. -/
def opensSurrogates (unit : Nat) : Bool :=
  0xD800 ≤ unit && unit ≤ 0xDBFF

/-- Whether a number of two bytes closes a pair of surrogates. -/
def closesSurrogates (unit : Nat) : Bool :=
  0xDC00 ≤ unit && unit ≤ 0xDFFF

/-- Distance from a surrogate to the private character that stands for it. -/
def surrogateDistance : Nat :=
  0x100800

/-- The character of a number; a private one stands for a lone surrogate. -/
def characterOf (unit : Nat) : Char :=
  if opensSurrogates unit || closesSurrogates unit then
    Char.ofNat (unit + surrogateDistance)
  else
    Char.ofNat unit

/-- The number of a character; that of a lone surrogate if it stands for one. -/
def numberOf (character : Char) : Nat :=
  let unit := character.toNat - surrogateDistance
  if opensSurrogates unit || closesSurrogates unit then
    unit
  else
    character.toNat

/-- Whether a character stands for a lone surrogate, as those from U+10E000 to
U+10E7FF do and no other ones. -/
def isLoneSurrogate (character : Char) : Bool :=
  numberOf character ≠ character.toNat

/-- Whether a lone surrogate stands for a byte that belongs to no character. -/
def standsForByte (character : Char) : Bool :=
  isLoneSurrogate character && 0xDC80 ≤ numberOf character &&
    numberOf character ≤ 0xDCFF

/-- Lone surrogates in a row: where they stand and which they are. -/
structure SurrogateRun where
  start : Nat
  units : List Nat
deriving DecidableEq, Repr

/-- The lone surrogates from the first character of a kind. -/
def surrogatesFrom?
    (opens : Char → Bool)
    (text : List Char) :
    Option SurrogateRun :=
  let rest := text.dropWhile (! opens ·)
  if rest.isEmpty then
    none
  else
    some {
      start := text.length - rest.length
      units := (rest.takeWhile isLoneSurrogate).map numberOf }

/-- The first lone surrogates of a text. -/
def firstSurrogates? : List Char → Option SurrogateRun :=
  surrogatesFrom? isLoneSurrogate

/-- Whether a character is a lone surrogate that no file name can hold. -/
def isBareSurrogate (character : Char) : Bool :=
  isLoneSurrogate character && !standsForByte character

/-- The character that a pair of surrogates denotes. -/
def joinSurrogates
    (high low : Nat) :
    Char :=
  Char.ofNat (0x10000 + (high - 0xD800) * 0x400 + (low - 0xDC00))

end Montage
