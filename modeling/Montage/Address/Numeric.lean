import Montage.Number.Digits
import Montage.Text.Digit
import Montage.Text.Quoted
import Montage.Text.Split

namespace Montage

/-!
# Numeric hosts

A host may be told by numbers: four decimal ones with dots between them, or up
to eight hexadecimal ones with colons between them, of which a run of zeros may
be left out.
-/

/-- Whether a text is a number of an address of four numbers. -/
def isByteNumber (text : List Char) : Bool :=
  !text.isEmpty && text.all isAsciiDigit && decide (text.length ≤ 3) &&
    (text.length == 1 || text.head? != some '0') &&
    decide (decimalValue text ≤ 255)

/-- Whether a host is four numbers with dots between them. -/
def isFourNumbers (host : List Char) : Bool :=
  let numbers := splitAtChar '.' host
  numbers.length == 4 && numbers.all isByteNumber

/-- Whether a text is a number of an address of eight numbers. -/
def isHexNumber (text : List Char) : Bool :=
  !text.isEmpty && decide (text.length ≤ 4) &&
    text.all fun character => (hexValue? character).isSome

/-- The numbers of a host of hexadecimal numbers, where four decimal ones at
the end stand for the last two. -/
def hexParts (host : List Char) : Option (List (List Char)) :=
  let parts := splitAtChar ':' host
  match parts.getLast? with
  | some last =>
      if parts.length < 3 then
        none
      else if !last.contains '.' then
        some parts
      else if isFourNumbers last then
        some (parts.dropLast ++ [['0'], ['0']])
      else
        none
  | none => none

/-- Whether parts on one side of the gap are numbers; an end may be empty if
nothing else is on its side. -/
def isSide (parts : List (List Char)) : Bool :=
  parts == [[]] || parts.all isHexNumber

/-- Whether parts are the numbers of a host, with at most one gap. -/
def areHexParts (parts : List (List Char)) : Bool :=
  let inner := (parts.drop 1).dropLast
  match inner.idxOf? [] with
  | none => parts.length == 8 && parts.all isHexNumber
  | some gap =>
      let before := parts.take (gap + 1)
      let after := parts.drop (gap + 2)
      let told := (before ++ after).filter (! ·.isEmpty)
      isSide before && isSide after && decide (told.length < 8)

/-- The part of a host before the name of a network, if that name is sound. -/
def withoutZone? (host : List Char) : Option (List Char) :=
  match cutAtChar? '%' host with
  | none => some host
  | some (address, zone) =>
      if zone.isEmpty || zone.contains '%' then none else some address

/-- Whether a host is hexadecimal numbers with colons between them. -/
def isEightNumbers (host : List Char) : Bool :=
  ((withoutZone? host).bind hexParts).any areHexParts

/-- The runs of digits of a text, cut at every other character. -/
def digitRuns : List Char → List (List Char)
  | [] => [[]]
  | character :: rest =>
      if isAsciiDigit character then
        match digitRuns rest with
        | [] => [[character]]
        | run :: others => (character :: run) :: others
      else
        [] :: digitRuns rest

/--
Whether a host looks like four numbers with some character between each two:
what is no digit separates, and further digits may do so.
-/
def resemblesFourNumbers (host : List Char) : Bool :=
  let runs := digitRuns host
  let spare := runs.foldl (fun spare run => spare + (run.length - 1) / 2) 0
  runs.all (! ·.isEmpty) && decide (runs.length ≤ 4) &&
    decide (4 ≤ runs.length + spare)

end Montage
