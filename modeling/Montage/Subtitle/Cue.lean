import Montage.Number.Binary64
import Montage.Text.Digit
import Montage.Text.Split

namespace Montage

/-!
# Cues

A cue is a text that is shown from one time to another. Times are seconds.
Cues are read from subtitle files.
-/

/-- A text with its times. -/
structure Cue where
  start : Binary64
  stop : Binary64
  text : String
deriving DecidableEq

/-! ## Subtitle files

Cues from subtitle text. Blank lines separate blocks; a block is an optional
number, a line with two times, and the lines of the text. A block that is not
of this form, or whose cue would end before it starts, is left out.
-/

/-- Every kind of line end becomes a newline. -/
def withNewlines (text : List Char) : List Char :=
  replaceChar '\r' ['\n'] (replacePair '\r' '\n' ['\n'] text)

/-- The lines of a subtitle text, without blanks around them. -/
def subtitleLines (text : List Char) : List (List Char) :=
  (splitAtChar '\n' (withNewlines text)).map trim

/-- The runs of nonempty lines. -/
def lineBlocks : List (List Char) → List (List (List Char))
  | [] => []
  | line :: rest =>
      if line.isEmpty then
        lineBlocks rest
      else
        match rest with
        | [] => [[line]]
        | next :: _ =>
            if next.isEmpty then
              [line] :: lineBlocks rest
            else
              match lineBlocks rest with
              | [] => [[line]]
              | block :: others => (line :: block) :: others

/-- Take a number with a fixed count of decimal digits. -/
def takeNumber? :
    Nat → Nat → List Char → Option (Nat × List Char)
  | 0, total, text => some (total, text)
  | _ + 1, _, [] => none
  | count + 1, total, character :: rest =>
      (decimalDigit? character).bind fun digit =>
        takeNumber? count (10 * total + digit) rest

/-- Take a character of a class. -/
def takeWhere?
    (accepted : Char → Bool) :
    List Char → Option (List Char)
  | [] => none
  | character :: rest => if accepted character then some rest else none

/-- A time as it is written: hours, minutes, seconds and milliseconds. -/
structure ClockTime where
  hours : Nat
  minutes : Nat
  seconds : Nat
  milliseconds : Nat
deriving DecidableEq, Repr

namespace ClockTime

/-- Take `HH:MM:SS,mmm`, where a point may stand for the comma. -/
def take? (text : List Char) : Option (ClockTime × List Char) := do
  let (hours, afterHours) ← takeNumber? 2 0 text
  let beforeMinutes ← takeWhere? (· == ':') afterHours
  let (minutes, afterMinutes) ← takeNumber? 2 0 beforeMinutes
  let beforeSeconds ← takeWhere? (· == ':') afterMinutes
  let (seconds, afterSeconds) ← takeNumber? 2 0 beforeSeconds
  let beforeMilliseconds ←
    takeWhere? (fun mark => mark == ',' || mark == '.') afterSeconds
  let (milliseconds, rest) ← takeNumber? 3 0 beforeMilliseconds
  pure ({ hours, minutes, seconds, milliseconds }, rest)

/-- The whole seconds and the milliseconds, each rounded, and their sum. -/
def inSeconds (time : ClockTime) : Binary64 :=
  Binary64.ofDecimal false
      (time.hours * 3600 + time.minutes * 60 + time.seconds) 0 +
    Binary64.ofDecimal false time.milliseconds (-3)

end ClockTime

/-- Take the arrow between two times and the blanks around it. -/
def takeArrow? (text : List Char) : Option (List Char) :=
  match text.dropWhile isBlank with
  | '-' :: '-' :: '>' :: rest => some (rest.dropWhile isBlank)
  | _ => none

/-- Two times with an arrow between them, at the start of a text. -/
def timingAtStart? (text : List Char) : Option (ClockTime × ClockTime) := do
  let (start, afterStart) ← ClockTime.take? text
  let beforeStop ← takeArrow? afterStart
  let (stop, _) ← ClockTime.take? beforeStop
  pure (start, stop)

/-- The first place in a line where two times stand. -/
def findTiming? : List Char → Option (ClockTime × ClockTime)
  | [] => none
  | character :: rest =>
      match timingAtStart? (character :: rest) with
      | some timing => some timing
      | none => findTiming? rest

/-- Whether a line is the number of a block. -/
def isBlockNumber (line : List Char) : Bool :=
  !line.isEmpty && line.all isAnyDigit

/-- The timing line and the text lines of a block. -/
def blockParts? :
    List (List Char) → Option (List Char × List (List Char))
  | first :: second :: rest =>
      if isBlockNumber first && occursIn "-->".toList second then
        some (second, rest)
      else
        some (first, second :: rest)
  | _ => none

/-- The cue of a block, if it has one. -/
def cueOfBlock? (block : List (List Char)) : Option Cue := do
  let (timingLine, textLines) ← blockParts? block
  let (start, stop) ← findTiming? timingLine
  let text := joinWith [' '] textLines
  if stop.inSeconds.atMost start.inSeconds || text.isEmpty then
    none
  else
    some {
      start := start.inSeconds
      stop := stop.inSeconds
      text := String.ofList text }

/-- The cues of a subtitle text, in its order. -/
def readSubtitles (text : String) : List Cue :=
  (lineBlocks (subtitleLines text.toList)).filterMap cueOfBlock?

end Montage
