import Montage.Failure
import Montage.Json.Reader
import Montage.Json.Shown
import Montage.Json.Value
import Montage.Number.Decimal
import Montage.Number.Numeral
import Montage.Text.Split
import Montage.Work.Program

namespace Montage

/-!
# Media reports

What a probe reports about a media file. The report is JSON of no fixed shape,
so every step may find a value of the wrong type.
-/

/-! ## Frame rates

A frame rate comes as a number, as decimal text, or as a fraction. What is no
positive number counts as thirty.
-/

/-- The rate of a clip that tells none. -/
def standardFrameRate : Binary64 :=
  30

/-- The rate that a text denotes; a divisor has to be positive. -/
def rateOfText? (text : List Char) : Option Binary64 :=
  match cutAtChar? '/' text with
  | none => (floatOfText (String.ofList text)).toOption
  | some (dividend, divisor) => do
      let below ← (floatOfText (String.ofList divisor)).toOption
      if below.atMost 0 then
        none
      else do
        let above ← (floatOfText (String.ofList dividend)).toOption
        (above.divide below).toOption

/-- A positive rate, or the standard one. -/
def positiveRate (rate : Option Binary64) : Binary64 :=
  match rate with
  | some value => if Binary64.less 0 value then value else standardFrameRate
  | none => standardFrameRate

/-- The frame rate that a value of a report denotes. -/
def frameRate : Json → Binary64
  | .integer value => positiveRate (rateOfText? (integerText value))
  | .number value => positiveRate (rateOfText? value.shortestText)
  | .text value => positiveRate (rateOfText? (trim value.toList))
  | _ => standardFrameRate

/-! ## Reports -/

/-- What is known about a media file; the sides are kept as reported. -/
structure MediaFacts where
  duration : Binary64 := 0
  width : Json := .null
  height : Json := .null
  frameRate : Binary64 := standardFrameRate
  fileSize : Int := 0
  hasVideo : Bool := false
  hasAudio : Bool := false

/-- A reported value as a number. -/
def reportedNumber : Json → Outcome Binary64
  | .number value => .ok value
  | .integer value => ofArithmetic (Binary64.ofInteger value)
  | .bool value => .ok (if value then 1 else 0)
  | .text value => ofNumeral (floatOfText value)
  | value => .error (.shape (.noNumber (.of value)))

/-- A reported value as an integer; fractions are cut off. -/
def reportedInteger : Json → Outcome Int
  | .integer value => .ok value
  | .number value => ofArithmetic value.truncate
  | .bool value => .ok (if value then 1 else 0)
  | .text value => ofNumeral (integerOfText value)
  | value => .error (.shape (.noInteger (.of value)))

/-- A field of a report that has to be an object. -/
def reportedField
    (name : String) :
    Json → Outcome (Option Json)
  | .object fields => .ok (getField? name fields)
  | value => .error (.shape (.noFields (.of value)))

/-- Whether a text is an item. -/
def isTextItem
    (name : String)
    (item : Json) :
    Bool :=
  item.text? == some name

/-- The value of a name in a part of a report, if the part mentions it. -/
def mentioned?
    (name : String) :
    Json → Outcome (Option Json)
  | .object fields => .ok (getField? name fields)
  | .text value =>
      if occursIn name.toList value.toList then
        .error (.shape .textIndex)
      else
        .ok none
  | .array items =>
      if items.any (isTextItem name) then
        .error (.shape .arrayIndex)
      else
        .ok none
  | value => .error (.shape (.noMembers (.of value)))

/-- The items of a report's list; a text and an object give texts. -/
def reportedItems : Json → Outcome (List Json)
  | .array items => .ok items
  | .object fields => .ok (fields.map fun field => .text field.1)
  | .text value =>
      .ok (value.toList.map fun character => .text (String.singleton character))
  | value => .error (.shape (.noItems (.of value)))

namespace MediaFacts

/-- Duration and size from the part of a report about the whole file. -/
def readFormat
    (diskSize : Outcome Nat)
    (format : Json) :
    Outcome MediaFacts := do
  let duration ←
    match ← mentioned? "duration" format with
    | some value => reportedNumber value
    | none => .ok 0
  let fileSize ←
    match ← mentioned? "size" format with
    | some value => reportedInteger value
    | none => diskSize.map Int.ofNat
  pure { duration, fileSize }

/-- The frame rate of a stream: the real one, or else the average. -/
def streamRate (fields : Fields) : Binary64 :=
  match (getField? "r_frame_rate" fields).filter Json.isGiven with
  | some value => Montage.frameRate value
  | none => Montage.frameRate ((getField? "avg_frame_rate" fields).getD .null)

/-- Take up a video stream, of which only the first counts. -/
def addVideo
    (info : MediaFacts)
    (fields : Fields) :
    Outcome MediaFacts := do
  let duration ←
    match info.duration.isZero, getField? "duration" fields with
    | true, some value => reportedNumber value
    | _, _ => .ok info.duration
  pure {
    info with
    duration
    width := (getField? "width" fields).getD .null
    height := (getField? "height" fields).getD .null
    frameRate := streamRate fields
    hasVideo := true }

/-- Take up a stream. -/
def addStream
    (info : MediaFacts)
    (stream : Json) :
    Outcome MediaFacts :=
  match stream with
  | .object fields =>
      match (getField? "codec_type" fields).bind Json.text? with
      | some "video" => if info.hasVideo then .ok info else info.addVideo fields
      | some "audio" => .ok { info with hasAudio := true }
      | _ => .ok info
  | value => .error (.shape (.noFields (.of value)))

/-- Read a report; the size on disk stands in for a size that is not told. -/
def ofReport
    (diskSize : Outcome Nat)
    (report : Json) :
    Outcome MediaFacts := do
  let format ← reportedField "format" report
  let start ← readFormat diskSize (format.getD (.object []))
  let streams ← reportedField "streams" report
  let items ← reportedItems (streams.getD (.array []))
  items.foldlM addStream start

/-- Both sides as a text, if both are given. -/
def resolution (info : MediaFacts) : Option String :=
  if info.width.isGiven && info.height.isGiven then
    some (info.width.plainText ++ "x" ++ info.height.plainText)
  else
    none

/-- The whole seconds of the duration. -/
def wholeSeconds (info : MediaFacts) : Outcome Int :=
  ofArithmetic info.duration.round

/-- A summary for people. -/
def summary (info : MediaFacts) : Outcome Fields := do
  let seconds ← info.wholeSeconds
  pure [
    ("duration_sec", .integer seconds),
    ("duration", .number info.duration),
    ("resolution", .ofText? info.resolution),
    ("width", info.width),
    ("height", info.height),
    ("fps", .number info.frameRate),
    ("file_size", .integer info.fileSize)]

end MediaFacts

/-! ## Probes

A probe is a program that reports about a media file.
-/

/-- The command line of a probe. -/
def probeArguments
    (program : String)
    (file : Path) :
    List String := [
  program, "-v", "quiet", "-print_format", "json", "-show_format",
  "-show_streams", file.toText]

/-- A text that a probe printed; bytes that are no text are reported. -/
def printedText (bytes : Bytes) : Outcome String :=
  (strictTextOf bytes).mapError fun fault => .reported .value fault.message

/-- The report that a text holds. -/
def reportOf (text : String) : Outcome Json :=
  (Json.read text).mapError fun error =>
    match error with
    | .malformed cause offset => .probeUnreadable (cause.report offset text)
    | .tooManyDigits count => .numeral (.tooManyDigits count)
    | .tooDeep container => .tooDeep container

/-- The report that a probe printed. Both of its outputs have to be text,
whatever its exit code is. -/
def readReport (result : ProcessResult) : Outcome Json := do
  let output ← printedText result.output
  let complaint ← printedText result.errorOutput
  if result.code ≠ 0 then
    .error (.probeRefused complaint)
  else
    reportOf output

/-- What a probe tells about a file. -/
def probeFile
    (program : String)
    (file : Path) :
    Program (Outcome MediaFacts) :=
  Program.step (.probe (probeArguments program file)) fun answer =>
    Program.step (.fileSize file) fun size =>
      pure (answer.bind readReport |>.bind (MediaFacts.ofReport size))

/-- Whether a failure only tells that a file cannot be probed. -/
def isProbeFailure (failure : Failure) : Bool :=
  failure.failureClass = .runtime || failure.failureClass = .system ||
    failure.failureClass = .value

/-- What a probe tells about a file, or nothing if it cannot be probed. -/
def probeIfPossible
    (program : String)
    (file : Path) :
    Program (Outcome (Option MediaFacts)) := do
  let probed ← probeFile program file
  match probed with
  | .ok info => pure (.ok (some info))
  | .error failure =>
      pure (if isProbeFailure failure then .ok none else .error failure)

end Montage
