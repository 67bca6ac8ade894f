import Montage.Effect.Basic
import Montage.Graph.Basic
import Montage.Work.Program

namespace Montage

/-!
# The encoder

How the encoder is told what to render, and what one run of it leaves.
-/

/-! ## Encoder options

How the quality of an output and its greatest duration are told to the encoder.
-/

/-- Quality factor and effort of the encoder. -/
structure EncoderQuality where
  factor : Int
  effort : String
deriving DecidableEq, Repr

/-- The preset of a quality. -/
def Quality.preset : Quality → EncoderQuality
  | low => ⟨28, "faster"⟩
  | medium => ⟨23, "fast"⟩
  | high => ⟨18, "medium"⟩
  | ultra => ⟨15, "slow"⟩

/-- The limit on the duration, if there is one. -/
def durationArguments (options : OutputOptions) : List String :=
  match options.longestDuration with
  | none => []
  | some limit =>
      if limit.isZero then [] else ["-t", String.ofList limit.sixDigitText]

/-- The arguments after the inputs; the duration limit comes first. -/
def outputArguments
    (options : Option OutputOptions)
    (audioBitrate : String) :
    List String :=
  let chosen := options.getD {}
  let preset := chosen.quality.preset
  durationArguments chosen ++ [
    "-c:v", "libx264",
    "-preset", preset.effort,
    "-crf", showInteger preset.factor,
    "-c:a", "aac",
    "-b:a", audioBitrate,
    "-shortest",
    "-movflags", "+faststart",
    "-y"]

/-! ## Encoder command

The command line that renders a graph into a file.
-/

/-- The program and its bit rate for sound. -/
structure Encoder where
  program : String := "ffmpeg"
  audioBitrate : String := "128k"

namespace Encoder

/-- The inputs of a graph as arguments, in the order of their indices. -/
def inputArguments (graph : Graph) : List String :=
  graph.inputs.flatMap fun input => ["-i", input.path]

/-- The processing of a graph as arguments. -/
def processingArguments (graph : Graph) : List String :=
  if graph.complexText.isEmpty then
    []
  else
    ["-filter_complex", graph.complexText]

/-- The output targets of a graph as arguments. -/
def targetArguments (graph : Graph) : List String :=
  graph.maps.flatMap fun target => ["-map", target]

/-- The whole command; the output file comes last. -/
def command
    (encoder : Encoder)
    (graph : Graph)
    (options : Option OutputOptions)
    (outputFile : String) :
    List String :=
  [encoder.program, "-hide_banner", "-loglevel", "error"] ++
    inputArguments graph ++
    processingArguments graph ++
    targetArguments graph ++
    outputArguments options encoder.audioBitrate ++
    [outputFile]

end Encoder

/-! ## Encoder runs

A run either leaves the output file or fails with the end of the encoder's
error output. It is never repeated.
-/

/-- How much of the error output is kept. -/
def errorTailLength : Nat :=
  2000

/-- The last characters of an error output. -/
def errorTail (output : Bytes) : String :=
  let characters := decodeUtf8 output
  String.ofList (characters.drop (characters.length - errorTailLength))

namespace Encoder

/-- The encoder ended with an exit code that tells of a failure. -/
def exitFailure (result : ProcessResult) : Failure :=
  .server <| .render none {
    errorOutput := errorTail result.errorOutput
    exitCode := some result.code }

/-- The encoder left no file. -/
def absenceFailure (outputFile : Path) : Failure :=
  .server <| .render
    (some
      ("FFmpeg reported success but " ++ outputFile.name ++
        " was not created"))
    { errorOutput := "", exitCode := none }

/-- Run a command that renders into a file. -/
def runCommand
    (command : List String)
    (outputFile : Path) :
    Program (Outcome Unit) :=
  Program.step (.encode command) fun answer =>
    match answer with
    | .error failure => pure (.error failure)
    | .ok result =>
        if result.code ≠ 0 then
          pure (.error (exitFailure result))
        else
          Program.step (.holds outputFile) fun present =>
            match present with
            | .ok true => pure (.ok ())
            | .ok false => pure (.error (absenceFailure outputFile))
            | .error failure => pure (.error failure)

/-- Render a graph into a file. There is no command for a graph with an integer
that is not written. -/
def render
    (encoder : Encoder)
    (graph : Graph)
    (options : Option OutputOptions)
    (outputFile : Path) :
    Program (Outcome Unit) :=
  if graph.isWritten then
    runCommand (encoder.command graph options outputFile.toText) outputFile
  else
    pure (.error (.numeral .unwritten))

/-- The first line that the encoder prints about itself. -/
def bannerOf (output : Bytes) : String :=
  match splitLines (decodeUtf8 output) with
  | [] => "ffmpeg"
  | line :: _ => String.ofList line

/-- The encoder's version, if it can be run. -/
def version (program : String) : Program (Outcome (Option String)) :=
  Program.step (.encode [program, "-version"]) fun answer =>
    match answer with
    | .error failure =>
        pure <|
          if failure.failureClass = .system then .ok none else .error failure
    | .ok result =>
        pure <| .ok <|
          if result.code ≠ 0 then none else some (bannerOf result.output)

end Encoder

end Montage
