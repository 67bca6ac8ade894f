import Montage.Effect.Basic
import Montage.Request.Timeline
import Montage.ServerError

namespace Montage

/-!
# Render requests

What a client submits: either a timeline, or a video and a sound with effects.
-/

/-- The text to draw: with its own style, or in the style of the effects. -/
inductive RequestedText
  | plain (text : String)
  | styled (overlay : TextOverlay)
deriving DecidableEq

namespace RequestedText

/-- Read a text; what is neither form is reported for both. -/
def read : Json → Checked RequestedText
  | .text value => .valid (.plain value)
  | value =>
      match TextOverlay.read value with
      | .valid overlay => .valid (.styled overlay)
      | .invalid issues =>
          .invalid
            (⟨.notText, [.field "str"]⟩ ::
              issues.map fun issue =>
                { issue with
                  location := .field "TextOverlay" :: issue.location })

/-- A text as JSON. -/
def toJson : RequestedText → Json
  | plain text => .text text
  | styled overlay => overlay.toJson

end RequestedText

/-- A submission as it was sent. -/
structure RenderRequest where
  jobId : Option String
  projectId : Option String
  callbackUrl : Option String
  timeline : Option (List TimelineEntry)
  output : Option OutputOptions
  videoUrl : Option String
  audioUrl : Option String
  effects : Effects
  text : Option RequestedText
  subtitleUrl : Option String
  subtitleContent : Option String
deriving DecidableEq

namespace RenderRequest

/-- Read the fields of a submission. -/
def readFields (fields : Fields) : Checked RenderRequest :=
  mk
    <$> fields.optional "job_id" readText
    <*> fields.optional "project_id" readText
    <*> fields.optional "callback_url" readText
    <*> fields.optional "timeline" (readList TimelineEntry.read)
    <*> fields.optional "output" OutputOptions.read
    <*> fields.optional "video_url" readText
    <*> fields.optional "audio_url" readText
    <*> fields.withDefault "effects" {} Effects.read
    <*> fields.optional "text_overlay" RequestedText.read
    <*> fields.optional "subtitle_url" readText
    <*> fields.optional "subtitle_content" readText

/-- Read a submission. -/
def read : Json → Checked RenderRequest :=
  readObject "RenderRequest" readFields

/-- The segments of a submission; none is the same as no timeline. -/
def entries (request : RenderRequest) : List TimelineEntry :=
  request.timeline.getD []

/-- Whether a submission is a composition. -/
def isComposition (request : RenderRequest) : Bool :=
  !request.entries.isEmpty

/-- A timeline as JSON. -/
def timelineJson : Option (List TimelineEntry) → Json
  | some entries => .array (entries.map TimelineEntry.toJson)
  | none => .null

/-- A submission as JSON. -/
def toJson (request : RenderRequest) : Json :=
  .object [
    ("job_id", .ofText? request.jobId),
    ("project_id", .ofText? request.projectId),
    ("callback_url", .ofText? request.callbackUrl),
    ("timeline", timelineJson request.timeline),
    ("output", Effects.categoryJson OutputOptions.toJson request.output),
    ("video_url", .ofText? request.videoUrl),
    ("audio_url", .ofText? request.audioUrl),
    ("effects", request.effects.toJson),
    ("text_overlay", Effects.categoryJson RequestedText.toJson request.text),
    ("subtitle_url", .ofText? request.subtitleUrl),
    ("subtitle_content", .ofText? request.subtitleContent)]

/-- Whether a text has a character that is no blank. -/
def isVisible (text : String) : Bool :=
  !(trim text.toList).isEmpty

/-- The text to draw over a flat render, if there is anything to draw. -/
def textOverlay? (request : RenderRequest) : Option TextOverlay :=
  match request.text with
  | some (.plain text) =>
      if isVisible text then
        some { request.effects.text.getD {} with text }
      else
        none
  | some (.styled overlay) => some overlay |>.filter (isVisible ·.text)
  | none => request.effects.text.filter (isVisible ·.text)

end RenderRequest

/-! ## Submissions

What a request needs to be taken in: a job id that can stand in file names, and
something to render.
-/

/-- Characters of a job id. -/
def isJobIdCharacter (character : Char) : Bool :=
  isAsciiLetter character || isAsciiDigit character ||
    "_.-".toList.contains character

/-- Greatest length of a job id. -/
def jobIdLimit : Nat :=
  128

/-- The characters of an id that are checked: a final newline is not. -/
def checkedCharacters (jobId : List Char) : List Char :=
  match jobId.getLast? with
  | some '\n' => jobId.dropLast
  | _ => jobId

/-- Whether an id can stand in file names. -/
def isJobId (jobId : String) : Bool :=
  let checked := checkedCharacters jobId.toList
  !checked.isEmpty && checked.length ≤ jobIdLimit &&
    checked.all isJobIdCharacter && checked.head? ≠ some '.'

/-- What a request needs to be run. -/
structure Submission where
  jobId : String
  request : RenderRequest

/-- Take a request in, or tell what it lacks. -/
def RenderRequest.submission
    (request : RenderRequest) :
    Except ServerError Submission :=
  match nonempty? request.jobId with
  | none => .error (.invalidRequest (some "Missing job_id") (some "job_id"))
  | some jobId =>
      if !isJobId jobId then
        .error <|
          .invalidRequest
            (some
              "job_id may only contain letters, digits, '.', '_' and '-'")
            (some "job_id")
      else if request.isComposition then
        .ok { jobId, request }
      else if
          (nonempty? request.videoUrl).isNone ∨
            (nonempty? request.audioUrl).isNone then
        .error <|
          .invalidRequest (some "Missing timeline or video_url/audio_url")
            (some "timeline")
      else
        .ok { jobId, request }

end Montage
