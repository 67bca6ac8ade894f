import Montage.Json.Value
import Montage.Number.Digits
import Montage.Text.Split

namespace Montage

/-!
# Server errors

Errors that a client may see. Each carries a code for programs, the status of
the answer that reports it, a text for people, and possibly further details.
-/

/-- What went wrong, as far as a client is concerned. -/
inductive ServerErrorKind
  | internal
  | invalidRequest
  | unknownJob
  | jobInProgress
  | busy
  | resource
  | render
  | publish
  | callback
deriving DecidableEq, Repr

namespace ServerErrorKind

/-- The code of a kind. -/
def code : ServerErrorKind → String
  | internal => "INTERNAL_ERROR"
  | invalidRequest => "VALIDATION_ERROR"
  | unknownJob => "JOB_NOT_FOUND"
  | jobInProgress => "JOB_IN_PROGRESS"
  | busy => "SERVER_BUSY"
  | resource => "RESOURCE_ERROR"
  | render => "RENDER_FAILED"
  | publish => "PUBLISH_FAILED"
  | callback => "CALLBACK_FAILED"

/-- The status of an answer that reports a kind. -/
def status : ServerErrorKind → Int
  | internal => 500
  | invalidRequest => 400
  | unknownJob => 404
  | jobInProgress => 409
  | busy => 503
  | resource => 507
  | render => 500
  | publish => 502
  | callback => 502

/-- The text of a kind when nothing more is known. -/
def message : ServerErrorKind → String
  | internal => "An unexpected error occurred"
  | invalidRequest => "Invalid render request"
  | unknownJob => "Job not found"
  | jobInProgress => "A job with this id is already in progress"
  | busy => "Server busy"
  | resource => "Required resource unavailable"
  | render => "Rendering failed"
  | publish => "Failed to publish render output"
  | callback => "Callback delivery failed"

end ServerErrorKind

/-- What an encoder left behind when it failed. -/
structure Diagnostics where
  /-- The end of its error output. -/
  errorOutput : String
  /-- Its exit code, if it ran. -/
  exitCode : Option Int
deriving DecidableEq, Repr

/-- An error with everything that a client is told. -/
structure ServerError where
  kind : ServerErrorKind
  code : String
  status : Int
  message : String
  details : Fields
  diagnostics : Option Diagnostics := none

namespace ServerError

/-- An error of a kind; an empty text gives way to the text of the kind. -/
def ofKind
    (kind : ServerErrorKind)
    (message : Option String)
    (details : Fields) :
    ServerError where
  kind := kind
  code := kind.code
  status := kind.status
  message :=
    match message with
    | some text => if text.isEmpty then kind.message else text
    | none => kind.message
  details := details

/-- A submission that is refused, possibly for one of its fields. -/
def invalidRequest
    (message : Option String)
    (field : Option String) :
    ServerError :=
  ofKind .invalidRequest message <|
    match field with
    | some name => if name.isEmpty then [] else [("field", .text name)]
    | none => []

/-- A text followed by a name, or nothing if there is no name. -/
def naming
    (label : String)
    (name : Option String) :
    Option String :=
  (name.filter (! ·.isEmpty)).map fun text => label ++ text

/-- A job that is not tracked. -/
def unknownJob (jobId : Option String) : ServerError :=
  ofKind .unknownJob (naming "Job not found: " jobId) []

/-- A job whose id is still in use. -/
def jobInProgress (jobId : Option String) : ServerError :=
  ofKind .jobInProgress (naming "Job already in progress: " jobId) []

/-- All slots are taken. -/
def busy (active limit : Int) : ServerError :=
  ofKind .busy none [("active_jobs", .integer active), ("max", .integer limit)]

/-- Something that a job needs is not available. -/
def resource (message : Option String) : ServerError :=
  ofKind .resource message []

/-- The result could not be delivered. -/
def publish (message : Option String) : ServerError :=
  ofKind .publish message []

/-- The last line of an encoder's error output. -/
def lastLine (errorOutput : String) : String :=
  match (splitLines (trim errorOutput.toList)).getLast? with
  | some line => String.ofList line
  | none => "no diagnostic output"

/-- An exit code as text. -/
def exitCodeText : Option Int → String
  | some code => showInteger code
  | none => "None"

/-- The encoder failed; without a text the last line of its output is told. -/
def render
    (message : Option String)
    (diagnostics : Diagnostics) :
    ServerError :=
  let told :=
    match message with
    | some text => text
    | none =>
        "FFmpeg failed (exit " ++ exitCodeText diagnostics.exitCode ++ "): " ++
          lastLine diagnostics.errorOutput
  { ofKind .render (some told) [] with diagnostics := some diagnostics }

/-- What a client is told; details may replace code and message. -/
def body (error : ServerError) : Fields :=
  fieldsOf
    ([("code", Json.text error.code), ("message", Json.text error.message)] ++
      error.details)

end ServerError

end Montage
