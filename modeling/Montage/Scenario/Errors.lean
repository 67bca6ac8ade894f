import Montage.Failure
import Montage.Json.Shown

namespace Montage

/-!
# Errors of a scenario

A scenario describes an error by the name of its kind and by the values that
such an error is made of.
-/

namespace ServerErrorKind

/-- All kinds. -/
def all : List ServerErrorKind := [
  internal, invalidRequest, unknownJob, jobInProgress, busy, resource, render,
  publish, callback]

/-- The name of a kind. -/
def name : ServerErrorKind → String
  | internal => "RenderServerError"
  | invalidRequest => "ValidationError"
  | unknownJob => "JobNotFoundError"
  | jobInProgress => "JobConflictError"
  | busy => "CapacityError"
  | resource => "ResourceError"
  | render => "RenderError"
  | publish => "PublishError"
  | callback => "CallbackError"

/-- The kind of a name. -/
def find? (name : String) : Option ServerErrorKind :=
  all.find? fun kind => kind.name == name

/-- The operation that makes an error of a kind. -/
def operation (kind : ServerErrorKind) : String :=
  kind.name ++ ".__init__"

/-- The values that an error of a kind is made of. -/
def signature : ServerErrorKind → Signature
  | invalidRequest => {
      operation := invalidRequest.operation
      placed := ["message", "field"] }
  | unknownJob => { operation := unknownJob.operation, placed := ["job_id"] }
  | jobInProgress => {
      operation := jobInProgress.operation
      placed := ["job_id"] }
  | busy => {
      operation := busy.operation
      placed := ["active_jobs", "max_jobs"]
      required := 2 }
  | render => {
      operation := render.operation
      placed := ["message", "stderr", "returncode"] }
  | _ => {
      operation := internal.operation
      placed := ["message"]
      named := ["code", "status_code", "details"] }

end ServerErrorKind

/-- What a description tells of an error; its parts may be of any type. -/
structure ErrorAccount where
  message : Json
  code : Json
  status : Json
  details : Fields := []

namespace ErrorAccount

/-- What a client is told; details may replace code and message. -/
def body (account : ErrorAccount) : Fields :=
  fieldsOf
    ([("code", account.code), ("message", account.message)] ++ account.details)

/-- The account of an error of a kind, with a text of its own if one is
given. -/
def ofKind
    (kind : ServerErrorKind)
    (message : Json) :
    ErrorAccount where
  message := if message.isGiven then message else .text kind.message
  code := .text kind.code
  status := .integer kind.status

/-- The account of an error. -/
def ofError (error : ServerError) : ErrorAccount where
  message := .text error.message
  code := .text error.code
  status := .integer error.status
  details := error.details

end ErrorAccount

/-- The values of a description by name; what is not given is null. -/
abbrev ErrorValues := Fields

namespace ErrorValues

/-- A value that counts as given. -/
def given?
    (values : ErrorValues)
    (name : String) :
    Option Json :=
  (getField? name values).filter Json.isGiven

/-- The text of a value that counts as given. -/
def textOf?
    (values : ErrorValues)
    (name : String) :
    Option String :=
  (values.given? name).bind Json.givenText?

/-- A value, or null. -/
def valueOf
    (values : ErrorValues)
    (name : String) :
    Json :=
  (getField? name values).getD .null

/-- The fields of further details, which have to be named values. -/
def detailsOf : Json → Outcome Fields
  | .object fields => .ok fields
  | .text _ => .error (.pairLength 0 1)
  | .array (.array items :: _) => .error (.pairLength 0 items.length)
  | .array (.text value :: _) => .error (.pairLength 0 value.length)
  | value => .error (.shape (.noItems (.of value)))

/-- The account of an error with code, status and details of its own. -/
def general
    (values : ErrorValues)
    (kind : ServerErrorKind) :
    Outcome ErrorAccount := do
  let base := ErrorAccount.ofKind kind (values.valueOf "message")
  let details ←
    match values.given? "details" with
    | some told => detailsOf told
    | none => pure []
  pure {
    message := base.message
    code := (values.given? "code").getD base.code
    status := (values.given? "status_code").getD base.status
    details }

/-- The account of a failed encoder; without a message the last line of its
output is told, which has to be a text. -/
def ofEncoder (values : ErrorValues) : Outcome ErrorAccount :=
  match values.valueOf "message", getField? "stderr" values with
  | .null, none => .ok (tell "")
  | .null, some (.text output) => .ok (tell output)
  | .null, some value => .error (.shape (.noText (.of value)))
  | message, _ => .ok (.ofKind .render message)
where
  /-- The account of an encoder that left an error output. -/
  tell (output : String) : ErrorAccount :=
    .ofKind .render <| .text <|
      "FFmpeg failed (exit " ++ (values.valueOf "returncode").plainText ++
        "): " ++ ServerError.lastLine output

/-- The account of an error of a kind that is made of values. -/
def toAccount (values : ErrorValues) :
    ServerErrorKind → Outcome ErrorAccount
  | .invalidRequest =>
      .ok {
        ErrorAccount.ofKind .invalidRequest (values.valueOf "message") with
        details :=
          (values.given? "field").toList.map fun field => ("field", field) }
  | .unknownJob => .ok (.ofError (.unknownJob (values.textOf? "job_id")))
  | .jobInProgress => .ok (.ofError (.jobInProgress (values.textOf? "job_id")))
  | .busy =>
      .ok {
        ErrorAccount.ofKind .busy .null with
        details := [
          ("active_jobs", values.valueOf "active_jobs"),
          ("max", values.valueOf "max_jobs")] }
  | .render => values.ofEncoder
  | kind => values.general kind

end ErrorValues

/-- The account of the error of a kind that values by place and by name
describe. -/
def describedError
    (kind : ServerErrorKind)
    (values : List Json)
    (named : Fields) :
    Outcome ErrorAccount :=
  match kind.signature.bind values named with
  | .ok bound => ErrorValues.toAccount bound kind
  | .error cause => .error (.argument cause)

end Montage
