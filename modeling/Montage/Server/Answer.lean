import Montage.Asset.Resolver
import Montage.Encoder.Command
import Montage.Json.Reader
import Montage.Server.Content
import Montage.Server.Endpoint
import Montage.Server.Origin
import Montage.Server.State
import Montage.Stage.Color
import Montage.Text.Encoding

namespace Montage

/-!
# Answers

How the server answers each request. A render request that is accepted leaves
a job to run.
-/

/-- An answer, the server after it, and a job to run. -/
structure ServerAnswer where
  response : HttpResponse
  server : Server
  accepted : Option Submission := none

namespace HttpResponse

/-- A failure that nobody expected; no origin is allowed to read it. -/
def unexpected : HttpResponse := {
  ofJson 500 (.object [
    ("error", .object [
      ("code", .text "INTERNAL_ERROR"),
      ("message", .text "Internal server error")])]) with
  admitsOrigins := false }

/-- An error that the client may see. -/
def ofServerError (error : ServerError) : HttpResponse :=
  ofJson error.status.toNat (.object [("error", .object error.body)])

/-- A failure: only an error of the server is shown to the client. -/
def ofFailure : Failure → HttpResponse
  | .server error => ofServerError error
  | _ => unexpected

/-- A body that is refused for a reason. -/
def refusedBody (reason : String) : HttpResponse :=
  ofServerError (.invalidRequest (some reason) none)

/-- A body that is refused for an issue at a place. -/
def ofIssue (issue : Issue) : HttpResponse :=
  let place :=
    " -> ".intercalate ("body" :: issue.location.map LocationStep.toText)
  refusedBody (place ++ ": " ++ issue.cause.message .requestBody)

end HttpResponse

namespace Server

/-- What the server tells about itself. -/
def information (server : Server) : Json :=
  .object [
    ("name", .text server.settings.appName),
    ("version", .text server.settings.appVersion),
    ("endpoints", .object [
      ("POST /render", .text "Submit a flat-mode or timeline render job"),
      ("GET /status/\x7bjob_id\x7d", .text "Job state, progress and result"),
      ("GET /download/\x7bfilename\x7d", .text "Download a timeline render"),
      ("GET /effects", .text "Effects catalog, fonts and presets"),
      ("GET /health", .text "Service health")])]

/-- The free space in whole megabytes, unless the system does not tell it. -/
def freeMegabytes (server : Server) : Outcome (Option Int) :=
  match server.world.script.freeSpace with
  | .ok bytes => do
      let amount ← megabytes bytes
      some <$> ofArithmetic amount.round
  | .error failure =>
      if failure.failureClass = .system then .ok none else .error failure

/-- How well the server is. -/
def health (server : Server) : Outcome Json := do
  let free ← server.freeMegabytes
  let uptime ← ofArithmetic (server.world.now - server.startedAt).round
  let registry := server.world.registry
  let working := (nonempty? server.encoderVersion).isSome
  pure <| .object [
    ("status", .text (if working then "healthy" else "degraded")),
    ("version", .text server.settings.appVersion),
    ("ffmpeg", .bool server.encoderVersion.isSome),
    ("ffmpeg_version", .ofText? server.encoderVersion),
    ("active_jobs", .integer registry.slots.length),
    ("max_concurrent_jobs", .integer registry.limit),
    ("jobs_tracked", .integer registry.jobs.length),
    ("disk_free_mb", .ofInteger? free),
    ("uptime_seconds", .integer uptime)]

/-- Texts in their order. -/
def inOrder (texts : List String) : Json :=
  .ofTexts (texts.mergeSort fun left right => decide (left ≤ right))

/-- The presets of quality. -/
def qualities : Json :=
  .object <| ([.low, .medium, .high, .ultra] : List Quality).map fun quality =>
    (Choice.name quality, .object [
      ("crf", .integer quality.preset.factor),
      ("preset", .text quality.preset.effort)])

/-- What can be done to a video. -/
def effects (server : Server) : Json :=
  .object [
    ("effects", Effects.catalog),
    ("fonts", inOrder CatalogFont.names),
    ("fonts_available",
      inOrder
        ((server.world.shelf.available server.world.disk).map Prod.fst)),
    ("font_categories",
      .object (CatalogFont.categories.map fun category =>
        (category.1, .ofTexts category.2))),
    ("color_presets", inOrder (Grade.presets.map Prod.fst)),
    ("quality_presets", qualities)]

/-- Stands where the time of day is told, which a scenario does not have. -/
def timeMark : Json :=
  .text "<time>"

/-- Whether a value is a text or null. -/
def isTextOrNull : Json → Bool
  | .text _ => true
  | .null => true
  | _ => false

/-- Whether a value is an object or null. -/
def isObjectOrNull : Json → Bool
  | .object _ => true
  | .null => true
  | _ => false

/-- What a client is told of a job, if every field has its type. -/
def statusReport? (job : Job) : Option Json :=
  let result (name : String) : Json := (getField? name job.results).getD .null
  let texts :=
    [job.project, result "video_url", result "download_url", job.error]
  if texts.all isTextOrNull && isObjectOrNull (result "metadata") then
    (readInteger job.progress.toJson).toOption.map fun progress =>
      .object [
        ("job_id", .text job.id),
        ("project_id", job.project),
        ("status", .text job.status.name),
        ("progress", .integer progress),
        ("video_url", result "video_url"),
        ("download_url", result "download_url"),
        ("metadata", result "metadata"),
        ("error", job.error),
        ("created_at", timeMark),
        ("updated_at", timeMark)]
  else
    none

/-- Tell the status of a job. -/
def status
    (server : Server)
    (jobId : String) :
    HttpResponse :=
  match server.world.registry.find jobId with
  | .error failure => .ofFailure failure
  | .ok job =>
      match statusReport? job with
      | some report => .ofJson 200 report
      | none => .unexpected

/-- Hand out a file. -/
def fileResponse
    (type : String)
    (content : Bytes) :
    HttpResponse where
  status := 200
  headers := [("content-type", type)]
  body := .bytes content

/-- Hand out the output of a composition; hidden names are kept back. -/
def download
    (server : Server)
    (request : HttpRequest)
    (name : String) :
    HttpResponse :=
  let safeName := (Path.ofText name).name
  let file := server.tempDirectory.join safeName
  if safeName.isEmpty || safeName.toList.head? = some '.' then
    .detail 404 "File not found"
  else
    match server.world.disk.holds file, server.world.disk.read file with
    | .error _, _ => .unexpected
    | .ok _, .error _ => .detail 404 "File not found"
    | .ok _, .ok content =>
        ((fileResponse "video/mp4" content).withHeader
          "content-disposition" (attachment safeName)).inParts request

/-- The file that a path below the storage means. -/
def storedFile
    (root : Path)
    (path : String) :
    Path :=
  let whole : Path := {
    root with
    parts := root.parts ++ Path.partsOf path.toList }
  { whole with parts := whole.plainParts }

/-- Hand out a stored object. -/
def stored
    (server : Server)
    (request : HttpRequest)
    (path : String) :
    HttpResponse :=
  let root := Path.ofText server.settings.localStoragePath
  let file := storedFile root path
  if request.method ≠ "GET" ∧ request.method ≠ "HEAD" then
    .methodNotAllowed
  else if !file.isWithin root then
    .notFound
  else
    match server.world.disk.read file with
    | .error _ => .notFound
    | .ok content =>
        if Freshness.isUnchanged request then
          .empty 304
        else
          (fileResponse (contentType file.name) content).inParts request

/-- The body of a request as JSON, if there is a body; a body of another type
is no object. -/
def bodyOf (request : HttpRequest) : Except HttpResponse (Option Json) :=
  if request.body.isEmpty then
    .ok none
  else if request.hasJsonBody then
    match (documentText? (bytesOf request.body)).map Json.readMarked with
    | some (.ok .null) => .ok none
    | some (.ok value) => .ok (some value)
    | some (.error (.malformed _ offset)) =>
        .error <| .refusedBody <|
          "body -> " ++ showNatural offset ++ ": JSON decode error"
    | _ => .error (.detail 400 "There was an error parsing the body")
  else
    .ok (some (.text request.body))

/-- Read a render request. -/
def submittedRequest (request : HttpRequest) :
    Except HttpResponse RenderRequest := do
  match ← bodyOf request with
  | none => .error (.ofIssue ⟨.missing, []⟩)
  | some value =>
      match RenderRequest.read value with
      | .valid read => .ok read
      | .invalid (issue :: _) => .error (.ofIssue issue)
      | .invalid [] => .error (.refusedBody "Request validation failed")

/-- What a client is told when its job is accepted. -/
def acceptance (job : Job) : HttpResponse :=
  .ofJson 202 <| .object [
    ("job_id", .text job.id),
    ("status", .text job.status.name),
    ("message", .text "Render job accepted")]

/-- Take a render request in. -/
def submit
    (server : Server)
    (request : HttpRequest) :
    ServerAnswer :=
  match submittedRequest request with
  | .error response => { response, server }
  | .ok read =>
      match read.submission with
      | .error error => { response := .ofServerError error, server }
      | .ok submission =>
          let (enrolled, world) :=
            server.world.enroll submission.jobId (.ofText? read.projectId)
          match enrolled with
          | .error failure => {
              response := .ofFailure failure
              server := { server with world } }
          | .ok job => {
              response := acceptance job
              server := {
                server with
                world := {
                  world with
                  registry := world.registry.startTask submission.jobId } }
              accepted := some submission }

/-- The answer of an endpoint that only looks. -/
def look
    (server : Server)
    (request : HttpRequest) :
    Endpoint → HttpResponse
  | .information => .ofJson 200 server.information
  | .health =>
      match server.health with
      | .ok report => .ofJson 200 report
      | .error failure => .ofFailure failure
  | .effects => .ofJson 200 server.effects
  | .status jobId => server.status jobId
  | .download name => server.download request name
  | .stored path => server.stored request path
  | .render => .methodNotAllowed

/-- Whether an endpoint checks the method of a request itself. -/
def checksMethod : Endpoint → Bool
  | .stored _ => true
  | _ => false

/-- The answer of an endpoint. -/
def visit
    (server : Server)
    (request : HttpRequest)
    (endpoint : Endpoint) :
    ServerAnswer :=
  if request.method ≠ endpoint.method ∧ !checksMethod endpoint then
    { response :=
        HttpResponse.methodNotAllowed.withHeader "allow" endpoint.method
      server }
  else
    match endpoint with
    | .render => server.submit request
    | other => { response := server.look request other, server }

/-- The answer to a request that asks for an endpoint. -/
def route
    (server : Server)
    (request : HttpRequest) :
    ServerAnswer :=
  let storesFiles := server.settings.usesLocalStorage
  match Destination.ofTarget storesFiles request.target with
  | .endpoint endpoint => server.visit request endpoint
  | .redirect => { response := .empty 307, server }
  | .nowhere => { response := .notFound, server }

/-- The answer to a request; a request for the head gets no body. -/
def answer
    (server : Server)
    (request : HttpRequest) :
    ServerAnswer :=
  match OriginPolicy.question? request with
  | some (origin, method) =>
      { response := server.policy.answerQuestion origin method, server }
  | none =>
      let answered := server.route request
      let admitted :=
        server.policy.admitResponse request answered.response
      { answered with
        response :=
          if request.method = "HEAD" then admitted.withoutBody else admitted }

end Server

end Montage
