import Montage.Json.Operand

namespace Montage

/-!
# Job records

What is remembered of a job. Results are kept as they were told, under the few
names that results may have.
-/

/-! ## Job status

The stations of a job. Uploading and finalizing are alternatives of one rank;
done and error are final.
-/

/-- The stations of a job. -/
inductive JobStatus
  | queued
  | downloading
  | rendering
  | uploading
  | finalizing
  | done
  | error
deriving DecidableEq, Repr

namespace JobStatus

/-- All stations. -/
def all : List JobStatus :=
  [queued, downloading, rendering, uploading, finalizing, done, error]

/-- The name of a station. -/
def name : JobStatus → String
  | queued => "queued"
  | downloading => "downloading"
  | rendering => "rendering"
  | uploading => "uploading"
  | finalizing => "finalizing"
  | done => "done"
  | error => "error"

/-- The station of a name. -/
def find? (name : String) : Option JobStatus :=
  all.find? fun status => status.name == name

/-- How far a job has come. -/
def rank : JobStatus → Nat
  | queued => 0
  | downloading => 1
  | rendering => 2
  | uploading => 3
  | finalizing => 3
  | done => 4
  | error => 4

/-- Whether a job stays at a station for ever. -/
def isFinal (status : JobStatus) : Bool :=
  status = done || status = error

end JobStatus

/-! ## Records -/

/-- What is remembered of a job. -/
structure Job where
  id : String
  project : Json := .null
  status : JobStatus := .queued
  progress : Amount := .whole 0
  results : Fields := []
  error : Json := .null
  outputPath : Json := .null
  /-- The time of the last change. -/
  touched : Binary64

namespace Job

/-- The names that results may have. -/
def resultNames : List String :=
  ["video_url", "download_url", "metadata"]

/-- Set one field by its name. -/
def setResult
    (job : Job)
    (name : String)
    (value : Json) :
    Outcome Job :=
  if name = "error" then
    .ok { job with error := value }
  else if name = "output_path" then
    .ok { job with outputPath := value }
  else if resultNames.contains name then
    .ok { job with results := setField name value job.results }
  else
    .error (.unknownField name)

/-- Set fields in order, as far as their names are known. -/
def setResults
    (job : Job) :
    Fields → Outcome Unit × Job
  | [] => (.ok (), job)
  | (name, value) :: rest =>
      match job.setResult name value with
      | .ok changed => changed.setResults rest
      | .error failure => (.error failure, job)

/-- The progress of a job that is done. -/
def fullProgress : Amount :=
  .whole 100

/-- The progress after an update, which may tell one: it never falls and never
exceeds that of a job that is done. -/
def progressAfter
    (job : Job)
    (status : JobStatus)
    (progress : Json) :
    Outcome Amount :=
  if status = .done then
    .ok fullProgress
  else
    match progress with
    | .null => .ok job.progress
    | told =>
        told.ordered.map fun amount =>
          job.progress.maximum (fullProgress.minimum amount)

/-- Move a job to a station, where its progress may be refused. -/
def moveTo
    (job : Job)
    (status : JobStatus)
    (progress : Json) :
    Outcome Unit × Job :=
  let moved := { job with status }
  match job.progressAfter status progress with
  | .ok amount => (.ok (), { moved with progress := amount })
  | .error failure => (.error failure, moved)

/-- Move a job to a station and set its results. -/
def updated
    (job : Job)
    (status : JobStatus)
    (progress : Json)
    (fields : Fields) :
    Outcome Unit × Job :=
  match job.moveTo status progress with
  | (.error failure, moved) => (.error failure, moved)
  | (.ok _, moved) => moved.setResults fields

/-- Whether an update is refused silently: the job is final or further. -/
def ignores
    (job : Job)
    (status : JobStatus) :
    Bool :=
  job.status.isFinal || status.rank < job.status.rank

/-- What a client is told of a job; a field without value is left out. -/
def report (job : Job) : Fields :=
  let told := fieldsOf <| [
    ("job_id", Json.text job.id),
    ("project_id", job.project),
    ("status", .text job.status.name),
    ("progress", job.progress.toJson)] ++ job.results
  match job.error with
  | .null => told
  | error => setField "error" error told

end Job

end Montage
