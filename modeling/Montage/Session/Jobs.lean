import Montage.Session.Registry
import Montage.Session.World

namespace Montage

/-!
# Sessions of whole jobs

Requests are taken in and run to their end, one after another in one world.
-/

/-- The id under which a request without one is run. -/
def idWhenAbsent : String :=
  "None"

/-- A request as it is run, with an id in any case. -/
def RenderRequest.asSubmission (request : RenderRequest) : Submission where
  jobId := request.jobId.getD idWhenAbsent
  request := request

namespace Submission

/-- The id of a job, null if its request has none. -/
def idJson (submission : Submission) : Json :=
  .ofText? submission.request.jobId

/-- What the registry was told of a job. -/
def updateJson
    (submission : Submission)
    (update : StatusUpdate) :
    Json :=
  .array [
    submission.idJson,
    .text update.status.name,
    .ofInteger? update.progress,
    sortedTexts (update.fields.map Prod.fst)]

/-- The record of a job after its run. -/
def recordJson
    (submission : Submission)
    (registry : Registry) :
    Outcome Json :=
  (registry.find submission.jobId).map fun job =>
    .object (setField "job_id" submission.idJson job.toJson.entries)

/-- Take a job in, run it and give its slot back. -/
def runAdmitted
    (server : RenderServer)
    (submission : Submission)
    (world : World) :
    Outcome Json × World :=
  let (admitted, enrolled) :=
    world.enroll submission.jobId (.ofText? submission.request.projectId)
  match admitted with
  | .error failure => (.error failure, enrolled)
  | .ok _ =>
      let (ended, ran) := enrolled.run (submission.run server)
      let released := ran.release submission.jobId
      (ended.bind fun _ => submission.recordJson released.registry, released)

/-- What was done outside for a job, or for none. -/
def observed
    (server : RenderServer)
    (world : World)
    (updates : List Json) :
    Fields :=
  let journal := world.journal
  let temp := server.tempDirectory
  [ ("history", .array updates),
    ("work_files",
      .array (journal.snapshots.map fun disk => disk.fileMap temp)),
    ("commands", journal.commandsJson),
    ("requests", journal.requestsJson),
    ("callbacks", journal.postsJson),
    ("sleeps", journal.pausesJson),
    ("probes", journal.probesJson),
    ("left", world.disk.fileMap temp),
    ("stored", world.storedObjects)]

/-- Run a job and observe everything that it did. -/
def step
    (server : RenderServer)
    (world : World)
    (submission : Submission) :
    SessionStep World :=
  let (result, after) := submission.runAdmitted server world.unobserved
  { result
    observed :=
      observed server after (after.journal.updates.map submission.updateJson)
    state := after }

/-- Pass over a request that is refused with an answer. -/
def stepOver
    (server : RenderServer)
    (world : World)
    (answer : Json) :
    SessionStep World where
  result := .ok answer
  observed := observed server world.unobserved []
  state := world.unobserved

end Submission

end Montage
