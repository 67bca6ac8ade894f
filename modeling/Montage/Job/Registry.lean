import Montage.Job.Record

namespace Montage

/-!
# Job registry

The records of all jobs, the slots of the jobs that run, and the tasks that run
them. A job keeps its slot until its task ends, even when its record is final.
When there are too many records, old ones whose jobs hold no slot are dropped.
The clock is read when a record is written, and again when old ones are looked
for.
-/

/-- All that is known about jobs, and the limits on it. -/
structure Registry where
  /-- How many jobs may hold a slot. -/
  limit : Int
  /-- How many records are kept before old ones are dropped. -/
  highWater : Int
  /-- How long a record is not old. -/
  lifetime : Binary64
  /-- The records by id, in the order in which the ids first came. -/
  jobs : List (String × Job) := []
  /-- The ids of jobs that hold a slot. -/
  slots : List String := []
  /-- The ids of running tasks, the oldest first. -/
  tasks : List String := []

/-- What an operation answers, whom it dropped, and the registry after it. -/
structure Change (α : Type) where
  result : Outcome α
  evicted : List Job
  registry : Registry

/-- What happens when a record is dropped: nothing, or a failure. -/
abbrev EvictionHook := Job → Option Failure

namespace Registry

/-- The record of an id. -/
def find?
    (registry : Registry)
    (id : String) :
    Option Job :=
  getField? id registry.jobs

/-- The record of an id, which has to be known. -/
def find
    (registry : Registry)
    (id : String) :
    Outcome Job :=
  match registry.find? id with
  | some job => .ok job
  | none => .error (.server (.unknownJob (some id)))

/-- Put a record, in the stead of an older one of its id. -/
def put
    (registry : Registry)
    (job : Job) :
    Registry :=
  { registry with jobs := setField job.id job registry.jobs }

/-- Whether a job holds a slot. -/
def holdsSlot
    (registry : Registry)
    (id : String) :
    Bool :=
  registry.slots.contains id

/-- Whether a record may be dropped at a time. -/
def isStale
    (registry : Registry)
    (now : Binary64)
    (job : Job) :
    Bool :=
  !registry.holdsSlot job.id && registry.lifetime.less (now - job.touched)

/-- Drop a record. -/
def forget
    (registry : Registry)
    (id : String) :
    Registry :=
  { registry with jobs := registry.jobs.filter fun item => item.1 ≠ id }

/-- Drop records one by one; a failure that is none of the system's ends it. -/
def evict
    (hook : EvictionHook) :
    List Job → Registry → Change Unit
  | [], registry => { result := .ok (), evicted := [], registry }
  | job :: rest, registry =>
      let dropped := registry.forget job.id
      let goOn :=
        let later := evict hook rest dropped
        { later with evicted := job :: later.evicted }
      match hook job with
      | none => goOn
      | some failure =>
          if failure.failureClass = .system then
            goOn
          else
            { result := .error failure, evicted := [job], registry := dropped }

/-- The records that may be dropped at a time. -/
def stale
    (registry : Registry)
    (now : Binary64) :
    List Job :=
  (registry.jobs.map Prod.snd).filter (registry.isStale now)

/-- Drop old records if there are too many. -/
def dropStale
    (registry : Registry)
    (now : Binary64)
    (hook : EvictionHook) :
    Change Unit :=
  if registry.jobs.length ≤ registry.highWater then
    { result := .ok (), evicted := [], registry }
  else
    evict hook (registry.stale now) registry

/-- Sweep, and answer with a value unless that fails. -/
def dropStaleFor
    {α : Type}
    (value : α)
    (registry : Registry)
    (now : Binary64)
    (hook : EvictionHook) :
    Change α :=
  let swept := registry.dropStale now hook
  { result := swept.result.map fun _ => value
    evicted := swept.evicted
    registry := swept.registry }

/-- Whether an id is in use: by a slot, or by a record that is not final. -/
def isInUse
    (registry : Registry)
    (id : String) :
    Bool :=
  registry.holdsSlot id ||
    (registry.find? id).any fun job => !job.status.isFinal

/-- Take a job in: a slot and a record, unless its id is in use or no slot is
free. -/
def enroll
    (registry : Registry)
    (id : String)
    (project : Json)
    (now later : Binary64)
    (hook : EvictionHook) :
    Change Job :=
  if registry.isInUse id then
    { result := .error (.server (.jobInProgress (some id)))
      evicted := []
      registry }
  else if registry.limit ≤ registry.slots.length then
    { result := .error (.server (.busy registry.slots.length registry.limit))
      evicted := []
      registry }
  else
    let job : Job := { id, project, touched := now }
    let entered := { registry.put job with slots := registry.slots ++ [id] }
    entered.dropStaleFor job later hook

/-- Give a slot back, if the job holds one. -/
def release
    (registry : Registry)
    (id : String) :
    Registry :=
  { registry with slots := registry.slots.filter (· ≠ id) }

/-- Write an update into a record and drop the stale ones. -/
def update
    (registry : Registry)
    (job : Job)
    (status : JobStatus)
    (progress : Json)
    (fields : Fields)
    (now later : Binary64)
    (hook : EvictionHook) :
    Change Job :=
  match job.updated status progress fields with
  | (.error failure, changed) =>
      { result := .error failure
        evicted := []
        registry := registry.put changed }
  | (.ok _, changed) =>
      let touched := { changed with touched := now }
      (registry.put touched).dropStaleFor touched later hook

/-- The names of the parts of an update that are no fields. -/
def partNames : List String :=
  ["self", "job_id", "status", "progress"]

/-- An update has no field with the name of another part. -/
def checkFields (fields : Fields) : Outcome Unit :=
  match (fields.map Prod.fst).find? partNames.contains with
  | some name =>
      .error (.argument (.repeated "JobController.set_status" name))
  | none => .ok ()

/-- The station that an update names. -/
def checkStatus (name : String) : Outcome JobStatus :=
  match JobStatus.find? name with
  | some status => .ok status
  | none => .error (.unknownStatus name)

/-- Tell the status of a job, which is recorded if it is not known yet. -/
def tell
    (registry : Registry)
    (id statusName : String)
    (progress : Json)
    (fields : Fields)
    (now later : Binary64)
    (hook : EvictionHook) :
    Change Job :=
  match checkFields fields *> checkStatus statusName with
  | .error failure =>
      { result := .error failure, evicted := [], registry }
  | .ok status =>
      match registry.find? id with
      | some job =>
          if job.ignores status then
            { result := .ok job, evicted := [], registry }
          else
            registry.update job status progress fields now later hook
      | none =>
          let project := (getField? "project_id" fields).getD .null
          let remaining := fields.filter fun field => field.1 ≠ "project_id"
          registry.update { id, project, touched := now } status progress
            remaining now later hook

/-- The name of the task of a job. -/
def taskName (id : String) : String :=
  "render-" ++ id

/-- Start the task of a job. -/
def startTask
    (registry : Registry)
    (id : String) :
    Registry :=
  { registry with tasks := registry.tasks ++ [id] }

/-- End the oldest task of a job, which gives its slot back. -/
def finish
    (registry : Registry)
    (id : String) :
    Registry :=
  { registry with tasks := registry.tasks.erase id }.release id

/-- End all tasks, the oldest first. -/
def finishAll (registry : Registry) : Registry :=
  registry.tasks.foldl finish registry

end Registry

end Montage
