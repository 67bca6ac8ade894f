import Montage.Job.Registry
import Montage.Media.Report
import Montage.Scenario.Document
import Montage.Session.Basic

namespace Montage

/-!
# Sessions with a registry

Jobs are taken in, told about, run and forgotten, while time passes.
-/

/-- What can happen to a registry. -/
inductive RegistryCommand
  | enroll (id : String) (project : Json)
  | tell (id : String) (status progress : Json) (fields : Fields)
  | release (id : String)
  | find (id : String)
  | demand (id : String)
  | wait (seconds : Binary64)
  | startTask (id : String)
  | finish (id : String) (failure : Option Failure)
  | finishAll

namespace RegistryCommand

/-- Read names and values: an object, or a list of pairs. -/
def fieldsOfJson : Json → Fields
  | .object fields => fields
  | value =>
      fieldsOf <| value.items.filterMap fun entry =>
        match entry with
        | .array [.text name, value] => some (name, value)
        | _ => none

/-- The name that a status of any type is looked up by; an array or an object
cannot be looked up. -/
def statusName : Json → Outcome String
  | .array _ => .error (.shape (.noKey .array))
  | .object _ => .error (.shape (.noKey .object))
  | value => .ok value.plainText

/-- Read a status that is told, with possible progress and fields. -/
def tellOfJson?
    (id : String)
    (status : Json) :
    List Json → Option RegistryCommand
  | [] => some (tell id status .null [])
  | [progress] => some (tell id status progress [])
  | [progress, fields] =>
      some (tell id status progress (fieldsOfJson fields))
  | _ => none

/-- How a task ends: well, or by a failure of a name. -/
def endingOfName
    (names : FailureNames)
    (name : String) :
    Option Failure :=
  if name = "ok" then none else some (names.named name)

/-- Read a command. -/
def ofJson? (names : FailureNames) : Json → Option RegistryCommand
  | .array [.text "admit", .text id] => some (enroll id .null)
  | .array [.text "admit", .text id, project] => some (enroll id project)
  | .array (.text "set" :: .text id :: status :: rest) =>
      tellOfJson? id status rest
  | .array [.text "release", .text id] => some (release id)
  | .array [.text "get", .text id] => some (find id)
  | .array [.text "require", .text id] => some (demand id)
  | .array [.text "tick", seconds] =>
      wait <$> (reportedNumber seconds).toOption
  | .array [.text "spawn", .text id] => some (startTask id)
  | .array [.text "end", .text id, .text ending] =>
      some (finish id (endingOfName names ending))
  | .array [.text "drain"] => some finishAll
  | _ => none

end RegistryCommand

/-- A record with everything that is remembered. -/
def Job.toJson (job : Job) : Json :=
  .object <| job.report ++ [
    ("output_path", job.outputPath),
    ("terminal", .bool job.status.isFinal)]

/-- A registry, the time, and what happens when records are dropped. -/
structure RegistrySession where
  registry : Registry
  now : Binary64
  hook : EvictionHook
  /-- Whether it can be observed which records are dropped. -/
  observesHook : Bool

/-- What a command did to a registry. -/
structure RegistryEvent where
  result : Outcome Json
  evicted : List Job := []
  session : RegistrySession

namespace RegistrySession

/-- Take over a change. -/
def take
    (session : RegistrySession)
    (change : Change Job) :
    RegistryEvent where
  result := change.result.map Job.toJson
  evicted := change.evicted
  session := { session with registry := change.registry }

/-- Take over a registry. -/
def replace
    (session : RegistrySession)
    (result : Outcome Json)
    (registry : Registry) :
    RegistryEvent where
  result := result
  session := { session with registry }

/-- How a task ends that ends well, or by a failure. -/
def ending : Option Failure → Outcome Json
  | none => .ok (.text "finished")
  | some failure => .error failure

/-- Run a command. -/
def run (session : RegistrySession) : RegistryCommand → RegistryEvent
  | .enroll id project =>
      session.take
        (session.registry.enroll id project session.now session.now session.hook)
  | .tell id status progress fields =>
      match RegistryCommand.statusName status with
      | .error failure => session.replace (.error failure) session.registry
      | .ok name =>
          session.take <|
            session.registry.tell id name progress fields session.now
              session.now session.hook
  | .release id => session.replace (.ok .null) (session.registry.release id)
  | .find id =>
      session.replace
        (.ok (.ofOption Job.toJson (session.registry.find? id)))
        session.registry
  | .demand id =>
      session.replace ((session.registry.find id).map Job.toJson)
        session.registry
  | .wait seconds => {
      result := .ok .null
      session := { session with now := session.now + seconds } }
  | .startTask id =>
      session.replace (.ok (.text (Registry.taskName id)))
        (session.registry.startTask id)
  | .finish id failure =>
      session.replace (ending failure) (session.registry.finish id)
  | .finishAll => session.replace (.ok .null) session.registry.finishAll

/-- What can be observed of a registry, and which records were dropped. -/
def observed
    (session : RegistrySession)
    (evicted : List Job) :
    Fields :=
  let told := if session.observesHook then evicted else []
  let tracked := session.registry.jobs.map Prod.fst
  [ ("evicted",
      .array (told.map fun job => .array [.text job.id, job.outputPath])),
    ("active", sortedTexts session.registry.slots),
    ("active_count", .integer session.registry.slots.length),
    ("tracked", .ofTexts tracked),
    ("tracked_count", .integer tracked.length)]

/-- Run a command and observe the registry. -/
def step
    (session : RegistrySession)
    (command : RegistryCommand) :
    SessionStep RegistrySession :=
  let event := session.run command
  { result := event.result
    observed := event.session.observed event.evicted
    state := event.session }

/-- A value, unless it is absent or zero. -/
def chosen
    (default : Int)
    (value : Option Int) :
    Int :=
  (value.filter (· ≠ 0)).getD default

/-- A lifetime, unless it is absent or zero. -/
def chosenLifetime
    (default : Binary64)
    (value : Json) :
    Binary64 :=
  ((reportedNumber value).toOption.filter (!·.isZero)).getD default

/-- The registry of a scenario, with limits of its own. -/
def registryOfScenario
    (settings : Settings)
    (scenario : Json) :
    Registry where
  limit := chosen settings.maxConcurrentJobs (scenario.integerAt? "max")
  highWater :=
    chosen settings.jobRegistryHighWater (scenario.integerAt? "high_water")
  lifetime := chosenLifetime settings.lifetime (scenario.member "ttl")

/-- What happens to dropped records in a scenario: some names make it fail. -/
def hookOfScenario
    (names : FailureNames)
    (scenario : Json) :
    EvictionHook := fun job =>
  if scenario.isTrueAt "no_hook" then
    none
  else
    ((scenario.member "evict_raises").textAt? job.id).map names.named

/-- The session of a scenario. -/
def ofScenario
    (names : FailureNames)
    (settings : Settings)
    (scenario : Json) :
    RegistrySession where
  registry := registryOfScenario settings scenario
  now :=
    (scenario.field? "now").elim scenarioStart fun now =>
      (reportedNumber now).toOption.getD scenarioStart
  hook := hookOfScenario names scenario
  observesHook := !scenario.isTrueAt "no_hook"

/-- The limits of a registry. -/
def limits (session : RegistrySession) : Json :=
  .object [
    ("max", .integer session.registry.limit),
    ("high_water", .integer session.registry.highWater),
    ("ttl", .number session.registry.lifetime)]

end RegistrySession

end Montage
