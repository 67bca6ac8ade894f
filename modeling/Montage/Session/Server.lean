import Montage.Server.Answer
import Montage.Session.Registry
import Montage.Session.World

namespace Montage

/-!
# Sessions with a server

Requests are sent to a server while time passes. Accepted jobs either run to
their end at once, or are held until they are finished by a command.
-/

/-- What can happen to a server. -/
inductive ServerCommand
  | request (message : HttpRequest)
  | unsendable (cause : AddressError)
  | tell (id : String) (status progress : Json) (fields : Fields)
  | wait (seconds : Binary64)
  | listTemp
  | finish (id : String)

namespace ServerCommand

/-- A header with its name in lower case. -/
def headerOf (header : String × Json) : Option (String × String) :=
  header.2.text?.map fun value =>
    (String.ofList (header.1.toList.map Char.toLower), value)

/-- The type that a body has unless its headers tell another one. -/
def bodyHeader : List (String × String) :=
  [("content-type", "application/json")]

/-- The text of a body and the headers that come with it. -/
def bodyOf : Option Json → String × List (String × String)
  | none => ("", [])
  | some .null => ("", [])
  | some (.text body) => (body, bodyHeader)
  | some value => (value.write, bodyHeader)

/-- The parts of the address of the server. -/
def serverAddress : WrittenAddress where
  scheme := "http".toList
  host := "testserver".toList

/-- The address that a client asks for: a target is one of the server's. -/
def askedAddress (target : String) : Except AddressError Address := do
  let address ← Address.read target
  if address.isComplete then
    pure address
  else
    let rooted := address.rootedTarget
    Address.ofWritten {
      serverAddress with
      path := beforeChar '?' rooted
      query := WrittenAddress.after? '?' rooted }

/-- The target of an address, which starts with a slash. -/
def targetOf (address : Address) : String :=
  String.ofList <|
    if address.path.isEmpty then
      '/' :: address.targetText
    else
      address.targetText

/-- Read a request; what is no address cannot be asked for. -/
def requestOf
    (method target : String)
    (rest : List Json) :
    ServerCommand :=
  match askedAddress target with
  | .error cause => unsendable cause
  | .ok address =>
      let body := bodyOf rest.head?
      let headers := (rest[1]?.getD Json.null).entries.filterMap headerOf
      request {
        method
        target := targetOf address
        headers := fieldsOf (body.2 ++ headers)
        body := body.1 }

/-- Read a command. -/
def ofJson? : Json → Option ServerCommand
  | .array [.text "temp"] => some listTemp
  | .array [.text "finish", .text id, .text _] => some (finish id)
  | .array (.text "set" :: .text id :: status :: rest) =>
      match RegistryCommand.tellOfJson? id status rest with
      | some (.tell id status progress fields) =>
          some (tell id status progress fields)
      | _ => none
  | .array [.text "tick", seconds] =>
      wait <$> (reportedNumber seconds).toOption
  | .array (.text method :: .text target :: rest) =>
      some (requestOf method target rest)
  | _ => none

end ServerCommand

namespace HttpResponse

/-- The headers of an answer that are told. -/
def toldHeaders : List String := [
  "content-type", "content-disposition", "allow",
  "access-control-allow-origin"]

/-- The body of an answer; a file that is JSON is told as JSON. -/
def bodyField (response : HttpResponse) : String × Json :=
  match response.body with
  | .json value => ("json", value)
  | .bytes content =>
      let text := textOf content
      match response.headers.lookup "content-type", Json.read text with
      | some "application/json", .ok value => ("json", value)
      | _, _ => ("text", .text text)

/-- An answer as JSON. -/
def toJson (response : HttpResponse) : Json :=
  .object [
    ("status", .integer response.status),
    response.bodyField,
    ("headers",
      .object <| (response.headers.filter fun header =>
          toldHeaders.contains header.1).map fun header =>
        (header.1, .text header.2))]

end HttpResponse

/-- A server, and whether it runs the jobs that it accepts. -/
structure ServerSession where
  server : Server
  runsJobs : Bool

namespace ServerSession

/-- Go on with a world. -/
def withWorld
    (session : ServerSession)
    (world : World) :
    ServerSession :=
  { session with server := { session.server with world } }

/-- The world around the server. -/
def world (session : ServerSession) : World :=
  session.server.world

/-- End the task of a job. -/
def finish
    (session : ServerSession)
    (id : String) :
    ServerSession :=
  session.withWorld {
    session.world with
    registry := session.world.registry.finish id }

/-- Run an accepted job to its end, if jobs are run. -/
def runAccepted (session : ServerSession) :
    Option Submission → ServerSession
  | none => session
  | some submission =>
      if session.runsJobs then
        let ran :=
          session.world.run (submission.run session.server.renderServer)
        (session.withWorld ran.2).finish submission.jobId
      else
        session

/-- Run a command. -/
def run (session : ServerSession) :
    ServerCommand → Outcome Json × ServerSession
  | .request message =>
      let answered := session.server.answer message
      (.ok answered.response.toJson,
        { session with server := answered.server }.runAccepted
          answered.accepted)
  | .unsendable cause => (.error (.address cause), session)
  | .tell id status progress fields =>
      match RegistryCommand.statusName status with
      | .error failure => (.error failure, session)
      | .ok name =>
          let (told, world) := session.world.tell id name progress fields
          (told.map Job.toJson, session.withWorld world)
  | .wait seconds =>
      (.ok .null,
        session.withWorld {
          session.world with now := session.world.now + seconds })
  | .listTemp =>
      (.ok (session.world.disk.fileNames session.server.tempDirectory),
        session)
  | .finish id => (.ok .null, session.finish id)

/-- Run a command and observe slots and records. -/
def step
    (session : ServerSession)
    (command : ServerCommand) :
    SessionStep ServerSession :=
  let (result, state) := session.run command
  { result
    observed := [
      ("active", sortedTexts state.world.registry.slots),
      ("tracked", .ofTexts (state.world.registry.jobs.map Prod.fst))]
    state }

/-- What can be observed when a server has started. -/
def startJson (server : Server) : Json :=
  .object [
    ("temp", server.world.disk.fileNames server.tempDirectory),
    ("fonts",
      server.world.disk.fileNames (.ofText server.settings.fontsDirectory)),
    ("requests", server.world.journal.requestsJson)]

/-- Put files into the directory of files in work. -/
def withTemp
    (session : ServerSession)
    (files : Json) :
    Outcome ServerSession :=
  let filled := session.world.disk.withFiles session.server.tempDirectory files
  filled.map fun disk => session.withWorld { session.world with disk }

end ServerSession

end Montage
