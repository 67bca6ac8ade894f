import Montage.Scenario.Files
import Montage.Session.Basic
import Montage.Storage.Basic

namespace Montage

/-!
# Sessions with a storage

Files are stored under keys and copied back.
-/

/-- What can be done with a storage. -/
inductive StorageCommand
  | upload (source : Path) (key : String) (contentType : Option String)
  | download (key : String) (destination : Path)
  | holds (key : String)
  | tellAddress (key : String)
  | tellKey (address : String)

namespace StorageCommand

/-- Read a command; its files are relative to a root. -/
def ofJson? (root : Path) : Json → Option StorageCommand
  | .array (.text "upload" :: .text name :: .text key :: contentType) =>
      some (upload (root.join name) key (contentType.head?.bind Json.text?))
  | .array [.text "download", .text key, .text name] =>
      some (download key (root.join name))
  | .array [.text "exists", .text key] => some (holds key)
  | .array [.text "url", .text key] => some (tellAddress key)
  | .array [.text "key", .text address] => some (tellKey address)
  | _ => none

end StorageCommand

namespace BucketRequest

/-- A request as JSON; files are told by their names. -/
def toJson : BucketRequest → Json
  | connect project =>
      .array [
        .text "client",
        .object (project.toList.map fun name => ("project", .text name))]
  | openBucket name => .ofTexts ["bucket", name]
  | upload key source contentType =>
      .array [
        .text "upload", .text key, .text source.name,
        .object (contentType.toList.map fun name =>
          ("content_type", .text name))]
  | download key destination => .ofTexts ["download", key, destination.name]
  | lookUp key => .ofTexts ["exists", key]

end BucketRequest

/-- A storage and a disk. -/
structure StorageSession where
  storage : ObjectStorage
  disk : Disk

namespace StorageSession

/-- The requests that a bucket noted. -/
def calls : ObjectStorage → Fields
  | .directory _ => []
  | .remote bucket =>
      [("calls", .array (bucket.requests.map BucketRequest.toJson))]

/-- A storage that has noted no request yet. -/
def withoutCalls : ObjectStorage → ObjectStorage
  | .directory storage => .directory storage
  | .remote bucket => .remote { bucket with requests := [] }

/-- What a request leaves, with its result as JSON. -/
def taken
    {α : Type}
    (effect : ObjectStorage.Effect α)
    (toJson : α → Json) :
    Outcome Json × StorageSession :=
  (effect.result.map toJson, { storage := effect.storage, disk := effect.disk })

/-- Run a command. -/
def run (session : StorageSession) :
    StorageCommand → Outcome Json × StorageSession
  | .upload source key contentType =>
      taken (session.storage.upload session.disk source key contentType) .text
  | .download key destination =>
      taken (session.storage.download session.disk key destination) fun _ =>
        .text destination.toText
  | .holds key => taken (session.storage.holds session.disk key) .bool
  | .tellAddress key => (.ok (.text (session.storage.address key)), session)
  | .tellKey address => (.ok (.ofText? (session.storage.key? address)), session)

/-- Run a command and observe the files below a root and the requests made. -/
def step
    (root : Path)
    (session : StorageSession)
    (command : StorageCommand) :
    SessionStep StorageSession :=
  let (result, state) := session.run command
  { result
    observed := ("disk", state.disk.fileMap root) :: calls state.storage
    state := { state with storage := withoutCalls state.storage } }

end StorageSession

end Montage
