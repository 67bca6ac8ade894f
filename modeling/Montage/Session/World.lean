import Montage.Font.Setup
import Montage.Scenario.Document
import Montage.Session.Basic

namespace Montage

/-!
# Sessions in a world

Programs are run in a world, and it is told what they did outside: fonts are
set up and looked for, assets are fetched, results are delivered.
-/

namespace World

/-- A world in which nothing has been observed yet. -/
def unobserved (world : World) : World :=
  { world with journal := {} }

/-- The stored objects by their keys. -/
def storedObjects (world : World) : Json :=
  match world.storage with
  | .directory storage => world.disk.fileMap storage.root
  | .remote bucket =>
      .object (bucket.objects.map fun object =>
        (object.1, .text (textOf object.2)))

end World

namespace Journal

/-- Addresses that were asked for, in the order of their texts. -/
def requestsJson (journal : Journal) : Json :=
  sortedTexts journal.requests

/-- Documents that were sent, with their addresses. -/
def postsJson (journal : Journal) : Json :=
  .array (journal.posts.map fun post => .array [.text post.1, post.2])

/-- Pauses that were made, in seconds. -/
def pausesJson (journal : Journal) : Json :=
  .array (journal.pauses.map Amount.toJson)

/-- A command with the name of its file for the path. -/
def shortened (arguments : List String) : Json :=
  .ofTexts
    (arguments.dropLast ++ [(Path.ofText (arguments.getLastD "")).name])

/-- Probes that were run; their files are told by their names. -/
def probesJson (journal : Journal) : Json :=
  .array (journal.probes.map shortened)

/-- Commands that were run. -/
def commandsJson (journal : Journal) : Json :=
  .array (journal.commands.map Json.ofTexts)

end Journal

/-! ## Fonts -/

/-- What can be asked about fonts, and their setup. -/
inductive FontCommand
  | resolve (name : Json)
  | family (name : Json)
  | holdsFont (name : Json)
  | available
  | categories
  | entry (name : Json)
  | setUp

namespace FontCommand

/-- Read a command. -/
def ofJson? : Json → Option FontCommand
  | .array [.text "resolve", name] => some (resolve name)
  | .array [.text "family", name] => some (family name)
  | .array [.text "cached", name] => some (holdsFont name)
  | .array [.text "available"] => some available
  | .array [.text "categories"] => some categories
  | .array [.text "entry", name] => some (entry name)
  | .array [.text "init"] => some setUp
  | _ => none

/-- A name to look up: what is no text names no font, and an array or an
object cannot even be looked up. -/
def nameOf : Json → Outcome String
  | .text name => .ok name
  | .array (_ :: _) => .error (.shape (.noKey .array))
  | .object (_ :: _) => .error (.shape (.noKey .object))
  | _ => .ok ""

/-- What is told of a setup. -/
def setupJson
    (counts : FontCounts)
    (journal : Journal) :
    Json :=
  .object [
    ("counts", .object [
      ("downloaded", .integer counts.downloaded),
      ("cached", .integer counts.cached),
      ("failed", .integer counts.failed)]),
    ("requests", journal.requestsJson)]

/-- Run a command. -/
def step
    (batchSize : Int)
    (world : World) :
    FontCommand → SessionStep World
  | resolve name => {
      result := (nameOf name).map fun text =>
        .text (world.shelf.resolve world.disk text)
      state := world }
  | family name => {
      result := (nameOf name).map fun text =>
        .text (world.shelf.family world.disk text)
      state := world }
  | holdsFont name => {
      result := (world.shelf.checkFont world.disk name.plainText).map .bool
      state := world }
  | available => {
      result := .ok <| .object <|
        (world.shelf.available world.disk).map fun font =>
          (font.1, .text font.2)
      state := world }
  | categories => {
      result := .ok <| .object <| CatalogFont.categories.map fun category =>
        (category.1, .ofTexts category.2)
      state := world }
  | entry name => {
      result := (nameOf name).map fun text =>
        .ofOption
          (fun font : CatalogFont =>
            .ofTexts [font.address, font.family, font.category])
          (CatalogFont.find? text)
      state := world }
  | setUp =>
      let (outcome, after) := world.unobserved.run (world.shelf.setUp batchSize)
      { result := outcome.map fun counts => setupJson counts after.journal
        state := after }

end FontCommand

/-! ## Assets -/

/-- What can be done with the assets of a job. -/
inductive AssetCommand
  | fetch (reference : AssetReference)
  | fetchTogether (references : List AssetReference)
  | checkSpace
  | cleanUp

namespace AssetCommand

/-- Read an address and its kind. -/
def referenceOfJson? : Json → Option AssetReference
  | .array [.text address] => some { address, kind := .video }
  | .array [.text address, .text kind] =>
      some { address, kind := .ofName kind }
  | _ => none

/-- Read a command. -/
def ofJson? : Json → Option AssetCommand
  | .array (.text "fetch" :: reference) =>
      fetch <$> referenceOfJson? (.array reference)
  | .array [.text "fetch_all", .array references] =>
      fetchTogether <$> references.mapM referenceOfJson?
  | .array [.text "disk"] => some checkSpace
  | .array [.text "cleanup"] => some cleanUp
  | _ => none

/-- The program of a command. -/
def program
    (server : RenderServer) :
    AssetCommand → JobProgram Json
  | fetch reference => do
      let file ← reference.fetch server.storageBase
      pure (.text file.toText)
  | fetchTogether references => do
      let files ← Montage.fetchTogether server.storageBase references
      pure (.object (files.map fun file => (file.1, .text file.2.toText)))
  | checkSpace => do
      ensureFreeSpace server.leastFreeSpace
      pure .null
  | cleanUp => do
      let files ← JobProgram.files
      JobProgram.attempt
        (Program.perform (.removeFiles files.workspace.disposable))
      pure .null

/-- Run a command and observe requests, files and names. -/
def step
    (server : RenderServer)
    (state : World × JobFiles)
    (command : AssetCommand) :
    SessionStep (World × JobFiles) :=
  let ((result, files), world) :=
    state.1.unobserved.run ((command.program server).start state.2)
  { result
    observed := [
      ("requests", world.journal.requestsJson),
      ("files", world.disk.fileMap files.workspace.root),
      ("map",
        .object (files.assets.map fun asset =>
          (asset.1, .text asset.2.name))),
      ("tracked", .ofTexts (files.workspace.files.map Path.name))]
    state := (world, files) }

end AssetCommand

/-! ## Results -/

/-- What can be done with the result of a job. -/
inductive DeliveryCommand
  | upload (file : Path) (projectId : Option String) (jobId : String)
  | offer (file : Path)
  | callback (address document : Json)

namespace DeliveryCommand

/-- Read a command; its files are relative to a root. -/
def ofJson? (root : Path) : Json → Option DeliveryCommand
  | .array [.text "upload", .text name, project, job] =>
      some (upload (root.join name) project.givenText? job.plainText)
  | .array [.text "serve", .text name] => some (offer (root.join name))
  | .array [.text "callback", address, document] =>
      some (callback address document)
  | _ => none

/-- The program of a command. -/
def program
    (server : RenderServer) :
    DeliveryCommand → Program (Outcome Json)
  | upload file projectId jobId => do
      let outcome ← uploadResult file projectId jobId
      pure (outcome.map .text)
  | offer file => do
      let outcome ← offerResult server.publicBase server.probeProgram file
      pure (outcome.map fun offer => .array [.text offer.1, offer.2])
  | callback address document => do
      let outcome ← server.callbacks.sendValue address document
      pure (outcome.map .bool)

/-- Run a command and observe callbacks, pauses and stored objects. -/
def step
    (server : RenderServer)
    (world : World)
    (command : DeliveryCommand) :
    SessionStep World :=
  let (result, after) := world.unobserved.run (command.program server)
  { result
    observed := [
      ("posts", after.journal.postsJson),
      ("sleeps", after.journal.pausesJson),
      ("stored", after.storedObjects)]
    state := after }

end DeliveryCommand

end Montage
