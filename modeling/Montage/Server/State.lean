import Montage.Font.Setup
import Montage.Render.Job
import Montage.Scenario.World
import Montage.Server.Origin

namespace Montage

/-!
# The running server

A server has settings and a world, and knows since its start which encoder it
has.
-/

/-- A running server. -/
structure Server where
  settings : Settings
  world : World
  encoderVersion : Option String := none
  policy : OriginPolicy := {}
  startedAt : Binary64

namespace Server

/-- What its jobs have in common. -/
def renderServer (server : Server) : RenderServer :=
  .ofSettings server.settings (some server.world.storage.publicBase)

/-- The directory of files in work. -/
def tempDirectory (server : Server) : Path :=
  .ofText server.settings.tempDirectory

/-- Names that stay in the directory of files in work. -/
def keptNames : List String :=
  [".gitkeep"]

/-- A server has to be able to say what it is. -/
def checkDescription (server : Server) : Outcome Unit × Server :=
  if server.settings.appName.isEmpty then
    (.error .noServiceName, server)
  else if server.settings.appVersion.isEmpty then
    (.error .noServiceVersion, server)
  else
    (.ok (), server)

/-- Read which origins may use the server. -/
def readPolicy (server : Server) : Outcome Unit × Server :=
  let origins := server.settings.allowedOrigins
  (origins.map fun _ => (),
    { server with policy := .ofOrigins (origins.toOption.getD []) })

/-- Remove what earlier runs left in the directory of files in work. -/
def clearTemp (server : Server) : Outcome Unit × Server :=
  let (cleared, disk) :=
    server.world.disk.clear server.tempDirectory keptNames
  (cleared.map fun _ => (), { server with world := { server.world with disk } })

/-- Ask for the version of the encoder. -/
def askVersion (server : Server) : Outcome Unit × Server :=
  let (asked, world) :=
    server.world.run (Encoder.version server.settings.ffmpegPath)
  (asked.map fun _ => (),
    { server with
      world
      encoderVersion := asked.toOption.bind id })

/-- Set up fonts, if the settings ask for it. -/
def setUpFonts (server : Server) : Outcome Unit × Server :=
  if server.settings.downloadsFontsOnStartup then
    let (done, world) :=
      server.world.run
        (server.world.shelf.setUp server.settings.fontDownloadBatchSize)
    (done.map fun _ => (), { server with world })
  else
    (.ok (), server)

/-- Take steps one after another until one fails. -/
def takeSteps :
    List (Server → Outcome Unit × Server) →
    Server →
    Outcome Unit × Server
  | [], server => (.ok (), server)
  | step :: rest, server =>
      match step server with
      | (.ok _, after) => takeSteps rest after
      | (.error failure, after) => (.error failure, after)

/-- Start a server in a world. -/
def start
    (settings : Settings)
    (world : World) :
    Outcome Unit × Server :=
  takeSteps [checkDescription, readPolicy, clearTemp, askVersion, setUpFonts]
    { settings, world, startedAt := world.now }

end Server

end Montage
