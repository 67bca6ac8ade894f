import Montage.Font.Service
import Montage.Job.Registry
import Montage.Json.Shown
import Montage.Storage.Basic
import Montage.Work.Program

namespace Montage

/-!
# Worlds

A world answers every call of a program: by its disk, its registry and its
storage, and by a script for what lies outside.
-/

/-! ## Scripts

What lies outside the server is told by a script: what remote addresses answer,
what the probe reports, what the encoder does, how much space is free.
-/

/-- What a run of the encoder leaves. -/
structure EncoderScript where
  result : Outcome ProcessResult := .ok {}
  /-- What is written into the output file. -/
  written : Option Bytes := none

/-- The bytes that are free if nothing else is told. -/
def Script.usualSpace : Amount :=
  .whole (10 * 1024 * 1024 * 1024)

/-- Everything that is decided outside. -/
structure Script where
  /-- The answer of each remote address. -/
  web : List (String × Outcome Reply) := []
  /-- The end of each probe by file name; a star stands for all others. -/
  probes : List (String × Outcome ProcessResult) := []
  encoder : EncoderScript := {}
  /-- What the encoder does when it is asked for its version. -/
  version : EncoderScript := {}
  /-- The sizes of files that are not on the disk of the scenario. -/
  sizes : List (String × Int) := []
  freeSpace : Outcome Amount := .ok Script.usualSpace
  /-- Why uploads fail, if they do. -/
  uploadFailure : Option Failure := none

namespace Script

/-- The answer of an address; an unknown one has nothing. -/
def reply
    (script : Script)
    (address : String) :
    Outcome Reply :=
  (getField? address script.web).getD (.ok { status := 404 })

/-- How a program that cannot be started fails. -/
def absentProgram : Failure :=
  .reported .missingFile "scripted"

/-- The end of a probe of a file; without one there is no probe to start. -/
def probe
    (script : Script)
    (file : Path) :
    Outcome ProcessResult :=
  match getField? file.name script.probes with
  | some result => result
  | none => (getField? "*" script.probes).getD (.error absentProgram)

end Script

/-- What was observed from outside, the first first. -/
structure Journal where
  requests : List String := []
  posts : List (String × Json) := []
  pauses : List Amount := []
  probes : List (List String) := []
  commands : List (List String) := []
  /-- The disk at the start of each run of the encoder. -/
  snapshots : List Disk := []
  updates : List StatusUpdate := []

/-! ## Worlds with their scripts -/

/-- The surroundings of all jobs. -/
structure World where
  script : Script := {}
  shelf : FontShelf
  storage : ObjectStorage
  disk : Disk := {}
  registry : Registry
  now : Binary64 := 0
  /-- The answers to the next callbacks; later ones succeed. -/
  hooks : List (Outcome Nat) := []
  journal : Journal := {}

/-- The output file that a record names. -/
def Job.outputFile? (job : Job) : Option Path :=
  (nonempty? job.outputPath.text?).map Path.ofText

/-- Dropping a record removes its output file; a name that no file can have
makes that fail, and so does what is no name but counts as given. -/
def removesOutput : EvictionHook := fun job =>
  match job.outputFile? with
  | some path => path.refusal?
  | none =>
      if job.outputPath.isGiven then
        some (.shape (.noFileName (.of job.outputPath)))
      else
        none

namespace World

/-- Remove files from the disk. -/
def removeFiles
    (world : World)
    (paths : List Path) :
    Outcome Unit × World :=
  let cleaned := world.disk.cleanup paths
  (cleaned.1, { world with disk := cleaned.2 })

/-- Take over a change of the registry, and remove the output files of the
records that it dropped. -/
def applyChange
    {α : Type}
    (world : World)
    (change : Change α) :
    Outcome α × World :=
  let removed := world.removeFiles (change.evicted.filterMap Job.outputFile?)
  (change.result, { removed.2 with registry := change.registry })

/-- Take a job in. -/
def enroll
    (world : World)
    (id : String)
    (project : Json) :
    Outcome Job × World :=
  world.applyChange
    (world.registry.enroll id project world.now world.now removesOutput)

/-- Tell the status of a job by its name. -/
def tell
    (world : World)
    (id statusName : String)
    (progress : Json)
    (fields : Fields) :
    Outcome Job × World :=
  world.applyChange
    (world.registry.tell id statusName progress fields world.now world.now
      removesOutput)

/-- Give the slot of a job back. -/
def release
    (world : World)
    (id : String) :
    World :=
  { world with registry := world.registry.release id }

/-- Note a status that is told, and tell it. -/
def noteStatus
    (world : World)
    (update : StatusUpdate) :
    Outcome Unit × World :=
  let journal :=
    { world.journal with updates := world.journal.updates ++ [update] }
  let told :=
    { world with journal }.tell update.jobId update.status.name
      (.ofInteger? update.progress) update.fields
  (told.1.map fun _ => (), told.2)

/-- Keep a disk that an operation left, if it succeeded. -/
def keepDisk
    (world : World)
    (outcome : Outcome Disk) :
    Outcome Unit × World :=
  match outcome with
  | .ok disk => (.ok (), { world with disk })
  | .error failure => (.error failure, world)

/-- Ask a remote address. -/
def askAddress
    (world : World)
    (address : String) :
    Outcome Reply × World :=
  (world.script.reply address,
    { world with
      journal :=
        { world.journal with
          requests := world.journal.requests ++ [address] } })

/-- Send a document to an address. -/
def postDocument
    (world : World)
    (address : String)
    (document : Json) :
    Outcome Nat × World :=
  (world.hooks.head?.getD (.ok 200),
    { world with
      hooks := world.hooks.tail
      journal :=
        { world.journal with
          posts := world.journal.posts ++ [(address, document)] } })

/-- Whether a command only asks for the version. -/
def asksVersion (arguments : List String) : Bool :=
  arguments.tail = ["-version"]

/-- Run the encoder: it may write its output file and then ends. -/
def encode
    (world : World)
    (arguments : List String) :
    Outcome ProcessResult × World :=
  let script :=
    if asksVersion arguments then world.script.version else world.script.encoder
  let asked :=
    { world with
      journal :=
        { world.journal with
          commands := world.journal.commands ++ [arguments] } }
  match script.result with
  | .error failure => (.error failure, asked)
  | .ok ended =>
      let started :=
        { asked with
          journal :=
            { asked.journal with
              snapshots := asked.journal.snapshots ++ [world.disk] } }
      match script.written, arguments.getLast? with
      | some content, some output =>
          let written :=
            started.keepDisk (started.disk.write (.ofText output) content)
          (written.1.map fun _ => ended, written.2)
      | _, _ => (.ok ended, started)

/-- Run the probe. -/
def probe
    (world : World)
    (arguments : List String) :
    Outcome ProcessResult × World :=
  (world.script.probe (.ofText (arguments.getLastD "")),
    { world with
      journal :=
        { world.journal with
          probes := world.journal.probes ++ [arguments] } })

/-- The size of a file, as the script or else the disk tells it. -/
def fileSize
    (world : World)
    (path : Path) :
    Outcome Nat :=
  match getField? path.name world.script.sizes with
  | some size => .ok size.toNat
  | none => world.disk.size path

/-- Copy a stored object into a file. -/
def downloadObject
    (world : World)
    (key : String)
    (destination : Path) :
    Outcome Unit × World :=
  let effect := world.storage.download world.disk key destination
  (effect.result,
    { world with storage := effect.storage, disk := effect.disk })

/-- Store a file under a key. -/
def storeFile
    (world : World)
    (source : Path)
    (key contentType : String) :
    Outcome String × World :=
  match world.script.uploadFailure with
  | some failure => (.error failure, world)
  | none =>
      let effect :=
        world.storage.upload world.disk source key (some contentType)
      (effect.result,
        { world with storage := effect.storage, disk := effect.disk })

/-- Wait; time does not pass by itself. -/
def pause
    (world : World)
    (seconds : Amount) :
    World :=
  { world with
    journal :=
      { world.journal with pauses := world.journal.pauses ++ [seconds] } }

/-- Make directories. -/
def makeDirectories
    (world : World)
    (path : Path) :
    Outcome Unit × World :=
  let made := world.disk.makeDirectories path
  (made.1, { world with disk := made.2 })

/-- Answer a call; of two programs the first always goes on. -/
def answer (world : World) : (call : Call) → call.Answer × World
  | .makeDirectories path => world.makeDirectories path
  | .freeBytes _ => (world.script.freeSpace, world)
  | .readFile path => (world.disk.read path, world)
  | .writeFile path content => world.keepDisk (world.disk.write path content)
  | .appendFile path content => world.keepDisk (world.disk.append path content)
  | .holds path => (world.disk.holds path, world)
  | .fileSize path => (world.fileSize path, world)
  | .removeFiles paths => world.removeFiles paths
  | .fontFile name => (world.shelf.resolve world.disk name, world)
  | .fontFamily name => (world.shelf.family world.disk name, world)
  | .request address => world.askAddress address
  | .post address document => world.postDocument address document
  | .encode arguments => world.encode arguments
  | .probe arguments => world.probe arguments
  | .download key destination => world.downloadObject key destination
  | .upload source key contentType => world.storeFile source key contentType
  | .sleep seconds => ((), world.pause seconds)
  | .tell update => world.noteStatus update
  | .schedule => (true, world)

/-- Run a program in a world. -/
def run
    {α : Type}
    (world : World)
    (program : Program α) :
    α × World :=
  Program.run answer world program

end World

end Montage
