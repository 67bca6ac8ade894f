import Montage.Asset.Resolver
import Montage.Encoder.Command
import Montage.Publish.Callback
import Montage.Publish.Delivery
import Montage.Render.Composition
import Montage.Render.Flat
import Montage.Request.Render
import Montage.Settings
import Montage.Subtitle.Cue

namespace Montage

/-!
# Jobs

A job fetches its assets, makes the graph, runs the encoder and delivers the
result. Whatever happens, its record becomes final, its files are removed, and
then the client is told once.
-/

/-- What all jobs of a server have in common. -/
structure RenderServer where
  tempDirectory : Path
  fontDirectory : String
  /-- The public base of the storage, if assets may come from there. -/
  storageBase : Option String
  leastFreeSpace : Amount
  encoder : Encoder
  probeProgram : String
  publicBase : String
  callbacks : CallbackPolicy

/-- The server that settings describe. -/
def RenderServer.ofSettings
    (settings : Settings)
    (storageBase : Option String) :
    RenderServer where
  tempDirectory := .ofText settings.tempDirectory
  fontDirectory := (Path.ofText settings.fontsDirectory).toText
  storageBase := storageBase
  leastFreeSpace := settings.minimumFreeDisk
  encoder := {
    program := settings.ffmpegPath
    audioBitrate := settings.audioBitrate }
  probeProgram := settings.ffprobePath
  publicBase := settings.publicBaseUrl
  callbacks := {
    attempts := settings.callbackAttempts.toNat
    pause := settings.callbackRetryUnit }

namespace Submission

/-- Tell the registry about the job. -/
def tell
    (submission : Submission)
    (status : JobStatus)
    (progress : Option Int)
    (fields : Fields) :
    Program (Outcome Unit) :=
  Program.perform
    (.tell { jobId := submission.jobId, status, progress, fields })

/-- Tell the registry how far the job has come. -/
def reach
    (submission : Submission)
    (status : JobStatus)
    (progress : Int)
    (fields : Fields) :
    JobProgram Unit :=
  JobProgram.attempt (submission.tell status (some progress) fields)

/-- What the client is told at the end. -/
def notice
    (submission : Submission)
    (status : String)
    (fields : Fields) :
    Fields := [
  ("job_id", .text submission.jobId),
  ("project_id", .ofText? submission.request.projectId),
  ("status", .text status)] ++ fields

/-- What the client is told of a success. -/
def successNotice
    (submission : Submission)
    (fields : Fields) :
    Fields :=
  submission.notice "success" fields

/-- What the client is told of a failure. -/
def failureNotice
    (submission : Submission)
    (failure : Failure) :
    Fields :=
  submission.notice "error" [("error", .text failure.message)]

/-- Render a graph into the output file of the job. -/
def renderOutput
    (server : RenderServer)
    (graph : Graph)
    (options : Option OutputOptions) :
    JobProgram Path := do
  let output ← JobProgram.reserve "_output.mp4"
  JobProgram.attempt (server.encoder.render graph options output)
  pure output

/-! ## Flat jobs -/

/-- An address that has to be given. -/
def givenAddress : Option String → JobProgram String
  | some address => pure address
  | none => JobProgram.ofOutcome (.error .noAddress)

/-- The assets of a flat job besides its video and its sound. -/
def furtherReferences (request : RenderRequest) : List AssetReference :=
  (request.effects.watermark.toList.map fun effect =>
    { address := effect.url, kind := .image }) ++
  (nonempty? request.subtitleUrl).toList.map fun address =>
    { address, kind := .subtitle }

/-- The file of a fetched asset. -/
def assetFile
    (assets : List (String × Path))
    (address : String) :
    JobProgram Path :=
  match getField? address assets with
  | some path => pure path
  | none => JobProgram.ofOutcome (.error (.unknownKey address))

/-- The text of the subtitles: that of a file, or that of the request. -/
def subtitleText
    (request : RenderRequest)
    (assets : List (String × Path)) :
    JobProgram String :=
  match nonempty? request.subtitleUrl with
  | none => pure (request.subtitleContent.getD "")
  | some address => do
      let file ← assetFile assets address
      let content ← JobProgram.attempt (Program.perform (.readFile file))
      pure (textOf content)

/-- The file of the watermark, if there is a watermark. -/
def watermarkFile
    (request : RenderRequest)
    (assets : List (String × Path)) :
    JobProgram (Option String) :=
  match request.effects.watermark with
  | none => pure none
  | some effect => do
      let file ← assetFile assets effect.url
      pure (some file.toText)

/-- What a flat job is made of, after its assets were fetched. -/
def flatSource
    (server : RenderServer)
    (request : RenderRequest)
    (assets : List (String × Path))
    (video sound : String) :
    JobProgram FlatSource := do
  let subtitles ← subtitleText request assets
  let videoFile ← assetFile assets video
  let media ←
    JobProgram.attempt (probeIfPossible server.probeProgram videoFile)
  let audioFile ← assetFile assets sound
  let watermark ← watermarkFile request assets
  pure {
    effects := request.effects
    videoFile := videoFile.toText
    audioFile := audioFile.toText
    media
    cues := readSubtitles subtitles
    overlay := request.textOverlay?
    watermarkFile := watermark }

/-- Run a flat job; the client is told the address of the upload. -/
def flatWork
    (server : RenderServer)
    (submission : Submission) :
    JobProgram Fields := do
  let request := submission.request
  submission.reach .downloading 10 []
  ensureFreeSpace server.leastFreeSpace
  let video ← givenAddress request.videoUrl
  let sound ← givenAddress request.audioUrl
  let assets ←
    fetchTogether server.storageBase
      ([{ address := video, kind := .video },
        { address := sound, kind := .audio }] ++ furtherReferences request)
  let source ← flatSource server request assets video sound
  submission.reach .rendering 30 []
  let graph ← source.compile server.fontDirectory
  let output ← renderOutput server graph request.effects.output
  submission.reach .uploading 80 []
  let address ←
    JobProgram.attempt
      (uploadResult output request.projectId submission.jobId)
  let results : Fields := [("video_url", .text address)]
  submission.reach .done 100 results
  pure (submission.successNotice results)

/-! ## Compositions -/

/-- The remote assets of segments. -/
def segmentReferences (entries : List TimelineEntry) : List AssetReference :=
  entries.filterMap fun entry =>
    match entry.kind with
    | .video => some { address := entry.address, kind := .video }
    | .audio => some { address := entry.address, kind := .audio }
    | .subtitle => none

/-- The frame size of the first video, if it is known and needed. -/
def frameSize
    (server : RenderServer)
    (entries : List TimelineEntry)
    (assets : List (String × Path)) :
    JobProgram (Json × Json) :=
  let standard := ClipGeometry.standard
  match entriesOf .video entries, entriesOf .subtitle entries with
  | first :: _, _ :: _ => do
      let file ← assetFile assets first.address
      let media ←
        JobProgram.attempt (probeIfPossible server.probeProgram file)
      match media with
      | some info =>
          if info.width.isGiven && info.height.isGiven then
            pure (info.width, info.height)
          else
            pure (standard.width, standard.height)
      | none => pure (standard.width, standard.height)
  | _, _ => pure (standard.width, standard.height)

/-- Run a composition; the client is told where to download the result. -/
def compositionWork
    (server : RenderServer)
    (submission : Submission) :
    JobProgram Fields := do
  let request := submission.request
  submission.reach .downloading 10 []
  ensureFreeSpace server.leastFreeSpace
  let assets ←
    fetchTogether server.storageBase (segmentReferences request.entries)
  let size ← frameSize server request.entries assets
  submission.reach .rendering 30 []
  let composition : Composition := {
    entries := request.entries
    assets := assets.map fun asset => (asset.1, asset.2.toText)
    width := size.1
    height := size.2 }
  let graph ← composition.compile server.fontDirectory
  let output ← renderOutput server graph request.output
  submission.reach .finalizing 80 []
  let offer ←
    JobProgram.attempt
      (offerResult server.publicBase server.probeProgram output)
  JobProgram.keep output
  let results : Fields := [
    ("download_url", .text offer.1),
    ("metadata", offer.2)]
  submission.reach .done 100
    (results ++ [("output_path", .text output.toText)])
  pure (submission.successNotice results)

/-! ## The whole job -/

/-- The part of a job that may fail. -/
def work
    (server : RenderServer)
    (submission : Submission) :
    JobProgram Fields :=
  if submission.request.isComposition then
    compositionWork server submission
  else
    flatWork server submission

/-- Make a failure final, and tell what the client is told. -/
def settle
    (submission : Submission) :
    Outcome Fields → Program (Outcome Fields)
  | .ok notice => pure (.ok notice)
  | .error failure => do
      let told ←
        submission.tell .error none [("error", .text failure.message)]
      pure (told.map fun _ => submission.failureNotice failure)

/-- Run a job to its end; only its surroundings can make this fail. -/
def run
    (server : RenderServer)
    (submission : Submission) :
    Program (Outcome Unit) :=
  Program.step (.makeDirectories server.tempDirectory) fun made =>
    match made with
    | .error failure => pure (.error failure)
    | .ok _ => do
        let workspace : Workspace := {
          jobId := submission.jobId
          root := server.tempDirectory }
        let ended ← (work server submission).start { workspace }
        let notice ← submission.settle ended.1
        let removed : Outcome Unit ←
          Program.perform (.removeFiles ended.2.workspace.disposable)
        match removed, notice with
        | .error failure, _ => pure (.error failure)
        | .ok _, .error failure => pure (.error failure)
        | .ok _, .ok fields => do
            let sent ←
              server.callbacks.send submission.request.callbackUrl
                (.object fields)
            pure (sent.map fun _ => ())

end Submission

end Montage
