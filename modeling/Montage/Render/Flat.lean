import Montage.Effect.Basic
import Montage.Media.Report
import Montage.Render.Lettering
import Montage.Stage.Color
import Montage.Stage.Crop
import Montage.Stage.Timing
import Montage.Stage.Watermark
import Montage.Stage.Zoom

namespace Montage

/-!
# Flat renders

One video and one sound with effects. The stages have a fixed order: speed,
crop, zoom, colour and fade, then subtitles and text on top; a watermark is
laid over the result.
-/

/-! ## Geometry of a source

The duration, the frame size and the frame rate that stages are computed from.
What a probe did not tell is replaced by a default. The sides of the frame are
kept as they were told, whatever their type.
-/

/-- Duration, frame size and frame rate of a clip. -/
structure ClipGeometry where
  duration : Binary64 := 10
  width : Json := .integer 1080
  height : Json := .integer 1920
  frameRate : Binary64 := defaultFrameRate

namespace ClipGeometry

/-- What is taken for granted when nothing is known. -/
def standard : ClipGeometry := {}

/-- A number, or a default if it is zero. -/
def numberOr (default number : Binary64) : Binary64 :=
  if number.isZero then default else number

/-- A side of a frame, or a default if it is not told. -/
def sideOr (default side : Json) : Json :=
  if side.isGiven then side else default

/-- The geometry of a clip of which something may be known. -/
def ofMedia : Option MediaFacts → ClipGeometry
  | none => standard
  | some info => {
      duration := numberOr standard.duration info.duration
      width := sideOr standard.width info.width
      height := sideOr standard.height info.height
      frameRate := numberOr standard.frameRate info.frameRate }

end ClipGeometry

/-! ## Stages -/

/-- The stages of both streams. -/
structure StageLists where
  picture : List Filter
  sound : List Filter

/-- The stages of an effect that may be absent. -/
def stagesOf
    {α : Type}
    (effect : Option α)
    (stages : α → Outcome (List Filter)) :
    Outcome (List Filter) :=
  match effect with
  | some value => stages value
  | none => .ok []

/-- The fade of both streams, if anything fades. -/
def Effects.activeFade? (effects : Effects) : Option FadeEffect :=
  effects.fade.filter FadeEffect.isActive

/-- The stages of all effects that need no file. -/
def effectStages
    (effects : Effects)
    (geometry : ClipGeometry) :
    Outcome StageLists := do
  let speed := effects.playbackSpeed
  let crop ← stagesOf effects.crop fun crop =>
    cropStages crop geometry.width geometry.height
  let zoom ← stagesOf effects.zoom fun zoom =>
    zoomStages zoom geometry.duration geometry.width geometry.height
      geometry.frameRate
  let color := effects.color.elim [] gradeStages
  let fade := effects.activeFade?
  let pictureFade := fade.elim [] fun fade =>
    pictureFades fade geometry.duration speed
  let soundFade := fade.elim [] fun fade =>
    soundFades fade geometry.duration speed
  let sound := effects.audio.elim [] fun audio =>
    soundStages audio geometry.duration speed effects.fadesTogether
  pure {
    picture := pictureSpeedStages speed ++ crop ++ zoom ++ color ++ pictureFade
    sound := soundSpeedStages speed ++ soundFade ++ sound }

/-- What a flat render is made of. -/
structure FlatSource where
  effects : Effects
  videoFile : String
  audioFile : String
  media : Option MediaFacts := none
  cues : List Cue := []
  overlay : Option TextOverlay := none
  watermarkFile : Option String := none

namespace FlatSource

/-- The geometry that the stages are computed from. -/
def geometry (source : FlatSource) : ClipGeometry :=
  .ofMedia source.media

/-- What the subtitles are made for. -/
def subtitlePlan
    (source : FlatSource)
    (fontDirectory : String) :
    SubtitlePlan where
  fontDirectory := fontDirectory
  style := source.effects.subtitles.getD {}
  width := source.geometry.width
  height := source.geometry.height
  speed := source.effects.playbackSpeed

/-- The watermark and its file, if there are both. -/
def watermark? (source : FlatSource) : Option (WatermarkEffect × String) :=
  match source.effects.watermark, nonempty? source.watermarkFile with
  | some effect, some file => some (effect, file)
  | _, _ => none

/-- The graph of two streams with stages, before a watermark. -/
def streamGraph
    (source : FlatSource)
    (stages : StageLists) :
    Graph where
  inputs := [
    { path := source.videoFile, kind := .video },
    { path := source.audioFile, kind := .audio }]
  videoFilters := stages.picture
  soundStages := stages.sound
  videoMap := some "0:v"
  audioMap := some "1:a"

/-- The whole graph: the image of a watermark is a further input. -/
def graph
    (source : FlatSource)
    (stages : StageLists) :
    Outcome Graph :=
  match source.watermark? with
  | none => .ok (source.streamGraph stages)
  | some (effect, file) => do
      let (index, graph) := (source.streamGraph stages).withInput file .image
      let overlay ← placeWatermark effect source.geometry.width index
      pure { graph with watermark := some overlay }

/-- Make the graph of a flat render and the files that it needs. -/
def compile
    (source : FlatSource)
    (fontDirectory : String) :
    JobProgram Graph := do
  let stages ←
    JobProgram.ofOutcome (effectStages source.effects source.geometry)
  let subtitles ←
    subtitleStages (source.subtitlePlan fontDirectory) source.cues
  let text ← textStages source.overlay
  JobProgram.ofOutcome <|
    source.graph {
      stages with
      picture := stages.picture ++ subtitles ++ text }

end FlatSource

end Montage
