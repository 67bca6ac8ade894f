import Montage.Effect.Lettering
import Montage.Effect.Picture

namespace Montage

/-!
# Effects

Sound and output options, and all effect categories of a flat render together.
A category that is not given is skipped.
-/

/-- Volume, fades of the sound alone, and loudness normalization. -/
structure AudioEffect where
  volume : Binary64
  fadeIn : Binary64
  fadeOut : Binary64
  normalize : Bool
deriving DecidableEq

namespace AudioEffect

def volumeParameter : Parameter Binary64 where
  name := "volume"
  default := 1
  range := { low := 0, high := 3 }

def fadeInParameter : Parameter Binary64 where
  name := "fade_in"
  default := 0
  range := { low := 0, high := 5 }

def fadeOutParameter : Parameter Binary64 where
  name := "fade_out"
  default := 0
  range := { low := 0, high := 5 }

/-- Read the fields of an audio effect. -/
def readFields (fields : Fields) : Checked AudioEffect :=
  mk
    <$> volumeParameter.read fields
    <*> fadeInParameter.read fields
    <*> fadeOutParameter.read fields
    <*> fields.withDefault "normalize" false readBoolean

/-- Read an audio effect. -/
def read : Json → Checked AudioEffect :=
  readObject "AudioEffect" readFields

/-- An audio effect as JSON. -/
def toJson (effect : AudioEffect) : Json :=
  .object [
    ("volume", .number effect.volume),
    ("fade_in", .number effect.fadeIn),
    ("fade_out", .number effect.fadeOut),
    ("normalize", .bool effect.normalize)]

/-- The fields of an audio effect with their ranges. -/
def description : Fields := [
  volumeParameter.describe,
  fadeInParameter.describe,
  fadeOutParameter.describe,
  describeDefault "normalize" (.bool false)]

end AudioEffect

/-- How much effort the encoder spends. -/
inductive Quality
  | low
  | medium
  | high
  | ultra
deriving DecidableEq, Repr

instance : Choice Quality where
  all := [.low, .medium, .high, .ultra]
  name
    | .low => "low"
    | .medium => "medium"
    | .high => "high"
    | .ultra => "ultra"

/-- Quality and greatest duration of the output. -/
structure OutputOptions where
  quality : Quality := .medium
  longestDuration : Option Binary64 := none
deriving DecidableEq

namespace OutputOptions

def maxDurationParameter : OptionalParameter Binary64 where
  name := "max_duration"
  range := { low := 1, high := 3600 }

/-- Read the fields of output options. -/
def readFields (fields : Fields) : Checked OutputOptions :=
  mk
    <$> Choice.readField fields "quality" .medium
    <*> maxDurationParameter.read fields

/-- Read output options. -/
def read : Json → Checked OutputOptions :=
  readObject "OutputOptions" readFields

/-- Output options as JSON. -/
def toJson (options : OutputOptions) : Json :=
  .object [
    ("quality", Choice.toJson options.quality),
    ("max_duration", .ofNumber? options.longestDuration)]

/-- The fields of output options with their ranges. -/
def description : Fields := [
  Choice.describe "quality" Quality.medium,
  maxDurationParameter.describe]

end OutputOptions

/-- All effect categories of a flat render. -/
structure Effects where
  color : Option ColorEffect := none
  crop : Option CropEffect := none
  zoom : Option ZoomEffect := none
  speed : Option SpeedEffect := none
  fade : Option FadeEffect := none
  watermark : Option WatermarkEffect := none
  subtitles : Option SubtitleStyle := none
  text : Option TextOverlay := none
  audio : Option AudioEffect := none
  output : Option OutputOptions := none
deriving DecidableEq

namespace Effects

/-- Read the categories. -/
def readFields (fields : Fields) : Checked Effects :=
  mk
    <$> fields.optional "color" ColorEffect.read
    <*> fields.optional "crop" CropEffect.read
    <*> fields.optional "zoom" ZoomEffect.read
    <*> fields.optional "speed" SpeedEffect.read
    <*> fields.optional "fade" FadeEffect.read
    <*> fields.optional "watermark" WatermarkEffect.read
    <*> fields.optional "subtitles" SubtitleStyle.read
    <*> fields.optional "text" TextOverlay.read
    <*> fields.optional "audio" AudioEffect.read
    <*> fields.optional "output" OutputOptions.read

/-- Read effects. -/
def read : Json → Checked Effects :=
  readObject "Effects" readFields

/-- An optional category as JSON. -/
def categoryJson
    {α : Type}
    (toJson : α → Json) :
    Option α → Json
  | some effect => toJson effect
  | none => .null

/-- Effects as JSON. -/
def toJson (effects : Effects) : Json :=
  .object [
    ("color", categoryJson ColorEffect.toJson effects.color),
    ("crop", categoryJson CropEffect.toJson effects.crop),
    ("zoom", categoryJson ZoomEffect.toJson effects.zoom),
    ("speed", categoryJson SpeedEffect.toJson effects.speed),
    ("fade", categoryJson FadeEffect.toJson effects.fade),
    ("watermark", categoryJson WatermarkEffect.toJson effects.watermark),
    ("subtitles", categoryJson SubtitleStyle.toJson effects.subtitles),
    ("text", categoryJson TextOverlay.toJson effects.text),
    ("audio", categoryJson AudioEffect.toJson effects.audio),
    ("output", categoryJson OutputOptions.toJson effects.output)]

/-- Every category with its fields, ranges and defaults. -/
def catalog : Json :=
  .object [
    ("color", .object ColorEffect.description),
    ("crop", .object CropEffect.description),
    ("zoom", .object ZoomEffect.description),
    ("speed", .object SpeedEffect.description),
    ("fade", .object FadeEffect.description),
    ("watermark", .object WatermarkEffect.description),
    ("subtitles", .object SubtitleStyle.description),
    ("text", .object TextOverlay.description),
    ("audio", .object AudioEffect.description),
    ("output", .object OutputOptions.description)]

/-- The playback speed, one if it is not changed. -/
def playbackSpeed (effects : Effects) : Binary64 :=
  match effects.speed with
  | some speed => speed.value
  | none => 1

/-- Whether picture and sound fade together. -/
def fadesTogether (effects : Effects) : Bool :=
  effects.fade.any FadeEffect.isActive

end Effects

end Montage
