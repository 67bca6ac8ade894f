import Montage.Schema.Field

namespace Montage

/-!
# Effects on the picture

Colour, crop, zoom, speed, fade and watermark, with the ranges of their
parameters, how they are read and how they are written again.
-/

/-- Colour grading: a preset and values that take precedence over it. -/
structure ColorEffect where
  preset : Option String
  brightness : Option Binary64
  contrast : Option Binary64
  saturation : Option Binary64
  gamma : Option Binary64
deriving DecidableEq

namespace ColorEffect

def brightnessParameter : OptionalParameter Binary64 where
  name := "brightness"
  range := { low := -1, high := 1 }

def contrastParameter : OptionalParameter Binary64 where
  name := "contrast"
  range := { low := 0, high := 3 }

def saturationParameter : OptionalParameter Binary64 where
  name := "saturation"
  range := { low := 0, high := 3 }

def gammaParameter : OptionalParameter Binary64 where
  name := "gamma"
  range := { low := 0.1, high := 10 }

/-- Read the fields of a colour effect. -/
def readFields (fields : Fields) : Checked ColorEffect :=
  mk
    <$> fields.optional "preset" readText
    <*> brightnessParameter.read fields
    <*> contrastParameter.read fields
    <*> saturationParameter.read fields
    <*> gammaParameter.read fields

/-- Read a colour effect. -/
def read : Json → Checked ColorEffect :=
  readObject "ColorEffect" readFields

/-- A colour effect as JSON. -/
def toJson (effect : ColorEffect) : Json :=
  .object [
    ("preset", .ofText? effect.preset),
    ("brightness", .ofNumber? effect.brightness),
    ("contrast", .ofNumber? effect.contrast),
    ("saturation", .ofNumber? effect.saturation),
    ("gamma", .ofNumber? effect.gamma)]

/-- The fields of a colour effect with their ranges. -/
def description : Fields := [
  describeDefault "preset" .null,
  brightnessParameter.describe,
  contrastParameter.describe,
  saturationParameter.describe,
  gammaParameter.describe]

end ColorEffect

/-- Which part of the picture a crop keeps. -/
inductive CropPosition
  | center
  | top
  | bottom
deriving DecidableEq, Repr

instance : Choice CropPosition where
  all := [.center, .top, .bottom]
  name
    | .center => "center"
    | .top => "top"
    | .bottom => "bottom"

/-- Crop to an aspect ratio and resize. -/
structure CropEffect where
  aspectRatio : Option String
  position : CropPosition
  width : Option Int
  height : Option Int
deriving DecidableEq

namespace CropEffect

/-- Digits, and a point with further digits or nothing. -/
def isDecimal (text : List Char) : Bool :=
  let fraction := text.dropWhile isPatternDigit
  !(text.takeWhile isPatternDigit).isEmpty &&
    match fraction with
    | [] => true
    | point :: digits =>
        point == '.' && !digits.isEmpty && digits.all isPatternDigit

/-- Two decimals with a colon between them. -/
def isAspectRatio (text : List Char) : Bool :=
  match cutAtChar? ':' text with
  | some (first, second) => isDecimal first && isDecimal second
  | none => false

/-- How an aspect ratio is described when a text is none. -/
def aspectRatioPattern : String :=
  "^\\d+(\\.\\d+)?:\\d+(\\.\\d+)?$"

/-- Read the fields of a crop effect. -/
def readFields (fields : Fields) : Checked CropEffect :=
  mk
    <$> fields.optional "aspect_ratio"
      (readMatching isAspectRatio aspectRatioPattern)
    <*> Choice.readField fields "position" .center
    <*> fields.optional "width" readPositive
    <*> fields.optional "height" readPositive

/-- Read a crop effect. -/
def read : Json → Checked CropEffect :=
  readObject "CropEffect" readFields

/-- A crop effect as JSON. -/
def toJson (effect : CropEffect) : Json :=
  .object [
    ("aspect_ratio", .ofText? effect.aspectRatio),
    ("position", Choice.toJson effect.position),
    ("width", .ofInteger? effect.width),
    ("height", .ofInteger? effect.height)]

/-- The fields of a crop effect. -/
def description : Fields := [
  describeDefault "aspect_ratio" .null,
  Choice.describe "position" CropPosition.center,
  describeDefault "width" .null,
  describeDefault "height" .null]

end CropEffect

/-- How the view moves over the clip. -/
inductive ZoomKind
  | zoomIn
  | zoomOut
  | panLeft
  | panRight
deriving DecidableEq, Repr

instance : Choice ZoomKind where
  all := [.zoomIn, .zoomOut, .panLeft, .panRight]
  name
    | .zoomIn => "in"
    | .zoomOut => "out"
    | .panLeft => "pan_left"
    | .panRight => "pan_right"

/-- Slow zoom or pan over the whole clip. -/
structure ZoomEffect where
  kind : ZoomKind
  intensity : Binary64
deriving DecidableEq

namespace ZoomEffect

def intensityParameter : Parameter Binary64 where
  name := "intensity"
  default := 0.2
  range := { low := 0.05, high := 0.5 }

/-- Read the fields of a zoom effect. -/
def readFields (fields : Fields) : Checked ZoomEffect :=
  mk
    <$> Choice.readField fields "type" .zoomIn
    <*> intensityParameter.read fields

/-- Read a zoom effect. -/
def read : Json → Checked ZoomEffect :=
  readObject "ZoomEffect" readFields

/-- A zoom effect as JSON. -/
def toJson (effect : ZoomEffect) : Json :=
  .object [
    ("type", Choice.toJson effect.kind),
    ("intensity", .number effect.intensity)]

/-- The fields of a zoom effect with their ranges. -/
def description : Fields := [
  Choice.describe "type" ZoomKind.zoomIn,
  intensityParameter.describe]

end ZoomEffect

/-- Playback speed. -/
structure SpeedEffect where
  value : Binary64
deriving DecidableEq

namespace SpeedEffect

def valueParameter : Parameter Binary64 where
  name := "value"
  default := 1
  range := { low := 0.25, high := 4 }

/-- Read the fields of a speed effect. -/
def readFields (fields : Fields) : Checked SpeedEffect :=
  mk <$> valueParameter.read fields

/-- Read a speed effect; a bare number is its value. -/
def read (value : Json) : Checked SpeedEffect :=
  let expanded :=
    match value with
    | .integer _ => .object [("value", value)]
    | .number _ => .object [("value", value)]
    | other => other
  readObject "SpeedEffect" readFields expanded

/-- A speed effect as JSON. -/
def toJson (effect : SpeedEffect) : Json :=
  .object [("value", .number effect.value)]

/-- The fields of a speed effect with their ranges. -/
def description : Fields := [
  valueParameter.describe]

end SpeedEffect

/-- Fades of picture and sound together, at both ends of the clip. -/
structure FadeEffect where
  fadeIn : Binary64
  fadeOut : Binary64
deriving DecidableEq

namespace FadeEffect

def fadeInParameter : Parameter Binary64 where
  name := "in"
  default := 0
  range := { low := 0, high := 5 }

def fadeOutParameter : Parameter Binary64 where
  name := "out"
  default := 0
  range := { low := 0, high := 5 }

/-- The same parameter under its long name, if its short name is not used. -/
def underLongName
    (parameter : Parameter Binary64)
    (longName : String)
    (fields : Fields) :
    Parameter Binary64 :=
  if (getField? parameter.name fields).isSome then
    parameter
  else
    { parameter with name := longName }

/-- Read the fields of a fade effect, by their short or long names. -/
def readFields (fields : Fields) : Checked FadeEffect :=
  mk
    <$> (underLongName fadeInParameter "fade_in" fields).read fields
    <*> (underLongName fadeOutParameter "fade_out" fields).read fields

/-- Read a fade effect. -/
def read : Json → Checked FadeEffect :=
  readObject "FadeEffect" readFields

/-- A fade effect as JSON, by its long names. -/
def toJson (effect : FadeEffect) : Json :=
  .object [
    ("fade_in", .number effect.fadeIn),
    ("fade_out", .number effect.fadeOut)]

/-- The fields of a fade effect with their ranges. -/
def description : Fields := [
  fadeInParameter.describe,
  fadeOutParameter.describe]

/-- Whether anything fades at all. -/
def isActive (effect : FadeEffect) : Bool :=
  !effect.fadeIn.isZero || !effect.fadeOut.isZero

end FadeEffect

/-- Where a watermark stands. -/
inductive WatermarkPosition
  | topLeft
  | topRight
  | bottomLeft
  | bottomRight
  | center
deriving DecidableEq, Repr

instance : Choice WatermarkPosition where
  all := [.topLeft, .topRight, .bottomLeft, .bottomRight, .center]
  name
    | .topLeft => "top_left"
    | .topRight => "top_right"
    | .bottomLeft => "bottom_left"
    | .bottomRight => "bottom_right"
    | .center => "center"

/-- An image laid over the picture. -/
structure WatermarkEffect where
  url : String
  position : WatermarkPosition
  scale : Binary64
  opacity : Binary64
deriving DecidableEq

namespace WatermarkEffect

def scaleParameter : Parameter Binary64 where
  name := "scale"
  default := 0.15
  range := { low := 0.05, high := 0.5 }

def opacityParameter : Parameter Binary64 where
  name := "opacity"
  default := 0.7
  range := { low := 0, high := 1 }

/-- Read the fields of a watermark. -/
def readFields (fields : Fields) : Checked WatermarkEffect :=
  mk
    <$> fields.required "url" readText
    <*> Choice.readField fields "position" .bottomRight
    <*> scaleParameter.read fields
    <*> opacityParameter.read fields

/-- Read a watermark. -/
def read : Json → Checked WatermarkEffect :=
  readObject "WatermarkEffect" readFields

/-- A watermark as JSON. -/
def toJson (effect : WatermarkEffect) : Json :=
  .object [
    ("url", .text effect.url),
    ("position", Choice.toJson effect.position),
    ("scale", .number effect.scale),
    ("opacity", .number effect.opacity)]

/-- The fields of a watermark with their ranges. -/
def description : Fields := [
  describeRequired "url",
  Choice.describe "position" WatermarkPosition.bottomRight,
  scaleParameter.describe,
  opacityParameter.describe]

end WatermarkEffect

end Montage
