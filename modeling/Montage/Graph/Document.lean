import Montage.Graph.Basic
import Montage.Json.Access
import Montage.Media.Report

namespace Montage

/-!
# Graphs as JSON

The exchange form of graphs: values carry their type, options keep their order,
and a graph that is told shows its text beside its parts.
-/

namespace OptionValue

/-- Read a value with its type. -/
def ofJson? : Json → Option OptionValue
  | .array [.text "str", .text value] => some (.text value)
  | .array [.text "expr", .text value] => some (.expression value)
  | .array [.text "path", .text value] => some (.path value)
  | .array [.text "int", .integer value] => some (.integer value)
  | .array [.text "bool", .bool value] => some (.flag value)
  | .array [.text "float", value] => .number <$> (reportedNumber value).toOption
  | _ => none

end OptionValue

namespace Filter

/-- Read an option of a filter. -/
def optionOfJson? : Json → Option (String × OptionValue)
  | .array [.text name, value] => (name, ·) <$> OptionValue.ofJson? value
  | _ => none

/-- Read a filter; a repeated option keeps its first place and last value. -/
def ofJson? (value : Json) : Option Filter := do
  let name ← value.textAt? "name"
  let arguments ← (value.member "args").items.mapM OptionValue.ofJson?
  let options ← (value.member "options").items.mapM optionOfJson?
  pure { name, arguments, options := fieldsOf options }

/-- Filters as their texts. -/
def listJson (filters : List Filter) : Json :=
  .array (filters.map fun filter => .text filter.toText)

end Filter

/-- Read a chain. -/
def Chain.ofJson? (value : Json) : Option Chain := do
  let filters ← (value.member "filters").items.mapM Filter.ofJson?
  pure {
    inputs := (value.member "inputs").texts
    filters
    outputs := (value.member "outputs").texts }

/-- Read an input. -/
def InputFile.ofJson? : Json → Option InputFile
  | .array [.text path, .text kind] => some { path, kind := .ofName kind }
  | _ => none

namespace ImageOverlay

/-- Read a watermark. -/
def ofJson? (value : Json) : Option ImageOverlay := do
  let opacity ← (reportedNumber (value.member "opacity")).toOption
  pure {
    inputIndex := ← value.integerAt? "input_index"
    width := ← value.integerAt? "width"
    opacity
    x := ← value.textAt? "x"
    y := ← value.textAt? "y" }

/-- A watermark as JSON. -/
def toJson (overlay : ImageOverlay) : Json :=
  .array [
    .integer overlay.inputIndex,
    .integer overlay.width,
    .number overlay.opacity,
    .text overlay.x,
    .text overlay.y]

end ImageOverlay

namespace Graph

/-- Read a watermark that may be null. -/
def watermarkOfJson? : Json → Option (Option ImageOverlay)
  | .null => some none
  | value => some <$> ImageOverlay.ofJson? value

/-- Read a graph. -/
def ofJson? (value : Json) : Option Graph := do
  let watermark ← watermarkOfJson? (value.member "watermark")
  pure {
    inputs := ← (value.member "inputs").items.mapM InputFile.ofJson?
    videoFilters :=
      ← (value.member "video_filters").items.mapM Filter.ofJson?
    soundStages :=
      ← (value.member "audio_filters").items.mapM Filter.ofJson?
    chains := ← (value.member "chains").items.mapM Chain.ofJson?
    watermark
    videoMap := value.textAt? "video_map"
    audioMap := value.textAt? "audio_map" }

/-- The parts of a graph and its text. -/
def toFields (graph : Graph) : Fields := [
  ("inputs",
    .array <|
      graph.inputs.map fun input => .ofTexts [input.path, input.kind.name]),
  ("video", Filter.listJson graph.videoFilters),
  ("audio", Filter.listJson graph.soundStages),
  ("filter_complex", .text graph.complexText),
  ("maps", .ofTexts graph.maps),
  ("needs_watermark", .bool graph.needsWatermark),
  ("watermark", .ofOption ImageOverlay.toJson graph.watermark)]

end Graph

end Montage
