import Montage.Graph.Filter

namespace Montage

/-!
# Filter graphs

A graph lists its inputs, the processing between them, and what ends up in the
output. A flat graph has one list of stages per stream; a composed graph has
explicit chains. Both are written as chains with labelled pads.
-/

/-- What an input or a remote asset holds. -/
inductive MediaKind
  | video
  | audio
  | image
  | subtitle
  | other (name : String)
deriving DecidableEq, Repr

namespace MediaKind

/-- The name of a kind. -/
def name : MediaKind → String
  | video => "video"
  | audio => "audio"
  | image => "image"
  | subtitle => "subtitle"
  | other name => name

/-- The kind of a name. -/
def ofName (name : String) : MediaKind :=
  if name = "video" then video
  else if name = "audio" then audio
  else if name = "image" then image
  else if name = "subtitle" then subtitle
  else other name

end MediaKind

/-- A run of filters between labelled pads. -/
structure Chain where
  inputs : List String
  filters : List Filter
  outputs : List String

/-- An input file of the encoder. -/
structure InputFile where
  path : String
  kind : MediaKind

/-- An image laid over the processed video. -/
structure ImageOverlay where
  inputIndex : Int
  width : Int
  opacity : Binary64
  x : String
  y : String

/-- The complete processing description of one job. -/
structure Graph where
  inputs : List InputFile := []
  videoFilters : List Filter := []
  soundStages : List Filter := []
  chains : List Chain := []
  watermark : Option ImageOverlay := none
  videoMap : Option String := none
  audioMap : Option String := none

namespace Chain

/-- A label in brackets. -/
def pad (label : String) : List Char :=
  '[' :: label.toList ++ [']']

/-- Pads in, filters separated by commas, pads out; no filter is `null`. -/
def render (chain : Chain) : List Char :=
  let body :=
    if chain.filters.isEmpty then
      "null".toList
    else
      joinWith [','] (chain.filters.map Filter.render)
  chain.inputs.flatMap pad ++ body ++ chain.outputs.flatMap pad

end Chain

/-- The chains of a graph and the two targets of its output. -/
structure Wiring where
  chains : List Chain
  video : Option String
  audio : Option String

namespace ImageOverlay

/-- The filters that prepare the image: size, alpha channel, opacity. -/
def preparation (watermark : ImageOverlay) : List Filter := [
  { name := "scale"
    arguments := [.integer watermark.width, .integer (-1)] },
  { name := "format"
    arguments := [.text "rgba"] },
  { name := "colorchannelmixer"
    options := [("aa", .number watermark.opacity)] }]

/-- The chains that lay the image over the video of the given label. -/
def chains
    (watermark : ImageOverlay)
    (video : String) :
    List Chain := [
  { inputs := [showInteger watermark.inputIndex ++ ":v"]
    filters := watermark.preparation
    outputs := ["wm"] },
  { inputs := [video, "wm"]
    filters := [
      { name := "overlay"
        arguments := [.text watermark.x, .text watermark.y] }]
    outputs := ["vWm"] }]

end ImageOverlay

namespace Graph

/-- Whether the graph needs the image as a further input. -/
def needsWatermark (graph : Graph) : Bool :=
  graph.watermark.isSome

/-- Add an input at the end; its index is the number of inputs before it. -/
def withInput
    (graph : Graph)
    (path : String)
    (kind : MediaKind) :
    Nat × Graph :=
  (graph.inputs.length,
    { graph with inputs := graph.inputs ++ [{ path, kind }] })

/-- Pass a stream through a list of stages under a new label. -/
def wireStages
    (target : Option String)
    (stages : List Filter)
    (label : String) :
    List Chain × Option String :=
  match target with
  | none => ([], none)
  | some source =>
      if stages.isEmpty then
        ([], some source)
      else
        ([{ inputs := [source], filters := stages, outputs := [label] }],
          some label)

/-- Lay the watermark over the video, if there are both. -/
def wireWatermark
    (target : Option String)
    (watermark : Option ImageOverlay) :
    List Chain × Option String :=
  match target, watermark with
  | some source, some overlay => (overlay.chains source, some "vWm")
  | _, _ => ([], target)

/-- The chains that the stage lists of a flat graph denote. -/
def flatWiring (graph : Graph) : Wiring :=
  let video := wireStages graph.videoMap graph.videoFilters "vOut"
  let marked := wireWatermark video.2 graph.watermark
  let audio := wireStages graph.audioMap graph.soundStages "aOut"
  { chains := video.1 ++ marked.1 ++ audio.1
    video := marked.2
    audio := audio.2 }

/-- The explicit chains of a graph, or those of its stage lists. -/
def wiring (graph : Graph) : Wiring :=
  if graph.chains.isEmpty then
    graph.flatWiring
  else
    { chains := graph.chains
      video := graph.videoMap
      audio := graph.audioMap }

/-- Whether all values of the chains have a text. -/
def isWritten (graph : Graph) : Bool :=
  graph.wiring.chains.all fun chain => chain.filters.all Filter.isWritten

/-- All chains as graph text; empty when every stream passes untouched. -/
def complexText (graph : Graph) : String :=
  String.ofList (joinWith [';'] (graph.wiring.chains.map Chain.render))

/-- The labels that chains produce. -/
def producedLabels (graph : Graph) : List String :=
  graph.wiring.chains.flatMap Chain.outputs

/-- Output targets, video first; produced labels stand in brackets. -/
def maps (graph : Graph) : List String :=
  ([graph.wiring.video, graph.wiring.audio].filterMap id).map fun target =>
    if graph.producedLabels.contains target then
      "[" ++ target ++ "]"
    else
      target

end Graph

end Montage
