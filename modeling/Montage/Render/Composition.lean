import Montage.Graph.Basic
import Montage.Render.Lettering
import Montage.Request.Timeline

namespace Montage

/-!
# Compositions

Segments of a timeline become one picture and one sound. Parts of videos are
cut out and put one after another; sounds are delayed and mixed; subtitles lie
over the whole picture. Each remote file is one input, however often it is
used.
-/

/-- The inputs of a composition, each address once. -/
structure InputTable where
  addresses : List String := []
  inputs : List InputFile := []

namespace InputTable

/-- The index of an address, which becomes a further input if it is new. -/
def indexFor
    (table : InputTable)
    (assets : List (String × String))
    (address : String)
    (kind : MediaKind) :
    Outcome (Nat × InputTable) :=
  match table.addresses.idxOf? address with
  | some index => .ok (index, table)
  | none =>
      match getField? address assets with
      | none => .error (.unknownKey address)
      | some path =>
          .ok (table.addresses.length, {
            addresses := table.addresses ++ [address]
            inputs := table.inputs ++ [{ path, kind }] })

end InputTable

/-- The address of a segment. -/
def TimelineEntry.address (entry : TimelineEntry) : String :=
  entry.url.getD ""

/-- The segments of a kind, in their order. -/
def entriesOf
    (kind : EntryKind)
    (entries : List TimelineEntry) :
    List TimelineEntry :=
  entries.filter fun entry => entry.kind = kind

/-- A label with a number. -/
def numbered
    (name : String)
    (number : Nat) :
    String :=
  name ++ showNatural number

/-- The end of a segment as an option; every video segment has one. -/
def endOption (entry : TimelineEntry) : List (String × OptionValue) :=
  entry.stop.toList.map fun stop => ("end", .number stop)

/-- Cut a part out of a video. -/
def trimChain
    (number index : Nat)
    (entry : TimelineEntry) :
    Chain where
  inputs := [numbered "" index ++ ":v"]
  filters := [
    { name := "trim"
      options := ("start", .number entry.start) :: endOption entry },
    { name := "setpts"
      arguments := [.text "PTS-STARTPTS"] }]
  outputs := [numbered "v" number]

/-- Cut out the parts of all video segments. -/
def trimChains
    (assets : List (String × String)) :
    Nat →
    List TimelineEntry →
    InputTable →
    Outcome (List Chain × InputTable)
  | _, [], table => .ok ([], table)
  | number, entry :: rest, table => do
      let found ← table.indexFor assets entry.address .video
      let others ← trimChains assets (number + 1) rest found.2
      pure (trimChain number found.1 entry :: others.1, others.2)

/-- Put parts one after another. -/
def concatChain (labels : List String) : Chain where
  inputs := labels
  filters := [
    { name := "concat"
      options := [
        ("n", .integer labels.length), ("v", .integer 1), ("a", .integer 0)] }]
  outputs := ["vconcat"]

/-- Pass the picture through its final stages. -/
def finalChain (stages : List Filter) : Chain where
  inputs := ["vconcat"]
  filters := stages
  outputs := ["vfinal"]

/-- The start of a sound in milliseconds. -/
def delayOf (entry : TimelineEntry) : Outcome Int :=
  ofArithmetic (entry.start * 1000).round

/-- Delay both channels of a sound by milliseconds. -/
def delayChain
    (number index : Nat)
    (delay : Int) :
    Chain where
  inputs := [numbered "" index ++ ":a"]
  filters := [
    { name := "adelay"
      arguments := [.text (showInteger delay ++ "|" ++ showInteger delay)] }]
  outputs := [numbered "a" number]

/-- Delay the sounds of all audio segments. -/
def delayChains
    (assets : List (String × String)) :
    Nat →
    List TimelineEntry →
    InputTable →
    Outcome (List Chain × InputTable)
  | _, [], table => .ok ([], table)
  | number, entry :: rest, table => do
      let found ← table.indexFor assets entry.address .audio
      let delay ← delayOf entry
      let others ← delayChains assets (number + 1) rest found.2
      pure (delayChain number found.1 delay :: others.1, others.2)

/-- Mix sounds; one sound stays as it is. -/
def mixChains (labels : List String) : List Chain :=
  if labels.length ≤ 1 then
    []
  else
    [{ inputs := labels
       filters := [
        { name := "amix"
          options := [
            ("inputs", .integer labels.length),
            ("duration", .text "longest")] }]
       outputs := ["outa"] }]

/-- The label of the whole sound. -/
def soundMap : List String → Option String
  | [] => none
  | [label] => some label
  | _ => some "outa"

/-- The cue of a segment that has an end and a visible text. -/
def TimelineEntry.cue? (entry : TimelineEntry) : Option Cue :=
  match entry.stop, nonempty? (entry.text.map trimString) with
  | some stop, some text => some { start := entry.start, stop, text }
  | _, _ => none

/-- The cues of subtitle segments. -/
def segmentCues (entries : List TimelineEntry) : List Cue :=
  entries.filterMap TimelineEntry.cue?

/-- The animation of all subtitles is that of the first segment. -/
def timelineStyle (subtitles : List TimelineEntry) : SubtitleStyle where
  animation := (subtitles.head?.bind TimelineEntry.style).getD .pop

/-- A composition: its segments, the files of its assets, its frame size. -/
structure Composition where
  entries : List TimelineEntry
  /-- The file of each address. -/
  assets : List (String × String)
  width : Json
  height : Json

namespace Composition

/-- The video segments. -/
def videos (composition : Composition) : List TimelineEntry :=
  entriesOf .video composition.entries

/-- The audio segments. -/
def sounds (composition : Composition) : List TimelineEntry :=
  entriesOf .audio composition.entries

/-- The subtitle segments. -/
def subtitles (composition : Composition) : List TimelineEntry :=
  entriesOf .subtitle composition.entries

/-- What the subtitles are made for. -/
def subtitlePlan
    (composition : Composition)
    (fontDirectory : String) :
    SubtitlePlan where
  fontDirectory := fontDirectory
  style := timelineStyle composition.subtitles
  width := composition.width
  height := composition.height
  speed := 1

/-- The stages over the whole picture; without a picture there are none. -/
def finalStages
    (composition : Composition)
    (fontDirectory : String) :
    JobProgram (List Filter) :=
  if composition.videos.isEmpty then
    pure []
  else
    subtitleStages (composition.subtitlePlan fontDirectory)
      (segmentCues composition.subtitles)

/-- The chains of the picture after its parts are cut out. -/
def pictureChains
    (parts : List Chain)
    (stages : List Filter) :
    List Chain :=
  if parts.isEmpty then
    []
  else
    parts ++ [concatChain (parts.flatMap Chain.outputs), finalChain stages]

/-- The graph of cut parts, final stages, delayed sounds and inputs. -/
def graph
    (parts : List Chain)
    (stages : List Filter)
    (sounds : List Chain)
    (inputs : List InputFile) :
    Graph where
  inputs := inputs
  videoFilters := stages
  chains :=
    pictureChains parts stages ++ sounds ++
      mixChains (sounds.flatMap Chain.outputs)
  videoMap := if parts.isEmpty then none else some "vfinal"
  audioMap := soundMap (sounds.flatMap Chain.outputs)

/-- Make the graph of a composition and the file of its subtitles. -/
def compile
    (composition : Composition)
    (fontDirectory : String) :
    JobProgram Graph := do
  let parts ←
    JobProgram.ofOutcome (trimChains composition.assets 0 composition.videos {})
  let stages ← composition.finalStages fontDirectory
  let sounds ←
    JobProgram.ofOutcome <|
      delayChains composition.assets 0 composition.sounds parts.2
  pure (graph parts.1 stages sounds.1 sounds.2.inputs)

end Composition

end Montage
