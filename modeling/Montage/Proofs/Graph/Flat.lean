import Montage.Proofs.Graph.Stages
import Montage.Proofs.Graph.Wiring

namespace Montage

/-!
# Flat graphs

A graph of one video and one sound is wired by the labels of its stages and of
its watermark, and all of it can be read.
-/

variable {inputs : Nat} {kind : StreamKind} {chains : List WrittenChain}
  {pending : List (StreamKind × String)} {target : Option String}
  {labels : List String}

/-- Stages of a stream make at most one chain, with one label. -/
theorem producedBy_wireStages
    (target : Option String)
    (stages : List Filter)
    (label : String) :
    ∀ name ∈ producedBy ((Graph.wireStages target stages label).1.map
        Chain.written),
      name = label := by
  unfold Graph.wireStages
  split
  · simp [producedBy]
  · split <;> simp [producedBy, Chain.written]

/-- Streams that go through stages end in their label, or where they ended. -/
theorem wireStages_wires
    (wires : Wires inputs chains (pending ++ labels.map fun name => (kind, name)))
    (ends : Ends inputs kind target labels)
    (stages : List Filter)
    (label : String)
    (fresh : label ∉ producedBy chains)
    (noColon : ':' ∉ label.toList) :
    ∃ after,
      Wires inputs
        (chains ++
          (Graph.wireStages target stages label).1.map Chain.written)
        (pending ++ after.map fun name => (kind, name)) ∧
      Ends inputs kind (Graph.wireStages target stages label).2 after := by
  cases target with
  | none =>
      cases ends
      exact ⟨[], by simpa [Graph.wireStages] using wires, .nowhere⟩
  | some source =>
      unfold Graph.wireStages
      dsimp only
      split
      · exact ⟨labels, by simpa using wires, ends⟩
      · refine ⟨[label], ?_, .label label⟩
        have isLabel := ne_streamName noColon
        cases ends with
        | stream index inside =>
            exact .chain [_] [] (by simpa using wires)
              (by simpa using ⟨index, inside, rfl⟩) (by simp) fresh isLabel _
        | label =>
            exact .chain [] [source] wires (by simp) (by simp) fresh isLabel _

theorem producedBy_wireWatermark
    (target : Option String)
    (watermark : Option ImageOverlay) :
    ∀ name ∈ producedBy ((Graph.wireWatermark target watermark).1.map
        Chain.written),
      name = "wm" ∨ name = "vWm" := by
  unfold Graph.wireWatermark
  split <;> simp [producedBy, ImageOverlay.chains, Chain.written]

namespace ImageOverlay

/-- The chain that prepares the image of an input, as it is read back. -/
def preparedChain
    (overlay : ImageOverlay)
    (index : Nat) :
    WrittenChain where
  inputs := [streamName index .video]
  filters := overlay.preparation.map Filter.written
  outputs := ["wm"]

/-- The chain that lays the image over a video, as it is read back. -/
def layingChain
    (overlay : ImageOverlay)
    (source : String) :
    WrittenChain where
  inputs := [source, "wm"]
  filters := [
    ({ name := "overlay"
       arguments := [.text overlay.x, .text overlay.y] } : Filter).written]
  outputs := ["vWm"]

theorem map_written_chains
    {overlay : ImageOverlay}
    {index : Nat}
    (isIndex : overlay.inputIndex = index)
    (source : String) :
    (overlay.chains source).map Chain.written =
      [overlay.preparedChain index] ++ [overlay.layingChain source] := by
  have isStream :
      showInteger overlay.inputIndex ++ ":v" = streamName index .video := by
    rw [isIndex, streamName, String.append_assoc]
    rfl
  simp [chains, preparation, Chain.written, isStream, preparedChain,
    layingChain]

end ImageOverlay

/-- A watermark takes the place of the video that it is laid over. -/
theorem wireWatermark_wires
    (wires :
      Wires inputs chains (labels.map fun name => (StreamKind.video, name)))
    (ends : Ends inputs .video target labels)
    (watermark : Option ImageOverlay)
    (isInput :
      ∀ overlay ∈ watermark, ∃ index < inputs, overlay.inputIndex = (index : Nat))
    (freshImage : "wm" ∉ producedBy chains)
    (freshVideo : "vWm" ∉ producedBy chains) :
    ∃ after,
      Wires inputs
        (chains ++
          (Graph.wireWatermark target watermark).1.map Chain.written)
        (after.map fun name => (StreamKind.video, name)) ∧
      Ends inputs .video (Graph.wireWatermark target watermark).2 after := by
  unfold Graph.wireWatermark
  split
  · rename_i source overlay
    obtain ⟨index, inside, isIndex⟩ := isInput overlay rfl
    let image := overlay.preparedChain index
    have imageWires :
        Wires inputs (chains ++ [image])
          ((labels.map fun name => (StreamKind.video, name)) ++
            [(StreamKind.video, "wm")]) :=
      .chain [streamName index .video] [] (by simpa using wires)
        (by simpa using ⟨index, inside, rfl⟩) (by simp) freshImage
        (ne_streamName (by decide)) _
    have fresh : "vWm" ∉ producedBy (chains ++ [image]) := by
      simpa [producedBy, image, ImageOverlay.preparedChain] using freshVideo
    have isLabel := ne_streamName (by decide : ':' ∉ "vWm".toList)
    refine ⟨["vWm"], ?_, .label "vWm"⟩
    dsimp only
    rw [ImageOverlay.map_written_chains isIndex, ← List.append_assoc]
    cases ends with
    | stream place within =>
        exact .chain [_] ["wm"] imageWires
          (by simpa using ⟨place, within, rfl⟩) (by simp) fresh isLabel _
    | label =>
        have both :
            Wires inputs (chains ++ [image])
              ([] ++ [source, "wm"].map fun name =>
                (StreamKind.video, name)) :=
          imageWires
        exact .chain [] [source, "wm"] both (by simp) (by simp) fresh isLabel _
  · exact ⟨labels, by simpa using wires, ends⟩

/-- A graph of stage lists over two streams, and maybe an image, is wired. -/
theorem Graph.isWired_of_streams
    {graph : Graph}
    (noChains : graph.chains = [])
    (video : graph.videoMap = some "0:v")
    (audio : graph.audioMap = some "1:a")
    (two : 2 ≤ graph.inputs.length)
    (isInput :
      ∀ overlay ∈ graph.watermark,
        ∃ index < graph.inputs.length, overlay.inputIndex = (index : Nat)) :
    ∃ pictures sounds, graph.IsWired pictures sounds := by
  let staged := Graph.wireStages graph.videoMap graph.videoFilters "vOut"
  let marked := Graph.wireWatermark staged.2 graph.watermark
  have unwired :
      Wires graph.inputs.length []
        ([] ++ [].map fun name => (StreamKind.video, name)) :=
    .nothing
  have videoEnds : Ends graph.inputs.length .video graph.videoMap [] := by
    have isFirst : "0:v" = streamName 0 .video := by decide +kernel
    rw [video, isFirst]
    exact .stream 0 (by omega)
  obtain ⟨pictures, stagedWires, stagedEnds⟩ :=
    wireStages_wires unwired videoEnds graph.videoFilters "vOut"
      (by simp [producedBy]) (by decide)
  have stagedLabels :
      ∀ name ∈ producedBy ([] ++ staged.1.map Chain.written),
        name = "vOut" :=
    producedBy_wireStages _ _ _
  obtain ⟨marks, markedWires, markedEnds⟩ :=
    wireWatermark_wires stagedWires stagedEnds graph.watermark isInput
      (fun member => absurd (stagedLabels _ member) (by decide))
      (fun member => absurd (stagedLabels _ member) (by decide))
  have audioEnds : Ends graph.inputs.length .audio graph.audioMap [] := by
    have isSecond : "1:a" = streamName 1 .audio := by decide +kernel
    rw [audio, isSecond]
    exact .stream 1 (by omega)
  have fresh :
      "aOut" ∉ producedBy
        (([] ++ staged.1.map Chain.written) ++
          marked.1.map Chain.written) := by
    rw [producedBy_append, List.mem_append]
    rintro (inStaged | inMarked)
    · exact absurd (stagedLabels _ inStaged) (by decide)
    · exact absurd (producedBy_wireWatermark _ _ _ inMarked) (by decide)
  have pending :
      Wires graph.inputs.length
        (([] ++ staged.1.map Chain.written) ++ marked.1.map Chain.written)
        ((marks.map fun name => (StreamKind.video, name)) ++
          [].map fun name => (StreamKind.audio, name)) := by
    simpa using markedWires
  obtain ⟨sounds, soundWires, soundEnds⟩ :=
    wireStages_wires pending audioEnds graph.soundStages "aOut" fresh
      (by decide)
  have wiring : graph.wiring = graph.flatWiring := by
    simp [Graph.wiring, noChains]
  refine ⟨marks, sounds, ?_, ?_, ?_⟩
  · rw [wiring]
    simpa [Graph.flatWiring, staged, marked] using soundWires
  · rw [wiring]
    exact markedEnds
  · rw [wiring]
    exact soundEnds

/-! ## Flat renders -/

theorem placeWatermark_yields
    (effect : WatermarkEffect)
    (width : Json)
    (inputIndex : Int) :
    Outcome.Yields (fun overlay => overlay.inputIndex = inputIndex)
      (placeWatermark effect width inputIndex) :=
  .after fun _ => .after fun _ => .ok rfl

namespace FlatSource

variable {stages : StageLists}

/-- The graph of two streams is renderable, with an image or without. -/
theorem streamGraph_isRenderable
    (source : FlatSource)
    (picture : AllLegible stages.picture)
    (sound : AllLegible stages.sound)
    (files : List InputFile)
    (watermark : Option ImageOverlay)
    (isInput :
      ∀ overlay ∈ watermark,
        ∃ index < 2 + files.length, overlay.inputIndex = (index : Nat)) :
    ({ source.streamGraph stages with
        inputs := (source.streamGraph stages).inputs ++ files
        watermark } : Graph).IsRenderable where
  legible := {
    chains := by simp [streamGraph]
    picture
    sound
    videoMap := by
      simp only [streamGraph, Option.mem_some_iff, forall_eq']
      decide
    audioMap := by
      simp only [streamGraph, Option.mem_some_iff, forall_eq']
      decide }
  wired := by
    have inputs :
        ((source.streamGraph stages).inputs ++ files).length =
          2 + files.length := by
      simp [streamGraph]
      omega
    apply Graph.isWired_of_streams rfl rfl rfl
    · simp [inputs]
    · simpa only [inputs] using isInput

theorem graph_yields
    (source : FlatSource)
    (picture : AllLegible stages.picture)
    (sound : AllLegible stages.sound) :
    Outcome.Yields Graph.IsRenderable (source.graph stages) := by
  unfold graph
  split
  · apply Outcome.Yields.ok
    exact source.streamGraph_isRenderable picture sound [] none (by simp)
  · rename_i effect file _
    refine (placeWatermark_yields effect _ _).bind ?_
    intro overlay isIndex
    apply Outcome.Yields.ok
    apply source.streamGraph_isRenderable picture sound [_] (some overlay)
    simpa using ⟨2, by simp, isIndex⟩

theorem compile_yields
    (source : FlatSource)
    (fontDirectory : String) :
    (source.compile fontDirectory).Yields Graph.IsRenderable := by
  unfold compile
  refine (JobProgram.Yields.ofOutcome
    (effectStages_legible source.effects source.geometry)).bind ?_
  rintro stages ⟨picture, sound⟩
  refine (subtitleStages_legible _ _).bind ?_
  intro subtitles subtitlesLegible
  refine (textStages_legible _).bind ?_
  intro text textLegible
  apply JobProgram.Yields.ofOutcome
  exact source.graph_yields
    ((picture.append subtitlesLegible).append textLegible) sound

end FlatSource

end Montage
