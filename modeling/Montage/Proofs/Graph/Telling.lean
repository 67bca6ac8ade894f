import Mathlib.Data.List.Pairwise
import Montage.Proofs.Graph.Composed

namespace Montage

/-!
# Segments in a composed graph

The graph of a composition tells its segments in their order: which file each
one is read from, where a video is cut, and by how much a sound is delayed.
-/

/-- The only chain of a graph with a label. -/
structure Graph.Produces
    (graph : Graph)
    (label : String)
    (chain : Chain) :
    Prop where
  member : chain ∈ graph.chains
  isOutput : chain.outputs = [label]
  only : ∀ other ∈ graph.chains, label ∈ other.outputs → other = chain

/-- A label is that of the part of a video from the start of a segment to its
end, read from the input with its address. -/
def Graph.Shows
    (graph : Graph)
    (addresses : List String)
    (entry : TimelineEntry)
    (label : String) :
    Prop :=
  ∃ chain index stop,
    graph.Produces label chain ∧
    addresses[index]? = entry.url ∧
    entry.stop = some stop ∧
    chain.inputs = [streamName index .video] ∧
    chain.filters = [
      { name := "trim"
        options := [("start", .number entry.start), ("end", .number stop)] },
      { name := "setpts"
        arguments := [.text "PTS-STARTPTS"] }]

/-- A label is that of the sound of the input with the address of a segment,
both channels delayed by its start in milliseconds. -/
def Graph.Sounds
    (graph : Graph)
    (addresses : List String)
    (entry : TimelineEntry)
    (label : String) :
    Prop :=
  ∃ chain index delay,
    graph.Produces label chain ∧
    addresses[index]? = entry.url ∧
    (entry.start * 1000).round = .ok delay ∧
    chain.inputs = [streamName index .audio] ∧
    chain.filters = [
      { name := "adelay"
        arguments := [
          .text (showInteger delay ++ "|" ++ showInteger delay)] }]

/-- The videos of a composition, one after another. -/
structure Composition.IsShown
    (composition : Composition)
    (graph : Graph)
    (addresses : List String)
    (concat final : Chain)
    (label : String) :
    Prop where
  member : concat ∈ graph.chains
  filters :
    concat.filters = [
      { name := "concat"
        options := [
          ("n", .integer composition.videos.length), ("v", .integer 1),
          ("a", .integer 0)] }]
  only :
    ∀ other ∈ graph.chains, ∀ filter ∈ other.filters,
      filter.name = "concat" → other = concat
  parts :
    List.Forall₂ (graph.Shows addresses) composition.videos concat.inputs
  isMap : graph.videoMap = some label
  isFinal : graph.Produces label final
  finishes : final.inputs = concat.outputs

/-- The sounds of a composition together: one as it is, others mixed. -/
structure Composition.IsHeard
    (composition : Composition)
    (graph : Graph)
    (addresses labels : List String) :
    Prop where
  parts : List.Forall₂ (graph.Sounds addresses) composition.sounds labels
  single : ∀ label, labels = [label] → graph.audioMap = some label
  mixed :
    2 ≤ labels.length →
      ∃ label chain,
        graph.audioMap = some label ∧
        graph.Produces label chain ∧
        chain.inputs = labels ∧
        chain.filters = [
          { name := "amix"
            options := [
              ("inputs", .integer composition.sounds.length),
              ("duration", .text "longest")] }]

/-- A graph tells a composition, with an input for each address. -/
structure Composition.IsToldBy
    (composition : Composition)
    (graph : Graph)
    (addresses : List String) :
    Prop where
  once : addresses.Nodup
  mem_iff :
    ∀ address,
      address ∈ addresses ↔
        ∃ entry ∈ composition.videos ++ composition.sounds,
          entry.url = some address
  files :
    List.Forall₂
      (fun address input =>
        getField? address composition.assets = some input.path)
      addresses graph.inputs
  videoMap : graph.videoMap.isSome = true ↔ composition.videos ≠ []
  audioMap : graph.audioMap.isSome = true ↔ composition.sounds ≠ []
  picture :
    composition.videos ≠ [] →
      ∃ concat final label,
        composition.IsShown graph addresses concat final label
  sound :
    composition.sounds ≠ [] →
      ∃ labels, composition.IsHeard graph addresses labels

/-! ## Parts in their order -/

namespace ChainsFor

variable {make : Nat → Nat → TimelineEntry → Chain → Prop}
  {kind : StreamKind} {name : String} {addresses : List String}
  {number : Nat} {entries : List TimelineEntry} {made : List Chain}

/-- Every label is that of the chain of its segment. -/
theorem forall₂_outputs
    (parts : ChainsFor make addresses number entries made)
    (isPart :
      ∀ {number index entry chain},
        make number index entry chain → IsPart kind name number index chain) :
    List.Forall₂
      (fun entry label =>
        ∃ number index chain,
          chain ∈ made ∧
          chain.outputs = [label] ∧
          addresses[index]? = some entry.address ∧
          make number index entry chain)
      entries (made.flatMap Chain.outputs) := by
  induction parts with
  | nil number => exact .nil
  | @cons number index entry entries chain others isIndex isMade rest
      inductionHypothesis =>
      have outputs := (isPart isMade).outputs
      rw [List.flatMap_cons, outputs]
      refine .cons ⟨number, index, chain, List.mem_cons_self, outputs, isIndex,
        isMade⟩ (inductionHypothesis.imp ?_)
      rintro entry label ⟨number, index, chain, member, others⟩
      exact ⟨number, index, chain, List.mem_cons_of_mem _ member, others⟩

/-- Every chain was made of a segment. -/
theorem exists_of_mem
    (parts : ChainsFor make addresses number entries made)
    {chain : Chain}
    (member : chain ∈ made) :
    ∃ number index entry, make number index entry chain := by
  induction parts with
  | nil number => cases member
  | cons isIndex isMade rest inductionHypothesis =>
      rcases List.mem_cons.mp member with rfl | isLater
      · exact ⟨_, _, _, isMade⟩
      · exact inductionHypothesis isLater

end ChainsFor

/-- Where no value comes twice, it comes from one item. -/
theorem eq_of_nodup_flatMap
    {α β : Type}
    {items : List α}
    {values : α → List β}
    (once : (items.flatMap values).Nodup)
    {item other : α}
    (isItem : item ∈ items)
    (isOther : other ∈ items)
    {value : β}
    (ofItem : value ∈ values item)
    (ofOther : value ∈ values other) :
    item = other := by
  by_contra different
  rw [List.nodup_flatMap] at once
  have symmetric : Std.Symm (Function.onFun List.Disjoint values) :=
    ⟨fun _ _ disjoint _ inSecond inFirst => disjoint inFirst inSecond⟩
  exact once.2.forall isItem isOther different ofItem ofOther

theorem eq_ok_of_ofArithmetic
    {α : Type}
    {result : Except ArithmeticError α}
    {value : α}
    (isOk : ofArithmetic result = .ok value) :
    result = .ok value := by
  cases result with
  | ok other =>
      cases isOk
      rfl
  | error cause => cases isOk

namespace Composition

variable {composition : Composition} {addresses : List String}
  {parts sounds : List Chain} {stages : List Filter}
  {files : List InputFile}

/-- A label of one chain is one of no other. -/
theorem produces_of_mem
    (isParts : ChainsFor IsTrim addresses 0 composition.videos parts)
    (isSounds : ChainsFor IsDelay addresses 0 composition.sounds sounds)
    (inside : addresses.length ≤ files.length)
    {chain : Chain}
    {label : String}
    (member : chain ∈ (graph parts stages sounds files).chains)
    (isOutput : chain.outputs = [label]) :
    (graph parts stages sounds files).Produces label chain := by
  obtain ⟨pictures, mixed, wired⟩ :=
    graph_isWired isParts isSounds inside stages
  have once := wired.wires.kept.producedOnce
  rw [producedBy_written, graph_wiring] at once
  have inOutputs : label ∈ chain.outputs := by
    simp [isOutput]
  exact ⟨member, isOutput, fun other isOther inOther =>
    eq_of_nodup_flatMap once isOther member inOther inOutputs⟩

/-- No other chain than that of the parts puts videos together. -/
theorem eq_concatChain
    (isParts : ChainsFor IsTrim addresses 0 composition.videos parts)
    (isSounds : ChainsFor IsDelay addresses 0 composition.sounds sounds)
    (areSubtitles : ∀ filter ∈ stages, filter.name = "subtitles") :
    ∀ chain ∈ (graph parts stages sounds files).chains,
      ∀ filter ∈ chain.filters,
        filter.name = "concat" →
          chain = concatChain (parts.flatMap Chain.outputs) := by
  intro chain member filter inChain isConcat
  simp only [graph, List.mem_append] at member
  rcases member with (inPicture | inSounds) | inMix
  · unfold pictureChains at inPicture
    split at inPicture
    · cases inPicture
    · simp only [List.mem_append, List.mem_cons, List.not_mem_nil,
        or_false] at inPicture
      rcases inPicture with inParts | isConcatChain | isFinal
      · obtain ⟨number, index, entry, isTrim⟩ := isParts.exists_of_mem inParts
        subst isTrim
        simp only [trimChain, List.mem_cons, List.not_mem_nil, or_false]
          at inChain
        rcases inChain with rfl | rfl <;> simp at isConcat
      · exact isConcatChain
      · subst isFinal
        rw [areSubtitles filter inChain] at isConcat
        simp at isConcat
  · obtain ⟨number, index, entry, delay, _, isDelay⟩ :=
      isSounds.exists_of_mem inSounds
    subst isDelay
    rw [List.mem_singleton.mp inChain] at isConcat
    simp at isConcat
  · unfold mixChains at inMix
    split at inMix
    · cases inMix
    · rw [List.mem_singleton.mp inMix] at inChain
      rw [List.mem_singleton.mp inChain] at isConcat
      simp at isConcat

theorem mixChains_of_many
    {labels : List String}
    (areMany : 2 ≤ labels.length) :
    ∃ mix,
      mixChains labels = [mix] ∧
      mix.inputs = labels ∧
      mix.filters = [
        { name := "amix"
          options := [
            ("inputs", .integer labels.length),
            ("duration", .text "longest")] }] ∧
      mix.outputs = ["outa"] := by
  unfold mixChains
  rw [if_neg (by omega)]
  exact ⟨_, rfl, rfl, rfl, rfl⟩

theorem soundMap_of_many
    {labels : List String}
    (areMany : 2 ≤ labels.length) :
    soundMap labels = some "outa" := by
  match labels with
  | first :: second :: others => rfl

theorem isSome_soundMap_iff
    (labels : List String) :
    (soundMap labels).isSome = true ↔ labels ≠ [] := by
  match labels with
  | [] => simp [soundMap]
  | [label] => simp [soundMap]
  | first :: second :: others => simp [soundMap]

section Telling

variable
  (isParts : ChainsFor IsTrim addresses 0 composition.videos parts)
  (isSounds : ChainsFor IsDelay addresses 0 composition.sounds sounds)
  (inside : addresses.length ≤ files.length)

include isParts isSounds inside

/-- The labels that are put together show the videos in their order. -/
theorem shows_videos
    (stages : List Filter)
    (complete :
      ∀ entry ∈ composition.videos,
        entry.url = some entry.address ∧ ∃ stop, entry.stop = some stop) :
    List.Forall₂ ((graph parts stages sounds files).Shows addresses)
      composition.videos (parts.flatMap Chain.outputs) := by
  have labels :=
    (List.forall₂_and_left _ _).mpr
      ⟨complete, isParts.forall₂_outputs IsTrim.isPart⟩
  refine labels.imp ?_
  rintro entry label ⟨⟨isUrl, stop, isStop⟩, number, index, chain, member,
    isOutput, isIndex, isTrim⟩
  have inGraph : chain ∈ (graph parts stages sounds files).chains := by
    have notEmpty : parts ≠ [] := List.ne_nil_of_mem member
    simp [graph, pictureChains, notEmpty, member]
  refine ⟨chain, index, stop,
    produces_of_mem isParts isSounds inside inGraph isOutput,
    isIndex.trans isUrl.symm, isStop, (IsTrim.isPart isTrim).inputs, ?_⟩
  subst isTrim
  simp [trimChain, endOption, isStop]

theorem sounds_sounds
    (stages : List Filter)
    (complete :
      ∀ entry ∈ composition.sounds, entry.url = some entry.address) :
    List.Forall₂ ((graph parts stages sounds files).Sounds addresses)
      composition.sounds (sounds.flatMap Chain.outputs) := by
  have labels :=
    (List.forall₂_and_left _ _).mpr
      ⟨complete, isSounds.forall₂_outputs IsDelay.isPart⟩
  refine labels.imp ?_
  rintro entry label ⟨isUrl, number, index, chain, member, isOutput, isIndex,
    isDelay⟩
  have inGraph : chain ∈ (graph parts stages sounds files).chains := by
    simp [graph, member]
  have produces := produces_of_mem isParts isSounds inside inGraph isOutput
  have inputs := (IsDelay.isPart isDelay).inputs
  obtain ⟨delay, isRound, rfl⟩ := isDelay
  exact ⟨_, index, delay, produces, isIndex.trans isUrl.symm,
    eq_ok_of_ofArithmetic isRound, inputs, rfl⟩

/-- Videos are put together in their order, and then finished. -/
theorem graph_isShown
    (hasVideos : composition.videos ≠ [])
    (areSubtitles : ∀ filter ∈ stages, filter.name = "subtitles")
    (complete :
      ∀ entry ∈ composition.videos,
        entry.url = some entry.address ∧ ∃ stop, entry.stop = some stop) :
    composition.IsShown (graph parts stages sounds files) addresses
      (concatChain (parts.flatMap Chain.outputs)) (finalChain stages)
      "vfinal" := by
  have notEmpty : parts ≠ [] := isParts.ne_nil_iff.mpr hasVideos
  have shown :=
    shows_videos isParts isSounds inside stages complete
  have isFinal :
      (graph parts stages sounds files).Produces "vfinal"
        (finalChain stages) := by
    apply produces_of_mem isParts isSounds inside _ rfl
    simp [graph, pictureChains, notEmpty]
  refine ⟨?_, ?_, eq_concatChain isParts isSounds areSubtitles, shown, ?_,
    isFinal, rfl⟩
  · simp [graph, pictureChains, notEmpty]
  · rw [shown.length_eq]
    rfl
  · simp [graph, notEmpty]

/-- One sound is heard as it is, others are mixed. -/
theorem graph_isHeard
    (complete :
      ∀ entry ∈ composition.sounds, entry.url = some entry.address) :
    composition.IsHeard (graph parts stages sounds files) addresses
      (sounds.flatMap Chain.outputs) := by
  have heard :=
    sounds_sounds isParts isSounds inside stages complete
  refine ⟨heard, ?_, ?_⟩
  · intro label isSingle
    simp [graph, soundMap, isSingle]
  · intro areMany
    obtain ⟨mix, isMix, inputs, filters, outputs⟩ :=
      mixChains_of_many areMany
    have inGraph : mix ∈ (graph parts stages sounds files).chains := by
      simp [graph, isMix]
    rw [← heard.length_eq] at filters
    exact ⟨"outa", mix, soundMap_of_many areMany,
      produces_of_mem isParts isSounds inside inGraph outputs, inputs, filters⟩

end Telling

/-- The graph of cut parts and delayed sounds tells its composition. -/
theorem graph_isToldBy
    {table : InputTable}
    (isSound : table.Sound composition.assets)
    (mem_iff :
      ∀ address,
        address ∈ table.addresses ↔
          address ∈ addressesOf composition.videos ∨
            address ∈ addressesOf composition.sounds)
    (isParts : ChainsFor IsTrim table.addresses 0 composition.videos parts)
    (isSounds : ChainsFor IsDelay table.addresses 0 composition.sounds sounds)
    (areSubtitles : ∀ filter ∈ stages, filter.name = "subtitles")
    (remote :
      ∀ entry ∈ composition.videos ++ composition.sounds,
        entry.url = some entry.address)
    (ends :
      ∀ entry ∈ composition.videos, ∃ stop, entry.stop = some stop) :
    composition.IsToldBy (graph parts stages sounds table.inputs)
      table.addresses := by
  have inside : table.addresses.length ≤ table.inputs.length :=
    Nat.le_of_eq isSound.files.length_eq
  rw [List.forall_mem_append] at remote
  refine ⟨isSound.once, ?_, isSound.files, ?_, ?_, ?_, ?_⟩
  · intro address
    rw [mem_iff, ← List.mem_append, addressesOf, addressesOf,
      ← List.map_append, List.mem_map]
    refine exists_congr fun entry => and_congr_right fun isRemote => ?_
    rw [List.forall_mem_append.mpr remote entry isRemote, Option.some_inj]
  · rw [← isParts.ne_nil_iff]
    cases parts <;> simp [graph]
  · rw [← isSounds.outputs_ne_nil_iff IsDelay.isPart]
    exact isSome_soundMap_iff _
  · intro hasVideos
    exact ⟨_, _, _, graph_isShown isParts isSounds inside hasVideos areSubtitles
      fun entry isVideo => ⟨remote.1 entry isVideo, ends entry isVideo⟩⟩
  · intro _
    exact ⟨_, graph_isHeard isParts isSounds inside remote.2⟩

/-- A graph that is made tells its composition. -/
theorem compile_tells
    (composition : Composition)
    (fontDirectory : String)
    (remote :
      ∀ entry ∈ composition.videos ++ composition.sounds,
        entry.url = some entry.address)
    (ends :
      ∀ entry ∈ composition.videos, ∃ stop, entry.stop = some stop) :
    (composition.compile fontDirectory).Yields fun graph =>
      ∃ addresses, composition.IsToldBy graph addresses := by
  unfold compile
  refine (JobProgram.Yields.ofOutcome
    (trimChains_yields InputTable.empty_sound 0 composition.videos)).bind ?_
  intro parts isParts
  refine (composition.finalStages_yields fontDirectory).bind ?_
  intro stages areSubtitles
  refine (JobProgram.Yields.ofOutcome
    (delayChains_yields isParts.sound 0 composition.sounds)).bind ?_
  intro sounds isSounds
  have grows := isParts.grows.trans isSounds.grows
  refine .pure ⟨_, graph_isToldBy isSounds.sound ?_
    (isParts.chains.grows isSounds.grows) isSounds.chains ?_ remote ends⟩
  · intro address
    rw [grows.mem_iff, List.mem_append]
    simp
  · intro filter member
    obtain ⟨file, rfl⟩ := areSubtitles filter member
    rfl

end Composition

end Montage
