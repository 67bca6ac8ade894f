import Montage.Proofs.Graph.Segments
import Montage.Proofs.Graph.Stages
import Montage.Proofs.Graph.Wiring

namespace Montage

/-!
# Composed graphs

The parts of a composition have numbered labels, which the chains after them
take up; all of its graph can be read.
-/

variable {make : Nat → Nat → TimelineEntry → Chain → Prop}
  {kind : StreamKind} {name : String} {addresses : List String}
  {number : Nat} {entries : List TimelineEntry} {made : List Chain}

/-! ## Numbered labels -/

theorem toList_numbered
    (name : String)
    (number : Nat) :
    (numbered name number).toList = name.toList ++ decimalDigits number := by
  simp [numbered, showNatural]

theorem numbered_injective
    {first second : Nat}
    (same : numbered name first = numbered name second) :
    first = second := by
  have texts := congrArg String.toList same
  rw [toList_numbered, toList_numbered] at texts
  have digits := List.append_cancel_left texts
  exact showNatural_injective (congrArg String.ofList digits)

/-- A character of a label that is neither in a name nor a digit. -/
theorem ne_numbered
    {label : String}
    (character : Char)
    (inLabel : character ∈ label.toList)
    (notInName : character ∉ name.toList)
    (noDigit : isAsciiDigit character = false)
    (number : Nat) :
    label ≠ numbered name number := by
  rintro rfl
  rw [toList_numbered, List.mem_append] at inLabel
  rcases inLabel with inName | inDigits
  · exact notInName inName
  · rw [isAsciiDigit_of_mem_decimalDigits inDigits] at noDigit
    cases noDigit

theorem colon_not_mem_numbered
    (noColon : ':' ∉ name.toList)
    (number : Nat) :
    ':' ∉ (numbered name number).toList := by
  intro member
  exact ne_numbered ':' member noColon (by decide) number rfl

theorem numbered_clear
    (clear : IsClear name)
    (number : Nat) :
    IsClear (numbered name number) :=
  clear.append (.of_isNumeric (.decimalDigits number))

theorem streamName_clear
    (index : Nat)
    (kind : StreamKind) :
    IsClear (streamName index kind) := by
  have number : IsClear (showNatural index) :=
    .of_isNumeric (.decimalDigits index)
  have letter : IsClear kind.letter := by
    cases kind <;> decide
  exact (number.append (by decide)).append letter

/-! ## Parts -/

/-- A chain takes a stream of its input, and gives it a numbered label. -/
structure IsPart
    (kind : StreamKind)
    (name : String)
    (number index : Nat)
    (chain : Chain) :
    Prop where
  inputs : chain.inputs = [streamName index kind]
  filters : AllLegible chain.filters
  outputs : chain.outputs = [numbered name number]

/-- What is written for a stream names it. -/
theorem numbered_append_eq
    (kind : StreamKind)
    (index : Nat) :
    numbered "" index ++ (":" ++ kind.letter) = streamName index kind := by
  rw [numbered, String.empty_append, streamName, String.append_assoc]

theorem endOption_legible
    (entry : TimelineEntry) :
    ∀ option ∈ endOption entry, IsClear option.1 ∧ option.2.IsLegible := by
  have key : IsClear "end" := by decide
  unfold endOption
  cases entry.stop with
  | none => simp
  | some stop => simpa [OptionValue.IsLegible] using key

theorem IsTrim.isPart
    {index : Nat}
    {entry : TimelineEntry}
    {chain : Chain}
    (isTrim : IsTrim number index entry chain) :
    IsPart .video "v" number index chain := by
  subst isTrim
  have key : IsClear "start" := by decide
  have trimmed :
      ∀ option ∈ ("start", .number entry.start) :: endOption entry,
        IsClear option.1 ∧ option.2.IsLegible :=
    List.forall_mem_cons.mpr
      ⟨⟨key, trivial⟩, endOption_legible entry⟩
  refine ⟨?_, .cons ?_ ?_, rfl⟩
  · exact congrArg List.singleton (numbered_append_eq .video index)
  · exact Filter.legible_of_options (by decide)
      (fun option member => (trimmed option member).1)
      (fun option member => (trimmed option member).2)
  · exact .of_arguments (by decide) (by simp [OptionValue.IsLegible])

theorem IsDelay.isPart
    {index : Nat}
    {entry : TimelineEntry}
    {chain : Chain}
    (isDelay : IsDelay number index entry chain) :
    IsPart .audio "a" number index chain := by
  obtain ⟨delay, _, rfl⟩ := isDelay
  refine ⟨?_, .of_arguments (by decide) ?_, rfl⟩
  · exact congrArg List.singleton (numbered_append_eq .audio index)
  · simp [OptionValue.IsLegible]

namespace ChainsFor

variable {inputs : Nat} {chains : List WrittenChain}
  {pending : List (StreamKind × String)}

/-- The labels of parts are numbered from the first one on. -/
theorem outputs_eq
    (parts : ChainsFor make addresses number entries made)
    (isPart :
      ∀ {number index entry chain},
        make number index entry chain → IsPart kind name number index chain) :
    made.flatMap Chain.outputs =
      (List.range' number entries.length).map (numbered name) := by
  induction parts with
  | nil number => rfl
  | @cons number index entry entries chain others isIndex isMade rest
      inductionHypothesis =>
      rw [List.flatMap_cons, (isPart isMade).outputs, inductionHypothesis]
      rfl

theorem outputs_ne_nil_iff
    (parts : ChainsFor make addresses number entries made)
    (isPart :
      ∀ {number index entry chain},
        make number index entry chain → IsPart kind name number index chain) :
    made.flatMap Chain.outputs ≠ [] ↔ entries ≠ [] := by
  rw [parts.outputs_eq isPart]
  simp

/-- A label with a character of its own is not that of a part. -/
theorem not_mem_outputs
    (parts : ChainsFor make addresses number entries made)
    (isPart :
      ∀ {number index entry chain},
        make number index entry chain → IsPart kind name number index chain)
    {label : String}
    (character : Char)
    (inLabel : character ∈ label.toList)
    (notInName : character ∉ name.toList)
    (noDigit : isAsciiDigit character = false) :
    label ∉ made.flatMap Chain.outputs := by
  rw [parts.outputs_eq isPart, List.mem_map]
  rintro ⟨number, _, isNumbered⟩
  exact ne_numbered character inLabel notInName noDigit number isNumbered.symm

/-- Parts are wired one by one; their labels are pending in their order. -/
theorem wires
    (parts : ChainsFor make addresses number entries made)
    (isPart :
      ∀ {number index entry chain},
        make number index entry chain → IsPart kind name number index chain)
    (noColon : ':' ∉ name.toList)
    (inside : addresses.length ≤ inputs)
    (wires : Wires inputs chains pending)
    (fresh : ∀ other ≥ number, numbered name other ∉ producedBy chains) :
    Wires inputs (chains ++ made.map Chain.written)
      (pending ++
        (made.flatMap Chain.outputs).map fun label => (kind, label)) := by
  induction parts generalizing chains pending with
  | nil number => simpa using wires
  | @cons number index entry entries chain others isIndex isMade rest
      inductionHypothesis =>
      have part := isPart isMade
      have isInput : index < inputs := by
        have inTable := (List.getElem?_eq_some_iff.mp isIndex).1
        omega
      have written :
          chain.written = {
            inputs := [streamName index kind] ++ []
            filters := chain.written.filters
            outputs := [numbered name number] } := by
        simp [Chain.written, part.inputs, part.outputs]
      have first :
          Wires inputs (chains ++ [chain.written])
            (pending ++ [(kind, numbered name number)]) := by
        rw [written]
        exact .chain [streamName index kind] [] (by simpa using wires)
          (by simpa using ⟨index, isInput, rfl⟩) (by simp)
          (fresh number (Nat.le_refl number))
          (ne_streamName (colon_not_mem_numbered noColon number)) _
      have stillFresh :
          ∀ other ≥ number + 1,
            numbered name other ∉ producedBy (chains ++ [chain.written]) := by
        intro other isLarger
        have isNew := fresh other (by omega)
        have isOther : numbered name other ≠ numbered name number := by
          intro same
          have := numbered_injective same
          omega
        have produced :
            producedBy [chain.written] = [numbered name number] := by
          simp [producedBy, Chain.written, part.outputs]
        rw [producedBy_append, produced, List.mem_append, List.mem_singleton]
        exact not_or.mpr ⟨isNew, isOther⟩
      have all := inductionHypothesis first stillFresh
      simpa [part.outputs] using all

theorem legible
    (parts : ChainsFor make addresses number entries made)
    (isPart :
      ∀ {number index entry chain},
        make number index entry chain → IsPart kind name number index chain)
    (clear : IsClear name) :
    ∀ chain ∈ made, chain.IsLegible := by
  induction parts with
  | nil number => simp
  | @cons number index entry entries chain others isIndex isMade rest
      inductionHypothesis =>
      have part := isPart isMade
      refine List.forall_mem_cons.mpr ⟨⟨?_, part.filters, ?_⟩,
        inductionHypothesis⟩
      · simpa [part.inputs] using streamName_clear index kind
      · simpa [part.outputs] using numbered_clear clear number

end ChainsFor

namespace Composition

variable {inputs : Nat} {parts sounds : List Chain}
  {videos audios : List TimelineEntry}

/-! ## Picture -/

/-- Parts become one picture, if there are any. -/
theorem pictureChains_wires
    (isParts : ChainsFor IsTrim addresses 0 videos parts)
    (inside : addresses.length ≤ inputs)
    (stages : List Filter) :
    ∃ pictures : List String,
      Wires inputs ((pictureChains parts stages).map Chain.written)
        (pictures.map fun label => (StreamKind.video, label)) ∧
      Ends inputs .video (if parts.isEmpty then none else some "vfinal")
        pictures := by
  unfold pictureChains
  split
  · exact ⟨[], .nothing, .nowhere⟩
  · rename_i isEmpty
    refine ⟨["vfinal"], ?_, .label "vfinal"⟩
    let labels := parts.flatMap Chain.outputs
    have partWires :
        Wires inputs (parts.map Chain.written)
          ([] ++ labels.map fun label => (StreamKind.video, label)) := by
      have all :=
        isParts.wires IsTrim.isPart (by decide) inside .nothing
          (by simp [producedBy])
      simpa using all
    have isMany : videos ≠ [] := isParts.ne_nil_iff.mp (by simpa using isEmpty)
    have nonempty : labels ≠ [] :=
      (isParts.outputs_ne_nil_iff IsTrim.isPart).mpr isMany
    have produced : producedBy (parts.map Chain.written) = labels :=
      producedBy_written parts
    have concatFresh : "vconcat" ∉ producedBy (parts.map Chain.written) := by
      rw [produced]
      exact isParts.not_mem_outputs IsTrim.isPart 'n' (by decide) (by decide)
        (by decide)
    have concatWires :
        Wires inputs
          (parts.map Chain.written ++ [(concatChain labels).written])
          ([] ++ ["vconcat"].map fun label => (StreamKind.video, label)) :=
      .chain [] labels partWires (by simp) (by simpa using nonempty)
        concatFresh (ne_streamName (by decide)) _
    have finalFresh :
        "vfinal" ∉ producedBy
          (parts.map Chain.written ++ [(concatChain labels).written]) := by
      have isOther : "vfinal" ∉ labels :=
        isParts.not_mem_outputs IsTrim.isPart 'n' (by decide) (by decide)
          (by decide)
      have concat :
          producedBy [(concatChain labels).written] = ["vconcat"] := rfl
      rw [producedBy_append, produced, concat, List.mem_append]
      exact not_or.mpr ⟨isOther, by decide⟩
    have finalWires :
        Wires inputs
          ((parts.map Chain.written ++ [(concatChain labels).written]) ++
            [(finalChain stages).written])
          ([] ++ [(StreamKind.video, "vfinal")]) :=
      .chain [] ["vconcat"] concatWires (by simp) (by simp) finalFresh
        (ne_streamName (by decide)) _
    simpa using finalWires

/-- A label is not in a picture, if it has a character of its own and is
neither of the two that are always there. -/
theorem not_mem_pictureChains
    (stages : List Filter)
    {label : String}
    (notInParts : label ∉ parts.flatMap Chain.outputs)
    (notLater : label ≠ "vconcat" ∧ label ≠ "vfinal") :
    label ∉ producedBy ((pictureChains parts stages).map Chain.written) := by
  rw [producedBy_written]
  unfold pictureChains
  split
  · simp
  · rw [List.flatMap_append, List.mem_append]
    exact not_or.mpr
      ⟨notInParts, by simpa [concatChain, finalChain] using notLater⟩

/-! ## Sound -/

/-- Sounds are mixed into one, if there are many. -/
theorem mixChains_wires
    {chains : List WrittenChain}
    {pending : List (StreamKind × String)}
    (labels : List String)
    (wires :
      Wires inputs chains
        (pending ++ labels.map fun label => (StreamKind.audio, label)))
    (fresh : "outa" ∉ producedBy chains) :
    ∃ mixed : List String,
      Wires inputs (chains ++ (mixChains labels).map Chain.written)
        (pending ++ mixed.map fun label => (StreamKind.audio, label)) ∧
      Ends inputs .audio (soundMap labels) mixed := by
  match labels with
  | [] => exact ⟨[], by simpa [mixChains] using wires, .nowhere⟩
  | [label] => exact ⟨[label], by simpa [mixChains] using wires, .label label⟩
  | first :: second :: others =>
      refine ⟨["outa"], ?_, .label "outa"⟩
      exact .chain [] (first :: second :: others) wires (by simp) (by simp)
        fresh (ne_streamName (by decide)) _

/-! ## Whole graphs -/

/-- The graph of a composition has all of its chains, also if it has none. -/
theorem graph_wiring
    (parts : List Chain)
    (stages : List Filter)
    (sounds : List Chain)
    (files : List InputFile) :
    (graph parts stages sounds files).wiring = {
      chains := (graph parts stages sounds files).chains
      video := (graph parts stages sounds files).videoMap
      audio := (graph parts stages sounds files).audioMap } := by
  unfold Graph.wiring
  split
  · rename_i isEmpty
    have noChains :
        pictureChains parts stages = [] ∧ sounds = [] ∧
          mixChains (sounds.flatMap Chain.outputs) = [] := by
      simpa [graph] using isEmpty
    obtain ⟨noPicture, noSounds, _⟩ := noChains
    have noParts : parts = [] := by
      unfold pictureChains at noPicture
      split at noPicture
      · rename_i isEmpty
        exact List.isEmpty_iff.mp isEmpty
      · simp at noPicture
    subst noParts noSounds
    rfl
  · rfl

section Whole

variable {stages : List Filter} {files : List InputFile}

theorem graph_isWired
    (isParts : ChainsFor IsTrim addresses 0 videos parts)
    (isSounds : ChainsFor IsDelay addresses 0 audios sounds)
    (inside : addresses.length ≤ files.length)
    (stages : List Filter) :
    ∃ pictures mixed,
      (graph parts stages sounds files).IsWired pictures mixed := by
  obtain ⟨pictures, pictureWires, pictureEnds⟩ :=
    pictureChains_wires isParts inside stages
  let picture := (pictureChains parts stages).map Chain.written
  let labels := sounds.flatMap Chain.outputs
  have soundFresh :
      ∀ number ≥ 0, numbered "a" number ∉ producedBy picture := by
    intro number _
    apply not_mem_pictureChains stages
    · apply isParts.not_mem_outputs IsTrim.isPart 'a' _ (by decide)
        (by decide)
      simp [toList_numbered]
    · constructor <;>
        exact (ne_numbered 'v' (by decide) (by decide) (by decide) number).symm
  have soundWires :=
    isSounds.wires IsDelay.isPart (by decide) inside pictureWires soundFresh
  have mixFresh :
      "outa" ∉ producedBy (picture ++ sounds.map Chain.written) := by
    rw [producedBy_append, producedBy_written sounds, List.mem_append]
    refine not_or.mpr ⟨?_, ?_⟩
    · apply not_mem_pictureChains stages _ (by decide)
      exact isParts.not_mem_outputs IsTrim.isPart 'u' (by decide) (by decide)
        (by decide)
    · exact isSounds.not_mem_outputs IsDelay.isPart 'u' (by decide) (by decide)
        (by decide)
  obtain ⟨mixed, wires, soundEnds⟩ :=
    mixChains_wires labels soundWires mixFresh
  refine ⟨pictures, mixed, ?_, ?_, ?_⟩
  · rw [graph_wiring]
    simpa [graph, picture, labels] using wires
  · rw [graph_wiring]
    exact pictureEnds
  · rw [graph_wiring]
    exact soundEnds

theorem concatChain_legible
    {labels : List String}
    (clear : ∀ label ∈ labels, IsClear label) :
    (concatChain labels).IsLegible := by
  have options :
      ∀ option ∈ [
          ("n", OptionValue.integer labels.length),
          ("v", .integer 1),
          ("a", .integer 0)],
        IsLegibleOption option := by
    have keys : IsClear "n" ∧ IsClear "v" ∧ IsClear "a" := by decide
    simpa [IsLegibleOption, OptionValue.IsLegible] using keys
  have isName : IsFilterName "concat" := by decide
  have concat := Filter.legible_of_legibleOptions isName options
  have output : IsClear "vconcat" := by decide
  exact ⟨clear, by simpa [concatChain] using concat,
    by simpa [concatChain] using output⟩

theorem finalChain_legible
    (stagesLegible : AllLegible stages) :
    (finalChain stages).IsLegible := by
  have input : IsClear "vconcat" := by decide
  have output : IsClear "vfinal" := by decide
  exact ⟨by simpa [finalChain] using input, stagesLegible,
    by simpa [finalChain] using output⟩

theorem mixChains_legible
    {labels : List String}
    (clear : ∀ label ∈ labels, IsClear label) :
    ∀ chain ∈ mixChains labels, chain.IsLegible := by
  have options :
      ∀ option ∈ [
          ("inputs", OptionValue.integer labels.length),
          ("duration", .text "longest")],
        IsLegibleOption option := by
    have keys : IsClear "inputs" ∧ IsClear "duration" := by decide
    simpa [IsLegibleOption, OptionValue.IsLegible] using keys
  have isName : IsFilterName "amix" := by decide
  have mix := Filter.legible_of_legibleOptions isName options
  have output : IsClear "outa" := by decide
  unfold mixChains
  split
  · simp
  · rw [List.forall_mem_singleton]
    exact ⟨clear, by simpa using mix, by simpa using output⟩

theorem graph_isLegible
    (isParts : ChainsFor IsTrim addresses 0 videos parts)
    (isSounds : ChainsFor IsDelay addresses 0 audios sounds)
    (stagesLegible : AllLegible stages) :
    (graph parts stages sounds files).IsLegible := by
  have partsLegible := isParts.legible IsTrim.isPart (by decide)
  have soundsLegible := isSounds.legible IsDelay.isPart (by decide)
  have clear
      {chains : List Chain}
      (legible : ∀ chain ∈ chains, chain.IsLegible) :
      ∀ label ∈ chains.flatMap Chain.outputs, IsClear label := by
    intro label member
    obtain ⟨chain, isChain, isOutput⟩ := List.mem_flatMap.mp member
    exact (legible chain isChain).outputs label isOutput
  have pictureLegible :
      ∀ chain ∈ pictureChains parts stages, chain.IsLegible := by
    unfold pictureChains
    split
    · simp
    · rw [List.forall_mem_append, List.forall_mem_cons,
        List.forall_mem_singleton]
      exact ⟨partsLegible, concatChain_legible (clear partsLegible),
        finalChain_legible stagesLegible⟩
  refine ⟨?_, stagesLegible, by simp [graph], ?_, ?_⟩
  · simp only [graph, List.forall_mem_append]
    exact ⟨⟨pictureLegible, soundsLegible⟩,
      mixChains_legible (clear soundsLegible)⟩
  · have output : IsClear "vfinal" := by decide
    intro label isMap
    simp only [graph] at isMap
    split at isMap
    · cases isMap
    · cases isMap
      exact output
  · have output : IsClear "outa" := by decide
    have inputs := clear soundsLegible
    intro label isMap
    simp only [graph] at isMap
    unfold soundMap at isMap
    split at isMap
    · cases isMap
    · rename_i isSingle
      cases isMap
      exact inputs label (by simp [isSingle])
    · cases isMap
      exact output

end Whole

theorem finalStages_yields
    (composition : Composition)
    (fontDirectory : String) :
    (composition.finalStages fontDirectory).Yields fun stages =>
      ∀ filter ∈ stages, ∃ file, filter = subtitleFilter file fontDirectory := by
  unfold finalStages
  split
  · exact .pure (by simp)
  · exact subtitleStages_yields (composition.subtitlePlan fontDirectory) _

theorem compile_yields
    (composition : Composition)
    (fontDirectory : String) :
    (composition.compile fontDirectory).Yields Graph.IsRenderable := by
  unfold compile
  refine (JobProgram.Yields.ofOutcome
    (trimChains_yields InputTable.empty_sound 0 composition.videos)).bind ?_
  intro parts isParts
  refine (composition.finalStages_yields fontDirectory).bind ?_
  intro stages areSubtitles
  have stagesLegible : AllLegible stages := by
    intro filter member
    obtain ⟨file, rfl⟩ := areSubtitles filter member
    exact subtitleFilter_legible file fontDirectory
  refine (JobProgram.Yields.ofOutcome
    (delayChains_yields isParts.sound 0 composition.sounds)).bind ?_
  intro sounds isSounds
  have partChains := isParts.chains.grows isSounds.grows
  have inside : sounds.2.addresses.length ≤ sounds.2.inputs.length :=
    Nat.le_of_eq isSounds.sound.files.length_eq
  exact .pure {
    legible := graph_isLegible partChains isSounds.chains stagesLegible
    wired := graph_isWired partChains isSounds.chains inside stages }

end Composition

end Montage
