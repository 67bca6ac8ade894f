import Mathlib.Data.List.Nodup
import Montage.Encoder.Command
import Montage.Proofs.Graph.Reading

namespace Montage

/-!
# Well-wired graphs

Every label is produced once and consumed once, by a later chain or by a
target of the output, and whatever else is consumed is a stream of an input.
Graphs are wired chain by chain: each takes streams and some of the labels that
are pending, and leaves one pending label more.
-/

/-- What a stream holds. -/
inductive StreamKind
  | video
  | audio
deriving DecidableEq

/-- The letter of a kind. -/
def StreamKind.letter : StreamKind → String
  | video => "v"
  | audio => "a"

/-- A stream of an input. -/
def streamName
    (index : Nat)
    (kind : StreamKind) :
    String :=
  showNatural index ++ ":" ++ kind.letter

/-- A label as a target of the output. -/
def bracketed (label : String) : String :=
  "[" ++ label ++ "]"

/-- The labels that chains produce. -/
def producedBy (chains : List WrittenChain) : List String :=
  chains.flatMap WrittenChain.outputs

/-- What chains consume. -/
def consumedBy (chains : List WrittenChain) : List String :=
  chains.flatMap WrittenChain.inputs

/-- A name is that of a stream of one of so many inputs. -/
def IsStream
    (inputs : Nat)
    (name : String) :
    Prop :=
  ∃ index kind, index < inputs ∧ name = streamName index kind

/-- Each chain is fed by streams of inputs and by labels that are known, at
last those of the chains before it. -/
def Fed
    (inputs : Nat) :
    List String →
    List WrittenChain →
    Prop
  | _, [] => True
  | known, chain :: later =>
      (∀ name ∈ chain.inputs, IsStream inputs name ∨ name ∈ known) ∧
        Fed inputs (known ++ chain.outputs) later

/-- A name carries a kind: it is such a stream, or produced of such only. -/
inductive Carries
    (chains : List WrittenChain)
    (kind : StreamKind) :
    String → Prop
  | stream (index : Nat) :
      Carries chains kind (streamName index kind)
  | label
      {chain : WrittenChain}
      {name : String}
      (member : chain ∈ chains)
      (nonempty : chain.inputs ≠ [])
      (inputs : ∀ input ∈ chain.inputs, Carries chains kind input)
      (isOutput : name ∈ chain.outputs) :
      Carries chains kind name

/-- A target of the output: a produced label in brackets, or a stream of an
input as it is. -/
def IsTarget
    (inputs : Nat)
    (chains : List WrittenChain)
    (kind : StreamKind)
    (target : String) :
    Prop :=
  (∃ label ∈ producedBy chains,
    Carries chains kind label ∧ target = bracketed label) ∨
  ∃ index < inputs, target = streamName index kind

/-- A graph and its targets are well wired. -/
structure WellWired
    (inputs : Nat)
    (chains : List WrittenChain)
    (maps : List String) :
    Prop where
  producedOnce : (producedBy chains).Nodup
  /-- No label has the name of a stream. -/
  labels :
    ∀ label ∈ producedBy chains, ∀ index kind, label ≠ streamName index kind
  fed : Fed inputs [] chains
  consumedOnce :
    ∀ label ∈ producedBy chains,
      (consumedBy chains).count label + maps.count (bracketed label) = 1
  /-- There is one video target at most, then one audio target at most. -/
  mapped :
    ∃ video audio : Option String,
      maps = video.toList ++ audio.toList ∧
      (∀ target ∈ video, IsTarget inputs chains .video target) ∧
      ∀ target ∈ audio, IsTarget inputs chains .audio target

/-! ## Commands -/

/-- The arguments of an encoder command by their meaning. -/
structure CommandLine where
  inputs : List String
  graphText : String
  maps : List String
  options : List String
  output : String

/-- The values of an option that stands first, and what follows them. -/
def takeValues (name : String) : List String → List String × List String
  | flag :: value :: rest =>
      if flag = name then
        let taken := takeValues name rest
        (value :: taken.1, taken.2)
      else
        ([], flag :: value :: rest)
  | rest => ([], rest)

/-- Read a command after its four general arguments: inputs, graph, targets,
further options, and the output as the last argument. -/
def readCommand (command : List String) : Option CommandLine := do
  let inputs := takeValues "-i" (command.drop 4)
  let graph := takeValues "-filter_complex" inputs.2
  let maps := takeValues "-map" graph.2
  let output ← maps.2.getLast?
  pure {
    inputs := inputs.1
    graphText := graph.1.head?.getD ""
    maps := maps.1
    options := maps.2.dropLast
    output }

theorem takeValues_flatMap
    {α : Type}
    (name : String)
    (value : α → String)
    (items : List α)
    {rest : List String}
    (stops : rest.head? ≠ some name) :
    takeValues name (items.flatMap (fun item => [name, value item]) ++ rest) =
      (items.map value, rest) := by
  induction items with
  | nil =>
      cases rest with
      | nil => rfl
      | cons flag others =>
          have isOther : flag ≠ name := by simpa using stops
          cases others with
          | nil => rfl
          | cons second others => simp [takeValues, isOther]
  | cons item others inductionHypothesis =>
      simp [takeValues, inductionHypothesis]

/-- Options in front of arguments do not hide which other one stands first. -/
theorem head?_flatMap_ne
    {α : Type}
    {name other : String}
    (different : name ≠ other)
    (value : α → String)
    (items : List α)
    {rest : List String}
    (stops : rest.head? ≠ some other) :
    (items.flatMap (fun item => [name, value item]) ++ rest).head? ≠
      some other := by
  cases items with
  | nil => exact stops
  | cons item others => simpa using different

theorem head?_outputArguments_ne
    {name : String}
    (noDuration : "-t" ≠ name)
    (noCodec : "-c:v" ≠ name)
    (options : Option OutputOptions)
    (audioBitrate : String)
    (rest : List String) :
    (outputArguments options audioBitrate ++ rest).head? ≠ some name := by
  unfold outputArguments durationArguments
  dsimp only
  split
  · simpa using noCodec
  · split
    · simpa using noCodec
    · simpa using noDuration

theorem processingArguments_eq
    (graph : Graph) :
    ∃ texts : List String,
      Encoder.processingArguments graph =
        texts.flatMap (fun text => ["-filter_complex", text]) ∧
      texts.head?.getD "" = graph.complexText := by
  unfold Encoder.processingArguments
  by_cases isEmpty : graph.complexText.isEmpty = true
  · refine ⟨[], by simp [isEmpty], ?_⟩
    simpa using (String.isEmpty_iff.mp isEmpty).symm
  · exact ⟨[graph.complexText], by simp [isEmpty], rfl⟩

/-- A command reads as the inputs of its graph in their order, the text of the
graph, its targets and the output file. -/
theorem readCommand_command
    (encoder : Encoder)
    (graph : Graph)
    (options : Option OutputOptions)
    (outputFile : String) :
    readCommand (encoder.command graph options outputFile) =
      some {
        inputs := graph.inputs.map InputFile.path
        graphText := graph.complexText
        maps := graph.maps
        options := outputArguments options encoder.audioBitrate
        output := outputFile } := by
  obtain ⟨texts, isProcessing, isText⟩ := processingArguments_eq graph
  let last := outputArguments options encoder.audioBitrate ++ [outputFile]
  let targets := graph.maps.flatMap (fun target => ["-map", target]) ++ last
  let processing :=
    texts.flatMap (fun text => ["-filter_complex", text]) ++ targets
  have shape :
      (encoder.command graph options outputFile).drop 4 =
        graph.inputs.flatMap (fun input => ["-i", input.path]) ++
          processing := by
    simp [Encoder.command, Encoder.inputArguments, Encoder.targetArguments,
      isProcessing, processing, targets, last]
  have inputs :
      takeValues "-i"
          (graph.inputs.flatMap (fun input => ["-i", input.path]) ++
            processing) =
        (graph.inputs.map InputFile.path, processing) := by
    apply takeValues_flatMap
    apply head?_flatMap_ne (by decide)
    apply head?_flatMap_ne (by decide)
    exact head?_outputArguments_ne (by decide) (by decide) _ _ _
  have graphTexts :
      takeValues "-filter_complex" processing = (texts.map id, targets) := by
    apply takeValues_flatMap
    apply head?_flatMap_ne (by decide)
    exact head?_outputArguments_ne (by decide) (by decide) _ _ _
  have maps : takeValues "-map" targets = (graph.maps.map id, last) := by
    apply takeValues_flatMap
    exact head?_outputArguments_ne (by decide) (by decide) _ _ _
  unfold readCommand
  simp only [shape, inputs, graphTexts, maps]
  simp [last, isText]

/-! ## Wiring chain by chain -/

/-- Chains that are wired, with the labels that are pending. -/
inductive Wires
    (inputs : Nat) :
    List WrittenChain →
    List (StreamKind × String) →
    Prop
  | nothing : Wires inputs [] []
  | chain
      {chains : List WrittenChain}
      {pending : List (StreamKind × String)}
      {kind : StreamKind}
      {label : String}
      (streams consumed : List String)
      (wires :
        Wires inputs chains (pending ++ consumed.map fun name => (kind, name)))
      (areStreams :
        ∀ name ∈ streams, ∃ index < inputs, name = streamName index kind)
      (nonempty : streams ++ consumed ≠ [])
      (fresh : label ∉ producedBy chains)
      (isLabel : ∀ index kind, label ≠ streamName index kind)
      (filters : List WrittenFilter) :
      Wires inputs
        (chains ++
          [{ inputs := streams ++ consumed, filters, outputs := [label] }])
        (pending ++ [(kind, label)])

@[simp] theorem producedBy_append
    (chains others : List WrittenChain) :
    producedBy (chains ++ others) = producedBy chains ++ producedBy others :=
  List.flatMap_append

/-- Chains are fed if the later ones are fed by what the earlier produce. -/
theorem fed_append_iff
    {inputs : Nat}
    {known : List String}
    {chains others : List WrittenChain} :
    Fed inputs known (chains ++ others) ↔
      Fed inputs known chains ∧ Fed inputs (known ++ producedBy chains) others := by
  induction chains generalizing known with
  | nil => simp [Fed, producedBy]
  | cons chain later inductionHypothesis =>
      simp [Fed, producedBy, inductionHypothesis, and_assoc]

theorem Fed.consumed
    {inputs : Nat}
    {known : List String}
    {chains : List WrittenChain}
    (fed : Fed inputs known chains) :
    ∀ name ∈ consumedBy chains,
      IsStream inputs name ∨ name ∈ known ∨ name ∈ producedBy chains := by
  induction chains generalizing known with
  | nil => simp [consumedBy]
  | cons chain later inductionHypothesis =>
      obtain ⟨first, rest⟩ := fed
      intro name member
      simp only [consumedBy, producedBy, List.flatMap_cons,
        List.mem_append] at member ⊢
      rcases member with inFirst | inLater
      · rcases first name inFirst with isStream | isKnown
        · exact .inl isStream
        · exact .inr (.inl isKnown)
      · rcases inductionHypothesis rest name inLater with
          isStream | isKnown | isProduced
        · exact .inl isStream
        · rcases List.mem_append.mp isKnown with isOld | isOutput
          · exact .inr (.inl isOld)
          · exact .inr (.inr (.inl isOutput))
        · exact .inr (.inr (.inr isProduced))

/-- What a name carries does not change with further chains. -/
theorem Carries.append
    {chains : List WrittenChain}
    {kind : StreamKind}
    {name : String}
    (carries : Carries chains kind name)
    (others : List WrittenChain) :
    Carries (chains ++ others) kind name := by
  induction carries with
  | stream index => exact .stream index
  | label member nonempty _ isOutput inductionHypothesis =>
      exact .label (List.mem_append_left others member) nonempty
        inductionHypothesis isOutput

/-- What chain by chain keeps: labels are new, no label is lost or consumed
twice, and a pending label carries its kind. -/
structure Kept
    (inputs : Nat)
    (chains : List WrittenChain)
    (pending : List (StreamKind × String)) :
    Prop where
  producedOnce : (producedBy chains).Nodup
  labels :
    ∀ label ∈ producedBy chains, ∀ index kind, label ≠ streamName index kind
  fed : Fed inputs [] chains
  balanced :
    ∀ label ∈ producedBy chains,
      (consumedBy chains).count label + (pending.map Prod.snd).count label = 1
  carried :
    ∀ entry ∈ pending,
      entry.2 ∈ producedBy chains ∧ Carries chains entry.1 entry.2

namespace Kept

variable {inputs : Nat} {chains : List WrittenChain}
  {pending : List (StreamKind × String)} {kind : StreamKind}
  {streams consumed : List String} {label : String}

theorem nothing : Kept inputs [] [] where
  producedOnce := List.nodup_nil
  labels := by simp [producedBy]
  fed := trivial
  balanced := by simp [producedBy]
  carried := by simp

theorem not_mem_consumedBy
    (kept : Kept inputs chains pending)
    (fresh : label ∉ producedBy chains)
    (isLabel : ∀ index kind, label ≠ streamName index kind) :
    label ∉ consumedBy chains := by
  intro member
  rcases kept.fed.consumed label member with
    ⟨index, kind, _, isStream⟩ | isKnown | isProduced
  · exact isLabel index kind isStream
  · cases isKnown
  · exact fresh isProduced

theorem mem_producedBy_of_taken
    (kept :
      Kept inputs chains (pending ++ consumed.map fun name => (kind, name))) :
    ∀ name ∈ consumed,
      name ∈ producedBy chains ∧ Carries chains kind name := by
  intro name member
  exact kept.carried (kind, name) <|
    List.mem_append_right _ (List.mem_map.mpr ⟨name, member, rfl⟩)

/-- A label that was pending is consumed or still pending, and a new one is
pending. -/
theorem balanced_chain
    (kept :
      Kept inputs chains (pending ++ consumed.map fun name => (kind, name)))
    (areStreams :
      ∀ name ∈ streams, ∃ index < inputs, name = streamName index kind)
    (fresh : label ∉ producedBy chains)
    (isLabel : ∀ index kind, label ≠ streamName index kind) :
    ∀ other ∈ producedBy chains ++ [label],
      (consumedBy chains ++ (streams ++ consumed)).count other +
        ((pending ++ [(kind, label)]).map Prod.snd).count other = 1 := by
  have noStream
      {name : String}
      (isOwn : ∀ index kind, name ≠ streamName index kind) :
      streams.count name = 0 := by
    rw [List.count_eq_zero]
    intro member
    obtain ⟨index, _, isStream⟩ := areStreams name member
    exact isOwn index kind isStream
  rw [List.forall_mem_append, List.forall_mem_singleton]
  constructor
  · intro other isOld
    have isOther : label ≠ other := fun same => fresh (same ▸ isOld)
    have before := kept.balanced other isOld
    simp only [List.map_append, List.map_map, List.count_append,
      Function.comp_def, List.map_id'] at before
    simp only [List.count_append, noStream (kept.labels other isOld),
      List.map_append, List.map_cons, List.map_nil, List.count_singleton,
      beq_iff_eq, isOther, ↓reduceIte]
    omega
  · have notTaken : label ∉ consumed := fun member =>
      fresh (kept.mem_producedBy_of_taken label member).1
    have notPending : label ∉ pending.map Prod.snd := by
      intro member
      obtain ⟨entry, isPending, same⟩ := List.mem_map.mp member
      exact fresh <|
        same ▸ (kept.carried entry (List.mem_append_left _ isPending)).1
    simp [List.count_append, noStream isLabel,
      List.count_eq_zero.mpr (kept.not_mem_consumedBy fresh isLabel),
      List.count_eq_zero.mpr notTaken, List.count_eq_zero.mpr notPending]

/-- One chain more keeps the balance. -/
theorem chain
    (kept :
      Kept inputs chains (pending ++ consumed.map fun name => (kind, name)))
    (areStreams :
      ∀ name ∈ streams, ∃ index < inputs, name = streamName index kind)
    (nonempty : streams ++ consumed ≠ [])
    (fresh : label ∉ producedBy chains)
    (isLabel : ∀ index kind, label ≠ streamName index kind)
    {last : WrittenChain}
    (isInputs : last.inputs = streams ++ consumed)
    (isOutputs : last.outputs = [label]) :
    Kept inputs (chains ++ [last]) (pending ++ [(kind, label)]) := by
  have produced :
      producedBy (chains ++ [last]) = producedBy chains ++ [label] := by
    simp [producedBy, isOutputs]
  have isConsumed :
      consumedBy (chains ++ [last]) =
        consumedBy chains ++ (streams ++ consumed) := by
    simp [consumedBy, isInputs]
  have taken := kept.mem_producedBy_of_taken
  refine ⟨?_, ?_, ?_, ?_, ?_⟩
  · rw [produced, ← List.concat_eq_append, List.nodup_concat]
    exact ⟨fresh, kept.producedOnce⟩
  · rw [produced, List.forall_mem_append]
    exact ⟨kept.labels, by simpa using isLabel⟩
  · refine fed_append_iff.mpr ⟨kept.fed, ?_, trivial⟩
    rw [isInputs]
    intro name member
    rcases List.mem_append.mp member with inStreams | inConsumed
    · obtain ⟨index, inside, isStream⟩ := areStreams name inStreams
      exact .inl ⟨index, kind, inside, isStream⟩
    · exact .inr (taken name inConsumed).1
  · rw [produced, isConsumed]
    exact kept.balanced_chain areStreams fresh isLabel
  · rw [List.forall_mem_append, List.forall_mem_singleton, produced]
    constructor
    · intro entry isPending
      obtain ⟨isProduced, carries⟩ :=
        kept.carried entry (List.mem_append_left _ isPending)
      exact ⟨List.mem_append_left _ isProduced, carries.append [last]⟩
    · refine ⟨by simp, .label (List.mem_append_right _ List.mem_cons_self)
        (isInputs ▸ nonempty) ?_ (by simp [isOutputs])⟩
      rw [isInputs]
      intro name member
      rcases List.mem_append.mp member with inStreams | inConsumed
      · obtain ⟨index, _, isStream⟩ := areStreams name inStreams
        rw [isStream]
        exact .stream index
      · exact (taken name inConsumed).2.append [last]

end Kept

/-- Whatever is wired chain by chain keeps the balance. -/
theorem Wires.kept
    {inputs : Nat}
    {chains : List WrittenChain}
    {pending : List (StreamKind × String)}
    (wires : Wires inputs chains pending) :
    Kept inputs chains pending := by
  induction wires with
  | nothing => exact .nothing
  | chain streams consumed wires areStreams nonempty fresh isLabel filters
      inductionHypothesis =>
      exact inductionHypothesis.chain areStreams nonempty fresh isLabel rfl rfl

/-! ## Targets -/

theorem colon_mem_streamName
    (index : Nat)
    (kind : StreamKind) :
    ':' ∈ (streamName index kind).toList := by
  simp [streamName]

/-- A name without a colon is not that of a stream. -/
theorem ne_streamName
    {label : String}
    (noColon : ':' ∉ label.toList)
    (index : Nat)
    (kind : StreamKind) :
    label ≠ streamName index kind := by
  rintro rfl
  exact noColon (colon_mem_streamName index kind)

/-- The name of a stream is nothing in brackets. -/
theorem streamName_ne_bracketed
    (index : Nat)
    (kind : StreamKind)
    (label : String) :
    streamName index kind ≠ bracketed label := by
  intro same
  have bracket : '[' ∈ (streamName index kind).toList := by
    rw [same]
    simp [bracketed]
  have noDigit : '[' ∉ decimalDigits index := by
    intro member
    exact absurd (isAsciiDigit_of_mem_decimalDigits member) (by decide)
  have noLetter : '[' ∉ kind.letter.toList := by
    cases kind <;> decide
  simp [streamName, showNatural, noDigit, noLetter] at bracket

theorem bracketed_injective
    {label other : String}
    (same : bracketed label = bracketed other) :
    label = other := by
  have texts := congrArg String.toList same
  simp only [bracketed, String.toList_append, List.append_assoc] at texts
  have inner := List.append_cancel_right (List.append_cancel_left texts)
  exact String.toList_inj.mp inner

/-- A target of the output as it is told to the encoder. -/
def targetText
    (chains : List WrittenChain)
    (target : String) :
    String :=
  if (producedBy chains).contains target then bracketed target else target

/-- Where the streams of a kind end: nowhere, in a stream of an input as it is,
or in a label, which is pending. -/
inductive Ends
    (inputs : Nat)
    (kind : StreamKind) :
    Option String →
    List String →
    Prop
  | nowhere : Ends inputs kind none []
  | stream
      (index : Nat)
      (inside : index < inputs) :
      Ends inputs kind (some (streamName index kind)) []
  | label (name : String) :
      Ends inputs kind (some name) [name]

namespace Ends

variable {inputs : Nat} {kind : StreamKind} {target : Option String}
  {labels : List String} {chains : List WrittenChain}
  {pending : List (StreamKind × String)}

/-- The target where streams end is a target of their kind. -/
theorem isTarget
    (ends : Ends inputs kind target labels)
    (kept : Kept inputs chains pending)
    (arePending : ∀ label ∈ labels, (kind, label) ∈ pending) :
    ∀ text ∈ target.map (targetText chains),
      IsTarget inputs chains kind text := by
  cases ends with
  | nowhere => simp
  | stream index inside =>
      have notProduced : streamName index kind ∉ producedBy chains :=
        fun isProduced => kept.labels _ isProduced index kind rfl
      have isRaw :
          targetText chains (streamName index kind) = streamName index kind := by
        simp [targetText, notProduced]
      simp only [Option.map_some, Option.mem_some_iff, forall_eq']
      exact .inr ⟨index, inside, isRaw⟩
  | label name =>
      obtain ⟨isProduced, carries⟩ :=
        kept.carried (kind, name) (arePending name List.mem_cons_self)
      have isBracketed : targetText chains name = bracketed name := by
        simp only at isProduced
        simp [targetText, isProduced]
      simp only [Option.map_some, Option.mem_some_iff, forall_eq']
      exact .inl ⟨name, isProduced, carries, isBracketed⟩

/-- A label is a target as often as it is pending. -/
theorem count_target
    (ends : Ends inputs kind target labels)
    (kept : Kept inputs chains pending)
    (arePending : ∀ label ∈ labels, (kind, label) ∈ pending)
    (label : String) :
    (target.map (targetText chains)).toList.count (bracketed label) =
      labels.count label := by
  cases ends with
  | nowhere => simp
  | stream index inside =>
      have notProduced : streamName index kind ∉ producedBy chains :=
        fun isProduced => kept.labels _ isProduced index kind rfl
      simp [targetText, notProduced, streamName_ne_bracketed]
  | label name =>
      have isProduced : name ∈ producedBy chains :=
        (kept.carried (kind, name) (arePending name List.mem_cons_self)).1
      have same : bracketed name = bracketed label ↔ name = label :=
        ⟨bracketed_injective, fun same => same ▸ rfl⟩
      simp [targetText, isProduced, List.count_singleton, same]

end Ends

/-- Chains are well wired when every pending label is a target. -/
theorem Kept.wellWired
    {inputs : Nat}
    {chains : List WrittenChain}
    {video audio : Option String}
    {pictures sounds : List String}
    (kept :
      Kept inputs chains
        ((pictures.map fun name => (StreamKind.video, name)) ++
          sounds.map fun name => (StreamKind.audio, name)))
    (videoEnds : Ends inputs .video video pictures)
    (audioEnds : Ends inputs .audio audio sounds) :
    WellWired inputs chains
      (([video, audio].filterMap id).map (targetText chains)) := by
  have maps :
      ([video, audio].filterMap id).map (targetText chains) =
        (video.map (targetText chains)).toList ++
          (audio.map (targetText chains)).toList := by
    cases video <;> cases audio <;> rfl
  have videoPending :
      ∀ label ∈ pictures, (StreamKind.video, label) ∈
        (pictures.map fun name => (StreamKind.video, name)) ++
          sounds.map fun name => (StreamKind.audio, name) := by
    simp
  have audioPending :
      ∀ label ∈ sounds, (StreamKind.audio, label) ∈
        (pictures.map fun name => (StreamKind.video, name)) ++
          sounds.map fun name => (StreamKind.audio, name) := by
    simp
  refine ⟨kept.producedOnce, kept.labels, kept.fed, ?_, _, _, maps,
    videoEnds.isTarget kept videoPending,
    audioEnds.isTarget kept audioPending⟩
  intro label isProduced
  have balanced := kept.balanced label isProduced
  simp only [List.map_append, List.map_map, Function.comp_def, List.map_id',
    List.count_append] at balanced
  rw [maps, List.count_append, videoEnds.count_target kept videoPending,
    audioEnds.count_target kept audioPending]
  exact balanced

/-! ## Graphs -/

/-- The chains of a graph are wired, and its targets are where its streams
end. -/
structure Graph.IsWired
    (graph : Graph)
    (pictures sounds : List String) :
    Prop where
  wires :
    Wires graph.inputs.length (graph.wiring.chains.map Chain.written)
      ((pictures.map fun name => (StreamKind.video, name)) ++
        sounds.map fun name => (StreamKind.audio, name))
  video : Ends graph.inputs.length .video graph.wiring.video pictures
  audio : Ends graph.inputs.length .audio graph.wiring.audio sounds

theorem producedBy_written
    (chains : List Chain) :
    producedBy (chains.map Chain.written) = chains.flatMap Chain.outputs := by
  simp [producedBy, List.flatMap_map, Chain.written]

theorem Graph.IsWired.wellWired
    {graph : Graph}
    {pictures sounds : List String}
    (wired : graph.IsWired pictures sounds) :
    WellWired graph.inputs.length (graph.wiring.chains.map Chain.written)
      graph.maps := by
  have maps :
      graph.maps =
        ([graph.wiring.video, graph.wiring.audio].filterMap id).map
          (targetText (graph.wiring.chains.map Chain.written)) := by
    unfold Graph.maps Graph.producedLabels targetText
    rw [producedBy_written]
    rfl
  rw [maps]
  exact wired.wires.kept.wellWired wired.video wired.audio

/-- A graph that can be read and is wired. -/
structure Graph.IsRenderable (graph : Graph) : Prop where
  legible : graph.IsLegible
  wired : ∃ pictures sounds, graph.IsWired pictures sounds

end Montage
