import Montage.Proofs.Graph.Marks

namespace Montage

/-!
# Reading graph text

What the graph level makes of a text: chains between semicolons, filters
between commas, pads in brackets, and the options of a filter after its name.
The text of a graph reads as the chains that the graph denotes, whatever stands
in its values.
-/

/-- A filter as graph text tells it. -/
structure WrittenFilter where
  name : String
  /-- What follows the name, if anything does. -/
  options : Option String
deriving DecidableEq

/-- A chain as graph text tells it. -/
structure WrittenChain where
  inputs : List String
  filters : List WrittenFilter
  outputs : List String
deriving DecidableEq

/-- Read pads up to the first mark outside of them; the part of a label that is
already read is given. -/
def readPads :
    Option (List Char) →
    List Mark →
    Option (List String × List Mark)
  | none, [] => some ([], [])
  | some _, [] => none
  | none, mark :: rest =>
      if mark = .bare '[' then
        readPads (some []) rest
      else
        some ([], mark :: rest)
  | some label, mark :: rest =>
      if mark = .bare ']' then
        (readPads none rest).map fun read =>
          (String.ofList label :: read.1, read.2)
      else
        readPads (some (label ++ [mark.character])) rest

/-- Read a filter. -/
def readFilter (marks : List Mark) : WrittenFilter where
  name := markedText (marks.takeWhile (· != .bare '='))
  options := (marks.dropWhile (· != .bare '=')).tail?.map markedText

/-- Read a chain: pads, filters, pads. -/
def readChain (marks : List Mark) : Option WrittenChain := do
  let opened ← readPads none marks
  let closed ← readPads none (opened.2.dropWhile (· != .bare '['))
  if closed.2 = [] then
    some {
      inputs := opened.1
      filters :=
        ((opened.2.takeWhile (· != .bare '[')).splitOn (.bare ',')).map
          readFilter
      outputs := closed.1 }
  else
    none

/-- Read the text of a graph; the empty text has no chains. -/
def readGraph (text : String) : Option (List WrittenChain) :=
  if text.isEmpty then
    some []
  else do
    let marks ← readMarks .outside text.toList
    (marks.splitOn (.bare ';')).mapM readChain

/-! ## What graphs denote -/

/-- The values of a filter, then its options with their keys. -/
def Filter.optionTexts (filter : Filter) : List (List Char) :=
  filter.arguments.map OptionValue.optionText ++
    filter.options.map fun option =>
      option.1.toList ++ '=' :: option.2.optionText

/-- A filter in the text of its graph; one without values has a name only. -/
def Filter.written (filter : Filter) : WrittenFilter where
  name := filter.name
  options :=
    if filter.optionTexts.isEmpty then
      none
    else
      some (String.ofList (joinWith [':'] filter.optionTexts))

/-- A chain in the text of its graph; one without filters passes its stream
on. -/
def Chain.written (chain : Chain) : WrittenChain where
  inputs := chain.inputs
  filters :=
    if chain.filters.isEmpty then
      [{ name := "null", options := none }]
    else
      chain.filters.map Filter.written
  outputs := chain.outputs

/-! ## What can be read -/

/-- A text that can be the name of a filter. -/
structure IsFilterName (name : String) : Prop where
  nonempty : name ≠ ""
  clear : IsClear name
  noOption : '=' ∉ name.toList

instance (name : String) : Decidable (IsFilterName name) :=
  decidable_of_iff (name ≠ "" ∧ IsClear name ∧ '=' ∉ name.toList)
    ⟨fun parts => ⟨parts.1, parts.2.1, parts.2.2⟩,
      fun isName => ⟨isName.nonempty, isName.clear, isName.noOption⟩⟩

/-- A filter that can be read: its name and keys are no syntax. -/
structure Filter.IsLegible (filter : Filter) : Prop where
  name : IsFilterName filter.name
  arguments : ∀ value ∈ filter.arguments, value.IsLegible
  keys : ∀ option ∈ filter.options, IsClear option.1
  values : ∀ option ∈ filter.options, option.2.IsLegible

theorem Filter.legible_of_arguments
    {name : String}
    (isName : IsFilterName name)
    {arguments : List OptionValue}
    (legible : ∀ value ∈ arguments, value.IsLegible) :
    ({ name, arguments } : Filter).IsLegible :=
  ⟨isName, legible, by simp, by simp⟩

theorem Filter.legible_of_options
    {name : String}
    (isName : IsFilterName name)
    {options : List (String × OptionValue)}
    (keys : ∀ option ∈ options, IsClear option.1)
    (values : ∀ option ∈ options, option.2.IsLegible) :
    ({ name, options } : Filter).IsLegible :=
  ⟨isName, by simp, keys, values⟩

/-- A chain that can be read. -/
structure Chain.IsLegible (chain : Chain) : Prop where
  inputs : ∀ label ∈ chain.inputs, IsClear label
  filters : ∀ filter ∈ chain.filters, filter.IsLegible
  outputs : ∀ label ∈ chain.outputs, IsClear label

/-- A graph that can be read, in all its parts. -/
structure Graph.IsLegible (graph : Graph) : Prop where
  chains : ∀ chain ∈ graph.chains, chain.IsLegible
  picture : ∀ filter ∈ graph.videoFilters, filter.IsLegible
  sound : ∀ filter ∈ graph.soundStages, filter.IsLegible
  videoMap : ∀ label ∈ graph.videoMap, IsClear label
  audioMap : ∀ label ∈ graph.audioMap, IsClear label

/-! ## Marks of filters -/

/-- The marks of the values and options of a filter. -/
def Filter.optionMarks (filter : Filter) : List (List Mark) :=
  filter.arguments.map OptionValue.marks ++
    filter.options.map fun option =>
      option.1.toList.map .bare ++ .bare '=' :: option.2.marks

/-- The marks of a filter. -/
def Filter.marks (filter : Filter) : List Mark :=
  if filter.optionMarks.isEmpty then
    filter.name.toList.map .bare
  else
    filter.name.toList.map .bare ++
      .bare '=' :: [Mark.bare ':'].intercalate filter.optionMarks

/-- The marks of a pad. -/
def padMarks (label : String) : List Mark :=
  .bare '[' :: label.toList.map .bare ++ [.bare ']']

/-- The marks of the filters of a chain. -/
def Chain.bodyMarks (chain : Chain) : List (List Mark) :=
  if chain.filters.isEmpty then
    ["null".toList.map .bare]
  else
    chain.filters.map Filter.marks

/-- The marks of a chain. -/
def Chain.marks (chain : Chain) : List Mark :=
  chain.inputs.flatMap padMarks ++
    [Mark.bare ','].intercalate chain.bodyMarks ++
    chain.outputs.flatMap padMarks

theorem not_mem_intercalate
    {α : Type}
    {value : α}
    {separator : List α}
    {pieces : List (List α)}
    (noSeparator : value ∉ separator)
    (noPiece : ∀ piece ∈ pieces, value ∉ piece) :
    value ∉ separator.intercalate pieces := by
  induction pieces with
  | nil => simp
  | cons piece others inductionHypothesis =>
      rw [List.forall_mem_cons] at noPiece
      cases others with
      | nil => simpa using noPiece.1
      | cons second rest =>
          rw [List.intercalate_cons_cons]
          simp [noPiece.1, noSeparator, inductionHypothesis noPiece.2]

/-- What stands before a separator, or the end, is taken. -/
theorem takeWhile_until
    {separator : Mark}
    {marks rest : List Mark}
    (absent : separator ∉ marks)
    (stops : ∀ mark ∈ rest.head?, mark = separator) :
    (marks ++ rest).takeWhile (· != separator) = marks := by
  have others : ∀ mark ∈ marks, (mark != separator) = true := by
    intro mark member
    simpa using ne_of_mem_of_not_mem member absent
  rw [List.takeWhile_append_of_pos others]
  cases rest with
  | nil => simp
  | cons mark later => simp [stops mark (by simp)]

/-- From a separator, or the end, all is left. -/
theorem dropWhile_until
    {separator : Mark}
    {marks rest : List Mark}
    (absent : separator ∉ marks)
    (stops : ∀ mark ∈ rest.head?, mark = separator) :
    (marks ++ rest).dropWhile (· != separator) = rest := by
  have others : ∀ mark ∈ marks, (mark != separator) = true := by
    intro mark member
    simpa using ne_of_mem_of_not_mem member absent
  rw [List.dropWhile_append_of_pos others]
  cases rest with
  | nil => simp
  | cons mark later => simp [stops mark (by simp)]

/-- The characters of joined marks are joined texts. -/
theorem map_character_intercalate
    (separator : Char)
    (marked : List (List Mark)) :
    ([Mark.bare separator].intercalate marked).map Mark.character =
      joinWith [separator] (marked.map (List.map Mark.character)) := by
  induction marked with
  | nil => rfl
  | cons marks others inductionHypothesis =>
      cases others with
      | nil => simp [joinWith]
      | cons second rest =>
          rw [List.intercalate_cons_cons, List.map_append, List.map_append,
            inductionHypothesis]
          rfl

namespace Filter

variable {filter : Filter}

theorem reads_optionMarks
    (legible : filter.IsLegible) :
    List.Forall₂ Reads filter.parts filter.optionMarks := by
  apply List.rel_append
  · rw [List.forall₂_map_left_iff, List.forall₂_map_right_iff,
      List.forall₂_same]
    intro value member
    exact OptionValue.reads_marks (legible.arguments value member)
  · rw [List.forall₂_map_left_iff, List.forall₂_map_right_iff,
      List.forall₂_same]
    intro option member
    apply (Reads.of_clear (legible.keys option member)).append
    exact (Reads.bare_singleton (by decide) (by decide)).append
      (OptionValue.reads_marks (legible.values option member))

theorem map_character_optionMarks
    (filter : Filter) :
    filter.optionMarks.map (List.map Mark.character) = filter.optionTexts := by
  simp [optionMarks, optionTexts, Function.comp_def, Mark.character,
    OptionValue.map_character_marks]

theorem optionMarks_quiet
    (legible : filter.IsLegible) :
    ∀ marks ∈ filter.optionMarks, Quiet marks := by
  intro marks member
  rcases List.mem_append.mp member with isArgument | isOption
  · obtain ⟨value, _, rfl⟩ := List.mem_map.mp isArgument
    exact value.marks_quiet
  · obtain ⟨option, isMember, rfl⟩ := List.mem_map.mp isOption
    exact (Quiet.bare (legible.keys option isMember)).append
      (.cons (by decide) option.2.marks_quiet)

theorem isEmpty_optionMarks
    (filter : Filter) :
    filter.optionMarks.isEmpty = filter.parts.isEmpty ∧
      filter.optionMarks.isEmpty = filter.optionTexts.isEmpty := by
  constructor
  · rw [Bool.eq_iff_iff]
    simp [optionMarks, parts]
  · rw [Bool.eq_iff_iff]
    simp [optionMarks, optionTexts]

theorem reads_marks
    (legible : filter.IsLegible) :
    Reads filter.render filter.marks := by
  have name := Reads.of_clear legible.name.clear
  unfold render marks
  rw [(isEmpty_optionMarks filter).1]
  split
  · exact name
  · apply name.append
    exact (Reads.bare_singleton (by decide) (by decide)).append
      (.joinWith (by decide) (by decide) (reads_optionMarks legible))

theorem marks_quiet
    (legible : filter.IsLegible) :
    Quiet filter.marks := by
  have name := Quiet.bare legible.name.clear
  unfold marks
  split
  · exact name
  · refine name.append (.cons (by decide) ?_)
    intro character isSyntax
    apply not_mem_intercalate
    · exact Quiet.bare_singleton (by decide) character isSyntax
    · intro marks member
      exact optionMarks_quiet legible marks member character isSyntax

theorem marks_ne_nil
    (legible : filter.IsLegible) :
    filter.marks ≠ [] := by
  have named : filter.name.toList ≠ [] := by
    simpa using legible.name.nonempty
  unfold marks
  split <;> simp [named]

/-- The name of a filter ends at the first bare sign of equality. -/
theorem readFilter_marks
    (legible : filter.IsLegible) :
    readFilter filter.marks = filter.written := by
  have noOption : .bare '=' ∉ filter.name.toList.map Mark.bare := by
    intro member
    obtain ⟨character, isCharacter, same⟩ := List.mem_map.mp member
    cases same
    exact legible.name.noOption isCharacter
  have isName : markedText (filter.name.toList.map .bare) = filter.name := by
    simp [markedText, Function.comp_def, Mark.character]
  unfold readFilter marks written
  rw [← (isEmpty_optionMarks filter).2]
  cases filter.optionMarks.isEmpty with
  | true =>
      have stops : ∀ mark ∈ ([] : List Mark).head?, mark = .bare '=' := by
        simp
      have name := takeWhile_until noOption stops
      have options := dropWhile_until noOption stops
      rw [List.append_nil] at name options
      simp only [↓reduceIte, name, options, isName]
      rfl
  | false =>
      have stops (rest : List Mark) :
          ∀ mark ∈ (Mark.bare '=' :: rest).head?, mark = .bare '=' := by
        simp
      simp only [Bool.false_eq_true, ↓reduceIte,
        takeWhile_until noOption (stops _), dropWhile_until noOption (stops _),
        isName, List.tail?_cons, Option.map_some]
      rw [markedText, map_character_intercalate, map_character_optionMarks]

end Filter

/-! ## Pads and chains -/

theorem readPads_label
    {text : List Char}
    (noBracket : ']' ∉ text)
    (label : List Char)
    (rest : List Mark) :
    readPads (some label) (text.map .bare ++ .bare ']' :: rest) =
      (readPads none rest).map fun read =>
        (String.ofList (label ++ text) :: read.1, read.2) := by
  induction text generalizing label with
  | nil => simp [readPads]
  | cons character text inductionHypothesis =>
      rw [List.mem_cons, not_or] at noBracket
      have goesOn : Mark.bare character ≠ .bare ']' := by
        simpa using Ne.symm noBracket.1
      simp [readPads, goesOn, Mark.character,
        inductionHypothesis noBracket.2]

/-- Pads are read up to a mark that opens none. -/
theorem readPads_flatMap
    {labels : List String}
    (clear : ∀ label ∈ labels, IsClear label)
    (rest : List Mark)
    (closed : rest.head? ≠ some (.bare '[')) :
    readPads none (labels.flatMap padMarks ++ rest) = some (labels, rest) := by
  induction labels with
  | nil =>
      cases rest with
      | nil => rfl
      | cons mark others =>
          have isOther : mark ≠ .bare '[' := by simpa using closed
          simp [readPads, isOther]
  | cons label others inductionHypothesis =>
      rw [List.forall_mem_cons] at clear
      have noBracket : ']' ∉ label.toList := by
        intro member
        exact absurd (clear.1 _ member) (by decide)
      simp [padMarks, readPads, readPads_label noBracket,
        inductionHypothesis clear.2]

theorem reads_padMarks
    {label : String}
    (clear : IsClear label) :
    Reads (Chain.pad label) (padMarks label) := by
  have opens : Reads ['['] [.bare '['] :=
    .bare_singleton (by decide) (by decide)
  have closes : Reads [']'] [.bare ']'] :=
    .bare_singleton (by decide) (by decide)
  exact (opens.append (.of_clear clear)).append closes

namespace Chain

variable {chain : Chain}

theorem reads_marks
    (legible : chain.IsLegible) :
    Reads chain.render chain.marks := by
  have body :
      Reads
        (if chain.filters.isEmpty then "null".toList
          else joinWith [','] (chain.filters.map Filter.render))
        ([Mark.bare ','].intercalate chain.bodyMarks) := by
    unfold bodyMarks
    split
    · exact .of_clear (by decide : IsClear "null")
    · apply Reads.joinWith (by decide) (by decide)
      rw [List.forall₂_map_left_iff, List.forall₂_map_right_iff,
        List.forall₂_same]
      intro filter member
      exact Filter.reads_marks (legible.filters filter member)
  have inputs :=
    Reads.flatMap fun label member =>
      reads_padMarks (legible.inputs label member)
  have outputs :=
    Reads.flatMap fun label member =>
      reads_padMarks (legible.outputs label member)
  exact (inputs.append body).append outputs

theorem bodyMarks_quiet
    (legible : chain.IsLegible) :
    ∀ marks ∈ chain.bodyMarks, Quiet marks := by
  unfold bodyMarks
  split
  · intro marks member
    rw [List.mem_singleton.mp member]
    exact .bare (by decide : IsClear "null")
  · intro marks member
    obtain ⟨filter, isFilter, rfl⟩ := List.mem_map.mp member
    exact Filter.marks_quiet (legible.filters filter isFilter)

/-- The filters of a chain hold no bare syntax but commas between them. -/
theorem body_lacks
    (legible : chain.IsLegible)
    (character : Char)
    (isSyntax : isGraphSyntax character = true)
    (isOther : character ≠ ',') :
    .bare character ∉ [Mark.bare ','].intercalate chain.bodyMarks := by
  apply not_mem_intercalate
  · simpa using isOther
  · intro marks member
    exact bodyMarks_quiet legible marks member character isSyntax

theorem bodyMarks_ne_nil
    (chain : Chain) :
    chain.bodyMarks ≠ [] := by
  unfold bodyMarks
  split
  · simp
  · rename_i isEmpty
    simpa using isEmpty

/-- A chain has at least one filter in its text. -/
theorem body_ne_nil
    (legible : chain.IsLegible) :
    [Mark.bare ','].intercalate chain.bodyMarks ≠ [] := by
  obtain ⟨first, others, isBody⟩ :=
    List.exists_cons_of_ne_nil chain.bodyMarks_ne_nil
  have firstNonempty : first ≠ [] := by
    have member : first ∈ chain.bodyMarks := by simp [isBody]
    unfold bodyMarks at member
    split at member
    · rw [List.mem_singleton.mp member]
      simp
    · obtain ⟨filter, isFilter, rfl⟩ := List.mem_map.mp member
      exact Filter.marks_ne_nil (legible.filters filter isFilter)
  rw [isBody]
  cases others with
  | nil => simpa using firstNonempty
  | cons second others =>
      rw [List.intercalate_cons_cons]
      simp

theorem body_opens
    (legible : chain.IsLegible)
    (rest : List Mark) :
    ([Mark.bare ','].intercalate chain.bodyMarks ++ rest).head? ≠
      some (.bare '[') := by
  have lacks := body_lacks legible '[' (by decide) (by decide)
  intro opens
  rw [List.head?_append_of_ne_nil _ (body_ne_nil legible)] at opens
  exact lacks (List.mem_of_mem_head? opens)

/-- A chain reads as what it denotes. -/
theorem readChain_marks
    (legible : chain.IsLegible) :
    readChain chain.marks = some chain.written := by
  have absent := body_lacks legible '[' (by decide) (by decide)
  have stops :
      ∀ mark ∈ (chain.outputs.flatMap padMarks).head?, mark = .bare '[' := by
    cases chain.outputs <;> simp [padMarks]
  have opened :
      readPads none chain.marks =
        some (chain.inputs,
          [Mark.bare ','].intercalate chain.bodyMarks ++
            chain.outputs.flatMap padMarks) := by
    unfold marks
    rw [List.append_assoc]
    exact readPads_flatMap legible.inputs _ (body_opens legible _)
  have closed :
      readPads none (chain.outputs.flatMap padMarks) =
        some (chain.outputs, []) := by
    have read := readPads_flatMap legible.outputs [] (by simp)
    rwa [List.append_nil] at read
  have body :
      ([Mark.bare ','].intercalate chain.bodyMarks).splitOn (.bare ',') =
        chain.bodyMarks := by
    apply List.splitOn_intercalate
    · intro marks member
      exact bodyMarks_quiet legible marks member ',' (by decide)
    · exact chain.bodyMarks_ne_nil
  have filters : chain.bodyMarks.map readFilter = chain.written.filters := by
    unfold bodyMarks written
    split
    · rfl
    · rw [List.map_map]
      apply List.map_congr_left
      intro filter member
      exact Filter.readFilter_marks (legible.filters filter member)
  unfold readChain
  rw [opened]
  simp only [Option.bind_eq_bind, Option.bind_some,
    takeWhile_until absent stops, dropWhile_until absent stops, closed, body,
    filters]
  rfl

theorem marks_ne_nil
    (legible : chain.IsLegible) :
    chain.marks ≠ [] := by
  simp [marks, body_ne_nil legible]

/-- No bare semicolon stands in a chain. -/
theorem marks_lack
    (legible : chain.IsLegible) :
    .bare ';' ∉ chain.marks := by
  have pads
      {labels : List String}
      (clear : ∀ label ∈ labels, IsClear label) :
      .bare ';' ∉ labels.flatMap padMarks := by
    intro member
    obtain ⟨label, isLabel, inPad⟩ := List.mem_flatMap.mp member
    have inLabel : ';' ∈ label.toList := by simpa [padMarks] using inPad
    exact absurd (clear label isLabel _ inLabel) (by decide)
  have body := body_lacks legible ';' (by decide) (by decide)
  simp [marks, pads legible.inputs, pads legible.outputs, body]

end Chain

theorem mapM_eq_some
    {α β : Type}
    {read : α → Option β}
    {denoted : α → β}
    {items : List α}
    (reads : ∀ item ∈ items, read item = some (denoted item)) :
    items.mapM read = some (items.map denoted) := by
  induction items with
  | nil => rfl
  | cons item others inductionHypothesis =>
      rw [List.forall_mem_cons] at reads
      simp [List.mapM_cons, reads.1, inductionHypothesis reads.2]

namespace Graph

/-- The text of chains reads as these chains. -/
theorem readGraph_of_chains
    {chains : List Chain}
    (legible : ∀ chain ∈ chains, chain.IsLegible) :
    readGraph (String.ofList (joinWith [';'] (chains.map Chain.render))) =
      some (chains.map Chain.written) := by
  cases shape : chains with
  | nil => rfl
  | cons first others =>
      rw [← shape]
      have reads :
          Reads (joinWith [';'] (chains.map Chain.render))
            ([Mark.bare ';'].intercalate (chains.map Chain.marks)) := by
        apply Reads.joinWith (by decide) (by decide)
        rw [List.forall₂_map_left_iff, List.forall₂_map_right_iff,
          List.forall₂_same]
        intro chain member
        exact Chain.reads_marks (legible chain member)
      have split :
          ([Mark.bare ';'].intercalate (chains.map Chain.marks)).splitOn
              (.bare ';') =
            chains.map Chain.marks := by
        apply List.splitOn_intercalate
        · intro marks member
          obtain ⟨chain, isChain, rfl⟩ := List.mem_map.mp member
          exact Chain.marks_lack (legible chain isChain)
        · simp [shape]
      have whole := reads []
      rw [List.append_nil] at whole
      have nonempty : joinWith [';'] (chains.map Chain.render) ≠ [] := by
        intro isEmpty
        rw [isEmpty] at whole
        have noMarks :
            [Mark.bare ';'].intercalate (chains.map Chain.marks) = [] := by
          simpa [readMarks] using whole
        rw [noMarks, shape, List.map_cons] at split
        have noFirst : first.marks = [] := by
          simpa using (List.cons.inj split).1.symm
        exact Chain.marks_ne_nil (legible first (by simp [shape])) noFirst
      have eachRead :
          (chains.map Chain.marks).mapM readChain =
            some (chains.map Chain.written) := by
        rw [List.mapM_map]
        exact mapM_eq_some fun chain member =>
          Chain.readChain_marks (legible chain member)
      unfold readGraph
      rw [if_neg (by simpa using nonempty), String.toList_ofList, whole]
      simp [readMarks, split, eachRead]

/-- The chains of a watermark can be read, if the label of its video can. -/
theorem overlay_legible
    (watermark : ImageOverlay)
    {video : String}
    (clear : IsClear video) :
    ∀ chain ∈ watermark.chains video, chain.IsLegible := by
  have image : IsClear (showInteger watermark.inputIndex ++ ":v") :=
    IsClear.append (.of_isNumeric (.integerText _)) (by decide)
  have scale :
      ({ name := "scale"
         arguments := [.integer watermark.width, .integer (-1)] } :
        Filter).IsLegible :=
    Filter.legible_of_arguments (by decide) (by simp [OptionValue.IsLegible])
  have format :
      ({ name := "format", arguments := [.text "rgba"] } : Filter).IsLegible :=
    Filter.legible_of_arguments (by decide) (by simp [OptionValue.IsLegible])
  have mixer :
      ({ name := "colorchannelmixer"
         options := [("aa", .number watermark.opacity)] } :
        Filter).IsLegible :=
    Filter.legible_of_options (by decide)
      (by simpa using (by decide : IsClear "aa"))
      (by simp [OptionValue.IsLegible])
  have overlay :
      ({ name := "overlay"
         arguments := [.text watermark.x, .text watermark.y] } :
        Filter).IsLegible :=
    Filter.legible_of_arguments (by decide) (by simp [OptionValue.IsLegible])
  have preparation :
      ∀ filter ∈ watermark.preparation, filter.IsLegible := by
    simp [ImageOverlay.preparation, scale, format, mixer]
  simp only [ImageOverlay.chains, List.forall_mem_cons, List.not_mem_nil,
    false_implies, implies_true, and_true]
  refine ⟨⟨by simpa using image, preparation, ?_⟩,
    ⟨?_, by simpa using overlay, ?_⟩⟩
  · simp only [List.mem_singleton, forall_eq]
    decide
  · simp only [List.forall_mem_cons, List.not_mem_nil, false_implies,
      implies_true, and_true]
    exact ⟨clear, by decide⟩
  · simp only [List.mem_singleton, forall_eq]
    decide

/-- Stages of a stream make at most one chain, under a clear label. -/
theorem wireStages_legible
    {target : Option String}
    {stages : List Filter}
    (label : String)
    (source : ∀ name ∈ target, IsClear name)
    (filters : ∀ filter ∈ stages, filter.IsLegible)
    (clear : IsClear label) :
    (∀ chain ∈ (wireStages target stages label).1, chain.IsLegible) ∧
      ∀ name ∈ (wireStages target stages label).2, IsClear name := by
  cases target with
  | none => simp [wireStages]
  | some name =>
      unfold wireStages
      dsimp only
      split
      · exact ⟨by simp, source⟩
      · refine ⟨?_, by simpa using clear⟩
        intro chain member
        rw [List.mem_singleton.mp member]
        exact ⟨by simpa using source, filters, by simpa using clear⟩

theorem wiring_legible
    {graph : Graph}
    (legible : graph.IsLegible) :
    ∀ chain ∈ graph.wiring.chains, chain.IsLegible := by
  unfold wiring
  split
  · obtain ⟨picture, target⟩ :=
      wireStages_legible "vOut" legible.videoMap legible.picture (by decide)
    obtain ⟨sound, _⟩ :=
      wireStages_legible "aOut" legible.audioMap legible.sound (by decide)
    have marked :
        ∀ chain ∈ (wireWatermark
            (wireStages graph.videoMap graph.videoFilters "vOut").2
            graph.watermark).1,
          chain.IsLegible := by
      unfold wireWatermark
      split
      · rename_i source overlay isTarget _
        exact overlay_legible overlay (target source isTarget)
      · simp
    intro chain member
    simp only [flatWiring, List.mem_append] at member
    rcases member with (inPicture | inMarked) | inSound
    · exact picture chain inPicture
    · exact marked chain inMarked
    · exact sound chain inSound
  · exact legible.chains

/--
The text of a graph reads as the chains that the graph denotes, in the same
order: their pads, the names of their filters, and the values of each filter,
whatever characters stand in its texts, paths and numbers. A graph with an
integer of too many digits has no text to read (`Graph.isWritten`).
-/
theorem readGraph_complexText
    {graph : Graph}
    (legible : graph.IsLegible) :
    readGraph graph.complexText =
      some (graph.wiring.chains.map Chain.written) :=
  readGraph_of_chains (wiring_legible legible)

/-- A graph that draws over a picture, with syntax in its values. -/
def lettered : Graph where
  videoFilters := [{
    name := "drawtext"
    arguments := [.path "C:\\a'b.ttf"]
    options := [
      ("fontcolor", .text "red,drawtext=x:y"),
      ("text", .text "it's [a];b\\"),
      ("y", .expression "if(lt(t,1),t\\,1)"),
      ("alpha", .number 0.5)] }]
  videoMap := some "0:v"

theorem readGraph_lettered :
    readGraph lettered.complexText =
      some [{
        inputs := ["0:v"]
        filters := [{
          name := "drawtext"
          options :=
            some ("C\\:/a\\'b.ttf:fontcolor=red,drawtext=x\\:y:" ++
              "text=it\\'s [a];b\\\\:y=if(lt(t,1),t\\,1):alpha=0.5") }]
        outputs := ["vOut"] }] := by
  have legible : lettered.IsLegible := {
    chains := by simp [lettered]
    picture := by
      simp only [lettered, List.mem_singleton, forall_eq]
      refine ⟨by decide, ?_, ?_, ?_⟩
      · simp [OptionValue.IsLegible]
      · simp only [List.forall_mem_cons]
        decide
      · simp [OptionValue.IsLegible]
    sound := by simp [lettered]
    videoMap := by
      simp only [lettered, Option.mem_some_iff, forall_eq']
      decide
    audioMap := by simp [lettered] }
  rw [readGraph_complexText legible]
  decide +kernel

end Graph

end Montage
