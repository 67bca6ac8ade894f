import Montage.Proofs.Graph.Reading

namespace Montage

/-!
# Options as filters read them

The graph level leaves a filter its name and the text of its options. The filter
takes quotes and backslashes out of this text once more, and finds options
between bare colons: a value, or a value behind its key. So every value is
escaped twice, and comes back from both readings whatever stands in it.
-/

/-- Characters of words, none of which has a meaning in graph text or among
options. -/
structure WordCharacters where
  contains : Char → Bool
  plain :
    ∀ character,
      contains character = true →
      isGraphSpecial character = false ∧ character ≠ '='

namespace WordCharacters

/-- Letters and digits of ASCII, and the underscore. -/
def ascii : WordCharacters where
  contains character := character.isAlphanum || character = '_'
  plain := by
    intro character isWord
    constructor
    · by_contra special
      rw [Bool.not_eq_false, isGraphSpecial, List.contains_iff_mem] at special
      have noWord :
          ['\\', '\'', ':', ',', ';', '[', ']'].any
            (fun other => other.isAlphanum || other = '_') = false := by
        decide
      exact List.any_eq_false.mp noWord character special isWord
    · rintro rfl
      revert isWord
      decide

/-- A text of characters of words, which is not empty. -/
structure IsWord
    (words : WordCharacters)
    (text : String) :
    Prop where
  nonempty : text ≠ ""
  contains : ∀ character ∈ text.toList, words.contains character = true

instance (words : WordCharacters) (text : String) :
    Decidable (words.IsWord text) :=
  decidable_of_iff (text ≠ "" ∧ text.toList.all words.contains = true)
    ⟨fun parts => ⟨parts.1, List.all_eq_true.mp parts.2⟩,
      fun isWord => ⟨isWord.nonempty, List.all_eq_true.mpr isWord.contains⟩⟩

namespace IsWord

variable {words : WordCharacters} {text : String}

theorem lacks
    (isWord : words.IsWord text)
    {character : Char}
    (special : isGraphSpecial character = true ∨ character = '=') :
    character ∉ text.toList := by
  intro member
  obtain ⟨plain, noOption⟩ :=
    words.plain character (isWord.contains character member)
  rcases special with isSpecial | isOption
  · rw [plain] at isSpecial
    cases isSpecial
  · exact noOption isOption

theorem isClear (isWord : words.IsWord text) : IsClear text := by
  intro character member
  apply isGraphSyntax_eq_false (fun other => !isGraphSpecial other) (by decide)
  simp [(words.plain character (isWord.contains character member)).1]

theorem isFilterName (isWord : words.IsWord text) : IsFilterName text where
  nonempty := isWord.nonempty
  clear := isWord.isClear
  noOption := isWord.lacks (.inr rfl)

end IsWord

end WordCharacters

/-! ## The reading of options -/

/-- An option as a filter reads it. -/
inductive ReadOption
  | positional (value : String)
  | named (key value : String)
deriving DecidableEq

/-- A mark that can stand in a key. -/
def WordCharacters.isKeyMark
    (words : WordCharacters) :
    Mark → Bool
  | .bare character => words.contains character
  | .literal _ => false

/-- Read what stands between colons. What stands before the first bare sign of
equality is the key, if it is a word; otherwise all is the value. -/
def readOption
    (words : WordCharacters)
    (marks : List Mark) :
    ReadOption :=
  let key := marks.takeWhile (· != .bare '=')
  match marks.dropWhile (· != .bare '=') with
  | _ :: value =>
      if key ≠ [] ∧ key.all words.isKeyMark then
        .named (markedText key) (markedText value)
      else
        .positional (markedText marks)
  | [] => .positional (markedText marks)

/-- Read options, which stand between bare colons. -/
def readOptions
    (words : WordCharacters)
    (text : String) :
    Option (List ReadOption) :=
  (readMarks .outside text.toList).map fun marks =>
    (marks.splitOn (.bare ':')).map (readOption words)

/-- Read a filter at both levels: its name and its options, of which a name
alone has none. -/
def readTwice
    (words : WordCharacters)
    (text : String) :
    Option (String × List ReadOption) := do
  let marks ← readMarks .outside text.toList
  let written := readFilter marks
  match written.options with
  | none => some (written.name, [])
  | some options =>
      (readOptions words options).map fun read => (written.name, read)

/-! ## What values tell -/

/-- What a filter is told: values in order, and then values behind their
keys. -/
def Filter.told (filter : Filter) : List ReadOption :=
  (filter.arguments.map fun value => .positional value.told) ++
    filter.options.map fun option => .named option.1 option.2.told

/-- What a filter is told under a key. -/
def Filter.toldUnder? (filter : Filter) (key : String) : Option String :=
  filter.told.findSome? fun
    | .named other value => if other = key then some value else none
    | .positional _ => none

/-- A filter that both levels can read. -/
structure Filter.IsReadable
    (words : WordCharacters)
    (filter : Filter) :
    Prop where
  name : words.IsWord filter.name
  keys : ∀ option ∈ filter.options, words.IsWord option.1
  arguments : ∀ value ∈ filter.arguments, value.IsReadable
  positional : ∀ value ∈ filter.arguments, '=' ∉ value.told.toList
  values : ∀ option ∈ filter.options, option.2.IsReadable

instance (words : WordCharacters) (filter : Filter) :
    Decidable (filter.IsReadable words) :=
  decidable_of_iff
    (words.IsWord filter.name ∧
      (∀ option ∈ filter.options, words.IsWord option.1) ∧
      (∀ value ∈ filter.arguments, value.IsReadable) ∧
      (∀ value ∈ filter.arguments, '=' ∉ value.told.toList) ∧
      ∀ option ∈ filter.options, option.2.IsReadable)
    ⟨fun ⟨name, keys, arguments, positional, values⟩ =>
        ⟨name, keys, arguments, positional, values⟩,
      fun readable =>
        ⟨readable.name, readable.keys, readable.arguments,
          readable.positional, readable.values⟩⟩

theorem Filter.IsReadable.isLegible
    {words : WordCharacters}
    {filter : Filter}
    (readable : filter.IsReadable words) :
    filter.IsLegible where
  name := readable.name.isFilterName
  arguments := fun value member => (readable.arguments value member).isLegible
  keys := fun option member => (readable.keys option member).isClear
  values := fun option member => (readable.values option member).isLegible

/-! ## Both readings -/

/-- The marks of the options of a filter when the filter reads them. -/
def Filter.innerMarks (filter : Filter) : List (List Mark) :=
  filter.arguments.map OptionValue.innerMarks ++
    filter.options.map fun option =>
      option.1.toList.map .bare ++ .bare '=' :: option.2.innerMarks

/-- Without a bare sign of equality, all is a value. -/
theorem readOption_positional
    (words : WordCharacters)
    {marks : List Mark}
    (noOption : .bare '=' ∉ marks) :
    readOption words marks = .positional (markedText marks) := by
  have rest : marks.dropWhile (· != .bare '=') = [] := by
    have stops : ∀ mark ∈ ([] : List Mark).head?, mark = .bare '=' := by simp
    simpa using dropWhile_until noOption stops
  simp only [readOption, rest]

/-- A word before a sign of equality is the key of what follows. -/
theorem readOption_named
    {words : WordCharacters}
    {key : String}
    (isWord : words.IsWord key)
    (marks : List Mark) :
    readOption words (key.toList.map .bare ++ .bare '=' :: marks) =
      .named key (markedText marks) := by
  have noOption : .bare '=' ∉ key.toList.map Mark.bare := by
    intro member
    obtain ⟨character, isCharacter, same⟩ := List.mem_map.mp member
    cases same
    exact isWord.lacks (.inr rfl) isCharacter
  have stops : ∀ mark ∈ (Mark.bare '=' :: marks).head?, mark = .bare '=' := by
    simp
  have isKey : (key.toList.map Mark.bare).all words.isKeyMark = true := by
    simpa [WordCharacters.isKeyMark] using isWord.contains
  have nonempty : key.toList.map Mark.bare ≠ [] := by
    simpa using isWord.nonempty
  have isName : markedText (key.toList.map .bare) = key := by
    simp [markedText, Function.comp_def, Mark.character]
  simp only [readOption, takeWhile_until noOption stops,
    dropWhile_until noOption stops]
  rw [if_pos ⟨nonempty, isKey⟩, isName]

namespace Filter

variable {words : WordCharacters} {filter : Filter}

theorem reads_innerMarks
    (readable : filter.IsReadable words) :
    List.Forall₂ Reads filter.optionTexts filter.innerMarks := by
  apply List.rel_append
  · rw [List.forall₂_map_left_iff, List.forall₂_map_right_iff,
      List.forall₂_same]
    intro value member
    exact (OptionValue.tells (readable.arguments value member)).reads
  · rw [List.forall₂_map_left_iff, List.forall₂_map_right_iff,
      List.forall₂_same]
    intro option member
    apply (Reads.of_clear (readable.keys option member).isClear).append
    exact (Reads.bare_singleton (by decide) (by decide)).append
      (OptionValue.tells (readable.values option member)).reads

theorem noColon_innerMarks
    (readable : filter.IsReadable words) :
    ∀ marks ∈ filter.innerMarks, .bare ':' ∉ marks := by
  intro marks member
  rcases List.mem_append.mp member with isArgument | isOption
  · obtain ⟨value, isValue, rfl⟩ := List.mem_map.mp isArgument
    exact (OptionValue.tells (readable.arguments value isValue)).noColon
  · obtain ⟨option, isMember, rfl⟩ := List.mem_map.mp isOption
    have noColon :=
      (OptionValue.tells (readable.values option isMember)).noColon
    have noKey : ':' ∉ option.1.toList :=
      (readable.keys option isMember).lacks (.inl (by decide))
    simpa [noColon] using noKey

/-- Each option comes back from its marks. -/
theorem readOption_innerMarks
    (readable : filter.IsReadable words) :
    filter.innerMarks.map (readOption words) = filter.told := by
  rw [innerMarks, told, List.map_append, List.map_map, List.map_map]
  congr 1
  · apply List.map_congr_left
    intro value member
    have tells := OptionValue.tells (readable.arguments value member)
    have noOption : .bare '=' ∉ value.innerMarks := by
      intro isMark
      apply readable.positional value member
      rw [← tells.characters, markedText, String.toList_ofList]
      exact List.mem_map.mpr ⟨_, isMark, rfl⟩
    rw [Function.comp_apply, readOption_positional words noOption,
      tells.characters]
  · apply List.map_congr_left
    intro option member
    have tells := OptionValue.tells (readable.values option member)
    rw [Function.comp_apply, readOption_named (readable.keys option member),
      tells.characters]

/-- Options between colons come back from their text, if there are any. -/
theorem readOptions_optionTexts
    (readable : filter.IsReadable words)
    (nonempty : filter.optionTexts.isEmpty = false) :
    readOptions words (String.ofList (joinWith [':'] filter.optionTexts)) =
      some filter.told := by
  have reads :=
    Reads.joinWith (by decide : ':' ≠ '\\') (by decide : ':' ≠ '\'')
      (reads_innerMarks readable) []
  have isSome : filter.innerMarks ≠ [] := by
    intro isNil
    have length := (reads_innerMarks readable).length_eq
    rw [isNil, List.length_nil, List.length_eq_zero_iff] at length
    rw [length] at nonempty
    cases nonempty
  have pieces :
      ([Mark.bare ':'].intercalate filter.innerMarks).splitOn (.bare ':') =
        filter.innerMarks :=
    List.splitOn_intercalate _ (noColon_innerMarks readable) isSome
  rw [List.append_nil] at reads
  rw [readOptions, String.toList_ofList, reads]
  simp [readMarks, pieces, readOption_innerMarks readable]

/--
The text of a filter, read by the graph and then by the filter, is its name,
its positional values and its options under their keys, in order. Values may
hold anything, quotes, backslashes and separators of both levels included. A
filter with an integer of too many digits has no text to read
(`Filter.isWritten`).
-/
theorem comes_back_from_both_readings
    (readable : filter.IsReadable words) :
    readTwice words filter.toText = some (filter.name, filter.told) := by
  have legible := readable.isLegible
  have reads := reads_marks legible []
  rw [List.append_nil] at reads
  have marks : readMarks .outside filter.toText.toList = some filter.marks := by
    rw [toText, String.toList_ofList, reads]
    simp [readMarks]
  unfold readTwice
  rw [marks]
  simp only [Option.bind_eq_bind, Option.bind_some, readFilter_marks legible,
    written]
  cases isEmpty : filter.optionTexts.isEmpty with
  | true =>
      have noOptions : filter.told = [] := by
        simpa [told, optionTexts] using isEmpty
      simp [noOptions]
  | false =>
      simp [readOptions_optionTexts readable isEmpty]

/-- A filter with quotes, backslashes and separators in its values. -/
def lettering : Filter where
  name := "drawtext"
  arguments := [.text "a:b'\\"]
  options := [
    ("fontfile", .path "C:\\it's\\a.ttf"),
    ("enable", .expression "between(t,0,1)"),
    ("x_1", .text "k=v;[out]"),
    ("y", .text ""),
    ("size", .integer (-3))]

theorem lettering_comes_back :
    lettering.IsReadable .ascii ∧
      readTwice .ascii lettering.toText = some ("drawtext", [
        .positional "a:b'\\",
        .named "fontfile" "C:/it's/a.ttf",
        .named "enable" "between(t,0,1)",
        .named "x_1" "k=v;[out]",
        .named "y" "",
        .named "size" "-3"]) := by
  have readable : lettering.IsReadable .ascii := by decide +kernel
  have told :
      lettering.told = [
        .positional "a:b'\\",
        .named "fontfile" "C:/it's/a.ttf",
        .named "enable" "between(t,0,1)",
        .named "x_1" "k=v;[out]",
        .named "y" "",
        .named "size" "-3"] := by
    decide +kernel
  rw [← told]
  exact ⟨readable, comes_back_from_both_readings readable⟩

end Filter

end Montage
