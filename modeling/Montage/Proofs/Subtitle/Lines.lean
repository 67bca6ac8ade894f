import Montage.Proofs.Subtitle.Document

namespace Montage

/-!
# Lines of documents

A document is read line by line, a line of the style or of a cue field by field,
and the last field of a cue has commands between braces. Whatever stands in a
cue and whatever a colour is told as, it adds no line, no field and no block of
commands.
-/

/-! ## The reading of documents -/

/-- The fields before so many commas, and the text after them. -/
def takeFields : Nat → List Char → Option (List (List Char) × List Char)
  | 0, text => some ([], text)
  | count + 1, text => do
      let cut ← cutAtChar? ',' text
      let read ← takeFields count cut.2
      pure (cut.1 :: read.1, read.2)

/-- The blocks of commands between braces; what is read of an open one is
given. -/
def readBlocks : Option (List Char) → List Char → List (List Char)
  | _, [] => []
  | none, character :: rest =>
      if character = '\x7b' then
        readBlocks (some []) rest
      else
        readBlocks none rest
  | some block, character :: rest =>
      if character = '\x7d' then
        block :: readBlocks none rest
      else
        readBlocks (some (block ++ [character])) rest

/-! ## Texts without syntax -/

/-- No character of a text is special. -/
def Lacks
    (special : Char → Bool)
    (text : List Char) :
    Prop :=
  ∀ character ∈ text, special character = false

instance (special : Char → Bool) (text : List Char) :
    Decidable (Lacks special text) :=
  List.decidableBAll (special · = false) text

/-- Whether a character ends a line or stands before or after commands. -/
def isBlockSyntax (character : Char) : Bool :=
  isLineBreak character || ['\x7b', '\x7d'].contains character

/-- Whether a character ends a line or a field or stands before or after
commands. -/
def isDocumentSyntax (character : Char) : Bool :=
  isBlockSyntax character || character = ','

namespace Lacks

variable {special : Char → Bool} {text : List Char}

theorem not_mem
    (lacks : Lacks special text)
    {character : Char}
    (isSpecial : special character = true) :
    character ∉ text := by
  intro member
  rw [lacks character member] at isSpecial
  cases isSpecial

theorem blockSyntax
    (lacks : Lacks isDocumentSyntax text) :
    Lacks isBlockSyntax text := by
  intro character member
  have isPlain := lacks character member
  rw [isDocumentSyntax, Bool.or_eq_false_iff] at isPlain
  exact isPlain.1

theorem lineBreak
    (lacks : Lacks isBlockSyntax text) :
    Lacks isLineBreak text := by
  intro character member
  have isPlain := lacks character member
  rw [isBlockSyntax, Bool.or_eq_false_iff] at isPlain
  exact isPlain.1

/-- Numbers have no syntax of documents. -/
theorem of_isNumeric
    (numeric : IsNumeric text) :
    Lacks isDocumentSyntax text := by
  have noNumber
      {character : Char}
      (isAscii : character.toNat < 128) :
      isNumeric character = true → isDocumentSyntax character = false :=
    forall_of_ascii
      (fun other => isNumeric other = true → isDocumentSyntax other = false)
      (by decide) isAscii
  intro character member
  exact noNumber (numeric.isAscii character member) (numeric character member)

end Lacks

theorem lacks_append_iff
    {special : Char → Bool}
    {text other : String} :
    Lacks special (text ++ other).toList ↔
      Lacks special text.toList ∧ Lacks special other.toList := by
  rw [String.toList_append]
  exact List.forall_mem_append

/-- A literal lacks what its characters do, without its bytes being decoded. -/
theorem lacks_ofList
    {special : Char → Bool}
    {characters : List Char}
    (lacks : Lacks special characters) :
    Lacks special (String.ofList characters).toList := by
  rwa [String.toList_ofList]

theorem lacks_showInteger (number : Int) :
    Lacks isDocumentSyntax (showInteger number).toList := by
  rw [showInteger, String.toList_ofList]
  exact .of_isNumeric (.integerText number)

theorem lacks_documentColor (color : String) :
    Lacks isDocumentSyntax (documentColor color) := by
  have plain : Lacks isDocumentSyntax colorCharacters := by decide
  exact fun character member => plain character (mem_documentColor member)

theorem lacks_replaceIn
    {special : Char → Bool}
    {text replacement : String}
    (lacks : Lacks special text.toList)
    (others : Lacks special replacement.toList)
    (target : String) :
    Lacks special (replaceIn text target replacement).toList := by
  intro character member
  rw [replaceIn, String.toList_ofList] at member
  rcases mem_replaceText member with isNew | isOld
  · exact others character isNew
  · exact lacks character isOld

theorem lacks_centisecondsText (total : Nat) :
    Lacks isDocumentSyntax (centisecondsText total) := by
  intro character member
  rcases mem_centisecondsText member with isNumber | rfl
  · have numeric : IsNumeric [character] := by simpa [IsNumeric] using isNumber
    exact Lacks.of_isNumeric numeric character List.mem_cons_self
  · decide

theorem lacks_withoutBraces (text : List Char) :
    Lacks ['\x7b', '\x7d'].contains (withoutBraces text) := by
  intro character member
  obtain ⟨other, _, rfl⟩ := List.mem_map.mp member
  split
  · decide
  · split
    · decide
    · rename_i noStart noEnd
      simp [noStart, noEnd]

/-- What ends a line is blank. -/
theorem isBlank_of_isLineBreak
    {character : Char}
    (ends : isLineBreak character = true) :
    isBlank character = true := by
  simp only [isLineBreak, isBlank, isSpace, Bool.or_eq_true, Bool.and_eq_true,
    decide_eq_true_eq, beq_iff_eq] at ends ⊢
  omega

/-- A cue keeps nothing that ends a line or starts commands. -/
theorem lacks_breakLines (limit : Nat) (text : List Char) :
    Lacks isBlockSyntax (breakLines limit (withoutBraces text)) := by
  intro character member
  by_contra isSyntax
  rw [Bool.not_eq_false] at isSyntax
  have between : Lacks isBlockSyntax [' ', '\\', 'N'] := by decide
  have notBetween := between.not_mem isSyntax
  rw [List.mem_cons, not_or] at notBetween
  obtain ⟨inText, notBlank⟩ :=
    (mem_breakLines_iff_of_ne notBetween.1 notBetween.2 limit _).mp member
  rcases Bool.or_eq_true_iff.mp isSyntax with ends | isBrace
  · rw [isBlank_of_isLineBreak ends] at notBlank
    cases notBlank
  · rw [lacks_withoutBraces text character inText] at isBrace
    cases isBrace

/-! ## Texts read back -/

section Reading

variable {text before after line : List Char} {separator : Char}

theorem cutAtChar?_append
    (absent : separator ∉ before) :
    cutAtChar? separator (before ++ separator :: after) =
      some (before, after) := by
  induction before with
  | nil => simp [cutAtChar?]
  | cons character rest inductionHypothesis =>
      rw [List.mem_cons, not_or] at absent
      simp [cutAtChar?, Ne.symm absent.1, inductionHypothesis absent.2]

theorem takeFields_flatMap
    {fields : List (List Char)}
    (noComma : ∀ field ∈ fields, ',' ∉ field)
    (rest : List Char) :
    takeFields fields.length (fields.flatMap (· ++ [',']) ++ rest) =
      some (fields, rest) := by
  induction fields with
  | nil => rfl
  | cons field others inductionHypothesis =>
      rw [List.forall_mem_cons] at noComma
      simp [takeFields, cutAtChar?_append noComma.1,
        inductionHypothesis noComma.2]

theorem length_splitAtChar
    (separator : Char)
    (text : List Char) :
    (splitAtChar separator text).length = text.count separator + 1 := by
  induction text with
  | nil => rfl
  | cons character rest inductionHypothesis =>
      by_cases isSeparator : character = separator
      · simp [splitAtChar, isSeparator, inductionHypothesis]
      · rw [List.count_cons_of_ne isSeparator, ← inductionHypothesis]
        simp only [splitAtChar, isSeparator, ↓reduceIte]
        cases pieces : splitAtChar separator rest with
        | nil => exact absurd pieces (splitAtChar_ne_nil separator rest)
        | cons piece others => rfl

theorem splitLines_append
    (oneLine : Lacks isLineBreak line)
    (rest : List Char) :
    splitLines (line ++ '\n' :: rest) = line :: splitLines rest := by
  have ends : isLineBreak '\n' = true := by decide
  induction line with
  | nil =>
      cases rest with
      | nil => simp [splitLines, ends]
      | cons next others => simp [splitLines, ends]
  | cons character others inductionHypothesis =>
      obtain ⟨goesOn, othersGoOn⟩ := List.forall_mem_cons.mp oneLine
      have noReturn : character ≠ '\r' := by
        rintro rfl
        exact absurd goesOn (by decide)
      have later := inductionHypothesis othersGoOn
      cases shape : others ++ '\n' :: rest with
      | nil => simp at shape
      | cons next remaining =>
          rw [shape] at later
          simp [splitLines, shape, noReturn, goesOn, later]

/-- Lines that are ended one by one are the lines of the whole. -/
theorem splitLines_flatMap
    {lines : List (List Char)}
    (oneLine : ∀ line ∈ lines, Lacks isLineBreak line) :
    splitLines (lines.flatMap (· ++ ['\n'])) = lines := by
  induction lines with
  | nil => rfl
  | cons line others inductionHypothesis =>
      rw [List.forall_mem_cons] at oneLine
      rw [List.flatMap_cons, List.append_assoc, List.singleton_append,
        splitLines_append oneLine.1, inductionHypothesis oneLine.2]

theorem readBlocks_of_not_mem
    (absent : '\x7b' ∉ text) :
    readBlocks none text = [] := by
  induction text with
  | nil => rfl
  | cons character rest inductionHypothesis =>
      rw [List.mem_cons, not_or] at absent
      simp [readBlocks, Ne.symm absent.1, inductionHypothesis absent.2]

theorem readBlocks_open
    {commands : List Char}
    (absent : '\x7d' ∉ commands)
    (block rest : List Char) :
    readBlocks (some block) (commands ++ '\x7d' :: rest) =
      (block ++ commands) :: readBlocks none rest := by
  induction commands generalizing block with
  | nil => simp [readBlocks]
  | cons character others inductionHypothesis =>
      rw [List.mem_cons, not_or] at absent
      simp [readBlocks, Ne.symm absent.1, inductionHypothesis absent.2]

end Reading

/-! ## Commands -/

/-- A text is blocks of commands, one after another. -/
structure Blocks
    (commands : List (List Char))
    (markup : String) :
    Prop where
  text :
    markup.toList =
      commands.flatMap fun block => '\x7b' :: block ++ ['\x7d']
  plain : ∀ block ∈ commands, Lacks isBlockSyntax block

namespace Blocks

variable {commands others : List (List Char)} {markup other : String}

theorem nil : Blocks [] "" := by
  refine ⟨rfl, ?_⟩
  simp

theorem single
    {block : String}
    (plain : Lacks isBlockSyntax block.toList) :
    Blocks [block.toList] (animationBlock block) := by
  refine ⟨?_, by simpa using plain⟩
  simp [animationBlock]

theorem append
    (first : Blocks commands markup)
    (second : Blocks others other) :
    Blocks (commands ++ others) (markup ++ other) := by
  refine ⟨?_, List.forall_mem_append.mpr ⟨first.plain, second.plain⟩⟩
  rw [String.toList_append, first.text, second.text, List.flatMap_append]

/-- Before a text without braces, the blocks are all that is read. -/
theorem readBlocks_append
    (blocks : Blocks commands markup)
    {text : List Char}
    (noBlock : '\x7b' ∉ text) :
    readBlocks none (markup.toList ++ text) = commands := by
  obtain ⟨isText, plain⟩ := blocks
  rw [isText]
  clear isText
  induction commands with
  | nil => exact readBlocks_of_not_mem noBlock
  | cons block others inductionHypothesis =>
      rw [List.forall_mem_cons] at plain
      have noEnd : '\x7d' ∉ block := plain.1.not_mem (by decide)
      rw [List.flatMap_cons, List.append_assoc, List.append_assoc,
        List.cons_append, List.singleton_append, readBlocks, if_pos rfl,
        readBlocks_open noEnd, inductionHypothesis plain.2, List.nil_append]

theorem lacks_isLineBreak
    (blocks : Blocks commands markup) :
    Lacks isLineBreak markup.toList := by
  intro character member
  rw [blocks.text] at member
  obtain ⟨block, isBlock, inBlock⟩ := List.mem_flatMap.mp member
  have braces :
      isLineBreak '\x7b' = false ∧ isLineBreak '\x7d' = false := by
    decide
  simp only [List.cons_append, List.mem_cons, List.mem_append,
    List.not_mem_nil, or_false] at inBlock
  rcases inBlock with rfl | isCommand | rfl
  · exact braces.1
  · exact (blocks.plain block isBlock).lineBreak character isCommand
  · exact braces.2

end Blocks

/-- How many blocks of commands an animation needs. -/
def SubtitleAnimation.blockCount : SubtitleAnimation → Nat
  | .pop => 3
  | .slideUp => 2
  | .karaoke => 2
  | .fade => 1
  | .none => 0

theorem slidingCommand_lacks (width height : Int) :
    ∃ command,
      slidingBlock (.integer width) (.integer height) =
        .ok (animationBlock command) ∧
      Lacks isBlockSyntax command.toList := by
  refine ⟨_, rfl, ?_⟩
  simp only [Amount.half, amountText_whole, lacks_append_iff,
    (lacks_showInteger _).blockSyntax, and_true]
  decide +kernel

/-! ## Commas -/

/-- A text has so many commas. -/
def HasCommas (count : Nat) (text : String) : Prop :=
  text.toList.count ',' = count

namespace HasCommas

variable {count others : Nat} {text other : String}

theorem append
    (first : HasCommas count text)
    (second : HasCommas others other) :
    HasCommas (count + others) (text ++ other) := by
  unfold HasCommas at *
  rw [String.toList_append, List.count_append, first, second]

theorem ofList
    {characters : List Char}
    (isCount : characters.count ',' = count) :
    HasCommas count (String.ofList characters) := by
  unfold HasCommas
  rw [String.toList_ofList, isCount]

theorem of_not_mem
    (absent : ',' ∉ text.toList) :
    HasCommas 0 text :=
  List.count_eq_zero.mpr absent

end HasCommas

/-! ## Settings -/

namespace DocumentSetting

theorem primary_lacks
    (setting : DocumentSetting) :
    Lacks isDocumentSyntax setting.primary.toList := by
  rw [primary, String.toList_ofList]
  exact lacks_documentColor _

theorem outline_lacks
    (setting : DocumentSetting) :
    Lacks isDocumentSyntax setting.outline.toList := by
  rw [outline, String.toList_ofList]
  exact lacks_documentColor _

/-- A setting for a frame with measured sides, with letters of a size that can
be chosen, at a speed that can be, and with a font whose name is a field. -/
structure IsAccepted (setting : DocumentSetting) : Prop where
  width : IsSide setting.width
  height : IsSide setting.height
  least : 10 ≤ setting.style.fontSize
  greatest : setting.style.fontSize ≤ 100
  slowest : Binary64.atMost 0.25 setting.speed = true
  fastest : setting.speed.atMost 4 = true
  oneLine : Lacks isLineBreak setting.fontName.toList
  noComma : ',' ∉ setting.fontName.toList

namespace IsAccepted

variable {setting : DocumentSetting}

/-- A frame with measured sides limits the lines, whatever the font is. -/
theorem exists_limit
    (accepted : setting.IsAccepted) :
    ∃ limit,
      charactersPerLine setting.width (.integer setting.style.fontSize) =
        .ok limit := by
  obtain ⟨width, isWidth, above, below⟩ := accepted.width
  obtain ⟨height, isHeight, _⟩ := accepted.height
  have small : 1000000000 < powerOfTwo 1023 :=
    lt_powerOfTwo_of_short (by decide) (by decide)
  have fits : width.natAbs < powerOfTwo 1023 := by omega
  obtain ⟨converted, isConverted, _⟩ := Binary64.ofInteger_eq_ok fits
  have regular : { setting with fontName := "Arial" }.IsRegular := {
    width := ⟨width, converted, isWidth, isConverted⟩
    height := ⟨height, isHeight⟩
    least := accepted.least
    greatest := accepted.greatest
    family := (by decide +kernel : IsWritable "Arial".toList) }
  obtain ⟨limit, isLimit, _⟩ := regular.charactersPerLine_succeeds
  exact ⟨limit, isLimit⟩

/-- An animation is as many blocks as it needs, whatever the colour is. -/
theorem exists_markup
    (accepted : setting.IsAccepted) :
    ∃ markup commands,
      setting.markup = .ok markup ∧
      Blocks commands markup ∧
      commands.length = setting.style.animation.blockCount := by
  obtain ⟨width, isWidth, _⟩ := accepted.width
  obtain ⟨height, isHeight, _⟩ := accepted.height
  unfold markup animationBlocks
  rw [isWidth, isHeight]
  cases setting.style.animation with
  | pop =>
      have blocks :=
        ((Blocks.single (by decide +kernel :
          Lacks isBlockSyntax "\\fad(50,50)".toList)).append
        (Blocks.single (by decide +kernel :
          Lacks isBlockSyntax "\\fscx0\\fscy0".toList))).append
        (Blocks.single (by decide +kernel :
          Lacks isBlockSyntax "\\t(0,150,\\fscx100\\fscy100)".toList))
      exact ⟨_, _, rfl, blocks, rfl⟩
  | slideUp =>
      obtain ⟨move, isMove, plain⟩ := slidingCommand_lacks width height
      have blocks :=
        (Blocks.single (by decide +kernel :
          Lacks isBlockSyntax "\\fad(100,0)".toList)).append
        (Blocks.single plain)
      exact ⟨_, _, by rw [isMove]; rfl, blocks, rfl⟩
  | karaoke =>
      have color :
          Lacks isBlockSyntax
            (replaceIn setting.primary "&H00" "&H").toList :=
        (lacks_replaceIn setting.primary_lacks (by decide +kernel)
          "&H00").blockSyntax
      have change :
          Lacks isBlockSyntax
            ("\\t(0,200,\\1c" ++ replaceIn setting.primary "&H00" "&H" ++
              ")").toList := by
        simp only [lacks_append_iff, color, and_true]
        decide +kernel
      have blocks :=
        (Blocks.single (by decide +kernel :
          Lacks isBlockSyntax "\\1c&HFFFF00&".toList)).append
        (Blocks.single change)
      exact ⟨_, _, rfl, blocks, rfl⟩
  | fade =>
      have blocks :=
        Blocks.single (by decide +kernel :
          Lacks isBlockSyntax "\\fad(200,200)".toList)
      exact ⟨_, _, rfl, blocks, rfl⟩
  | none => exact ⟨_, _, rfl, .nil, rfl⟩

/-! ## The lines before the cues -/

theorem headLines_oneLine
    (accepted : setting.IsAccepted) :
    ∀ line ∈ setting.headLines, Lacks isLineBreak line.toList := by
  obtain ⟨width, isWidth, _⟩ := accepted.width
  obtain ⟨height, isHeight, _⟩ := accepted.height
  have number (value : Int) :
      Lacks isLineBreak (Json.integer value).plainText.toList := by
    simp only [Json.plainText, Json.shown]
    exact (lacks_showInteger value).blockSyntax.lineBreak
  have styleLine : Lacks isLineBreak setting.styleLine.toList := by
    have primary := setting.primary_lacks.blockSyntax.lineBreak
    have outline := setting.outline_lacks.blockSyntax.lineBreak
    have size :=
      (lacks_showInteger setting.style.fontSize).blockSyntax.lineBreak
    unfold DocumentSetting.styleLine
    simp only [lacks_append_iff, primary, outline, size, accepted.oneLine,
      and_true]
    and_intros <;> exact lacks_ofList (by decide +kernel)
  have frameWidth :
      Lacks isLineBreak ("PlayResX: " ++ setting.width.plainText).toList := by
    rw [isWidth, lacks_append_iff]
    exact ⟨lacks_ofList (by decide +kernel), number width⟩
  have frameHeight :
      Lacks isLineBreak ("PlayResY: " ++ setting.height.plainText).toList := by
    rw [isHeight, lacks_append_iff]
    exact ⟨lacks_ofList (by decide +kernel), number height⟩
  obtain ⟨styleNames, cueNames⟩ :
      Lacks isLineBreak styleFormat.toList ∧
        Lacks isLineBreak cueFormat.toList := by
    unfold styleFormat cueFormat
    simp only [lacks_append_iff]
    and_intros <;> exact lacks_ofList (by decide +kernel)
  simp only [headLines, List.forall_mem_cons, frameWidth, frameHeight,
    styleNames, styleLine, cueNames, true_and]
  and_intros
  all_goals first
    | exact lacks_ofList (by decide +kernel)
    | simp

/-- The style has a value for each field that its format names. -/
theorem styleLine_fields
    (accepted : setting.IsAccepted) :
    (splitAtChar ',' setting.styleLine.toList).length =
      (splitAtChar ',' styleFormat.toList).length := by
  have names : HasCommas (5 + 7 + 7 + 3) styleFormat := by
    unfold styleFormat
    refine .append (.append (.append ?_ ?_) ?_) ?_
    all_goals exact .ofList (by decide)
  have opening : HasCommas 1 "Style: Default," := .ofList (by decide)
  have comma : HasCommas 1 "," := .ofList (by decide)
  have between : HasCommas 2 ",&H000000FF," := .ofList (by decide)
  have ending :
      HasCommas 17 ",&H60000000,1,0,0,0,100,100,0,0,1,2,0,2,10,10,50,1" :=
    .ofList (by decide)
  have family : HasCommas 0 setting.fontName := .of_not_mem accepted.noComma
  have size : HasCommas 0 (showInteger setting.style.fontSize) :=
    .of_not_mem ((lacks_showInteger _).not_mem (by decide))
  have primary : HasCommas 0 setting.primary :=
    .of_not_mem (setting.primary_lacks.not_mem (by decide))
  have outline : HasCommas 0 setting.outline :=
    .of_not_mem (setting.outline_lacks.not_mem (by decide))
  have values : HasCommas 22 setting.styleLine :=
    (opening.append family).append comma |>.append size |>.append comma
      |>.append primary |>.append between |>.append outline |>.append ending
  rw [length_splitAtChar, length_splitAtChar, names, values]

end IsAccepted

/-! ## The lines of cues -/

/-- The fields before the text of a cue with these times. -/
def fieldsOfTimes (start stop : String) : List (List Char) := [
  "Dialogue: 0".toList,
  start.toList,
  stop.toList,
  "Default".toList,
  [],
  ['0'],
  ['0'],
  ['0'],
  []]

/-- The text of a cue as its line has it. -/
def cueText (limit : Nat) (cue : Cue) : List Char :=
  breakLines limit (withoutBraces cue.text.toList)

/-- A line shows a cue: its fields are the times of the cue and those that all
lines have, and the text after them is the animation and the text of the cue,
which has no braces. -/
structure Shows
    (setting : DocumentSetting)
    (limit : Nat)
    (markup : String)
    (commands : List (List Char))
    (cue : Cue)
    (line : String) :
    Prop where
  fields :
    ∃ start stop,
      writeTime (cue.start * setting.timeScale) = .ok start ∧
      writeTime (cue.stop * setting.timeScale) = .ok stop ∧
      takeFields 9 line.toList = some
        (fieldsOfTimes start stop, markup.toList ++ cueText limit cue)
  noStart : '\x7b' ∉ cueText limit cue
  noEnd : '\x7d' ∉ cueText limit cue
  blocks : readBlocks none (markup.toList ++ cueText limit cue) = commands
  oneLine : Lacks isLineBreak line.toList

theorem writeTime_lacks
    {seconds : Binary64}
    {text : String}
    (written : writeTime seconds = .ok text) :
    Lacks isDocumentSyntax text.toList := by
  unfold writeTime at written
  cases counted : centiseconds seconds with
  | error failure =>
      rw [counted] at written
      cases written
  | ok total =>
      rw [counted] at written
      cases written
      rw [String.toList_ofList]
      exact lacks_centisecondsText total

section CueLines

variable {start stop : String}

theorem fieldsOfTimes_noComma
    (startLacks : Lacks isDocumentSyntax start.toList)
    (stopLacks : Lacks isDocumentSyntax stop.toList) :
    ∀ field ∈ fieldsOfTimes start stop, ',' ∉ field := by
  have startField : ',' ∉ start.toList := startLacks.not_mem (by decide)
  have stopField : ',' ∉ stop.toList := stopLacks.not_mem (by decide)
  have literal
      {characters : List Char}
      (absent : ',' ∉ characters) :
      ',' ∉ (String.ofList characters).toList := by
    rwa [String.toList_ofList]
  simp only [fieldsOfTimes, List.forall_mem_cons, startField, stopField,
    not_false_eq_true, true_and]
  exact ⟨literal (by decide), literal (by decide), by decide⟩

/-- The line of a cue is its fields, a comma after each, and the rest. -/
theorem toList_lineOfTimes (markup : String) (text : List Char) :
    ("Dialogue: 0," ++ start ++ "," ++ stop ++ ",Default,,0,0,0,," ++
        markup ++ String.ofList text).toList =
      (fieldsOfTimes start stop).flatMap (· ++ [',']) ++
        (markup.toList ++ text) := by
  have opening :
      "Dialogue: 0,".toList = "Dialogue: 0".toList ++ [','] := by
    rw [String.toList_ofList, String.toList_ofList]
    rfl
  have comma : ",".toList = [','] := String.toList_ofList
  have names :
      ",Default,,0,0,0,,".toList =
        ',' :: "Default".toList ++
          [',', ',', '0', ',', '0', ',', '0', ',', ','] := by
    rw [String.toList_ofList, String.toList_ofList]
    rfl
  simp only [String.toList_append, opening, comma, names, fieldsOfTimes,
    String.toList_ofList, List.flatMap_cons, List.flatMap_nil,
    List.append_assoc, List.cons_append, List.nil_append, List.append_nil]

theorem lineOfTimes_oneLine
    {markup : String}
    {text : List Char}
    (startLacks : Lacks isLineBreak start.toList)
    (stopLacks : Lacks isLineBreak stop.toList)
    (markupLacks : Lacks isLineBreak markup.toList)
    (textLacks : Lacks isLineBreak text) :
    Lacks isLineBreak
      ("Dialogue: 0," ++ start ++ "," ++ stop ++ ",Default,,0,0,0,," ++
        markup ++ String.ofList text).toList := by
  have opening : Lacks isLineBreak "Dialogue: 0,".toList :=
    lacks_ofList (by decide +kernel)
  have comma : Lacks isLineBreak ",".toList :=
    lacks_ofList (by decide +kernel)
  have names : Lacks isLineBreak ",Default,,0,0,0,,".toList :=
    lacks_ofList (by decide +kernel)
  simp only [lacks_append_iff, opening, comma, names, startLacks, stopLacks,
    markupLacks, lacks_ofList textLacks, and_self]

end CueLines

theorem cueLine_shows
    (setting : DocumentSetting)
    (limit : Nat)
    {markup : String}
    {commands : List (List Char)}
    (blocks : Blocks commands markup)
    (cue : Cue) :
    (setting.cueLine limit markup cue).Yields
      (setting.Shows limit markup commands cue) := by
  unfold cueLine
  refine Outcome.Yields.self.bind fun start isStart => ?_
  refine Outcome.Yields.self.bind fun stop isStop => .ok ?_
  have startLacks := writeTime_lacks isStart
  have stopLacks := writeTime_lacks isStop
  have textLacks : Lacks isBlockSyntax (cueText limit cue) :=
    lacks_breakLines limit cue.text.toList
  have noStart : '\x7b' ∉ cueText limit cue := textLacks.not_mem (by decide)
  refine {
    fields := ⟨start, stop, isStart, isStop, ?_⟩
    noStart
    noEnd := textLacks.not_mem (by decide)
    blocks := blocks.readBlocks_append noStart
    oneLine :=
      lineOfTimes_oneLine startLacks.blockSyntax.lineBreak
        stopLacks.blockSyntax.lineBreak blocks.lacks_isLineBreak
        textLacks.lineBreak }
  rw [toList_lineOfTimes]
  exact takeFields_flatMap (fieldsOfTimes_noComma startLacks stopLacks) _

/-! ## Whole documents -/

/-- What a document is: twelve lines, of which the style has as many fields as
its format, and a line for each cue, in order. A newline ends each of them, and
nothing else ends a line. The lines of cues have as many blocks of commands as
the animation needs. -/
structure LaysOut
    (setting : DocumentSetting)
    (cues : List Cue)
    (dialogues : List String)
    (text : String) :
    Prop where
  whole :
    text = String.join ((setting.headLines ++ dialogues).map (· ++ "\n"))
  lines :
    splitLines text.toList =
      (setting.headLines ++ dialogues).map String.toList
  oneLine :
    ∀ line ∈ setting.headLines ++ dialogues, Lacks isLineBreak line.toList
  headCount : setting.headLines.length = 12
  headOther : ∀ line ∈ setting.headLines, line.toList.head? ≠ some 'D'
  format : setting.headLines[7]? = some styleFormat
  style : setting.headLines[8]? = some setting.styleLine
  styleFields :
    (splitAtChar ',' setting.styleLine.toList).length =
      (splitAtChar ',' styleFormat.toList).length
  shown :
    ∃ limit markup commands,
      charactersPerLine setting.width (.integer setting.style.fontSize) =
        .ok limit ∧
      setting.markup = .ok markup ∧
      commands.length = setting.style.animation.blockCount ∧
      List.Forall₂ (setting.Shows limit markup commands) cues dialogues

/-- No line before the cues is taken for one of a cue. -/
theorem headLines_other
    (setting : DocumentSetting) :
    ∀ line ∈ setting.headLines, line.toList.head? ≠ some 'D' := by
  have literal
      {characters : List Char}
      (isOther : characters.head? ≠ some 'D') :
      (String.ofList characters).toList.head? ≠ some 'D' := by
    rwa [String.toList_ofList]
  have opened
      {first : Char}
      {characters : List Char}
      (isOther : first ≠ 'D')
      (rest : String) :
      (String.ofList (first :: characters) ++ rest).toList.head? ≠
        some 'D' := by
    simpa [String.toList_append] using isOther
  have style : setting.styleLine.toList.head? ≠ some 'D' := by
    unfold styleLine
    simp only [String.append_assoc]
    exact opened (by decide) _
  have formats :
      styleFormat.toList.head? ≠ some 'D' ∧
        cueFormat.toList.head? ≠ some 'D' := by
    unfold styleFormat cueFormat
    simp only [String.append_assoc]
    exact ⟨opened (by decide) _, opened (by decide) _⟩
  have width : ("PlayResX: " ++ setting.width.plainText).toList.head? ≠
      some 'D' :=
    opened (by decide) _
  have height : ("PlayResY: " ++ setting.height.plainText).toList.head? ≠
      some 'D' :=
    opened (by decide) _
  simp only [headLines, List.forall_mem_cons, style, formats, width, height,
    not_false_eq_true, ne_eq, true_and]
  and_intros
  all_goals first
    | exact literal (by decide)
    | simp

theorem splitLines_join
    {lines : List String}
    (oneLine : ∀ line ∈ lines, Lacks isLineBreak line.toList) :
    splitLines (String.join (lines.map (· ++ "\n"))).toList =
      lines.map String.toList := by
  have ended :
      (String.join (lines.map (· ++ "\n"))).toList =
        (lines.map String.toList).flatMap (· ++ ['\n']) := by
    simp [String.toList_join, List.flatMap_map, String.toList_append]
  rw [ended]
  apply splitLines_flatMap
  simpa using oneLine

/--
For every setting that is accepted, cues with short times make a document; and
every document that is made is laid out as it should be, whatever stands in the
texts of its cues and whatever the colours are told as.
-/
theorem IsAccepted.documents_are_laid_out
    {setting : DocumentSetting}
    (accepted : setting.IsAccepted)
    (cues : List Cue) :
    ((∀ cue ∈ cues, cue.IsShort) →
      ∃ text, setting.document cues = .ok text) ∧
    ∀ text,
      setting.document cues = .ok text →
      ∃ dialogues, setting.LaysOut cues dialogues text := by
  obtain ⟨limit, isLimit⟩ := accepted.exists_limit
  obtain ⟨markup, commands, isMarkup, blocks, count⟩ := accepted.exists_markup
  rw [document_eq isLimit isMarkup]
  constructor
  · intro areShort
    have each :
        ∀ cue ∈ cues,
          ∃ line, setting.cueLine limit markup cue = .ok line := by
      intro cue member
      rw [cueLine_eq_ok_iff]
      exact (areShort cue member).isTimed
        (timeScale_within accepted.slowest accepted.fastest)
    obtain ⟨dialogues, made⟩ := Outcome.mapM_eq_ok_iff.mpr each
    exact ⟨_, by rw [made]; rfl⟩
  · intro text isText
    cases made : cues.mapM (setting.cueLine limit markup) with
    | error failure =>
        rw [made] at isText
        cases isText
    | ok dialogues =>
        rw [made] at isText
        cases isText
        have shown :
            List.Forall₂ (setting.Shows limit markup commands) cues
              dialogues :=
          Outcome.Yields.mapM cues
            (fun cue _ => cueLine_shows setting limit blocks cue) dialogues
            made
        have oneLine :
            ∀ line ∈ setting.headLines ++ dialogues,
              Lacks isLineBreak line.toList := by
          rw [List.forall_mem_append]
          refine ⟨accepted.headLines_oneLine, ?_⟩
          have each :=
            shown.imp fun _ _ shows => iff_of_true shows.oneLine trivial
          exact (forall_iff_of_forall₂ each).mpr fun _ _ => trivial
        exact ⟨dialogues, {
          whole := rfl
          lines := splitLines_join oneLine
          oneLine
          headCount := rfl
          headOther := setting.headLines_other
          format := rfl
          style := rfl
          styleFields := accepted.styleLine_fields
          shown := ⟨limit, markup, commands, isLimit, isMarkup, count,
            shown⟩ }⟩

/-- Karaoke in a colour that is none, in which a newline and a brace stand. -/
def strayColor : DocumentSetting where
  style := {
    fontColor := "red,\n\x7b\\b1\x7d"
    strokeColor := "#00ff7F"
    animation := .karaoke }
  width := .integer 1080
  height := .integer 1920
  fontName := "Noto Sans \x7bBold\x7d"

/-- A cue with separators of lines, commas and braces. -/
def strayCue : Cue where
  start := 1
  stop := 2
  text := "one,\u2028two \x7b\\b1\x7d\u0085three\nDialogue: 0,"

theorem strayCue_is_laid_out :
    strayColor.IsAccepted ∧
      (∀ cue ∈ [strayCue], cue.IsShort) ∧
      ∃ text dialogues,
        strayColor.document [strayCue] = .ok text ∧
        strayColor.LaysOut [strayCue] dialogues text ∧
        (splitLines text.toList).length = 13 := by
  have accepted : strayColor.IsAccepted := {
    width := ⟨1080, rfl, by decide, by decide⟩
    height := ⟨1920, rfl, by decide, by decide⟩
    least := by decide
    greatest := by decide
    slowest := by decide +kernel
    fastest := by decide +kernel
    oneLine := by decide +kernel
    noComma := by decide +kernel }
  have areShort : ∀ cue ∈ [strayCue], cue.IsShort := by
    intro cue member
    rw [List.mem_singleton.mp member]
    exact {
      start := (Binary64.within_natural 1 (by decide)).mono (by decide)
      stop := (Binary64.within_natural 2 (by decide)).mono (by decide) }
  obtain ⟨exists_text, laidOut⟩ := accepted.documents_are_laid_out [strayCue]
  obtain ⟨text, isText⟩ := exists_text areShort
  obtain ⟨dialogues, laysOut⟩ := laidOut text isText
  have lineCount : (splitLines text.toList).length = 13 := by
    obtain ⟨_, _, _, _, _, _, shown⟩ := laysOut.shown
    rw [laysOut.lines, List.length_map, List.length_append, laysOut.headCount,
      ← shown.length_eq]
    rfl
  exact ⟨accepted, areShort, text, dialogues, isText, laysOut, lineCount⟩

end DocumentSetting

end Montage
