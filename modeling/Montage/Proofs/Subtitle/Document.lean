import Montage.Proofs.Number.Order
import Montage.Proofs.Text.Writable
import Montage.Proofs.Work.Values
import Montage.Subtitle.Document

namespace Montage

/-!
# Documents that can be written

A document is made for every frame size that fits a number and for all cues
whose times do, and it can be written exactly if the texts of its cues can be.
Colours, animations and sizes of letters make no difference.
-/

/-! ## Wrapping -/

/-- Lines hold the characters of the words, with spaces between them. -/
theorem mem_fillLines_iff
    {character : Char}
    (notSpace : character ≠ ' ')
    (limit : Nat)
    (line : List Char)
    (rest : List (List Char)) :
    character ∈ (fillLines limit line rest).flatten ↔
      character ∈ line ∨ character ∈ rest.flatten := by
  induction rest generalizing line with
  | nil => simp [fillLines]
  | cons word others inductionHypothesis =>
      unfold fillLines
      split
      · rw [inductionHypothesis]
        simp [notSpace, or_assoc]
      · simp [inductionHypothesis]

theorem mem_joinWith_iff
    {character : Char}
    {separator : List Char}
    (notSeparator : character ∉ separator)
    (pieces : List (List Char)) :
    character ∈ joinWith separator pieces ↔ character ∈ pieces.flatten := by
  induction pieces using joinWith.induct with
  | case1 => simp [joinWith]
  | case2 piece => simp [joinWith]
  | case3 piece others nonempty inductionHypothesis =>
      rw [joinWith]
      · simp [notSeparator, inductionHypothesis]
      · exact nonempty

/-- Broken into lines, a text has its characters but blanks, and what stands
between words and lines. -/
theorem mem_breakLines_iff_of_ne
    {character : Char}
    (notSpace : character ≠ ' ')
    (notSeparator : character ∉ ['\\', 'N'])
    (limit : Nat)
    (text : List Char) :
    character ∈ breakLines limit text ↔
      character ∈ text ∧ isBlank character = false := by
  have inWords :
      character ∈ (words text).flatten ↔
        character ∈ text ∧ isBlank character = false := by
    rw [flatten_words, List.mem_filter, Bool.not_eq_true']
  rw [← inWords, breakLines, mem_joinWith_iff notSeparator, wrappedLines]
  cases words text with
  | nil => rfl
  | cons word others => simp [mem_fillLines_iff notSpace]

/-- Breaking a text into lines loses none of its characters but blanks. -/
theorem mem_breakLines_iff
    {character : Char}
    (notBlank : isBlank character = false)
    (notSeparator : character ∉ ['\\', 'N'])
    (limit : Nat)
    (text : List Char) :
    character ∈ breakLines limit text ↔ character ∈ text := by
  have notSpace : character ≠ ' ' := by
    rintro rfl
    cases notBlank
  rw [mem_breakLines_iff_of_ne notSpace notSeparator]
  exact and_iff_left notBlank

/-- Lone surrogates stay in a text that is broken into lines. -/
theorem isWritable_breakLines_iff
    (limit : Nat)
    (text : List Char) :
    IsWritable (breakLines limit text) ↔ IsWritable text := by
  apply isWritable_congr
  intro character isLone
  apply mem_breakLines_iff
  · by_contra isBlank
    rw [Bool.not_eq_false] at isBlank
    rw [isLoneSurrogate_of_isBlank isBlank] at isLone
    cases isLone
  · intro isMark
    have marks : IsWritable ['\\', 'N'] := by decide
    rw [marks character isMark] at isLone
    cases isLone

theorem isWritable_withoutBraces_iff
    (text : List Char) :
    IsWritable (withoutBraces text) ↔ IsWritable text := by
  simp only [IsWritable, withoutBraces, List.forall_mem_map]
  refine forall₂_congr fun character _ => ?_
  split
  · rename_i opens
    subst opens
    decide
  · split
    · rename_i closes
      subst closes
      decide
    · rfl

/-! ## Colours and animations -/

/-- The characters of colours as documents write them. -/
def colorCharacters : List Char :=
  "&H0123456789ABCDEF".toList

theorem mem_documentColor
    {color : String}
    {character : Char}
    (member : character ∈ documentColor color) :
    character ∈ colorCharacters := by
  have upper
      {digit : Char}
      (isAscii : digit.toNat < 128) :
      isHexDigit digit = true → digit.toUpper ∈ colorCharacters :=
    forall_of_ascii
      (fun other => isHexDigit other = true → other.toUpper ∈ colorCharacters)
      (by decide) isAscii
  have mark : "&H00".toList.all colorCharacters.contains = true := by decide
  have white : whiteColor.all colorCharacters.contains = true := by decide
  have isColor
      {text : List Char}
      (areColors : text.all colorCharacters.contains = true)
      (isMember : character ∈ text) :
      character ∈ colorCharacters :=
    List.contains_iff_mem.mp (List.all_eq_true.mp areColors character isMember)
  unfold documentColor at member
  split at member
  · dsimp only at member
    split at member
    · rename_i areDigits
      rcases List.mem_append.mp member with isMark | isUpper
      · exact isColor mark isMark
      · obtain ⟨digit, isDigit, rfl⟩ := List.mem_map.mp isUpper
        have isHex := List.all_eq_true.mp areDigits digit isDigit
        have isAscii : digit.toNat < 128 := by
          simp only [isHexDigit, isAsciiDigit, Bool.or_eq_true,
            Bool.and_eq_true, decide_eq_true_eq, Char.le_def,
            UInt32.le_iff_toNat_le] at isHex
          rcases isHex with (⟨_, below⟩ | ⟨_, below⟩) | ⟨_, below⟩ <;>
            exact Nat.lt_of_le_of_lt below (by decide)
        exact upper isAscii isHex
    · exact isColor white member
  · exact isColor white member

theorem isWritable_documentColor
    (color : String) :
    IsWritable (documentColor color) := by
  have writable : IsWritable colorCharacters := by decide
  exact fun character member =>
    writable character (mem_documentColor member)

/-- A text with replacements has its characters and theirs. -/
theorem mem_replaceText
    {target replacement text : List Char}
    {held : Nat}
    {character : Char}
    (member : character ∈ replaceText target replacement held text) :
    character ∈ replacement ∨ character ∈ text := by
  induction text generalizing held with
  | nil => cases member
  | cons first rest inductionHypothesis =>
      have inRest
          {count : Nat}
          (isMember :
            character ∈ replaceText target replacement count rest) :
          character ∈ replacement ∨ character ∈ first :: rest :=
        (inductionHypothesis isMember).imp_right (List.mem_cons_of_mem first)
      cases held with
      | succ remaining => exact inRest member
      | zero =>
          unfold replaceText at member
          dsimp only at member
          split at member
          · rcases List.mem_append.mp member with isNew | isLater
            · exact Or.inl isNew
            · exact inRest isLater
          · rcases List.mem_cons.mp member with isFirst | isLater
            · exact Or.inr (isFirst ▸ List.mem_cons_self)
            · exact inRest isLater

/-- What stands in for a part of a text can be written if both can be. -/
theorem isWritable_replaceText
    (target : List Char)
    {replacement : List Char}
    (isReplacement : IsWritable replacement)
    (held : Nat)
    {text : List Char}
    (writable : IsWritable text) :
    IsWritable (replaceText target replacement held text) := by
  intro character member
  rcases mem_replaceText member with isNew | isOld
  · exact isReplacement character isNew
  · exact writable character isOld

theorem amountText_whole
    (number : Int) :
    amountText (.whole number) = showInteger number := by
  simp [amountText, Amount.toJson, Json.plainText, Json.shown]

theorem slidingBlock_succeeds
    (width height : Int) :
    (slidingBlock (.integer width) (.integer height)).Succeeds fun text =>
      IsWritable text.toList := by
  refine ⟨_, rfl, ?_⟩
  simp only [Amount.half, amountText_whole, animationBlock,
    isWritable_append_iff, isWritable_showInteger, and_true]
  decide +kernel

/-! ## Frame sizes -/

/-- A side of a frame: a whole number of pixels, not more than some. -/
def IsSide (side : Json) : Prop :=
  ∃ pixels : Int, side = .integer pixels ∧ 0 < pixels ∧ pixels ≤ 1000000000

/-- The width of a character is not small, whatever size of letters is
chosen. -/
theorem share_succeeds
    {size : Int}
    (least : 10 ≤ size)
    (greatest : size ≤ 100) :
    ((Json.integer size).scaled characterShare).Succeeds fun share =>
      share.isFinite = true ∧ Binary64.atMost 4 share = true := by
  have computed :
      ∀ offset < 91,
        ((Json.integer (10 + (offset : Nat))).scaled
          characterShare).toOption.any (fun share =>
            share.isFinite && Binary64.atMost 4 share) = true := by
    decide +kernel
  obtain ⟨offset, isOffset⟩ := Int.eq_ofNat_of_zero_le (Int.sub_nonneg.mpr least)
  have isSize : size = 10 + (offset : Nat) := by omega
  have small : offset < 91 := by omega
  have inRange := computed offset small
  rw [← isSize] at inRange
  generalize (Json.integer size).scaled characterShare = outcome at inRange
  cases outcome with
  | error failure => cases inRange
  | ok share =>
      have parts : (share.isFinite && Binary64.atMost 4 share) = true :=
        inRange
      rw [Bool.and_eq_true] at parts
      exact .ok parts

theorem Binary64.isFinite_of_ofInteger
    {number : Int}
    {result : Binary64}
    (isResult : ofInteger number = .ok result) :
    result.isFinite = true := by
  unfold ofInteger ofUnits at isResult
  split at isResult
  · cases isResult
    rfl
  · cases isResult

theorem Outcome.Succeeds.ofArithmetic
    {α : Type}
    {result : Except ArithmeticError α}
    (isOk : ∃ value, result = .ok value) :
    Outcome.Succeeds (fun _ => True) (Montage.ofArithmetic result) := by
  obtain ⟨value, rfl⟩ := isOk
  exact .ok trivial

namespace DocumentSetting

/-- A setting for a frame of whole numbers, of which the width fits a number,
with letters of a size that can be chosen and a font that can be named. -/
structure IsRegular (setting : DocumentSetting) : Prop where
  width :
    ∃ width converted,
      setting.width = .integer width ∧
      Binary64.ofInteger width = .ok converted
  height : ∃ height, setting.height = .integer height
  least : 10 ≤ setting.style.fontSize
  greatest : setting.style.fontSize ≤ 100
  family : IsWritable setting.fontName.toList

namespace IsRegular

variable {setting : DocumentSetting}

/-- A frame width that fits a number limits the lines. -/
theorem charactersPerLine_succeeds
    (regular : setting.IsRegular) :
    (charactersPerLine setting.width
      (.integer setting.style.fontSize)).Succeeds fun _ => True := by
  obtain ⟨width, converted, isInteger, isWidth⟩ := regular.width
  rw [isInteger]
  have widthFinite := Binary64.isFinite_of_ofInteger isWidth
  refine (share_succeeds regular.least regular.greatest).bind
    fun share ⟨shareFinite, isLarge⟩ => ?_
  obtain ⟨quotient, isQuotient, quotientFinite⟩ :=
    Binary64.divide_eq_ok widthFinite shareFinite isLarge
  have amounts :
      (Amount.whole width).divide (.fraction share) = .ok quotient := by
    simp only [Amount.divide, Amount.integer?, Amount.toBinary64, isWidth]
    exact isQuotient
  have divided :
      ((Json.integer width).dividedBy (.number share)).Succeeds fun value =>
        value.isFinite = true := by
    refine ⟨quotient, ?_, quotientFinite⟩
    simp only [Json.dividedBy, Json.amount?, amounts]
    rfl
  refine divided.bind fun quotient isFinite => ?_
  refine (Outcome.Succeeds.ofArithmetic
    (Binary64.floor_eq_ok isFinite)).bind ?_
  exact fun _ _ => .ok trivial

theorem primary_writable
    (setting : DocumentSetting) :
    IsWritable setting.primary.toList := by
  unfold primary
  exact isWritable_ofList (isWritable_documentColor _)

theorem outline_writable
    (setting : DocumentSetting) :
    IsWritable setting.outline.toList := by
  unfold outline
  exact isWritable_ofList (isWritable_documentColor _)

theorem markup_succeeds
    (regular : setting.IsRegular) :
    setting.markup.Succeeds fun text => IsWritable text.toList := by
  obtain ⟨width, _, isWidth, _⟩ := regular.width
  obtain ⟨height, isHeight⟩ := regular.height
  unfold markup animationBlocks
  rw [isWidth, isHeight]
  cases setting.style.animation with
  | pop => exact .ok (by decide +kernel)
  | slideUp =>
      refine (slidingBlock_succeeds width height).map fun text isText => ?_
      exact isWritable_append_iff.mpr ⟨by decide +kernel, isText⟩
  | karaoke =>
      have replaced :
          IsWritable (replaceIn setting.primary "&H00" "&H").toList := by
        unfold replaceIn
        exact isWritable_ofList
          (isWritable_replaceText _ (by decide) 0 (primary_writable setting))
      refine .ok ?_
      simp only [animationBlock, isWritable_append_iff, replaced, and_true]
      decide +kernel
  | fade => exact .ok (by decide +kernel)
  | none => exact .ok (by decide +kernel)

theorem headLines_writable
    (regular : setting.IsRegular) :
    ∀ line ∈ setting.headLines, IsWritable line.toList := by
  obtain ⟨width, _, isWidth, _⟩ := regular.width
  obtain ⟨height, isHeight⟩ := regular.height
  have styleLine : IsWritable setting.styleLine.toList := by
    have primary := primary_writable setting
    have outline := outline_writable setting
    unfold styleLine
    simp only [isWritable_append_iff, isWritable_showInteger, regular.family,
      primary, outline, and_true]
    and_intros <;> exact isWritable_ofList (by decide +kernel)
  have frame (name : String) (number : Int) (isName : IsWritable name.toList) :
      IsWritable (name ++ (Json.integer number).plainText).toList := by
    simp only [Json.plainText, Json.shown, isWritable_append_iff,
      isWritable_showInteger, and_true]
    exact isName
  have frameWidth :
      IsWritable ("PlayResX: " ++ setting.width.plainText).toList := by
    rw [isWidth]
    exact frame "PlayResX: " width (by decide +kernel)
  have frameHeight :
      IsWritable ("PlayResY: " ++ setting.height.plainText).toList := by
    rw [isHeight]
    exact frame "PlayResY: " height (by decide +kernel)
  obtain ⟨styleNames, cueNames⟩ :
      IsWritable styleFormat.toList ∧ IsWritable cueFormat.toList := by
    unfold styleFormat cueFormat
    simp only [isWritable_append_iff]
    and_intros <;> exact isWritable_ofList (by decide +kernel)
  simp only [headLines, List.forall_mem_cons, frameWidth, frameHeight,
    styleNames, styleLine, cueNames, true_and]
  decide +kernel

end IsRegular

end DocumentSetting

/-! ## Cues -/

/-- A time has the characters of numbers, and colons. -/
theorem mem_centisecondsText
    {total : Nat}
    {character : Char}
    (member : character ∈ centisecondsText total) :
    isNumeric character = true ∨ character = ':' := by
  have two (number : Nat) : IsNumeric (twoDigits number) :=
    (IsNumeric.decimalDigits number).padZeros 2
  have hours : IsNumeric (decimalDigits (total / 360000)) :=
    .decimalDigits _
  have point : isNumeric '.' = true := by decide
  simp only [centisecondsText, List.cons_append, List.append_assoc,
    List.mem_append, List.mem_cons] at member
  rcases member with isHour | rfl | isMinute | rfl | isSecond | rfl | isLast
  · exact Or.inl (hours character isHour)
  · exact Or.inr rfl
  · exact Or.inl (two _ character isMinute)
  · exact Or.inr rfl
  · exact Or.inl (two _ character isSecond)
  · exact Or.inl point
  · exact Or.inl (two _ character isLast)

theorem centisecondsText_writable
    (total : Nat) :
    IsWritable (centisecondsText total) := by
  intro character member
  rcases mem_centisecondsText member with isNumber | rfl
  · have numeric : IsNumeric [character] := by simpa [IsNumeric] using isNumber
    exact IsWritable.of_isNumeric numeric character List.mem_cons_self
  · decide

/-- Every time that is written can be written in bytes. -/
theorem writeTime_yields
    (seconds : Binary64) :
    Outcome.Yields (fun text => IsWritable text.toList) (writeTime seconds) := by
  intro text isText
  unfold writeTime at isText
  cases counted : centiseconds seconds with
  | error failure =>
      rw [counted] at isText
      cases isText
  | ok total =>
      rw [counted] at isText
      cases isText
      exact isWritable_ofList (centisecondsText_writable total)

namespace Cue

/-- Both times of a cue can be written at a scale. -/
structure IsTimed
    (cue : Cue)
    (scale : Binary64) :
    Prop where
  start : ∃ text, writeTime (cue.start * scale) = .ok text
  stop : ∃ text, writeTime (cue.stop * scale) = .ok text

/-- Times of at most some seconds, so that hundredths of them fit a number. -/
structure IsShort (cue : Cue) : Prop where
  start : cue.start.Within 1000000000
  stop : cue.stop.Within 1000000000

theorem within_hundred : (100 : Binary64).Within 100 :=
  Binary64.within_natural 100 (by decide)

theorem writeTime_eq_ok
    {limit : Nat}
    {seconds : Binary64}
    (within : seconds.Within limit)
    (inRange : 2 * (limit * 100) + 1 < powerOfTwo 1024) :
    ∃ text, writeTime seconds = .ok text := by
  obtain ⟨rounded, isRounded⟩ :=
    Binary64.round_eq_ok (within.multiply within_hundred inRange).isFinite
  refine ⟨String.ofList (centisecondsText rounded.toNat), ?_⟩
  simp only [writeTime, centiseconds, isRounded]
  rfl

/-- Short times can be written at every scale that is not large. -/
theorem IsShort.isTimed
    {cue : Cue}
    (isShort : cue.IsShort)
    {scale : Binary64}
    (within : scale.Within 9) :
    cue.IsTimed scale where
  start :=
    writeTime_eq_ok
      (isShort.start.multiply within
        (lt_powerOfTwo_of_short (by decide) (by decide)))
      (lt_powerOfTwo_of_short (by decide) (by decide))
  stop :=
    writeTime_eq_ok
      (isShort.stop.multiply within
        (lt_powerOfTwo_of_short (by decide) (by decide)))
      (lt_powerOfTwo_of_short (by decide) (by decide))

end Cue

namespace DocumentSetting

variable {setting : DocumentSetting}

/-- At no speed that can be chosen times get much longer. -/
theorem timeScale_within
    (least : Binary64.atMost 0.25 setting.speed = true)
    (greatest : setting.speed.atMost 4 = true) :
    setting.timeScale.Within 9 := by
  have one : (1 : Binary64).Within 1 := Binary64.within_natural 1 (by decide)
  obtain ⟨quarter, place, isQuarter, isPlace, atLeast⟩ :=
    Binary64.atMost_iff.mp least
  obtain ⟨other, four, isOther, isFour, bounded⟩ :=
    Binary64.atMost_iff.mp greatest
  have units : unitsPerOne = 4 * powerOfTwo 1072 := by
    decide +kernel
  have same : other = place := by
    rw [isPlace] at isOther
    exact (Option.some.inj isOther).symm
  rw [Binary64.position_quarter] at isQuarter
  rw [Binary64.position_natural 4 (by decide)] at isFour
  rw [same, ← Option.some.inj isFour] at bounded
  rw [← Option.some.inj isQuarter] at atLeast
  have bounds : setting.speed.Within 4 :=
    Binary64.within_of_position isPlace (by omega)
      (lt_powerOfTwo_of_short (by decide) (by decide))
  have isLarge : unitsPerOne ≤ 4 * place.natAbs := by omega
  have notZero : setting.speed.isZero = false := by
    cases speed : setting.speed with
    | nan => rfl
    | infinite negative => rfl
    | finite negative units representable =>
        rw [speed] at isPlace
        have isUnits := Option.some.inj isPlace
        have magnitude := Binary64.natAbs_signedUnits negative units
        have positive : 0 < powerOfTwo 1072 := powerOfTwo_pos 1072
        simp only [Binary64.isZero, decide_eq_false_iff_not]
        omega
  obtain ⟨quotient, isQuotient⟩ :=
    (Binary64.divide_isOk_iff 1 setting.speed).mpr notZero
  have isScale : setting.timeScale = quotient := by
    simp only [timeScale, isQuotient]
  have within :=
    one.divide bounds.isFinite isPlace isLarge isQuotient
      (lt_powerOfTwo_of_short (by decide) (by decide))
  rwa [isScale]

/-- With a limit and an animation, a document is its lines. -/
theorem document_eq
    {limit : Nat}
    {markup : String}
    (isLimit :
      charactersPerLine setting.width (.integer setting.style.fontSize) =
        .ok limit)
    (isMarkup : setting.markup = .ok markup)
    (cues : List Cue) :
    setting.document cues =
      (cues.mapM (setting.cueLine limit markup)).map fun lines =>
        String.join ((setting.headLines ++ lines).map (· ++ "\n")) := by
  unfold document
  rw [isLimit, isMarkup]
  rfl

/-- A line is made exactly if both times can be written, and it can be written
exactly if the text can be. -/
theorem cueLine_eq_ok_iff
    (limit : Nat)
    (markup : String)
    (cue : Cue) :
    (∃ line, setting.cueLine limit markup cue = .ok line) ↔
      cue.IsTimed setting.timeScale := by
  unfold cueLine
  cases start : writeTime (cue.start * setting.timeScale) with
  | error failure =>
      refine iff_of_false ?_ fun timed => ?_
      · rintro ⟨line, isLine⟩
        cases isLine
      · obtain ⟨text, isText⟩ := timed.start
        rw [start] at isText
        cases isText
  | ok startText =>
      cases stop : writeTime (cue.stop * setting.timeScale) with
      | error failure =>
          refine iff_of_false ?_ fun timed => ?_
          · rintro ⟨line, isLine⟩
            cases isLine
          · obtain ⟨text, isText⟩ := timed.stop
            rw [stop] at isText
            cases isText
      | ok stopText =>
          exact iff_of_true ⟨_, rfl⟩ ⟨⟨_, start⟩, ⟨_, stop⟩⟩

theorem cueLine_yields
    (limit : Nat)
    {markup : String}
    (isMarkup : IsWritable markup.toList)
    (cue : Cue) :
    Outcome.Yields
      (fun line => IsWritable line.toList ↔ IsWritable cue.text.toList)
      (setting.cueLine limit markup cue) := by
  unfold cueLine
  refine (writeTime_yields _).bind fun start isStart => ?_
  refine (writeTime_yields _).bind fun stop isStop => .ok ?_
  have opening : IsWritable "Dialogue: 0,".toList := by decide +kernel
  have comma : IsWritable ",".toList := by decide +kernel
  have names : IsWritable ",Default,,0,0,0,,".toList := by decide +kernel
  simp only [isWritable_append_iff, opening, comma, names, isStart, isStop,
    isMarkup, String.toList_ofList, isWritable_breakLines_iff,
    isWritable_withoutBraces_iff, true_and]

/-- A document that can be written is made exactly if the times and the texts
of all its cues can be written. -/
theorem IsRegular.document_writable_iff
    (regular : setting.IsRegular)
    (cues : List Cue) :
    (∃ text, setting.document cues = .ok text ∧ IsWritable text.toList) ↔
      ∀ cue ∈ cues,
        cue.IsTimed setting.timeScale ∧ IsWritable cue.text.toList := by
  obtain ⟨limit, isLimit, _⟩ := regular.charactersPerLine_succeeds
  obtain ⟨markup, isMarkup, writable⟩ := regular.markup_succeeds
  have ended (line : String) :
      IsWritable (line ++ "\n").toList ↔ IsWritable line.toList := by
    rw [isWritable_append_iff]
    exact and_iff_left (by decide)
  have written
      (lines : List String)
      (made : cues.mapM (setting.cueLine limit markup) = .ok lines) :
      IsWritable
          (String.join
            ((setting.headLines ++ lines).map (· ++ "\n"))).toList ↔
        ∀ cue ∈ cues, IsWritable cue.text.toList := by
    have areRelated :=
      Outcome.Yields.mapM cues
        (fun cue _ => cueLine_yields limit writable cue) lines made
    rw [isWritable_join_iff, List.forall_mem_map,
      ← forall_iff_of_forall₂ areRelated]
    simp only [ended, List.forall_mem_append]
    exact and_iff_right regular.headLines_writable
  have timed :
      (∃ lines, cues.mapM (setting.cueLine limit markup) = .ok lines) ↔
        ∀ cue ∈ cues, cue.IsTimed setting.timeScale := by
    rw [Outcome.mapM_eq_ok_iff]
    exact forall₂_congr fun cue _ => cueLine_eq_ok_iff limit markup cue
  rw [document_eq isLimit isMarkup]
  constructor
  · rintro ⟨text, isText, isWritten⟩ cue member
    cases made : cues.mapM (setting.cueLine limit markup) with
    | error failure =>
        rw [made] at isText
        cases isText
    | ok lines =>
        rw [made] at isText
        cases isText
        exact ⟨timed.mp ⟨lines, made⟩ cue member,
          (written lines made).mp isWritten cue member⟩
  · intro each
    obtain ⟨lines, made⟩ := timed.mpr fun cue member => (each cue member).1
    refine ⟨_, by rw [made]; rfl, ?_⟩
    exact (written lines made).mpr fun cue member => (each cue member).2

end DocumentSetting

end Montage
