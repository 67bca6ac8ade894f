import Montage.Proofs.Number.Characters
import Montage.Proofs.Subtitle.Cues

namespace Montage

/-!
# Written subtitle files

What is written as a subtitle file is read back from it. A file is a list of
cues with lines of blanks around and between them; each cue has an optional
number, a line with its two times, and the lines of its text, which may look
like numbers or times themselves. Which line end is used, and which mark stands
before the milliseconds, makes no difference.
-/

/-! ## Times -/

namespace ClockTime

/-- A time in whole milliseconds. -/
def inMilliseconds (time : ClockTime) : Nat :=
  ((time.hours * 60 + time.minutes) * 60 + time.seconds) * 1000 +
    time.milliseconds

/-- A number of seconds tells a time: it is at most a nanosecond away. -/
def IsToldBy (time : ClockTime) (seconds : Binary64) : Prop :=
  ∃ units : Nat,
    seconds.position = some (units : Int) ∧
    1000000 *
      (1000 * (units : Int) -
        (time.inMilliseconds * unitsPerOne : Nat)).natAbs ≤ unitsPerOne

section Roundings

-- The units are variables here: arithmetic shall not compute their number.
variable {whole part first second sum unit step : Nat}

theorem near_of_roundings
    (perUnit : unit = 8589934592 * step)
    (firstNear : (first * (1 : Nat) - (whole : Int)).natAbs ≤ 1 * step)
    (secondNear :
      (second * (1000 : Nat) - (part : Int)).natAbs ≤ 1000 * step)
    (sumNear : ((sum : Int) - (first + second)).natAbs ≤ step) :
    1000000 * (1000 * (sum : Int) - (1000 * whole + part : Nat)).natAbs ≤
      unit := by
  omega

theorem sum_le_of_roundings
    (perUnit : unit = 8589934592 * step)
    (wholeUnits : whole ≤ 400000 * unit)
    (partUnits : part ≤ 1000 * unit)
    (firstNear : (first * (1 : Nat) - (whole : Int)).natAbs ≤ 1 * step)
    (secondNear :
      (second * (1000 : Nat) - (part : Int)).natAbs ≤ 1000 * step) :
    first + second ≤ 500000 * unit := by
  omega

end Roundings

/-- The seconds of a time tell it, although they are rounded three times. -/
theorem IsBounded.isToldBy
    {time : ClockTime}
    (bounded : time.IsBounded) :
    time.IsToldBy time.inSeconds := by
  obtain ⟨hours, minutes, seconds, milliseconds⟩ := bounded
  have perUnit : unitsPerOne = 8589934592 * powerOfTwo 1041 :=
    powerOfTwo_eq_mul 33 rfl rfl
  generalize isWhole :
    time.hours * 3600 + time.minutes * 60 + time.seconds = whole
  have wholeSmall : whole < 400000 := by omega
  have wholeBelow : whole * unitsPerOne < powerOfTwo (53 + 1041) :=
    mul_unitsPerOne_lt_of_lt 20 (wholeSmall.trans (by decide))
      (by decide)
  have partBelow :
      time.milliseconds * unitsPerOne < powerOfTwo (53 + 1041) :=
    mul_unitsPerOne_lt_of_lt 20 (milliseconds.trans (by decide))
      (by decide)
  obtain ⟨first, firstHolds, isFirst, firstNear⟩ :=
    Binary64.ofDecimal_near whole 0
      (by decide) (wholeSmall.trans (by decide +kernel))
      (Nat.lt_of_le_of_lt (Nat.div_le_self _ _) wholeBelow) (by decide)
  obtain ⟨second, secondHolds, isSecond, secondNear⟩ :=
    Binary64.ofDecimal_near time.milliseconds 3
      (by decide) (milliseconds.trans (by decide +kernel))
      (Nat.lt_of_le_of_lt (Nat.div_le_self _ _) partBelow) (by decide)
  have one : powerOfTen 0 = 1 := rfl
  have thousand : powerOfTen 3 = 1000 := rfl
  rw [one] at firstNear
  rw [thousand] at secondNear
  -- Below `2 ^ 20` seconds each rounding is off by `2 ^ 1041` units at most,
  -- which is less than a third of a nanosecond.
  have sumBelow : first + second < powerOfTwo (53 + 1041) := by
    have limit : 500000 * unitsPerOne < powerOfTwo (53 + 1041) :=
      mul_unitsPerOne_lt_of_lt 20 (by decide) (by decide)
    have wholeUnits : whole * unitsPerOne ≤ 400000 * unitsPerOne :=
      Nat.mul_le_mul_right _ wholeSmall.le
    have partUnits : time.milliseconds * unitsPerOne ≤ 1000 * unitsPerOne :=
      Nat.mul_le_mul_right _ milliseconds.le
    exact Nat.lt_of_le_of_lt
      (sum_le_of_roundings perUnit wholeUnits partUnits firstNear secondNear)
      limit
  obtain ⟨sum, sumHolds, isSum, sumNear⟩ :=
    Binary64.add_near firstHolds secondHolds sumBelow (by decide)
  have same : time.inSeconds = .finite false sum sumHolds := by
    rw [← isSum, ← isFirst, ← isSecond, ← isWhole]
    rfl
  have total :
      time.inMilliseconds * unitsPerOne =
        1000 * (whole * unitsPerOne) + time.milliseconds * unitsPerOne := by
    rw [← isWhole, inMilliseconds]
    ring
  refine ⟨sum, by rw [same]; rfl, ?_⟩
  rw [total]
  exact near_of_roundings perUnit firstNear secondNear sumNear

end ClockTime

/-! ## Digits -/

/-- An ASCII digit is not blank. -/
theorem isBlank_of_isAsciiDigit
    {character : Char}
    (isDigit : isAsciiDigit character = true) :
    isBlank character = false := by
  have ascii : character.toNat < 128 := by
    simp only [isAsciiDigit, Bool.and_eq_true, decide_eq_true_eq] at isDigit
    have below : character.toNat ≤ 57 := isDigit.2
    omega
  exact forall_of_ascii
    (fun character =>
      isAsciiDigit character = true → isBlank character = false)
    (by decide) ascii isDigit

/-- The last digits of a number, with zeros in front if it is short. -/
def fixedDigits : Nat → Nat → List Char
  | 0, _ => []
  | count + 1, number =>
      digitChar (number / 10 ^ count % 10) :: fixedDigits count number

theorem isAsciiDigit_of_mem_fixedDigits
    {count number : Nat}
    {character : Char}
    (member : character ∈ fixedDigits count number) :
    isAsciiDigit character = true := by
  have isDigit : ∀ digit < 10, isAsciiDigit (digitChar digit) = true := by
    decide
  induction count with
  | zero => cases member
  | succ count inductionHypothesis =>
      rcases List.mem_cons.mp member with isFirst | isLater
      · rw [isFirst]
        exact isDigit _ (Nat.mod_lt _ (by decide))
      · exact inductionHypothesis isLater

/-- One more digit stands before the last ones. -/
theorem first_digit_add_mod
    (count total number : Nat) :
    (10 * total + number / 10 ^ count % 10) * 10 ^ count +
        number % 10 ^ count =
      total * 10 ^ (count + 1) + number % 10 ^ (count + 1) := by
  rw [Nat.pow_succ, Nat.mod_mul]
  ring

/-- The digits that were written are read again, and no more of them. -/
theorem takeNumber?_fixedDigits
    (count total number : Nat)
    (rest : List Char) :
    takeNumber? count total (fixedDigits count number ++ rest) =
      some (total * 10 ^ count + number % 10 ^ count, rest) := by
  have isDigit :
      ∀ digit < 10, decimalDigit? (digitChar digit) = some digit := by
    decide
  induction count generalizing total with
  | zero => simp [fixedDigits, takeNumber?, Nat.mod_one]
  | succ count inductionHypothesis =>
      have first :=
        isDigit (number / 10 ^ count % 10) (Nat.mod_lt _ (by decide))
      rw [fixedDigits, List.cons_append, takeNumber?, first, Option.bind_some,
        inductionHypothesis, first_digit_add_mod]

theorem takeNumber?_fixedDigits_of_lt
    (count : Nat)
    {number : Nat}
    (short : number < 10 ^ count)
    (rest : List Char) :
    takeNumber? count 0 (fixedDigits count number ++ rest) =
      some (number, rest) := by
  rw [takeNumber?_fixedDigits, Nat.mod_eq_of_lt short, Nat.zero_mul,
    Nat.zero_add]

/-! ## Written times -/

/-- A time as it is written, with the mark before its milliseconds. -/
structure WrittenTime where
  clock : ClockTime
  mark : Char
  bounded : clock.IsBounded
  isMark : mark = ',' ∨ mark = '.'

namespace WrittenTime

variable (time : WrittenTime)

/-- Two digits each of hours, minutes and seconds, and three more. -/
def text : List Char :=
  fixedDigits 2 time.clock.hours ++ ':' ::
    (fixedDigits 2 time.clock.minutes ++ ':' ::
      (fixedDigits 2 time.clock.seconds ++ time.mark ::
        fixedDigits 3 time.clock.milliseconds))

theorem take?_text (rest : List Char) :
    ClockTime.take? (time.text ++ rest) = some (time.clock, rest) := by
  obtain ⟨hours, minutes, seconds, milliseconds⟩ := time.bounded
  simp [text, ClockTime.take?, takeWhere?, time.isMark,
    takeNumber?_fixedDigits_of_lt 2 hours,
    takeNumber?_fixedDigits_of_lt 2 minutes,
    takeNumber?_fixedDigits_of_lt 2 seconds,
    takeNumber?_fixedDigits_of_lt 3 milliseconds]

/-- A written time starts with a digit. -/
theorem isBlank_of_mem_head?_text
    (rest : List Char) :
    ∀ character ∈ (time.text ++ rest).head?, isBlank character = false := by
  intro character member
  have isFirst : digitChar (time.clock.hours / 10 ^ 1 % 10) = character := by
    simpa [text, fixedDigits] using member
  have inDigits : character ∈ fixedDigits 2 time.clock.hours := by
    rw [← isFirst]
    exact List.mem_cons_self
  exact isBlank_of_isAsciiDigit (isAsciiDigit_of_mem_fixedDigits inDigits)

/-- A written time ends with a digit. -/
theorem isBlank_of_mem_getLast?_text
    (before : List Char) :
    ∀ character ∈ (before ++ time.text).getLast?,
      isBlank character = false := by
  intro character member
  have inDigits : character ∈ fixedDigits 3 time.clock.milliseconds := by
    have isLast :
        digitChar (time.clock.milliseconds / 10 ^ 0 % 10) = character := by
      simpa [text, fixedDigits] using member
    rw [← isLast]
    simp [fixedDigits]
  exact isBlank_of_isAsciiDigit (isAsciiDigit_of_mem_fixedDigits inDigits)

end WrittenTime

/-! ## Written cues -/

/-- Nothing in a line ends it. -/
structure IsOneLine (line : List Char) : Prop where
  noNewline : '\n' ∉ line
  noReturn : '\r' ∉ line

theorem IsOneLine.append
    {first second : List Char}
    (firstLine : IsOneLine first)
    (secondLine : IsOneLine second) :
    IsOneLine (first ++ second) where
  noNewline := by simp [firstLine.noNewline, secondLine.noNewline]
  noReturn := by simp [firstLine.noReturn, secondLine.noReturn]

theorem IsOneLine.cons
    {character : Char}
    {rest : List Char}
    (noNewline : character ≠ '\n')
    (noReturn : character ≠ '\r')
    (isRest : IsOneLine rest) :
    IsOneLine (character :: rest) where
  noNewline := by simp [noNewline.symm, isRest.noNewline]
  noReturn := by simp [noReturn.symm, isRest.noReturn]

theorem isOneLine_of_digits
    {digits : List Char}
    (isDigit : ∀ character ∈ digits, isAsciiDigit character = true) :
    IsOneLine digits where
  noNewline member := absurd (isDigit _ member) (by decide)
  noReturn member := absurd (isDigit _ member) (by decide)

theorem WrittenTime.isOneLine_text
    (time : WrittenTime) :
    IsOneLine time.text := by
  have digits (count number : Nat) : IsOneLine (fixedDigits count number) :=
    isOneLine_of_digits fun _ => isAsciiDigit_of_mem_fixedDigits
  have mark : time.mark ≠ '\n' ∧ time.mark ≠ '\r' := by
    rcases time.isMark with isMark | isMark <;> simp [isMark]
  exact (digits 2 _).append <| .cons (by decide) (by decide) <|
    (digits 2 _).append <| .cons (by decide) (by decide) <|
    (digits 2 _).append <| .cons mark.1 mark.2 (digits 3 _)

/-- A line, possibly empty, of blanks only. -/
structure IsBlankLine (line : List Char) : Prop extends IsOneLine line where
  blank : ∀ character ∈ line, isBlank character = true

/-- A line of text, without blanks around it. -/
structure IsTextLine (line : List Char) : Prop extends IsOneLine line where
  filled : line ≠ []
  trimmed : trim line = line

/-- A number, as a line of ASCII digits. -/
structure IsNumberLine (line : List Char) : Prop where
  filled : line ≠ []
  digits : ∀ character ∈ line, isAsciiDigit character = true

theorem IsNumberLine.isTextLine
    {line : List Char}
    (isNumber : IsNumberLine line) :
    IsTextLine line where
  toIsOneLine := isOneLine_of_digits isNumber.digits
  filled := isNumber.filled
  trimmed :=
    trim_of_ends
      (fun character member => isBlank_of_isAsciiDigit <|
        isNumber.digits character (List.mem_of_mem_head? member))
      (fun character member => isBlank_of_isAsciiDigit <|
        isNumber.digits character (List.mem_of_mem_getLast? member))

/-- A line of ASCII digits is taken for a number. -/
theorem IsNumberLine.isBlockNumber_eq
    {line : List Char}
    (isNumber : IsNumberLine line) :
    isBlockNumber line = true := by
  have isAny : line.all isAnyDigit = true := by
    rw [List.all_eq_true]
    intro character member
    rw [isAnyDigit,
      isDecimalDigit_of_isAsciiDigit (isNumber.digits character member),
      Bool.true_or]
  simp [isBlockNumber, isAny, isNumber.filled]

instance : DecidablePred IsOneLine := fun line =>
  decidable_of_iff ('\n' ∉ line ∧ '\r' ∉ line)
    ⟨fun ⟨noNewline, noReturn⟩ => ⟨noNewline, noReturn⟩,
      fun isOneLine => ⟨isOneLine.noNewline, isOneLine.noReturn⟩⟩

instance : DecidablePred IsBlankLine := fun line =>
  decidable_of_iff (IsOneLine line ∧ line.all isBlank = true)
    ⟨fun ⟨isOneLine, blank⟩ => ⟨isOneLine, List.all_eq_true.mp blank⟩,
      fun isBlankLine =>
        ⟨isBlankLine.toIsOneLine, List.all_eq_true.mpr isBlankLine.blank⟩⟩

instance : DecidablePred IsTextLine := fun line =>
  decidable_of_iff (IsOneLine line ∧ line ≠ [] ∧ trim line = line)
    ⟨fun ⟨isOneLine, filled, trimmed⟩ => ⟨isOneLine, filled, trimmed⟩,
      fun isText => ⟨isText.toIsOneLine, isText.filled, isText.trimmed⟩⟩

instance : DecidablePred IsNumberLine := fun line =>
  decidable_of_iff (line ≠ [] ∧ line.all isAsciiDigit = true)
    ⟨fun ⟨filled, digits⟩ => ⟨filled, List.all_eq_true.mp digits⟩,
      fun isNumber =>
        ⟨isNumber.filled, List.all_eq_true.mpr isNumber.digits⟩⟩

/-- A cue as it is written. -/
structure WrittenCue where
  number : Option (List Char)
  start : WrittenTime
  beforeArrow : List Char
  afterArrow : List Char
  stop : WrittenTime
  lines : List (List Char)
  isNumber : ∀ line ∈ number, IsNumberLine line
  blankBefore : IsBlankLine beforeArrow
  blankAfter : IsBlankLine afterArrow
  inOrder : start.clock.inSeconds.less stop.clock.inSeconds = true
  hasLine : lines ≠ []
  isText : ∀ line ∈ lines, IsTextLine line

namespace WrittenCue

variable (cue : WrittenCue)

/-- The line with the two times. -/
def timingLine : List Char :=
  cue.start.text ++
    (cue.beforeArrow ++ "-->".toList ++ (cue.afterArrow ++ cue.stop.text))

/-- All lines of a cue. -/
def blockLines : List (List Char) :=
  cue.number.toList ++ cue.timingLine :: cue.lines

/-- The cue itself; its text lines are joined by single spaces. -/
def toCue : Cue where
  start := cue.start.clock.inSeconds
  stop := cue.stop.clock.inSeconds
  text := String.ofList (joinWith [' '] cue.lines)

/-- The timing line has no blanks around it. -/
theorem isTextLine_timingLine : IsTextLine cue.timingLine where
  toIsOneLine :=
    cue.start.isOneLine_text.append <|
      (cue.blankBefore.append (.mk (by decide) (by decide))).append <|
      cue.blankAfter.append cue.stop.isOneLine_text
  filled := by simp [timingLine]
  trimmed := by
    have regrouped :
        cue.timingLine =
          cue.start.text ++ cue.beforeArrow ++ "-->".toList ++
            cue.afterArrow ++ cue.stop.text := by
      simp [timingLine]
    refine trim_of_ends (cue.start.isBlank_of_mem_head?_text _) ?_
    rw [regrouped]
    exact cue.stop.isBlank_of_mem_getLast?_text _

theorem takeArrow?_arrow :
    takeArrow?
        (cue.beforeArrow ++ "-->".toList ++
          (cue.afterArrow ++ cue.stop.text)) =
      some cue.stop.text := by
  have isArrow :
      (cue.beforeArrow ++ "-->".toList ++
          (cue.afterArrow ++ cue.stop.text)).dropWhile isBlank =
        '-' :: '-' :: '>' :: (cue.afterArrow ++ cue.stop.text) := by
    have notBlank : isBlank '-' = false := by decide
    rw [List.append_assoc]
    exact dropWhile_isBlank_append cue.blankBefore.blank (by simp [notBlank])
  have isStop :
      (cue.afterArrow ++ cue.stop.text).dropWhile isBlank =
        cue.stop.text := by
    have start := cue.stop.isBlank_of_mem_head?_text []
    rw [List.append_nil] at start
    exact dropWhile_isBlank_append cue.blankAfter.blank start
  simp only [takeArrow?, isArrow, isStop]

/-- The two times of a cue are found in its timing line. -/
theorem findTiming?_timingLine :
    findTiming? cue.timingLine =
      some (cue.start.clock, cue.stop.clock) := by
  have atStart :
      timingAtStart? cue.timingLine =
        some (cue.start.clock, cue.stop.clock) := by
    have isStop := cue.stop.take?_text []
    rw [List.append_nil] at isStop
    simp only [timingAtStart?, timingLine, cue.start.take?_text,
      cue.takeArrow?_arrow, isStop, Option.bind_eq_bind, Option.bind_some]
    rfl
  cases line : cue.timingLine with
  | nil =>
      rw [line] at atStart
      cases atStart
  | cons character rest =>
      rw [line] at atStart
      rw [findTiming?, atStart]

/-- The timing line is no number, since it has a colon. -/
theorem isBlockNumber_timingLine :
    isBlockNumber cue.timingLine = false := by
  have member : ':' ∈ cue.timingLine := by
    simp [timingLine, WrittenTime.text]
  have noDigit : isAnyDigit ':' = false := by decide
  have notAll : cue.timingLine.all isAnyDigit = false := by
    rw [List.all_eq_false]
    exact ⟨':', member, by simp [noDigit]⟩
  rw [isBlockNumber, notAll, Bool.and_false]

/-- The number is passed over, and no other line is taken for one. -/
theorem blockParts?_blockLines :
    blockParts? cue.blockLines = some (cue.timingLine, cue.lines) := by
  obtain ⟨first, rest, isLines⟩ := List.exists_cons_of_ne_nil cue.hasLine
  cases isNumber : cue.number with
  | none =>
      simp [blockLines, isNumber, isLines, blockParts?,
        cue.isBlockNumber_timingLine]
  | some line =>
      have number := (cue.isNumber line isNumber).isBlockNumber_eq
      have arrow : occursIn "-->".toList cue.timingLine = true := by
        rw [timingLine, List.append_assoc, ← List.append_assoc,
          ← List.append_assoc, occursIn_append]
      simp only [blockLines, isNumber, Option.toList, List.singleton_append,
        blockParts?, number, arrow, Bool.and_self, ↓reduceIte]

/-- A written cue is read again. -/
theorem cueOfBlock?_blockLines :
    cueOfBlock? cue.blockLines = some cue.toCue := by
  have order := Binary64.atMost_of_less cue.inOrder
  have hasText : (joinWith [' '] cue.lines).isEmpty = false := by
    obtain ⟨line, isLine⟩ := List.exists_mem_of_ne_nil _ cue.hasLine
    obtain ⟨character, isCharacter⟩ :=
      List.exists_mem_of_ne_nil _ (cue.isText line isLine).filled
    have member := mem_joinWith_of_mem [' '] isLine isCharacter
    rw [List.isEmpty_eq_false_iff]
    exact List.ne_nil_of_mem member
  simp only [cueOfBlock?, cue.blockParts?_blockLines,
    cue.findTiming?_timingLine, Option.bind_eq_bind, Option.bind_some, order,
    hasText, Bool.or_false, Bool.false_eq_true, ↓reduceIte]
  rfl

/-- Every line of a cue is written like a line of text. -/
theorem isTextLine_of_mem_blockLines
    {line : List Char}
    (member : line ∈ cue.blockLines) :
    IsTextLine line := by
  rw [blockLines, List.mem_append, List.mem_cons, Option.mem_toList] at member
  rcases member with isNumber | rfl | isText
  · exact (cue.isNumber line isNumber).isTextLine
  · exact cue.isTextLine_timingLine
  · exact cue.isText line isText

end WrittenCue

/-! ## Written files -/

/-- Lines of blanks around cues. -/
structure BlankLines where
  lines : List (List Char)
  isBlank : ∀ line ∈ lines, IsBlankLine line

theorem BlankLines.map_trim
    (blanks : BlankLines) :
    ∀ line ∈ blanks.lines.map trim, line = [] := by
  intro line member
  obtain ⟨written, isWritten, rfl⟩ := List.mem_map.mp member
  exact trim_of_blank (blanks.isBlank written isWritten).blank

/-- A cue and the lines of blanks before it. -/
structure FileEntry where
  gap : BlankLines
  cue : WrittenCue

/-- The lines of a cue after the lines before it. -/
def FileEntry.lines (entry : FileEntry) : List (List Char) :=
  entry.gap.lines ++ entry.cue.blockLines

/-- The lines of entries, and those after them. -/
def linesOf
    (entries : List FileEntry)
    (ending : BlankLines) :
    List (List Char) :=
  entries.flatMap FileEntry.lines ++ ending.lines

theorem linesOf_cons
    (entry : FileEntry)
    (others : List FileEntry)
    (ending : BlankLines) :
    linesOf (entry :: others) ending =
      entry.gap.lines ++ (entry.cue.blockLines ++ linesOf others ending) := by
  simp [linesOf, FileEntry.lines]

/-- A subtitle file as it is written. Only the first cue may have no line of
blanks before it. -/
structure WrittenFile where
  lineEnd : LineEnd
  entries : List FileEntry
  ending : BlankLines
  parted : ∀ entry ∈ entries.tail, entry.gap.lines ≠ []

/-- Empty lines before other lines are passed over. -/
theorem lineBlocks_empty_append
    {gap : List (List Char)}
    (empty : ∀ line ∈ gap, line = [])
    (rest : List (List Char)) :
    lineBlocks (gap ++ rest) = lineBlocks rest := by
  induction gap with
  | nil => rfl
  | cons line others inductionHypothesis =>
      rw [List.forall_mem_cons] at empty
      rw [empty.1, List.cons_append, lineBlocks_nil_cons,
        inductionHypothesis empty.2]

/-- Nonempty lines at the end or before an empty line are a block. -/
theorem lineBlocks_block_append
    {block rest : List (List Char)}
    (some : block ≠ [])
    (filled : ∀ line ∈ block, line ≠ [])
    (parted : ∀ line ∈ rest.head?, line = []) :
    lineBlocks (block ++ rest) = block :: lineBlocks rest := by
  have alone := lineBlocks_of_forall some filled
  cases rest with
  | nil => rw [List.append_nil, alone]; rfl
  | cons line others =>
      rw [parted line rfl, lineBlocks_append, alone, lineBlocks_nil_cons]
      rfl

/-- Lines after a cue begin with an empty one, if there are any. -/
theorem linesOf_parted
    {entries : List FileEntry}
    (parted : ∀ entry ∈ entries, entry.gap.lines ≠ [])
    (ending : BlankLines) :
    ∀ line ∈ ((linesOf entries ending).map trim).head?, line = [] := by
  cases entries with
  | nil =>
      intro line member
      rw [linesOf, List.flatMap_nil, List.nil_append] at member
      exact ending.map_trim line (List.mem_of_mem_head? member)
  | cons entry others =>
      obtain ⟨blank, rest, isGap⟩ :=
        List.exists_cons_of_ne_nil (parted entry List.mem_cons_self)
      have isEmpty : trim blank = [] :=
        entry.gap.map_trim _ (List.mem_map_of_mem (by simp [isGap]))
      simpa [linesOf_cons, isGap] using isEmpty

/-- The blocks of lines are the cues, whatever stands between them. -/
theorem lineBlocks_linesOf
    {entries : List FileEntry}
    (parted : ∀ entry ∈ entries.tail, entry.gap.lines ≠ [])
    (ending : BlankLines) :
    lineBlocks ((linesOf entries ending).map trim) =
      entries.map fun entry => entry.cue.blockLines := by
  -- By induction on the entries: after a gap that is passed over, the lines of
  -- a cue reach up to the next gap or the end.
  induction entries with
  | nil =>
      have blocks := lineBlocks_empty_append ending.map_trim []
      rwa [List.append_nil] at blocks
  | cons entry others inductionHypothesis =>
      rw [List.tail_cons] at parted
      have later := inductionHypothesis fun entry member =>
        parted entry (List.mem_of_mem_tail member)
      have cueLines :
          entry.cue.blockLines.map trim = entry.cue.blockLines :=
        (List.map_congr_left fun line member =>
          (entry.cue.isTextLine_of_mem_blockLines member).trimmed).trans
          (List.map_id' _)
      have isBlock :=
        lineBlocks_block_append
          (by simp [WrittenCue.blockLines] : entry.cue.blockLines ≠ [])
          (fun line member =>
            (entry.cue.isTextLine_of_mem_blockLines member).filled)
          (linesOf_parted parted ending)
      rw [linesOf_cons, List.map_append, List.map_append, cueLines,
        lineBlocks_empty_append entry.gap.map_trim, isBlock, later]
      rfl

/-- Lines are joined with a line end by newlines that are rewritten as it. -/
theorem LineEnd.replaceChar_joinWith
    (lineEnd : LineEnd)
    {lines : List (List Char)}
    (isOneLine : ∀ line ∈ lines, IsOneLine line) :
    replaceChar '\n' lineEnd.characters (joinWith ['\n'] lines) =
      joinWith lineEnd.characters lines := by
  induction lines using joinWith.induct with
  | case1 => rfl
  | case2 line =>
      have alone := isOneLine line List.mem_cons_self
      exact replaceChar_of_not_mem alone.noNewline _
  | case3 line others some inductionHypothesis =>
      rw [List.forall_mem_cons] at isOneLine
      have later := inductionHypothesis isOneLine.2
      have isLine :=
        replaceChar_of_not_mem isOneLine.1.noNewline lineEnd.characters
      rw [joinWith, joinWith]
      · simp only [replaceChar, List.flatMap_append] at isLine later ⊢
        rw [isLine, later]
        simp
      all_goals exact some

namespace WrittenFile

variable (file : WrittenFile)

/-- All lines of a file. -/
def lines : List (List Char) :=
  linesOf file.entries file.ending

/-- The text of a file. -/
def text : String :=
  String.ofList (joinWith file.lineEnd.characters file.lines)

/-- The cues of a file. -/
def cues : List WrittenCue :=
  file.entries.map FileEntry.cue

theorem isOneLine_of_mem_lines
    {line : List Char}
    (member : line ∈ file.lines) :
    IsOneLine line := by
  rw [lines, linesOf, List.mem_append, List.mem_flatMap] at member
  rcases member with ⟨entry, _, inEntry⟩ | inEnding
  · rcases List.mem_append.mp inEntry with inGap | inCue
    · exact (entry.gap.isBlank line inGap).toIsOneLine
    · exact (entry.cue.isTextLine_of_mem_blockLines inCue).toIsOneLine
  · exact (file.ending.isBlank line inEnding).toIsOneLine

theorem withNewlines_text :
    withNewlines file.text.toList = joinWith ['\n'] file.lines := by
  have noReturn : '\r' ∉ joinWith ['\n'] file.lines := by
    intro member
    rw [mem_joinWith_iff (by decide), List.mem_flatten] at member
    obtain ⟨line, isLine, member⟩ := member
    exact (file.isOneLine_of_mem_lines isLine).noReturn member
  have rewritten :=
    file.lineEnd.replaceChar_joinWith fun _ => file.isOneLine_of_mem_lines
  rw [text, String.toList_ofList, ← rewritten,
    withNewlines_replaceChar noReturn]

/-- The blocks of a file are its cues. -/
theorem blocksOf_text :
    blocksOf (withNewlines file.text.toList) =
      file.cues.map WrittenCue.blockLines := by
  have blocks :
      lineBlocks (file.lines.map trim) =
        file.entries.map fun entry => entry.cue.blockLines :=
    lineBlocks_linesOf file.parted file.ending
  rw [withNewlines_text, cues, List.map_map]
  refine Eq.trans ?_ blocks
  by_cases noLine : file.lines = []
  · rw [noLine]
    decide
  · rw [blocksOf, splitAtChar_joinWith noLine fun line member =>
      (file.isOneLine_of_mem_lines member).noNewline]

end WrittenFile

/-- What is written as a subtitle file is read back: its cues in their order,
with the written times and with their text lines joined by single spaces,
whatever the text looks like. -/
theorem written_file_is_read_back
    (file : WrittenFile) :
    readSubtitles file.text = file.cues.map WrittenCue.toCue ∧
    ∀ cue ∈ file.cues,
      cue.start.clock.IsToldBy cue.toCue.start ∧
      cue.stop.clock.IsToldBy cue.toCue.stop := by
  refine ⟨?_, fun cue _ => ⟨?_, ?_⟩⟩
  · have each :
        cueOfBlock? ∘ WrittenCue.blockLines = some ∘ WrittenCue.toCue :=
      funext WrittenCue.cueOfBlock?_blockLines
    rw [readSubtitles_eq, file.blocksOf_text, List.filterMap_map, each]
    exact congrFun List.filterMap_eq_map _
  · exact cue.start.bounded.isToldBy
  · exact cue.stop.bounded.isToldBy

/-- A file whose text has a line of digits, an arrow and a whole timing line. -/
def lookalikeFile : WrittenFile where
  lineEnd := .both
  entries := [
    { gap := { lines := [" ".toList], isBlank := by decide +kernel }
      cue := {
        number := some "1".toList
        start := {
          clock := ⟨0, 0, 1, 0⟩
          mark := ','
          bounded := ⟨by decide, by decide, by decide, by decide⟩
          isMark := by decide }
        beforeArrow := []
        afterArrow := "  ".toList
        stop := {
          clock := ⟨0, 0, 2, 500⟩
          mark := '.'
          bounded := ⟨by decide, by decide, by decide, by decide⟩
          isMark := by decide }
        lines := ["42".toList, "00:00:09,000 --> 00:00:10,000".toList]
        isNumber := by rintro _ ⟨⟩; decide +kernel
        blankBefore := by decide +kernel
        blankAfter := by decide +kernel
        inOrder := by decide +kernel
        hasLine := by decide
        isText := by decide +kernel } },
    { gap := { lines := [[], "\t".toList], isBlank := by decide +kernel }
      cue := {
        number := none
        start := {
          clock := ⟨0, 0, 3, 250⟩
          mark := '.'
          bounded := ⟨by decide, by decide, by decide, by decide⟩
          isMark := by decide }
        beforeArrow := " ".toList
        afterArrow := " ".toList
        stop := {
          clock := ⟨1, 0, 0, 0⟩
          mark := ','
          bounded := ⟨by decide, by decide, by decide, by decide⟩
          isMark := by decide }
        lines := ["--> 7".toList]
        isNumber := nofun
        blankBefore := by decide +kernel
        blankAfter := by decide +kernel
        inOrder := by decide +kernel
        hasLine := by decide
        isText := by decide +kernel } }]
  ending := { lines := [[]], isBlank := by decide }
  parted := by decide

/-- No line of text is taken for a number or for times. -/
theorem lookalike_text_is_read_back :
    lookalikeFile.text =
      " \r\n1\r\n00:00:01,000-->  00:00:02.500\r\n42\r\n" ++
        "00:00:09,000 --> 00:00:10,000\r\n\r\n\t\r\n" ++
        "00:00:03.250 --> 01:00:00,000\r\n--> 7\r\n" ∧
    readSubtitles lookalikeFile.text =
      [{ start := 1, stop := 2.5, text := "42 00:00:09,000 --> 00:00:10,000" },
        { start := 3.25, stop := 3600, text := "--> 7" }] := by
  refine ⟨by decide +kernel, ?_⟩
  rw [(written_file_is_read_back lookalikeFile).1]
  decide +kernel

end Montage
