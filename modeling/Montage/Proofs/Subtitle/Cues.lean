import Montage.Proofs.Subtitle.Document
import Montage.Subtitle.Cue

namespace Montage

/-!
# Cues of subtitle files

The times in a subtitle file have a fixed count of digits, of whatever script,
so all of its cues have short times. Empty lines part a subtitle file: what
stands before them and what stands after them are read on their own, whatever
they are, and it makes no difference how the lines end. A mark in front of a
file takes away the first cue, if that starts with its number.
-/

/-! ## Short times -/

/-- A number with a fixed count of digits is below that power of ten. -/
theorem takeNumber?_lt
    {count total number : Nat}
    {text rest : List Char}
    (taken : takeNumber? count total text = some (number, rest)) :
    number < (total + 1) * 10 ^ count := by
  induction count generalizing total text with
  | zero =>
      rw [takeNumber?] at taken
      cases taken
      omega
  | succ count inductionHypothesis =>
      cases text with
      | nil => cases taken
      | cons character others =>
          obtain ⟨digit, isDigit, isRest⟩ := Option.bind_eq_some_iff.mp taken
          have small := decimalDigit?_lt isDigit
          calc number
              < (10 * total + digit + 1) * 10 ^ count :=
                inductionHypothesis isRest
            _ ≤ (10 * total + 10) * 10 ^ count :=
                Nat.mul_le_mul_right _ (by omega)
            _ = (total + 1) * 10 ^ (count + 1) := by ring

namespace ClockTime

/-- The parts of a time have two digits, or three. -/
structure IsBounded (time : ClockTime) : Prop where
  hours : time.hours < 100
  minutes : time.minutes < 100
  seconds : time.seconds < 100
  milliseconds : time.milliseconds < 1000

theorem isBounded_of_take?
    {text rest : List Char}
    {time : ClockTime}
    (taken : take? text = some (time, rest)) :
    time.IsBounded := by
  simp only [take?, Option.bind_eq_bind, Option.bind_eq_some_iff,
    Option.pure_def, Option.some.injEq, Prod.mk.injEq] at taken
  obtain ⟨⟨hours, _⟩, isHours, _, _, ⟨minutes, _⟩, isMinutes, _, _,
    ⟨seconds, _⟩, isSeconds, _, _, ⟨milliseconds, _⟩, isMilliseconds,
    isTime, _⟩ := taken
  rw [← isTime]
  exact {
    hours := takeNumber?_lt isHours
    minutes := takeNumber?_lt isMinutes
    seconds := takeNumber?_lt isSeconds
    milliseconds := takeNumber?_lt isMilliseconds }

/-- A time is a small number of seconds. -/
theorem IsBounded.within
    {time : ClockTime}
    (bounded : time.IsBounded) :
    time.inSeconds.Within 1000000000 := by
  obtain ⟨hours, minutes, seconds, milliseconds⟩ := bounded
  have whole :
      (Binary64.ofDecimal false
        (time.hours * 3600 + time.minutes * 60 + time.seconds) 0).Within
          (2 * 400000 + 1) :=
    Binary64.within_ofDecimal _ (by omega) (by decide)
      (lt_powerOfTwo_of_short (by decide) (by decide))
  have fraction :
      (Binary64.ofDecimal false time.milliseconds (-3)).Within
        (2 * 1000 + 1) :=
    Binary64.within_ofDecimal _ (by omega) (by decide)
      (lt_powerOfTwo_of_short (by decide) (by decide))
  exact (whole.add fraction
    (lt_powerOfTwo_of_short (by decide) (by decide))).mono (by decide)

end ClockTime

theorem isBounded_of_timingAtStart?
    {text : List Char}
    {start stop : ClockTime}
    (found : timingAtStart? text = some (start, stop)) :
    start.IsBounded ∧ stop.IsBounded := by
  simp only [timingAtStart?, Option.bind_eq_bind, Option.bind_eq_some_iff,
    Option.pure_def, Option.some.injEq, Prod.mk.injEq] at found
  obtain ⟨⟨first, _⟩, isFirst, _, _, ⟨second, _⟩, isSecond, rfl, rfl⟩ := found
  exact ⟨ClockTime.isBounded_of_take? isFirst,
    ClockTime.isBounded_of_take? isSecond⟩

theorem isBounded_of_findTiming?
    {text : List Char}
    {start stop : ClockTime}
    (found : findTiming? text = some (start, stop)) :
    start.IsBounded ∧ stop.IsBounded := by
  induction text with
  | nil => cases found
  | cons character rest inductionHypothesis =>
      unfold findTiming? at found
      split at found
      · rename_i timing isHere
        cases found
        exact isBounded_of_timingAtStart? isHere
      · exact inductionHypothesis found

/-- All cues of a subtitle file have short times. -/
theorem isShort_of_readSubtitles
    (text : String) :
    ∀ cue ∈ readSubtitles text, cue.IsShort := by
  intro cue member
  obtain ⟨block, _, isCue⟩ := List.mem_filterMap.mp member
  simp only [cueOfBlock?, Option.bind_eq_bind, Option.bind_eq_some_iff]
    at isCue
  obtain ⟨⟨timingLine, textLines⟩, _, ⟨start, stop⟩, isTiming, isCue⟩ := isCue
  obtain ⟨startBounded, stopBounded⟩ := isBounded_of_findTiming? isTiming
  split at isCue
  · cases isCue
  · cases isCue
    exact { start := startBounded.within, stop := stopBounded.within }

/-! ## Line ends -/

/-- The ways to end a line. -/
inductive LineEnd
  | newline
  | carriageReturn
  | both
deriving DecidableEq, Repr

/-- The characters that end a line. -/
def LineEnd.characters : LineEnd → List Char
  | newline => ['\n']
  | carriageReturn => ['\r']
  | both => ['\r', '\n']

theorem withNewlines_pair (rest : List Char) :
    withNewlines ('\r' :: '\n' :: rest) = '\n' :: withNewlines rest := by
  simp [withNewlines, replacePair, replaceChar]

theorem withNewlines_return
    {rest : List Char}
    (alone : rest.head? ≠ some '\n') :
    withNewlines ('\r' :: rest) = '\n' :: withNewlines rest := by
  cases rest with
  | nil => rfl
  | cons next others =>
      have notNewline : next ≠ '\n' := by simpa using alone
      simp [withNewlines, replacePair, replaceChar, notNewline]

theorem withNewlines_cons
    {character : Char}
    (noReturn : character ≠ '\r')
    (rest : List Char) :
    withNewlines (character :: rest) = character :: withNewlines rest := by
  cases rest with
  | nil => simp [withNewlines, replacePair, replaceChar, noReturn]
  | cons next others =>
      simp [withNewlines, replacePair, replaceChar, noReturn]

/-- A text is read one line end, or else one character, after another. -/
theorem lineEnd_induction
    {motive : List Char → Prop}
    (nil : motive [])
    (pair : ∀ rest, motive rest → motive ('\r' :: '\n' :: rest))
    (carriageReturn :
      ∀ rest, rest.head? ≠ some '\n' → motive rest → motive ('\r' :: rest))
    (other :
      ∀ character rest,
        character ≠ '\r' → motive rest → motive (character :: rest))
    (text : List Char) :
    motive text := by
  have single (character : Char) : motive [character] := by
    by_cases isReturn : character = '\r'
    · subst isReturn
      exact carriageReturn [] nofun nil
    · exact other character [] isReturn nil
  induction text using (replacePair.induct '\r' '\n') with
  | case1 => exact nil
  | case2 character => exact single character
  | case3 character next rest isPair inductionHypothesis =>
      obtain ⟨rfl, rfl⟩ := isPair
      exact pair rest inductionHypothesis
  | case4 character next rest noPair inductionHypothesis =>
      by_cases isReturn : character = '\r'
      · subst isReturn
        exact carriageReturn _ (by simpa using noPair) inductionHypothesis
      · exact other character _ isReturn inductionHypothesis

theorem withNewlines_of_not_mem
    {text : List Char}
    (noReturn : '\r' ∉ text) :
    withNewlines text = text := by
  induction text with
  | nil => rfl
  | cons character rest inductionHypothesis =>
      rw [List.mem_cons, not_or] at noReturn
      rw [withNewlines_cons (Ne.symm noReturn.1),
        inductionHypothesis noReturn.2]

theorem LineEnd.withNewlines_append
    (lineEnd : LineEnd)
    {rest : List Char}
    (alone : lineEnd = carriageReturn → rest.head? ≠ some '\n') :
    withNewlines (lineEnd.characters ++ rest) = '\n' :: withNewlines rest := by
  cases lineEnd with
  | newline => exact withNewlines_cons (by decide) rest
  | carriageReturn => exact withNewlines_return (alone rfl)
  | both => exact withNewlines_pair rest

/-- Whichever line end stands for the newlines, the same lines are read. -/
theorem withNewlines_replaceChar
    {text : List Char}
    (noReturn : '\r' ∉ text)
    (lineEnd : LineEnd) :
    withNewlines (replaceChar '\n' lineEnd.characters text) = text := by
  induction text with
  | nil => rfl
  | cons character rest inductionHypothesis =>
      rw [List.mem_cons, not_or] at noReturn
      have later := inductionHypothesis noReturn.2
      rw [replaceChar, List.flatMap_cons, ← replaceChar]
      by_cases isNewline : character = '\n'
      · have alone :
            lineEnd = .carriageReturn →
              (replaceChar '\n' lineEnd.characters rest).head? ≠
                some '\n' := by
          rintro rfl
          cases rest with
          | nil => simp [replaceChar]
          | cons next others =>
              by_cases isNext : next = '\n' <;>
                simp [replaceChar, LineEnd.characters, isNext]
        rw [if_pos isNewline, lineEnd.withNewlines_append alone, later,
          isNewline]
      · rw [if_neg isNewline, List.singleton_append,
          withNewlines_cons (Ne.symm noReturn.1), later]

theorem withNewlines_blank
    {text : List Char}
    (blank : ∀ character ∈ text, isBlank character = true) :
    ∀ character ∈ withNewlines text, isBlank character = true := by
  have newline : isBlank '\n' = true := by decide
  induction text using lineEnd_induction with
  | nil => exact blank
  | pair rest inductionHypothesis =>
      rw [List.forall_mem_cons, List.forall_mem_cons] at blank
      rw [withNewlines_pair, List.forall_mem_cons]
      exact ⟨newline, inductionHypothesis blank.2.2⟩
  | carriageReturn rest alone inductionHypothesis =>
      rw [List.forall_mem_cons] at blank
      rw [withNewlines_return alone, List.forall_mem_cons]
      exact ⟨newline, inductionHypothesis blank.2⟩
  | other character rest noReturn inductionHypothesis =>
      rw [List.forall_mem_cons] at blank
      rw [withNewlines_cons noReturn, List.forall_mem_cons]
      exact ⟨blank.1, inductionHypothesis blank.2⟩

/-- One text after another: both as they are, or the line end between them is
the last one of the first text and the first one of the second. -/
def JoinsLines (first second whole : List Char) : Prop :=
  whole = first ++ second ∨
    ∃ before after,
      first = before ++ ['\n'] ∧
      second = '\n' :: after ∧
      whole = before ++ '\n' :: after

theorem JoinsLines.cons
    {first second whole : List Char}
    (character : Char)
    (joins : JoinsLines first second whole) :
    JoinsLines (character :: first) second (character :: whole) := by
  rcases joins with rfl | ⟨before, after, rfl, rfl, rfl⟩
  · exact Or.inl rfl
  · exact Or.inr ⟨character :: before, after, rfl, rfl, rfl⟩

theorem withNewlines_append
    (first second : List Char) :
    JoinsLines (withNewlines first) (withNewlines second)
      (withNewlines (first ++ second)) := by
  induction first using lineEnd_induction with
  | nil => exact Or.inl rfl
  | pair rest inductionHypothesis =>
      simp only [List.cons_append, withNewlines_pair]
      exact inductionHypothesis.cons '\n'
  | carriageReturn rest alone inductionHypothesis =>
      rw [List.cons_append, withNewlines_return alone]
      by_cases goesOn : (rest ++ second).head? = some '\n'
      · -- Only here one line end is made of a character of each text.
        have isLast : rest = [] := by
          cases rest with
          | nil => rfl
          | cons next others => exact (alone goesOn).elim
        subst isLast
        obtain ⟨others, rfl⟩ : ∃ others, second = '\n' :: others := by
          cases second with
          | nil => cases goesOn
          | cons next others => exact ⟨others, by simpa using goesOn⟩
        rw [List.nil_append, withNewlines_pair,
          withNewlines_cons (by decide)]
        exact Or.inr ⟨[], withNewlines others, rfl, rfl, rfl⟩
      · rw [withNewlines_return goesOn]
        exact inductionHypothesis.cons '\n'
  | other character rest noReturn inductionHypothesis =>
      simp only [List.cons_append, withNewlines_cons noReturn]
      exact inductionHypothesis.cons character

/-! ## Blocks -/

/-- The blocks of a text whose lines end with newlines. -/
def blocksOf (text : List Char) : List (List (List Char)) :=
  lineBlocks ((splitAtChar '\n' text).map trim)

theorem readSubtitles_eq (text : String) :
    readSubtitles text =
      (blocksOf (withNewlines text.toList)).filterMap cueOfBlock? :=
  rfl

theorem lineBlocks_nil_cons (rest : List (List Char)) :
    lineBlocks ([] :: rest) = lineBlocks rest := by
  simp [lineBlocks]

theorem lineBlocks_cons_nil
    {line : List Char}
    (filled : line ≠ [])
    (rest : List (List Char)) :
    lineBlocks (line :: [] :: rest) = [line] :: lineBlocks rest := by
  simp [lineBlocks, filled]

theorem lineBlocks_cons_cons
    {line next : List Char}
    {rest block : List (List Char)}
    {blocks : List (List (List Char))}
    (filled : line ≠ [])
    (nextFilled : next ≠ [])
    (isBlocks : lineBlocks (next :: rest) = block :: blocks) :
    lineBlocks (line :: next :: rest) = (line :: block) :: blocks := by
  rw [lineBlocks.eq_def]
  simp [filled, nextFilled, isBlocks]

theorem lineBlocks_ne_nil
    {line : List Char}
    (filled : line ≠ [])
    (rest : List (List Char)) :
    lineBlocks (line :: rest) ≠ [] := by
  rw [lineBlocks.eq_def]
  simp only [List.isEmpty_eq_false_iff.mpr filled, Bool.false_eq_true,
    ↓reduceIte]
  split
  · simp
  · split
    · simp
    · split <;> simp

/-- A run of nonempty lines is one block. -/
theorem lineBlocks_of_forall
    {lines : List (List Char)}
    (some : lines ≠ [])
    (filled : ∀ line ∈ lines, line ≠ []) :
    lineBlocks lines = [lines] := by
  induction lines with
  | nil => exact (some rfl).elim
  | cons line rest inductionHypothesis =>
      rw [List.forall_mem_cons] at filled
      cases rest with
      | nil => simp [lineBlocks, filled.1]
      | cons next others =>
          exact lineBlocks_cons_cons filled.1 (filled.2 next List.mem_cons_self)
            (inductionHypothesis (by simp) filled.2)

/-- An empty line parts blocks. -/
theorem lineBlocks_append
    (first second : List (List Char)) :
    lineBlocks (first ++ [] :: second) =
      lineBlocks first ++ lineBlocks second := by
  induction first with
  | nil => exact lineBlocks_nil_cons second
  | cons line rest inductionHypothesis =>
      by_cases isEmpty : line = []
      · rw [isEmpty, List.cons_append, lineBlocks_nil_cons, lineBlocks_nil_cons,
          inductionHypothesis]
      · cases rest with
        | nil =>
            have alone : lineBlocks [line] = [[line]] :=
              lineBlocks_of_forall (by simp) (by simpa using isEmpty)
            rw [List.singleton_append, lineBlocks_cons_nil isEmpty, alone]
            rfl
        | cons next others =>
            by_cases nextEmpty : next = []
            · subst nextEmpty
              simp only [List.cons_append] at inductionHypothesis ⊢
              rw [lineBlocks_nil_cons, lineBlocks_nil_cons]
                at inductionHypothesis
              rw [lineBlocks_cons_nil isEmpty, lineBlocks_cons_nil isEmpty,
                inductionHypothesis, List.cons_append]
            · obtain ⟨block, blocks, isBlocks⟩ :=
                List.exists_cons_of_ne_nil (lineBlocks_ne_nil nextEmpty others)
              rw [isBlocks] at inductionHypothesis
              rw [lineBlocks_cons_cons isEmpty nextEmpty isBlocks]
              exact lineBlocks_cons_cons isEmpty nextEmpty inductionHypothesis

section Blanks

variable {text other gap : List Char}

theorem blocksOf_cons
    {character : Char}
    (blank : isBlank character = true)
    (text : List Char) :
    blocksOf (character :: text) = blocksOf text := by
  unfold blocksOf
  by_cases isNewline : character = '\n'
  · subst isNewline
    rw [splitAtChar, if_pos rfl, List.map_cons]
    exact lineBlocks_nil_cons _
  · cases split : splitAtChar '\n' text with
    | nil => exact (splitAtChar_ne_nil '\n' text split).elim
    | cons line others =>
        rw [splitAtChar, if_neg isNewline, split]
        simp only [List.map_cons, trim_cons blank]

theorem blocksOf_concat
    {character : Char}
    (blank : isBlank character = true)
    (text : List Char) :
    blocksOf (text ++ [character]) = blocksOf text := by
  unfold blocksOf
  by_cases isNewline : character = '\n'
  · subst isNewline
    rw [splitAtChar_append, List.map_append]
    exact (lineBlocks_append _ []).trans (List.append_nil _)
  · obtain ⟨before, line, split, longer⟩ := splitAtChar_concat isNewline text
    rw [split, longer]
    simp only [List.map_append, List.map_cons, trim_concat blank]

theorem blocksOf_blank_append
    (blank : ∀ character ∈ gap, isBlank character = true)
    (text : List Char) :
    blocksOf (gap ++ text) = blocksOf text := by
  induction gap with
  | nil => rfl
  | cons character rest inductionHypothesis =>
      rw [List.forall_mem_cons] at blank
      rw [List.cons_append, blocksOf_cons blank.1, inductionHypothesis blank.2]

theorem blocksOf_append_blank
    (blank : ∀ character ∈ gap, isBlank character = true)
    (text : List Char) :
    blocksOf (text ++ gap) = blocksOf text := by
  induction gap generalizing text with
  | nil => rw [List.append_nil]
  | cons character rest inductionHypothesis =>
      rw [List.forall_mem_cons] at blank
      rw [List.append_cons, inductionHypothesis blank.2,
        blocksOf_concat blank.1]

/-- Blanks with two line ends among them part blocks. -/
theorem blocksOf_append_gap
    (blank : ∀ character ∈ gap, isBlank character = true)
    (lineEnds : 2 ≤ gap.count '\n')
    (first second : List Char) :
    blocksOf (first ++ gap ++ second) = blocksOf first ++ blocksOf second := by
  have some : '\n' ∈ gap := List.count_pos_iff.mp (by omega)
  obtain ⟨before, rest, rfl, free⟩ := List.eq_append_cons_of_mem some
  rw [List.count_append, List.count_eq_zero.mpr free, List.count_cons_self]
    at lineEnds
  have another : '\n' ∈ rest := List.count_pos_iff.mp (by omega)
  obtain ⟨line, after, rfl, lineFree⟩ := List.eq_append_cons_of_mem another
  simp only [List.forall_mem_append, List.forall_mem_cons] at blank
  obtain ⟨beforeBlank, _, lineBlank, _, afterBlank⟩ := blank
  calc blocksOf
        (first ++ (before ++ '\n' :: (line ++ '\n' :: after)) ++ second)
      = blocksOf
          ((first ++ before) ++
            '\n' :: (line ++ '\n' :: (after ++ second))) := by
        simp
    _ = blocksOf (first ++ before) ++ blocksOf (after ++ second) := by
        unfold blocksOf
        rw [splitAtChar_append, splitAtChar_append_cons lineFree,
          List.map_append, List.map_cons, trim_of_blank lineBlank,
          lineBlocks_append]
    _ = blocksOf first ++ blocksOf second := by
        rw [blocksOf_append_blank beforeBlank, blocksOf_blank_append afterBlank]

/-- A line end that two texts share is none of their blocks. -/
theorem JoinsLines.exists_before
    {first second whole : List Char}
    (joins : JoinsLines first second whole) :
    ∃ before, whole = before ++ second ∧ blocksOf before = blocksOf first := by
  rcases joins with rfl | ⟨before, after, rfl, rfl, rfl⟩
  · exact ⟨first, rfl, rfl⟩
  · exact ⟨before, rfl, (blocksOf_concat (by decide) before).symm⟩

theorem JoinsLines.exists_after
    {first second whole : List Char}
    (joins : JoinsLines first second whole) :
    ∃ after, whole = first ++ after ∧ blocksOf after = blocksOf second := by
  rcases joins with rfl | ⟨before, after, rfl, rfl, rfl⟩
  · exact ⟨second, rfl, rfl⟩
  · exact ⟨after, by simp, (blocksOf_cons (by decide) after).symm⟩

end Blanks

/-- Blanks with two line ends among them, however lines end. -/
structure IsGap (gap : List Char) : Prop where
  blank : ∀ character ∈ gap, isBlank character = true
  lineEnds : 2 ≤ (withNewlines gap).count '\n'

/-- What stands before a gap and what stands after it are read on their own. -/
theorem readSubtitles_append_gap
    {gap : String}
    (isGap : IsGap gap.toList)
    (first second : String) :
    readSubtitles (first ++ gap ++ second) =
      readSubtitles first ++ readSubtitles second := by
  obtain ⟨after, isAfter, sameAfter⟩ :=
    (withNewlines_append gap.toList second.toList).exists_after
  obtain ⟨before, isBefore, sameBefore⟩ :=
    (withNewlines_append first.toList
      (gap.toList ++ second.toList)).exists_before
  simp only [readSubtitles_eq, String.toList_append, List.append_assoc]
  rw [isBefore, isAfter, ← List.append_assoc,
    blocksOf_append_gap (withNewlines_blank isGap.blank) isGap.lineEnds,
    sameBefore, sameAfter, List.filterMap_append]

/-- A text with another end of its lines. -/
def LineEnd.rewrite (lineEnd : LineEnd) (text : String) : String :=
  String.ofList (replaceChar '\n' lineEnd.characters text.toList)

/-- Between empty lines a subtitle file is read part by part: no part changes,
hides or joins what another part holds, whatever blanks and line ends stand
between them, and every way to end lines is read alike. -/
theorem subtitle_parts_are_read_alone :
    (∀ first second : String,
      readSubtitles (first ++ "\n\n" ++ second) =
        readSubtitles first ++ readSubtitles second) ∧
    (∀ (text : String) (lineEnd : LineEnd),
      '\r' ∉ text.toList →
      readSubtitles (lineEnd.rewrite text) = readSubtitles text) ∧
    (∀ first gap middle other last : String,
      IsGap gap.toList →
      IsGap other.toList →
      readSubtitles (first ++ gap ++ middle ++ other ++ last) =
        readSubtitles first ++ readSubtitles middle ++ readSubtitles last) := by
  refine ⟨fun first second => ?_, fun text lineEnd noReturn => ?_,
    fun first gap middle other last isGap isOther => ?_⟩
  · have isGap : IsGap "\n\n".toList :=
      ⟨List.all_eq_true.mp (by decide), by decide⟩
    exact readSubtitles_append_gap isGap first second
  · simp only [readSubtitles_eq, LineEnd.rewrite, String.toList_ofList,
      withNewlines_replaceChar noReturn, withNewlines_of_not_mem noReturn]
  · rw [readSubtitles_append_gap isOther, readSubtitles_append_gap isGap]

/-- A block without times, between gaps of two kinds, hides no cue, although
the file before it ends within a line end. -/
theorem broken_block_hides_no_cue :
    IsGap "\n\t\r".toList ∧ IsGap " \r\n \u2003\n".toList ∧
    '\r' ∉ "00:00:03.5 --> 4\nBroken".toList ∧
    readSubtitles
        ("00:00:01,000 --> 00:00:02,500\nOne\r" ++ "\n\t\r" ++
          LineEnd.both.rewrite "00:00:03.5 --> 4\nBroken" ++
          " \r\n \u2003\n" ++ "7\n00:00:05,000 --> 00:00:06,000\nTwo") =
      [{ start := 1, stop := 2.5, text := "One" },
        { start := 5, stop := 6, text := "Two" }] := by
  have isGap : IsGap "\n\t\r".toList :=
    ⟨List.all_eq_true.mp (by decide), by decide⟩
  have isOther : IsGap " \r\n \u2003\n".toList :=
    ⟨List.all_eq_true.mp (by decide), by decide⟩
  have noReturn : '\r' ∉ "00:00:03.5 --> 4\nBroken".toList := by
    decide +kernel
  obtain ⟨_, alike, alone⟩ := subtitle_parts_are_read_alone
  have broken : readSubtitles "00:00:03.5 --> 4\nBroken" = [] := by
    decide +kernel
  have one :
      readSubtitles "00:00:01,000 --> 00:00:02,500\nOne\r" =
        [{ start := 1, stop := 2.5, text := "One" }] := by
    decide +kernel
  have two :
      readSubtitles "7\n00:00:05,000 --> 00:00:06,000\nTwo" =
        [{ start := 5, stop := 6, text := "Two" }] := by
    decide +kernel
  refine ⟨isGap, isOther, noReturn, ?_⟩
  rw [alone _ _ _ _ _ isGap isOther, alike _ .both noReturn, broken, one, two]
  rfl

/-! ## Marks in front -/

/-- The mark that some programs put in front of a text. -/
def byteOrderMark : Char :=
  '\uFEFF'

/-- A blank is no digit of any script. -/
theorem decimalDigit?_of_isBlank
    {character : Char}
    (blank : isBlank character = true) :
    decimalDigit? character = none := by
  have computed :
      ∀ start ∈ decimalZeros, ∀ offset < 10,
        isBlank (Char.ofNat (start + offset)) = false := by
    decide +kernel
  simp only [decimalDigit?, Option.map_eq_none_iff, List.find?_eq_none,
    Bool.and_eq_true, decide_eq_true_eq]
  rintro start member ⟨above, below⟩
  have notBlank := computed start member (character.toNat - start) (by omega)
  rw [Nat.add_sub_cancel' above, Char.ofNat_toNat, blank] at notBlank
  cases notBlank

/-- Times start with a digit. -/
theorem findTiming?_cons
    {character : Char}
    (noDigit : decimalDigit? character = none)
    (rest : List Char) :
    findTiming? (character :: rest) = findTiming? rest := by
  simp [findTiming?, timingAtStart?, ClockTime.take?, takeNumber?, noDigit]

/-- Blanks in front of times make no difference. -/
theorem findTiming?_trim (line : List Char) :
    findTiming? (line.reverse.dropWhile isBlank).reverse =
      findTiming? (trim line) := by
  induction line with
  | nil => rfl
  | cons character rest inductionHypothesis =>
      cases blank : isBlank character with
      | false => simp [trim, trimWhere, blank]
      | true =>
          rw [trim_cons blank, ← inductionHypothesis, List.reverse_cons,
            List.dropWhile_append]
          split
          · rename_i allBlank
            simp [List.isEmpty_iff.mp allBlank, blank]
          · simp [findTiming?_cons (decimalDigit?_of_isBlank blank)]

theorem suffix_of_takeNumber?
    {count total number : Nat}
    {text rest : List Char}
    (taken : takeNumber? count total text = some (number, rest)) :
    rest <:+ text := by
  induction count generalizing total text with
  | zero =>
      rw [takeNumber?] at taken
      cases taken
      exact List.suffix_refl _
  | succ count inductionHypothesis =>
      cases text with
      | nil => cases taken
      | cons character others =>
          obtain ⟨digit, _, isRest⟩ := Option.bind_eq_some_iff.mp taken
          exact (inductionHypothesis isRest).trans
            (List.suffix_cons character others)

/-- Times have colons. -/
theorem mem_of_findTiming?
    {line : List Char}
    {timing : ClockTime × ClockTime}
    (found : findTiming? line = some timing) :
    ':' ∈ line := by
  induction line with
  | nil => cases found
  | cons character rest inductionHypothesis =>
      unfold findTiming? at found
      split at found
      · rename_i isHere
        simp only [timingAtStart?, ClockTime.take?, Option.bind_eq_bind,
          Option.bind_eq_some_iff] at isHere
        obtain ⟨_, ⟨⟨hours, afterHours⟩, isHours, minutes, isColon, _⟩, _⟩ :=
          isHere
        cases afterHours with
        | nil => cases isColon
        | cons mark others =>
            have isMark : mark = ':' := by
              by_contra notColon
              simp [takeWhere?, notColon] at isColon
            rw [← isMark]
            exact (suffix_of_takeNumber? isHours).subset List.mem_cons_self
      · exact List.mem_cons_of_mem _ (inductionHypothesis found)

theorem findTiming?_of_isBlockNumber
    {line : List Char}
    (isNumber : isBlockNumber line = true) :
    findTiming? line = none := by
  rw [isBlockNumber, Bool.and_eq_true, List.all_eq_true] at isNumber
  cases found : findTiming? line with
  | none => rfl
  | some timing =>
      have isDigit := isNumber.2 ':' (mem_of_findTiming? found)
      exact absurd isDigit (by decide +kernel)

/-- A line with a mark in front of it has the times of the line, but it is
neither empty nor a number. -/
structure IsMarked (line marked : List Char) : Prop where
  filled : marked ≠ []
  noNumber : isBlockNumber marked = false
  sameTiming : findTiming? marked = findTiming? line

theorem isMarked_trim (line : List Char) :
    IsMarked (trim line) (trim (byteOrderMark :: line)) := by
  have notBlank : isBlank byteOrderMark = false := by decide
  have noDigit : isAnyDigit byteOrderMark = false := by decide +kernel
  have noDecimal : decimalDigit? byteOrderMark = none := by decide +kernel
  have shape :
      trim (byteOrderMark :: line) =
        byteOrderMark :: (line.reverse.dropWhile isBlank).reverse := by
    simp only [trim, trimWhere, List.dropWhile_cons, notBlank,
      Bool.false_eq_true, ↓reduceIte, List.reverse_cons, List.dropWhile_append]
    split
    · rename_i allBlank
      simp [List.isEmpty_iff.mp allBlank]
    · simp
  rw [shape]
  exact {
    filled := by simp
    noNumber := by simp [isBlockNumber, noDigit]
    sameTiming := by rw [findTiming?_cons noDecimal, findTiming?_trim] }

/-- Only the first line of a text changes behind a mark. -/
theorem subtitleLines_mark (text : List Char) :
    ∃ first marked rest,
      subtitleLines text = first :: rest ∧
      subtitleLines (byteOrderMark :: text) = marked :: rest ∧
      IsMarked first marked := by
  have noReturn : byteOrderMark ≠ '\r' := by decide
  have noNewline : byteOrderMark ≠ '\n' := by decide
  unfold subtitleLines
  rw [withNewlines_cons noReturn, splitAtChar, if_neg noNewline]
  cases split : splitAtChar '\n' (withNewlines text) with
  | nil => exact absurd split (splitAtChar_ne_nil _ _)
  | cons line others => exact ⟨_, _, _, rfl, rfl, isMarked_trim line⟩

/-- The cue of a block that starts in the first line with its number, or below
the first line. -/
def cueBehindMark? (lines : List (List Char)) : Option Cue :=
  match lines with
  | first :: second :: _ =>
      if (first.isEmpty && !second.isEmpty) ||
          (isBlockNumber first && occursIn "-->".toList second) then
        (lineBlocks lines).head?.bind cueOfBlock?
      else
        none
  | _ => none

theorem lineBlocks_cons_of_filled
    {line : List Char}
    (filled : line ≠ [])
    (rest : List (List Char)) :
    ∃ more blocks, lineBlocks (line :: rest) = (line :: more) :: blocks := by
  rw [lineBlocks.eq_def]
  simp only [List.isEmpty_eq_false_iff.mpr filled, Bool.false_eq_true,
    ↓reduceIte]
  split
  · exact ⟨_, _, rfl⟩
  · split
    · exact ⟨_, _, rfl⟩
    · split <;> exact ⟨_, _, rfl⟩

theorem cueOfBlock?_of_noTiming
    {first : List Char}
    {rest : List (List Char)}
    (noNumber : isBlockNumber first = false)
    (noTiming : findTiming? first = none) :
    cueOfBlock? (first :: rest) = none := by
  cases rest with
  | nil => rfl
  | cons second others =>
      simp [cueOfBlock?, blockParts?, noNumber, noTiming]

/-- Behind a mark a block keeps its cue, unless it starts with its number. -/
theorem IsMarked.cueOfBlock?_eq
    {line marked : List Char}
    (isMarked : IsMarked line marked)
    (second : List Char)
    (rest : List (List Char)) :
    cueOfBlock? (marked :: second :: rest) =
      if isBlockNumber line && occursIn "-->".toList second then
        none
      else
        cueOfBlock? (line :: second :: rest) := by
  split
  · rename_i numbered
    rw [Bool.and_eq_true] at numbered
    exact cueOfBlock?_of_noTiming isMarked.noNumber
      (isMarked.sameTiming.trans (findTiming?_of_isBlockNumber numbered.1))
  · rename_i notNumbered
    have parts :
        blockParts? (line :: second :: rest) = some (line, second :: rest) :=
      if_neg notNumbered
    have markedParts :
        blockParts? (marked :: second :: rest) =
          some (marked, second :: rest) := by
      simp [blockParts?, isMarked.noNumber]
    simp only [cueOfBlock?, parts, markedParts, Option.bind_eq_bind,
      Option.bind_some, isMarked.sameTiming]

/-- The cues of lines. -/
def cuesOfLines (lines : List (List Char)) : List Cue :=
  (lineBlocks lines).filterMap cueOfBlock?

theorem cuesOfLines_of_blocks
    {lines block : List (List Char)}
    {blocks : List (List (List Char))}
    (isBlocks : lineBlocks lines = block :: blocks) :
    cuesOfLines lines =
      (cueOfBlock? block).toList ++ blocks.filterMap cueOfBlock? := by
  rw [cuesOfLines, isBlocks]
  cases isCue : cueOfBlock? block <;> simp [isCue]

/-- The cues of lines are those behind a mark and the one that it takes away. -/
theorem IsMarked.cuesOfLines_eq
    {line marked : List Char}
    (isMarked : IsMarked line marked)
    (rest : List (List Char)) :
    cuesOfLines (line :: rest) =
      (cueBehindMark? (line :: rest)).toList ++
        cuesOfLines (marked :: rest) := by
  have alone (others : List (List Char)) :
      cuesOfLines (marked :: [] :: others) = cuesOfLines others :=
    cuesOfLines_of_blocks (lineBlocks_cons_nil isMarked.filled others)
  have single {only : List Char} (filled : only ≠ []) :
      cuesOfLines [only] = [] :=
    cuesOfLines_of_blocks
      (lineBlocks_of_forall (by simp) (by simpa using filled))
  cases rest with
  | nil =>
      rw [single isMarked.filled]
      by_cases filled : line = []
      · rw [filled]
        rfl
      · exact single filled
  | cons second others =>
      by_cases ends : second = []
      · subst ends
        have stays : cueBehindMark? (line :: [] :: others) = none := by
          simp [cueBehindMark?, occursIn]
        rw [stays, alone]
        by_cases filled : line = []
        · simp [cuesOfLines, filled, lineBlocks_nil_cons]
        · exact cuesOfLines_of_blocks (lineBlocks_cons_nil filled others)
      · obtain ⟨more, blocks, isBlocks⟩ :=
          lineBlocks_cons_of_filled ends others
        rw [cuesOfLines_of_blocks
          (lineBlocks_cons_cons isMarked.filled ends isBlocks)]
        by_cases filled : line = []
        · subst filled
          have lost : cueOfBlock? (marked :: second :: more) = none :=
            cueOfBlock?_of_noTiming isMarked.noNumber isMarked.sameTiming
          have behind :
              cueBehindMark? ([] :: second :: others) =
                cueOfBlock? (second :: more) := by
            simp [cueBehindMark?, ends, lineBlocks_nil_cons, isBlocks]
          rw [lost, behind, cuesOfLines, lineBlocks_nil_cons]
          exact cuesOfLines_of_blocks isBlocks
        · have isFirst := lineBlocks_cons_cons filled ends isBlocks
          rw [cuesOfLines_of_blocks isFirst, isMarked.cueOfBlock?_eq]
          simp only [cueBehindMark?, List.isEmpty_eq_false_iff.mpr filled,
            Bool.false_and, Bool.false_or, isFirst]
          split <;> rfl

/-- Behind a mark the cue of the first block is lost if the block starts with
its number, or below the line of the mark. Nothing else changes. -/
theorem mark_takes_away_first_cue (text : String) :
    readSubtitles text =
      (cueBehindMark? (subtitleLines text.toList)).toList ++
        readSubtitles (String.singleton byteOrderMark ++ text) ∧
    (readSubtitles (String.singleton byteOrderMark ++ text) =
        readSubtitles text ↔
      cueBehindMark? (subtitleLines text.toList) = none) := by
  obtain ⟨first, marked, rest, isText, isBehind, isMarked⟩ :=
    subtitleLines_mark text.toList
  have split :
      readSubtitles text =
        (cueBehindMark? (subtitleLines text.toList)).toList ++
          readSubtitles (String.singleton byteOrderMark ++ text) := by
    simp only [readSubtitles, String.toList_append, String.toList_singleton,
      List.singleton_append, isText, isBehind]
    exact isMarked.cuesOfLines_eq rest
  refine ⟨split, ?_⟩
  rw [split]
  simp

/-- Behind a mark a file that starts with a number loses its first cue, and no
other one. -/
theorem numbered_cue_is_lost_behind_mark :
    readSubtitles
        ("1\n00:00:01,000 --> 00:00:02,000\nOne\n\n" ++
          "2\n00:00:03,000 --> 00:00:04,000\nTwo") =
      [{ start := 1, stop := 2, text := "One" },
        { start := 3, stop := 4, text := "Two" }] ∧
    readSubtitles
        ("\uFEFF1\n00:00:01,000 --> 00:00:02,000\nOne\n\n" ++
          "2\n00:00:03,000 --> 00:00:04,000\nTwo") =
      [{ start := 3, stop := 4, text := "Two" }] := by
  generalize isText :
    "1\n00:00:01,000 --> 00:00:02,000\nOne\n\n" ++
      "2\n00:00:03,000 --> 00:00:04,000\nTwo" = text
  have cues :
      readSubtitles text =
        [{ start := 1, stop := 2, text := "One" },
          { start := 3, stop := 4, text := "Two" }] := by
    rw [← isText]
    decide +kernel
  have behind :
      cueBehindMark? (subtitleLines text.toList) =
        some { start := 1, stop := 2, text := "One" } := by
    rw [← isText]
    decide +kernel
  have marked :
      "\uFEFF1\n00:00:01,000 --> 00:00:02,000\nOne\n\n" ++
          "2\n00:00:03,000 --> 00:00:04,000\nTwo" =
        String.singleton byteOrderMark ++ text := by
    rw [← isText]
    decide +kernel
  refine ⟨cues, ?_⟩
  have split := (mark_takes_away_first_cue text).1
  rw [cues, behind, Option.toList_some, List.singleton_append,
    List.cons.injEq] at split
  rw [marked, ← split.2]

end Montage
