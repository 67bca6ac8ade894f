import Mathlib.Tactic.Positivity
import Montage.Proofs.Effect.Ranges
import Montage.Proofs.Number.Relative
import Montage.Proofs.Subtitle.Clock
import Montage.Proofs.Subtitle.Cues
import Montage.Proofs.Subtitle.Lines
import Montage.Render.Composition

namespace Montage

/-!
# How long cues are shown

A cue stops after it starts, but a document counts in hundredths of a second of
the output. So a cue may start and stop in the same hundredth; it never stops
before it starts, and a cue that lasts longer than a hundredth, and a little
longer for the roundings, starts and stops in different ones.
-/

/-! ## Cues and where they come from -/

/-- Both times of a cue are finite, and it stops after it starts. -/
structure Cue.IsProper (cue : Cue) : Prop where
  nonnegative : Binary64.atMost 0 cue.start = true
  startFinite : cue.start.isFinite = true
  stopFinite : cue.stop.isFinite = true
  ordered : cue.start.less cue.stop = true

/-- What cues are read from: the text of a subtitle file, or segments of a
timeline that were accepted. -/
inductive CueSource
  | file (text : String)
  | segments
      (entries : List TimelineEntry)
      (accepted : ∀ entry ∈ entries, entry.IsAccepted)

/-- The cues of a source. -/
def CueSource.cues : CueSource → List Cue
  | file text => readSubtitles text
  | segments entries _ => segmentCues entries

/-- No time in seconds has a minus sign. -/
theorem ClockTime.IsBounded.isUnsigned
    {time : ClockTime}
    (bounded : time.IsBounded) :
    time.inSeconds.IsUnsigned := by
  have isFinite := bounded.within.isFinite
  obtain ⟨hours, minutes, seconds, milliseconds⟩ := bounded
  have whole :
      (Binary64.ofDecimal false
        (time.hours * 3600 + time.minutes * 60 + time.seconds) 0).Within
          (2 * 400000 + 1) :=
    Binary64.within_ofDecimal _ (by omega) (by decide)
      (lt_powerOfTwo_of_short (by decide) (by decide))
  have fraction :
      (Binary64.ofDecimal false time.milliseconds (-3)).Within
        (2 * 1000 + 1) :=
    Binary64.within_ofDecimal _ (by omega) (by decide)
      (lt_powerOfTwo_of_short (by decide) (by decide))
  exact (Binary64.isUnsigned_ofDecimal whole.isFinite).add
    (Binary64.isUnsigned_ofDecimal fraction.isFinite) isFinite

/-- A cue that was not left out for its times is proper, if they are finite. -/
theorem Cue.isProper_of_not_atMost
    {cue : Cue}
    (start : Binary64.atMost 0 cue.start = true)
    (stop : Binary64.atMost 0 cue.stop = true)
    (startFinite : cue.start.isFinite = true)
    (stopFinite : cue.stop.isFinite = true)
    (kept : cue.stop.atMost cue.start = false) :
    cue.IsProper := by
  obtain ⟨_, low, _, isLow, _⟩ := Binary64.atMost_iff.mp start
  obtain ⟨_, high, _, isHigh, _⟩ := Binary64.atMost_iff.mp stop
  exact {
    nonnegative := start
    startFinite
    stopFinite
    ordered := Binary64.less_of_not_atMost isLow isHigh kept }

theorem isProper_of_readSubtitles
    {text : String}
    {cue : Cue}
    (member : cue ∈ readSubtitles text) :
    cue.IsProper := by
  have isShort := isShort_of_readSubtitles text cue member
  obtain ⟨block, _, isCue⟩ := List.mem_filterMap.mp member
  simp only [cueOfBlock?, Option.bind_eq_bind, Option.bind_eq_some_iff]
    at isCue
  obtain ⟨⟨timingLine, textLines⟩, _, ⟨start, stop⟩, isTiming, isCue⟩ := isCue
  obtain ⟨startBounded, stopBounded⟩ := isBounded_of_findTiming? isTiming
  split at isCue
  · cases isCue
  · rename_i kept
    cases isCue
    simp only [Bool.or_eq_true, not_or, Bool.not_eq_true] at kept
    exact Cue.isProper_of_not_atMost startBounded.isUnsigned.nonnegative
      stopBounded.isUnsigned.nonnegative isShort.start.isFinite
      isShort.stop.isFinite kept.1

/-- A segment that was accepted ends after its start. -/
theorem TimelineEntry.IsAccepted.endsAfterStart
    {entry : TimelineEntry}
    (accepted : entry.IsAccepted) :
    entry.endsAfterStart = true := by
  obtain ⟨value, isRead⟩ := accepted
  obtain ⟨checked, _, isChecked⟩ := Checked.andThen_eq_valid isRead
  split at isChecked
  · cases isChecked
  · rename_i notRefused
    cases isChecked
    unfold refusal? at notRefused
    split at notRefused
    · cases notRefused
    split at notRefused
    · cases notRefused
    split at notRefused
    · cases notRefused
    · rename_i ends
      simpa using ends

/-- The finite cues of every source are proper. -/
theorem CueSource.isProper
    (source : CueSource)
    {cue : Cue}
    (member : cue ∈ source.cues)
    (startFinite : cue.start.isFinite = true)
    (stopFinite : cue.stop.isFinite = true) :
    cue.IsProper := by
  cases source with
  | file text => exact isProper_of_readSubtitles member
  | segments entries accepted =>
      obtain ⟨entry, isEntry, isCue⟩ := List.mem_filterMap.mp member
      have complete := (accepted entry isEntry).isComplete
      have ends := (accepted entry isEntry).endsAfterStart
      unfold TimelineEntry.cue? at isCue
      unfold TimelineEntry.endsAfterStart at ends
      split at isCue
      · rename_i stop text isStop _
        cases isCue
        rw [isStop] at ends
        exact Cue.isProper_of_not_atMost complete.start
          (complete.stop stop isStop) startFinite stopFinite
          (by simpa using ends)
      · cases isCue

/-! ## Roundings

The scale is a quotient that was rounded, and each time is rounded twice before
it is counted.
-/

section Margin

variable {start stop speed scale half : ℚ}

theorem scale_mul_speed_ge
    (slow : 1 / 4 ≤ speed)
    (fast : speed ≤ 4)
    (nonnegative : 0 ≤ half)
    (near : |scale - 1 / speed| ≤ |1 / speed| * roundingShare + half) :
    1 - roundingShare - 4 * half ≤ scale * speed := by
  have positive : 0 < speed := by linarith
  have inverse : 1 / speed * speed = 1 := by field_simp
  have lower := (abs_le.mp near).1
  rw [abs_of_pos (by positivity)] at lower
  have scaled :
      (1 / speed - (1 / speed * roundingShare + half)) * speed ≤
        scale * speed :=
    mul_le_mul_of_nonneg_right (by linarith) positive.le
  have expanded :
      (1 / speed - (1 / speed * roundingShare + half)) * speed =
        1 / speed * speed * (1 - roundingShare) - half * speed := by
    ring
  have rest : half * speed ≤ half * 4 :=
    mul_le_mul_of_nonneg_left fast nonnegative
  rw [expanded, inverse] at scaled
  linarith

/-- A time is scaled and counted in hundredths, and rounded twice. -/
theorem hundredths_near
    {product scaled counted : ℚ}
    (nonnegative : 0 ≤ product)
    (halfNonnegative : 0 ≤ half)
    (scaledNear : |scaled - product| ≤ |product| * roundingShare + half)
    (countedNear :
      |counted - scaled * 100| ≤ |scaled * 100| * roundingShare + half) :
    |counted - product * 100| ≤
      product * (300 * roundingShare) + 102 * half := by
  have share : roundingShare * roundingShare ≤ roundingShare := by
    norm_num [roundingShare]
  have few : 100 * roundingShare ≤ 1 := by
    norm_num [roundingShare]
  have positive : 0 ≤ roundingShare := by
    norm_num [roundingShare]
  rw [abs_of_nonneg nonnegative] at scaledNear
  have size :
      |scaled * 100| ≤ 100 * (product + product * roundingShare + half) := by
    have split := abs_sub_abs_le_abs_sub scaled product
    rw [abs_of_nonneg nonnegative] at split
    rw [abs_mul, abs_of_pos (by norm_num : (0 : ℚ) < 100)]
    linarith
  have scaledSize := mul_le_mul_of_nonneg_right size positive
  have squares := mul_le_mul_of_nonneg_left share nonnegative
  have halves := mul_le_mul_of_nonneg_right few halfNonnegative
  calc |counted - product * 100|
      = |counted - scaled * 100 + (scaled - product) * 100| := by
        congr 1
        ring
    _ ≤ |counted - scaled * 100| + |(scaled - product) * 100| := abs_add_le _ _
    _ ≤ product * (300 * roundingShare) + 102 * half := by
        rw [abs_mul, abs_of_pos (by norm_num : (0 : ℚ) < 100)]
        linarith

/-- What lasts longer than a hundredth of the output, and a little longer for
the roundings, is more than one hundredth apart. -/
theorem hundredths_apart
    {first last : ℚ}
    (slow : 1 / 4 ≤ speed)
    (fast : speed ≤ 4)
    (halfNonnegative : 0 ≤ half)
    (halfSmall : half ≤ 1 / 2 ^ 100)
    (startNonnegative : 0 ≤ start)
    (lasts : speed / 100 + stop / 2 ^ 50 < stop - start)
    (scaleNear : |scale - 1 / speed| ≤ |1 / speed| * roundingShare + half)
    (firstNear :
      |first - start * scale * 100| ≤
        start * scale * (300 * roundingShare) + 102 * half)
    (lastNear :
      |last - stop * scale * 100| ≤
        stop * scale * (300 * roundingShare) + 102 * half) :
    1 < last - first := by
  have speedPositive : 0 < speed := by linarith
  have scaled := scale_mul_speed_ge slow fast halfNonnegative scaleNear
  have scalePositive : 0 < scale := by
    have product : 0 < scale * speed := by
      norm_num [roundingShare] at scaled ⊢
      linarith
    exact (mul_pos_iff_of_pos_right speedPositive).mp product
  have ordered : start * scale ≤ stop * scale :=
    mul_le_mul_of_nonneg_right (by linarith) scalePositive.le
  have long : speed / 100 * scale ≤ stop * scale :=
    mul_le_mul_of_nonneg_right (by linarith) scalePositive.le
  have apart :
      0 ≤ (stop - start - speed / 100 - stop / 2 ^ 50) * scale :=
    mul_nonneg (by linarith) scalePositive.le
  have lower := (abs_le.mp lastNear).1
  have upper := (abs_le.mp firstNear).2
  have share : roundingShare = 1 / 2 ^ 53 := rfl
  rw [share] at scaled lower upper
  linarith

end Margin

/-! ## Counted times -/

namespace DocumentSetting

variable {setting : DocumentSetting}

/-- A time is printed as the nearest hundredths of the output. -/
def Counts
    (setting : DocumentSetting)
    (seconds : Binary64)
    (time : PrintedTime) :
    Prop :=
  ∃ nearest,
    (seconds * setting.timeScale * 100).round = .ok nearest ∧
      time.total = nearest.toNat

theorem exact_quarter : (0.25 : Binary64).exact = 1 / 4 := by
  have unit : unitsPerOne = 4 * powerOfTwo 1072 :=
    powerOfTwo_eq_mul 2 rfl rfl
  have positive : (powerOfTwo 1072 : ℚ) ≠ 0 := by
    exact_mod_cast (powerOfTwo_pos 1072).ne'
  rw [Binary64.exact_of_position Binary64.position_quarter, unit]
  -- The share is a variable here: arithmetic shall not compute its number.
  generalize powerOfTwo 1072 = share at positive ⊢
  push_cast
  field_simp

/-! ### Speeds that can be chosen -/

section Speeds

variable {speed : Binary64}

theorem quarter_le_speed
    (least : Binary64.atMost 0.25 speed = true) :
    1 / 4 ≤ speed.exact := by
  rw [← exact_quarter]
  exact Binary64.exact_le_of_atMost least

theorem speed_le_four
    (greatest : speed.atMost 4 = true) :
    speed.exact ≤ 4 := by
  have four : (4 : Binary64).exact = 4 := Binary64.exact_natural 4 (by decide)
  rw [← four]
  exact Binary64.exact_le_of_atMost greatest

theorem speed_isFinite
    (least : Binary64.atMost 0.25 speed = true)
    (greatest : speed.atMost 4 = true) :
    speed.isFinite = true := by
  have aboveZero : Binary64.atMost 0 0.25 = true :=
    Binary64.atMost_iff.mpr
      ⟨0, _, rfl, Binary64.position_quarter, Int.natCast_nonneg _⟩
  exact (Binary64.Within.of_atMost (Binary64.atMost_trans aboveZero least)
    greatest (Binary64.position_natural 4 (by decide))
    (lt_powerOfTwo_of_short (by decide) (by decide))).isFinite

end Speeds

/-- The scale is the inverse of the speed but for one rounding. -/
theorem timeScale_approximates
    (least : Binary64.atMost 0.25 setting.speed = true)
    (greatest : setting.speed.atMost 4 = true) :
    setting.timeScale.Approximates (1 / setting.speed.exact) := by
  have notZero : setting.speed.isZero = false := by
    by_contra isZero
    rw [Bool.not_eq_false] at isZero
    have low := quarter_le_speed least
    rw [Binary64.exact_of_isZero isZero] at low
    norm_num at low
  obtain ⟨quotient, isQuotient⟩ :=
    (Binary64.divide_isOk_iff 1 setting.speed).mpr notZero
  have isScale : setting.timeScale = quotient := by
    simp only [timeScale, isQuotient]
  have isFinite := (timeScale_within least greatest).isFinite
  rw [isScale] at isFinite ⊢
  have one : (1 : Binary64).exact = 1 := by
    simpa using Binary64.exact_natural 1 (by decide)
  rw [← one]
  exact Binary64.divide_approximates
    (Binary64.within_natural 1 (by decide)).isFinite
    (speed_isFinite least greatest) isQuotient isFinite

theorem timeScale_nonnegative
    (least : Binary64.atMost 0.25 setting.speed = true)
    (greatest : setting.speed.atMost 4 = true) :
    0 ≤ setting.timeScale.exact := by
  have zero : (0 : Binary64).exact = 0 := Binary64.exact_of_isZero rfl
  rw [← zero]
  exact Binary64.exact_le_of_atMost
    (timeScale_isUnsigned least greatest).nonnegative

/-- Counted times are in the order of the times. -/
theorem Counts.le
    {first second : Binary64}
    {earlier later : PrintedTime}
    (unsigned : setting.timeScale.IsUnsigned)
    (isEarlier : setting.Counts first earlier)
    (isLater : setting.Counts second later)
    (ordered : first.atMost second = true) :
    earlier.total ≤ later.total := by
  obtain ⟨lower, isLower, earlierTotal⟩ := isEarlier
  obtain ⟨upper, isUpper, laterTotal⟩ := isLater
  rw [earlierTotal, laterTotal]
  exact Int.toNat_le_toNat
    (nearest_le_of_atMost unsigned isLower isUpper ordered)

/-- A counted time is the exact one but for the roundings. -/
theorem Counts.near
    {seconds : Binary64}
    {time : PrintedTime}
    (counts : setting.Counts seconds time)
    (nonnegative : 0 ≤ seconds.exact * setting.timeScale.exact) :
    ∃ (nearest : Int) (counted : ℚ),
      time.total = nearest.toNat ∧
      |(nearest : ℚ) - counted| ≤ 1 / 2 ∧
      |counted - seconds.exact * setting.timeScale.exact * 100| ≤
        seconds.exact * setting.timeScale.exact * (300 * roundingShare) +
          102 * (1 / 2 / unitsPerOne) := by
  obtain ⟨nearest, isNearest, total⟩ := counts
  have isFinite := Binary64.isFinite_of_round isNearest
  obtain ⟨scaledFinite, _⟩ := Binary64.isFinite_of_multiply isFinite
  have scaled := Binary64.multiply_approximates scaledFinite
  have counted := Binary64.multiply_approximates isFinite
  have hundred : (100 : Binary64).exact = 100 :=
    Binary64.exact_natural 100 (by decide)
  rw [hundred] at counted
  exact ⟨nearest, _, total, Binary64.round_near isNearest,
    hundredths_near nonnegative Binary64.halfUnit_nonnegative scaled counted⟩

/-- Times that are more than a hundredth of the output apart, and a little more
for the roundings, are counted differently. -/
theorem Counts.lt
    (least : Binary64.atMost 0.25 setting.speed = true)
    (greatest : setting.speed.atMost 4 = true)
    {first second : Binary64}
    {earlier later : PrintedTime}
    (isEarlier : setting.Counts first earlier)
    (isLater : setting.Counts second later)
    (nonnegative : 0 ≤ first.exact)
    (lasts :
      setting.speed.exact / 100 + second.exact / 2 ^ 50 <
        second.exact - first.exact) :
    earlier.total < later.total := by
  have slow := quarter_le_speed least
  have scaleNonnegative := timeScale_nonnegative least greatest
  have secondNonnegative : 0 ≤ second.exact := by linarith
  have firstProduct := mul_nonneg nonnegative scaleNonnegative
  obtain ⟨lower, firstCounted, isTotal, lowerNear, firstNear⟩ :=
    isEarlier.near firstProduct
  obtain ⟨upper, secondCounted, isOther, upperNear, secondNear⟩ :=
    isLater.near (mul_nonneg secondNonnegative scaleNonnegative)
  have apart :=
    hundredths_apart slow (speed_le_four greatest)
      Binary64.halfUnit_nonnegative Binary64.halfUnit_small nonnegative lasts
      (timeScale_approximates least greatest) firstNear secondNear
  have lowerBound := (abs_le.mp lowerNear).2
  have upperBound := (abs_le.mp upperNear).1
  have ordered : lower < upper := by
    have inRationals : (lower : ℚ) < upper := by linarith
    exact_mod_cast inRationals
  -- Negative counts would both be printed as zero.
  have positive : 0 < upper := by
    have share : roundingShare = 1 / 2 ^ 53 := rfl
    have halfSmall := Binary64.halfUnit_small
    have firstBound := (abs_le.mp firstNear).1
    rw [share] at firstBound
    have inRationals : (0 : ℚ) < upper := by linarith
    exact_mod_cast inRationals
  omega

/-! ## Lines of documents -/

/-- Both times of a cue are counted as its line has them. -/
structure CountsCue
    (setting : DocumentSetting)
    (printed : PrintedCue) :
    Prop where
  start : setting.Counts printed.cue.start printed.start
  stop : setting.Counts printed.cue.stop printed.stop

/-- A document has the lines of its cues, each with the times that are
counted. -/
structure HasLines
    (setting : DocumentSetting)
    (cues : List Cue)
    (printed : List PrintedCue)
    (text : String) :
    Prop where
  cues : printed.map PrintedCue.cue = cues
  counts : ∀ one ∈ printed, setting.CountsCue one
  whole :
    ∃ limit markup,
      charactersPerLine setting.width (.integer setting.style.fontSize) =
        .ok limit ∧
      setting.markup = .ok markup ∧
      text =
        String.join
          ((setting.headLines ++ printed.map (·.line limit markup)).map
            (· ++ "\n"))

namespace HasLines

variable {cues : List Cue} {printed : List PrintedCue} {text : String}

theorem cue_mem
    (hasLines : setting.HasLines cues printed text)
    {one : PrintedCue}
    (member : one ∈ printed) :
    one.cue ∈ cues := by
  rw [← hasLines.cues]
  exact List.mem_map_of_mem member

theorem exists_one
    (hasLines : setting.HasLines cues printed text)
    (single : cues.length = 1) :
    ∃ one, printed = [one] := by
  rw [← hasLines.cues, List.length_map] at single
  exact List.length_eq_one_iff.mp single

end HasLines

theorem writeTime_counts (setting : DocumentSetting) (seconds : Binary64) :
    (writeTime (seconds * setting.timeScale)).Yields fun text =>
      ∃ time : PrintedTime, setting.Counts seconds time ∧ text = time.text := by
  intro text isText
  cases isNearest : (seconds * setting.timeScale * 100).round with
  | error failure =>
      rw [writeTime, centiseconds, isNearest] at isText
      cases isText
  | ok nearest =>
      have isTotal := PrintedTime.total_ofTotal nearest.toNat
      rw [PrintedTime.writeTime_of_round isNearest isTotal] at isText
      cases isText
      exact ⟨_, ⟨nearest, isNearest, isTotal⟩, rfl⟩

theorem cueLine_counts
    (setting : DocumentSetting)
    (limit : Nat)
    (markup : String)
    (cue : Cue) :
    (setting.cueLine limit markup cue).Yields fun line =>
      ∃ printed : PrintedCue,
        printed.cue = cue ∧
        setting.CountsCue printed ∧
        line = printed.line limit markup := by
  unfold cueLine
  refine (setting.writeTime_counts cue.start).bind fun _ isStart => ?_
  refine (setting.writeTime_counts cue.stop).bind fun _ isStop => .ok ?_
  obtain ⟨start, startCounts, rfl⟩ := isStart
  obtain ⟨stop, stopCounts, rfl⟩ := isStop
  exact ⟨⟨cue, start, stop⟩, rfl, ⟨startCounts, stopCounts⟩, rfl⟩

theorem cueLines_count
    (setting : DocumentSetting)
    (limit : Nat)
    (markup : String)
    (cues : List Cue) :
    (cues.mapM (setting.cueLine limit markup)).Yields fun lines =>
      ∃ printed : List PrintedCue,
        printed.map PrintedCue.cue = cues ∧
        (∀ one ∈ printed, setting.CountsCue one) ∧
        lines = printed.map (·.line limit markup) := by
  induction cues with
  | nil => exact .ok ⟨[], rfl, by simp, rfl⟩
  | cons cue others inductionHypothesis =>
      rw [List.mapM_cons]
      refine (setting.cueLine_counts limit markup cue).bind fun _ isLine => ?_
      refine inductionHypothesis.bind fun _ areLines => .ok ?_
      obtain ⟨one, rfl, counts, rfl⟩ := isLine
      obtain ⟨printed, rfl, allCount, rfl⟩ := areLines
      exact ⟨one :: printed, rfl, List.forall_mem_cons.mpr ⟨counts, allCount⟩,
        rfl⟩

/-- Every document that is made has the lines of its cues. -/
theorem document_hasLines (setting : DocumentSetting) (cues : List Cue) :
    (setting.document cues).Yields fun text =>
      ∃ printed, setting.HasLines cues printed text := by
  unfold document
  refine Outcome.Yields.self.bind fun limit isLimit => ?_
  refine Outcome.Yields.self.bind fun markup isMarkup => ?_
  refine (setting.cueLines_count limit markup cues).bind fun _ areLines =>
    .ok ?_
  obtain ⟨printed, areCues, counts, rfl⟩ := areLines
  exact ⟨printed, areCues, counts, limit, markup, isLimit, isMarkup, rfl⟩

/-- The cues of a file make a document in every setting that is accepted. -/
theorem IsAccepted.exists_document
    (accepted : setting.IsAccepted)
    (file : String) :
    ∃ text, setting.document (readSubtitles file) = .ok text := by
  obtain ⟨limit, isLimit⟩ := accepted.exists_limit
  obtain ⟨markup, _, isMarkup, _⟩ := accepted.exists_markup
  have each :
      ∀ cue ∈ readSubtitles file,
        ∃ line, setting.cueLine limit markup cue = .ok line := by
    intro cue member
    rw [cueLine_eq_ok_iff]
    exact (isShort_of_readSubtitles file cue member).isTimed
      (timeScale_within accepted.slowest accepted.fastest)
  obtain ⟨lines, made⟩ := Outcome.mapM_eq_ok_iff.mpr each
  rw [document_eq isLimit isMarkup, made]
  exact ⟨_, rfl⟩

end DocumentSetting

/-- A cue is printed as shown for some hundredths, or for none. -/
structure PrintedCue.IsShown
    (setting : DocumentSetting)
    (printed : PrintedCue) :
    Prop where
  ordered : printed.start.total ≤ printed.stop.total
  lasting :
    setting.speed.exact / 100 + printed.cue.stop.exact / 2 ^ 50 <
        printed.cue.stop.exact - printed.cue.start.exact →
      printed.start.total < printed.stop.total

/-- A proper cue is printed as shown. -/
theorem DocumentSetting.CountsCue.isShown
    {setting : DocumentSetting}
    {printed : PrintedCue}
    (counts : setting.CountsCue printed)
    (least : Binary64.atMost 0.25 setting.speed = true)
    (greatest : setting.speed.atMost 4 = true)
    (proper : printed.cue.IsProper) :
    printed.IsShown setting where
  ordered :=
    counts.start.le (timeScale_isUnsigned least greatest) counts.stop
      (Binary64.reached_of_less proper.ordered)
  lasting := by
    have nonnegative := Binary64.exact_le_of_atMost proper.nonnegative
    rw [Binary64.exact_of_isZero rfl] at nonnegative
    exact counts.start.lt least greatest counts.stop nonnegative

/--
Whatever the cues were read from, no line of a document stops before it starts:
its times are the nearest hundredths of the output, so they are the same
exactly if both times of the cue are nearest to one hundredth. A cue that lasts
longer than one hundredth of the output, and a little longer for the roundings,
stops after it starts. The cues of a file make a document in every setting that
is accepted.
-/
theorem cues_stop_after_they_start
    (source : CueSource)
    (finite :
      ∀ cue ∈ source.cues,
        cue.start.isFinite = true ∧ cue.stop.isFinite = true)
    (setting : DocumentSetting)
    (least : Binary64.atMost 0.25 setting.speed = true)
    (greatest : setting.speed.atMost 4 = true) :
    (∀ cue ∈ source.cues, cue.IsProper) ∧
    (∀ text,
      setting.document source.cues = .ok text →
      ∃ printed,
        setting.HasLines source.cues printed text ∧
        ∀ one ∈ printed, one.IsShown setting) ∧
    ∀ file,
      source = .file file →
      setting.IsAccepted →
      ∃ text, setting.document source.cues = .ok text := by
  have proper : ∀ cue ∈ source.cues, cue.IsProper := fun cue member =>
    source.isProper member (finite cue member).1 (finite cue member).2
  refine ⟨proper, ?_, ?_⟩
  · intro text isText
    obtain ⟨printed, hasLines⟩ := setting.document_hasLines _ text isText
    refine ⟨printed, hasLines, fun one member => ?_⟩
    exact (hasLines.counts one member).isShown least greatest
      (proper one.cue (hasLines.cue_mem member))
  · rintro file rfl accepted
    exact accepted.exists_document file

/-- A setting for an upright frame at the speed of the clip. -/
def steadySetting : DocumentSetting where
  style := {}
  width := .integer 1080
  height := .integer 1920

theorem steadySetting_isAccepted : steadySetting.IsAccepted where
  width := ⟨1080, rfl, by decide, by decide⟩
  height := ⟨1920, rfl, by decide, by decide⟩
  least := by decide
  greatest := by decide
  slowest := by decide +kernel
  fastest := by decide +kernel
  oneLine := by decide +kernel
  noComma := by decide +kernel

/-- A file with a cue of two seconds. -/
def calmFile : String :=
  "1\n00:00:01,000 --> 00:00:03,000\nHi"

theorem calm_cue_is_shown :
    ∃ text printed,
      steadySetting.document (readSubtitles calmFile) = .ok text ∧
      steadySetting.HasLines (readSubtitles calmFile) [printed] text ∧
      printed.start.total < printed.stop.total := by
  obtain ⟨_, lines, exists_text⟩ :=
    cues_stop_after_they_start (.file calmFile) (by decide +kernel)
      steadySetting (by decide +kernel) (by decide +kernel)
  obtain ⟨text, isText⟩ := exists_text calmFile rfl steadySetting_isAccepted
  obtain ⟨printed, hasLines, shown⟩ := lines text isText
  obtain ⟨one, rfl⟩ := hasLines.exists_one (by decide +kernel)
  refine ⟨text, one, isText, hasLines, ?_⟩
  apply (shown one List.mem_cons_self).lasting
  have units :
      ∀ cue ∈ readSubtitles calmFile,
        cue.start.position = some ((1 * unitsPerOne : Nat) : Int) ∧
          cue.stop.position = some ((3 * unitsPerOne : Nat) : Int) := by
    decide +kernel
  have speed :
      steadySetting.speed.position = some ((1 * unitsPerOne : Nat) : Int) := by
    decide +kernel
  obtain ⟨start, stop⟩ :=
    units one.cue (hasLines.cue_mem List.mem_cons_self)
  rw [Binary64.exact_of_whole start, Binary64.exact_of_whole stop,
    Binary64.exact_of_whole speed]
  norm_num

/-- A file with a cue of ten milliseconds. -/
def briefFile : String :=
  "1\n00:00:00,015 --> 00:00:00,025\nHi"

/-- A cue starts before it stops, and its line has one time twice: one and a
half hundredths, and two and a half, are both rounded to two. -/
theorem brief_cue_is_not_shown :
    (∀ cue ∈ readSubtitles briefFile, cue.IsProper) ∧
    steadySetting.IsAccepted ∧
    ∃ text printed,
      steadySetting.document (readSubtitles briefFile) = .ok text ∧
      steadySetting.HasLines (readSubtitles briefFile) [printed] text ∧
      printed.start.text = "0:00:00.02" ∧
      printed.stop.text = "0:00:00.02" ∧
      ¬ printed.start.total < printed.stop.total := by
  refine ⟨fun cue => isProper_of_readSubtitles, steadySetting_isAccepted, ?_⟩
  obtain ⟨text, isText⟩ := steadySetting_isAccepted.exists_document briefFile
  obtain ⟨printed, hasLines⟩ :=
    steadySetting.document_hasLines _ text isText
  obtain ⟨one, rfl⟩ := hasLines.exists_one (by decide +kernel)
  have nearest :
      ∀ cue ∈ readSubtitles briefFile,
        (cue.start * steadySetting.timeScale * 100).round.toOption =
            some 2 ∧
          (cue.stop * steadySetting.timeScale * 100).round.toOption =
            some 2 := by
    decide +kernel
  obtain ⟨nearStart, nearStop⟩ :=
    nearest one.cue (hasLines.cue_mem List.mem_cons_self)
  have counts := hasLines.counts one List.mem_cons_self
  obtain ⟨_, isStart, startTotal⟩ := counts.start
  obtain ⟨_, isStop, stopTotal⟩ := counts.stop
  rw [isStart] at nearStart
  rw [isStop] at nearStop
  cases nearStart
  cases nearStop
  refine ⟨text, one, isText, hasLines, ?_, ?_, ?_⟩
  · rw [← PrintedTime.centisecondsText_total, startTotal]
    decide +kernel
  · rw [← PrintedTime.centisecondsText_total, stopTotal]
    decide +kernel
  · rw [startTotal, stopTotal]
    decide

end Montage
