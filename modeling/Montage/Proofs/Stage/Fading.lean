import Mathlib.Algebra.Order.Group.MinMax
import Mathlib.Tactic.FieldSimp
import Mathlib.Tactic.Linarith
import Mathlib.Tactic.NormNum
import Montage.Proofs.Expression.Spelled
import Montage.Proofs.Graph.Options
import Montage.Proofs.Render.Flat
import Montage.Proofs.Subtitle.Lasting

namespace Montage

/-!
# Fades of a stream

A stream has at most one fade at its start and one at its end. The one at the
end is told to start when what is left of the clip is as long as the fade, up to
the rounding of two places.
-/

/-! ## What fades are told -/

/-- What a fade at the start is told. -/
def openingOptions (length : Binary64) : List (String × OptionValue) :=
  [("t", .text "in"), ("st", .integer 0), ("d", .number length)]

/-- When a fade at the end of what is played begins: so long before its end, or
with its start. -/
def closingTime (playing length : Binary64) : Binary64 :=
  Binary64.maximum 0 (playing - length)

/-- What a fade at the end is told; its start has two places. -/
def closingOptions
    (playing length : Binary64) :
    List (String × OptionValue) := [
  ("t", .text "out"),
  ("st", .text (String.ofList ((closingTime playing length).fixedText 2))),
  ("d", .number length)]

/-- The lengths that are not zero. -/
def someLength (length : Binary64) : List Binary64 :=
  [length].filter fun length => !length.isZero

/-- What the fades of a stream are told, one at the start and one at the end,
where their lengths are not zero. -/
def fadeOptions
    (playing fadeIn fadeOut : Binary64) :
    List (List (String × OptionValue)) :=
  (someLength fadeIn).map openingOptions ++
    (someLength fadeOut).map (closingOptions playing)

/-- Without lengths there are no fades. -/
theorem fadeOptions_zero (playing : Binary64) :
    fadeOptions playing 0 0 = [] := by
  have zero : (0 : Binary64).isZero = true := rfl
  simp [fadeOptions, someLength, zero]

theorem options_fadeInStages (name : String) (length : Binary64) :
    (fadeInStages name length).map Filter.options =
      (someLength length).map openingOptions := by
  unfold fadeInStages someLength
  cases isZero : length.isZero <;> simp [isZero, openingOptions]

theorem options_fadeOutStages
    (name : String)
    (playing length : Binary64) :
    (fadeOutStages name playing length).map Filter.options =
      (someLength length).map (closingOptions playing) := by
  unfold fadeOutStages someLength
  cases isZero : length.isZero <;>
    simp [isZero, closingOptions, closingTime, fadeOutStart]

theorem playedDuration_of_divide
    {duration speed playing : Binary64}
    (isPlaying : duration.divide speed = .ok playing) :
    playedDuration duration speed = playing := by
  simp only [playedDuration, isPlaying]

theorem options_fadeStages
    (name : String)
    {duration speed playing : Binary64}
    (isPlaying : duration.divide speed = .ok playing)
    (fadeIn fadeOut : Binary64) :
    (fadeStages name fadeIn fadeOut duration speed).map Filter.options =
      fadeOptions playing fadeIn fadeOut := by
  rw [fadeStages, playedDuration_of_divide isPlaying, List.map_append,
    options_fadeInStages, options_fadeOutStages, fadeOptions]

/-- What a stage is told under a key stands in its options. -/
theorem Filter.toldUnder?_eq (stage : Filter) (key : String) :
    stage.toldUnder? key =
      stage.options.findSome? fun option =>
        if option.1 = key then some option.2.told else none := by
  have noPositional :
      (stage.arguments.findSome? fun _ => (none : Option String)) = none :=
    List.findSome?_eq_none_iff.mpr fun _ _ => rfl
  rw [toldUnder?, told, List.findSome?_append, List.findSome?_map,
    List.findSome?_map]
  exact congrArg (Option.or · _) noPositional

/-- The stages that are told a direction. -/
def stagesToward (direction : String) (stages : List Filter) : List Filter :=
  stages.filter fun stage => stage.toldUnder? "t" = some direction

section Directions

variable {stage : Filter} {playing length : Binary64}

theorem direction_of_opening
    (isOpening : stage.options = openingOptions length) :
    stage.toldUnder? "t" = some "in" := by
  rw [stage.toldUnder?_eq, isOpening]
  rfl

theorem direction_of_closing
    (isClosing : stage.options = closingOptions playing length) :
    stage.toldUnder? "t" = some "out" := by
  rw [stage.toldUnder?_eq, isClosing]
  rfl

variable {stages : List Filter} {fadeIn fadeOut : Binary64}

/-- A fade is the one at the start or the one at the end. -/
theorem opening_or_closing
    (areFades : stages.map Filter.options = fadeOptions playing fadeIn fadeOut)
    (member : stage ∈ stages) :
    stage.options = openingOptions fadeIn ∨
      stage.options = closingOptions playing fadeOut := by
  have isTold : stage.options ∈ stages.map Filter.options :=
    List.mem_map_of_mem member
  rw [areFades, fadeOptions, List.mem_append] at isTold
  rcases isTold with opening | closing
  · obtain ⟨length, isLength, isOptions⟩ := List.mem_map.mp opening
    have same := List.mem_singleton.mp (List.mem_filter.mp isLength).1
    exact .inl (same ▸ isOptions.symm)
  · obtain ⟨length, isLength, isOptions⟩ := List.mem_map.mp closing
    have same := List.mem_singleton.mp (List.mem_filter.mp isLength).1
    exact .inr (same ▸ isOptions.symm)

theorem length_someLength (length : Binary64) :
    (someLength length).length ≤ 1 :=
  List.length_filter_le _ [length]

/-- Stages that are fades are those at the start and then those at the end. -/
theorem stages_eq_of_fades
    (areFades :
      stages.map Filter.options = fadeOptions playing fadeIn fadeOut) :
    ∃ opening closing,
      stages = opening ++ closing ∧
      stagesToward "in" stages = opening ∧
      stagesToward "out" stages = closing ∧
      opening.length ≤ 1 ∧
      closing.length ≤ 1 := by
  obtain ⟨opening, closing, rfl, areOpening, areClosing⟩ :=
    List.map_eq_append_iff.mp areFades
  have opens : ∀ stage ∈ opening, stage.toldUnder? "t" = some "in" := by
    intro stage member
    have isTold : stage.options ∈ opening.map Filter.options :=
      List.mem_map_of_mem member
    rw [areOpening] at isTold
    obtain ⟨_, _, isOptions⟩ := List.mem_map.mp isTold
    exact direction_of_opening isOptions.symm
  have closes : ∀ stage ∈ closing, stage.toldUnder? "t" = some "out" := by
    intro stage member
    have isTold : stage.options ∈ closing.map Filter.options :=
      List.mem_map_of_mem member
    rw [areClosing] at isTold
    obtain ⟨_, _, isOptions⟩ := List.mem_map.mp isTold
    exact direction_of_closing isOptions.symm
  have others (stages : List Filter) {direction other : String}
      (different : other ≠ direction)
      (told : ∀ stage ∈ stages, stage.toldUnder? "t" = some other) :
      stagesToward direction stages = [] :=
    List.filter_eq_nil_iff.mpr fun stage member => by
      simp [told stage member, different]
  have all (stages : List Filter) {direction : String}
      (told : ∀ stage ∈ stages, stage.toldUnder? "t" = some direction) :
      stagesToward direction stages = stages :=
    List.filter_eq_self.mpr fun stage member =>
      decide_eq_true (told stage member)
  refine ⟨opening, closing, rfl, ?_, ?_, ?_, ?_⟩
  · rw [stagesToward, List.filter_append, ← stagesToward, ← stagesToward,
      all _ opens, others _ (by decide) closes, List.append_nil]
  · rw [stagesToward, List.filter_append, ← stagesToward, ← stagesToward,
      others _ (by decide) opens, all _ closes, List.nil_append]
  · rw [← List.length_map Filter.options, areOpening, List.length_map]
    exact length_someLength fadeIn
  · rw [← List.length_map Filter.options, areClosing, List.length_map]
    exact length_someLength fadeOut

end Directions

/-! ## Where fades at the end start -/

namespace Binary64

/-- A number that is not below zero is printed with places: at most a half of
the last one away. -/
theorem fixedText_near
    (places : Nat)
    {units : Nat}
    (representable : Representable units) :
    ∃ printed : ℚ,
      Denotes ((finite false units representable).fixedText places) printed ∧
      |printed - (finite false units representable).exact| ≤
        1 / 2 / 10 ^ places := by
  refine ⟨_, denotes_fixedText places representable, ?_⟩
  have near := roundHalfEven_near (units * powerOfTen places) unitsPerOne_pos
  have unit : (0 : ℚ) < unitsPerOne := by exact_mod_cast unitsPerOne_pos
  have power : (0 : ℚ) < 10 ^ places := by positivity
  have isPower : (powerOfTen places : ℚ) = 10 ^ places := by
    rw [powerOfTen, Nat.pow_eq]
    push_cast
    rfl
  have isUnits : signedUnits false units = units := rfl
  rw [exact_finite, isUnits, Decimal.value, zpow_neg, zpow_natCast]
  generalize roundHalfEven (units * powerOfTen places) unitsPerOne = count
    at near ⊢
  generalize unitsPerOne = one at near unit ⊢
  have scaled : 2 * |(count : ℚ) * one - units * 10 ^ places| ≤ one := by
    have inRationals :
        ((2 * ((count * one : Int) -
            (units * powerOfTen places : Nat)).natAbs : Nat) : ℚ) ≤
          (one : Nat) := by
      exact_mod_cast near
    push_cast [Nat.cast_natAbs] at inRationals
    rwa [isPower] at inRationals
  have factored :
      (count : ℚ) * (10 ^ places)⁻¹ - ((units : Int) : ℚ) / one =
        (count * one - units * 10 ^ places) / (one * 10 ^ places) := by
    push_cast
    field_simp
  rw [factored, abs_div, abs_of_pos (mul_pos unit power),
    div_le_iff₀ (mul_pos unit power)]
  have right : 1 / 2 / 10 ^ places * ((one : ℚ) * 10 ^ places) = one / 2 := by
    field_simp
  rw [right]
  linarith

/-- A finite number or zero, what is greater. -/
theorem maximum_zero
    {number : Binary64}
    (isFinite : number.isFinite = true) :
    ∃ units representable,
      maximum 0 number = finite false units representable ∧
      (finite false units representable).exact = max 0 number.exact := by
  have isZero : (0 : Binary64) = finite false 0 representable_zero := rfl
  have unit : (0 : ℚ) < unitsPerOne := by exact_mod_cast unitsPerOne_pos
  cases number with
  | nan => cases isFinite
  | infinite negative => cases isFinite
  | finite negative units representable =>
      have isLess :
          less 0 (finite negative units representable) =
            decide (0 < signedUnits negative units) := by
        rw [isZero]
        rfl
      rw [maximum, isLess, exact_finite]
      by_cases above : 0 < signedUnits negative units
      · have isUnsigned : negative = false := by
          cases negative with
          | false => rfl
          | true =>
              simp only [signedUnits, ↓reduceIte] at above
              omega
        subst isUnsigned
        have positive : (0 : ℚ) ≤ signedUnits false units / unitsPerOne :=
          div_nonneg (by exact_mod_cast above.le) unit.le
        refine ⟨units, representable, by simp [above], ?_⟩
        rw [max_eq_right positive, exact_finite]
      · have notPositive :
            (signedUnits negative units : ℚ) / unitsPerOne ≤ 0 :=
          div_nonpos_of_nonpos_of_nonneg
            (by exact_mod_cast not_lt.mp above) unit.le
        refine ⟨0, representable_zero, by simp [above, isZero], ?_⟩
        rw [max_eq_left notPositive]
        exact exact_of_isZero rfl

end Binary64

/-- A length in seconds that a fade can have. -/
def IsFadeLength (length : Binary64) : Prop :=
  Binary64.atMost 0 length = true ∧ length.atMost 5 = true

section ClosingTime

variable {duration speed playing length : Binary64}

theorem IsFadeLength.within
    (isLength : IsFadeLength length) :
    length.Within 5 :=
  .of_atMost isLength.1 isLength.2 (Binary64.position_natural 5 (by decide))
    (lt_powerOfTwo_of_short (by decide) (by decide))

theorem IsFadeLength.exact
    (isLength : IsFadeLength length) :
    0 ≤ length.exact ∧ length.exact ≤ 5 := by
  have zero : (0 : Binary64).exact = 0 := Binary64.exact_of_isZero rfl
  have five : (5 : Binary64).exact = 5 := Binary64.exact_natural 5 (by decide)
  rw [← zero, ← five]
  exact ⟨Binary64.exact_le_of_atMost isLength.1,
    Binary64.exact_le_of_atMost isLength.2⟩

theorem IsMeasure.exact
    (isDuration : IsMeasure duration) :
    0 ≤ duration.exact ∧ duration.exact ≤ 1000000000 := by
  have zero : (0 : Binary64).exact = 0 := Binary64.exact_of_isZero rfl
  have bound : (1000000000 : Binary64).exact = 1000000000 :=
    Binary64.exact_natural 1000000000 (by decide)
  obtain ⟨first, second, isFirst, isSecond, above⟩ :=
    Binary64.less_iff.mp isDuration.positive
  have nonnegative : Binary64.atMost 0 duration = true :=
    Binary64.atMost_iff.mpr ⟨first, second, isFirst, isSecond, above.le⟩
  rw [← zero, ← bound]
  exact ⟨Binary64.exact_le_of_atMost nonnegative,
    Binary64.exact_le_of_atMost isDuration.bounded⟩

/-- A speed that can be chosen is a number from a quarter to four. -/
theorem speed_exact
    (isSpeed : SpeedEffect.valueParameter.range.Holds speed) :
    speed.isFinite = true ∧ 1 / 4 ≤ speed.exact ∧ speed.exact ≤ 4 :=
  ⟨DocumentSetting.speed_isFinite isSpeed.low isSpeed.high,
    DocumentSetting.quarter_le_speed isSpeed.low,
    DocumentSetting.speed_le_four isSpeed.high⟩

/-- What is played at a speed is bounded. -/
theorem playing_within
    (isDuration : IsMeasure duration)
    (isSpeed : SpeedEffect.valueParameter.range.Holds speed)
    (isPlaying : duration.divide speed = .ok playing) :
    playing.Within 8000000001 := by
  obtain ⟨isFinite, least, -⟩ := speed_exact isSpeed
  have isLarge : 1 ≤ ((4 : Nat) : ℚ) * speed.exact := by
    push_cast
    linarith
  exact (isDuration.within.divide_of_exact isFinite isLarge isPlaying
    (lt_powerOfTwo_of_short (by decide) (by decide))).mono (by norm_num)

/-- A fade that ends with its clip is printed to start less than a hundredth of a
second away from the time that its length leaves. -/
theorem closingTime_near
    (isDuration : IsMeasure duration)
    (isSpeed : SpeedEffect.valueParameter.range.Holds speed)
    (isPlaying : duration.divide speed = .ok playing)
    (isLength : IsFadeLength length) :
    ∃ printed : ℚ,
      Denotes ((closingTime playing length).fixedText 2) printed ∧
      |printed - max 0 (duration.exact / speed.exact - length.exact)| ≤
        1 / 200 + 1 / 1000000 := by
  have playingWithin := playing_within isDuration isSpeed isPlaying
  have negated : (-length).Within 5 := by
    obtain ⟨negative, units, representable, rfl, bound⟩ := isLength.within
    exact ⟨!negative, units, representable, rfl, bound⟩
  have isFinite : (playing - length).isFinite = true :=
    (playingWithin.add negated
      (lt_powerOfTwo_of_short (by decide) (by decide))).isFinite
  obtain ⟨speedFinite, quarter, four⟩ := speed_exact isSpeed
  obtain ⟨durationAbove, durationBelow⟩ := isDuration.exact
  obtain ⟨lengthAbove, lengthBelow⟩ := isLength.exact
  have quotient : playing.Approximates (duration.exact / speed.exact) :=
    Binary64.divide_approximates isDuration.within.isFinite speedFinite
      isPlaying playingWithin.isFinite
  have difference :
      (playing - length).Approximates (playing.exact - length.exact) := by
    rw [sub_eq_add_neg, ← Binary64.exact_negate]
    exact Binary64.add_approximates playingWithin.isFinite negated.isFinite
      isFinite
  obtain ⟨units, representable, isMaximum, isExact⟩ :=
    Binary64.maximum_zero isFinite
  obtain ⟨printed, denotes, printedNear⟩ :=
    Binary64.fixedText_near 2 representable
  refine ⟨printed, by rw [closingTime, isMaximum]; exact denotes, ?_⟩
  rw [isExact] at printedNear
  have played : duration.exact / speed.exact ≤ 4000000000 := by
    rw [div_le_iff₀ (by linarith)]
    linarith
  have playedAbove : 0 ≤ duration.exact / speed.exact :=
    div_nonneg durationAbove (by linarith)
  generalize duration.exact / speed.exact = seconds at *
  have share : roundingShare = 1 / 2 ^ 53 := rfl
  have small := Binary64.halfUnit_small
  have quotientNear : |playing.exact - seconds| ≤ 1 / 2000000 := by
    unfold Binary64.Approximates at quotient
    rw [share, abs_of_nonneg playedAbove] at quotient
    linarith
  have apart : |playing.exact - length.exact| ≤ 4000000006 := by
    rw [abs_le] at quotientNear ⊢
    constructor <;> linarith
  have differenceNear :
      |(playing - length).exact - (playing.exact - length.exact)| ≤
        1 / 2000000 := by
    unfold Binary64.Approximates at difference
    rw [share] at difference
    linarith
  have startNear :
      |max 0 (playing - length).exact - max 0 (seconds - length.exact)| ≤
        1 / 1000000 := by
    calc |max 0 (playing - length).exact - max 0 (seconds - length.exact)|
        ≤ |(playing - length).exact - (seconds - length.exact)| := by
          rw [max_comm 0, max_comm 0]
          exact abs_max_sub_max_le_abs _ _ _
      _ ≤ 1 / 1000000 := by
          rw [abs_le] at quotientNear differenceNear ⊢
          constructor <;> linarith
  calc |printed - max 0 (seconds - length.exact)|
      ≤ |printed - max 0 (playing - length).exact| +
          |max 0 (playing - length).exact -
            max 0 (seconds - length.exact)| := abs_sub_le _ _ _
    _ ≤ 1 / 200 + 1 / 1000000 := by
        linarith

end ClosingTime

end Montage
