import Montage.Media.Report
import Montage.Proofs.Number.Order
import Montage.Proofs.Render.Names
import Montage.Proofs.Subtitle.Lines
import Montage.Stage.Zoom

namespace Montage

/-!
# Frame rates of reports

A rate is told as a decimal or as a quotient with a positive divisor. What is
not told, or not above zero, counts as thirty; so no rate is zero or NaN. It can
be infinite, as decimals and quotients can be, and then the frames of a zoom
cannot be counted.
-/

/-! ## Numbers above zero -/

namespace Binary64

variable {number : Binary64}

/-- A number above zero is finite, or the infinity above all numbers. -/
theorem isFinite_eq_false_iff_of_positive
    (positive : less 0 number = true) :
    number.isFinite = false ↔ number = infinite false := by
  cases number with
  | nan => cases positive
  | finite negative units representable =>
      exact iff_of_false (by simp [isFinite]) nofun
  | infinite negative =>
      cases negative with
      | false => exact iff_of_true rfl rfl
      | true => exact absurd positive (by decide +kernel)

/-- No finite number times the infinity has a nearest integer. -/
theorem round_multiply_infinite
    (isFinite : number.isFinite = true) :
    (number * infinite false).round =
      .error (if number.isZero then .nanToInteger else .infinityToInteger) := by
  cases number with
  | nan => cases isFinite
  | infinite negative => cases isFinite
  | finite negative units representable =>
      change (multiply _ _).round = _
      rw [multiply]
      split
      · rename_i isNone
        rw [isZero, decide_eq_true isNone]
        rfl
      · rename_i isSome
        rw [isZero, decide_eq_false isSome]
        rfl

/-- The infinity is above zero. -/
theorem positive_infinite :
    less 0 (infinite false) = true := by
  decide +kernel

end Binary64

/-! ## Rates that are told -/

/-- A text tells a rate: as a decimal, or as a quotient of two decimals. -/
inductive TellsRate : List Char → Binary64 → Prop
  | decimal
      {text : List Char}
      {rate : Binary64}
      (noSlash : '/' ∉ text)
      (isRead : floatOfText (String.ofList text) = .ok rate) :
      TellsRate text rate
  | quotient
      {dividend divisor : List Char}
      {above below rate : Binary64}
      (noSlash : '/' ∉ dividend)
      (isAbove : floatOfText (String.ofList dividend) = .ok above)
      (isBelow : floatOfText (String.ofList divisor) = .ok below)
      (positive : Binary64.less 0 below = true)
      (isQuotient : above.divide below = .ok rate) :
      TellsRate (dividend ++ '/' :: divisor) rate

/-- The text of a value that can tell a rate; no text is written of an integer
with too many digits. -/
def rateText? : Json → Option (List Char)
  | .integer value =>
      if value.natAbs < 10 ^ digitLimit then some (integerText value) else none
  | .number value => some value.shortestText
  | .text value => some (trim value.toList)
  | _ => none

/-- A value tells a rate. -/
def ToldRate (value : Json) (rate : Binary64) : Prop :=
  ∃ text, rateText? value = some text ∧ TellsRate text rate

theorem frameRate_eq
    {value : Json}
    (written :
      ∀ number, value = .integer number → number.natAbs < 10 ^ digitLimit) :
    frameRate value = positiveRate ((rateText? value).bind rateOfText?) := by
  cases value with
  | integer number =>
      rw [rateText?, if_pos (written number rfl)]
      rfl
  | _ => rfl

theorem toOption_eq_some_iff
    {ε α : Type}
    {result : Except ε α}
    {value : α} :
    result.toOption = some value ↔ result = .ok value := by
  cases result with
  | error failure => exact iff_of_false nofun nofun
  | ok found => simp [Except.toOption]

/-- A text is read as a whole, or as the quotient of its two parts. -/
theorem rateOfText?_eq_some_iff
    {text : List Char}
    {rate : Binary64} :
    rateOfText? text = some rate ↔
      (cutAtChar? '/' text = none ∧
        floatOfText (String.ofList text) = .ok rate) ∨
      ∃ dividend divisor above below,
        cutAtChar? '/' text = some (dividend, divisor) ∧
          floatOfText (String.ofList dividend) = .ok above ∧
          floatOfText (String.ofList divisor) = .ok below ∧
          below.atMost 0 = false ∧
          above.divide below = .ok rate := by
  unfold rateOfText?
  cases cutAtChar? '/' text with
  | none => simp [toOption_eq_some_iff]
  | some parts =>
      obtain ⟨dividend, divisor⟩ := parts
      simp only [Option.bind_eq_bind, Option.bind_eq_some_iff,
        toOption_eq_some_iff, Option.ite_none_left_eq_some, Bool.not_eq_true]
      constructor
      · rintro ⟨below, isBelow, notReached, above, isAbove, isQuotient⟩
        exact .inr ⟨dividend, divisor, above, below, rfl, isAbove, isBelow,
          notReached, isQuotient⟩
      · rintro (⟨isNone, -⟩ | ⟨_, _, above, below, same, isAbove, isBelow,
          notReached, isQuotient⟩)
        · cases isNone
        · cases same
          exact ⟨below, isBelow, notReached, above, isAbove, isQuotient⟩

theorem TellsRate.rateOfText?_eq
    {text : List Char}
    {rate : Binary64}
    (tells : TellsRate text rate) :
    rateOfText? text = some rate := by
  rw [rateOfText?_eq_some_iff]
  cases tells with
  | decimal noSlash isRead =>
      exact .inl ⟨cutAtChar?_eq_none_iff.mpr noSlash, isRead⟩
  | quotient noSlash isAbove isBelow positive isQuotient =>
      exact .inr ⟨_, _, _, _, cutAtChar?_append noSlash, isAbove, isBelow,
        Binary64.not_atMost_of_less positive, isQuotient⟩

/-- A quotient is above zero only where the divisor is. -/
theorem Binary64.less_of_divide
    {above below rate : Binary64}
    (notReached : below.atMost 0 = false)
    (isQuotient : above.divide below = .ok rate)
    (positive : less 0 rate = true) :
    less 0 below = true := by
  cases isPlace : below.position with
  | some place =>
      exact less_of_not_atMost (by decide +kernel : position 0 = some 0) isPlace
        notReached
  | none =>
      have isNan : below = nan := by
        cases below with
        | nan => rfl
        | infinite negative => cases isPlace
        | finite negative units representable => cases isPlace
      subst isNan
      unfold divide at isQuotient
      cases above <;> cases isQuotient <;> cases positive

/-- A rate above zero was told. -/
theorem tellsRate_of_rateOfText?
    {text : List Char}
    {rate : Binary64}
    (isRate : rateOfText? text = some rate)
    (positive : Binary64.less 0 rate = true) :
    TellsRate text rate := by
  rcases rateOfText?_eq_some_iff.mp isRate with
    ⟨isWhole, isRead⟩ |
      ⟨dividend, divisor, above, below, isCut, isAbove, isBelow, notReached,
        isQuotient⟩
  · exact .decimal (cutAtChar?_eq_none_iff.mp isWhole) isRead
  · rw [eq_of_cutAtChar?_eq_some isCut]
    exact .quotient (not_mem_of_cutAtChar?_eq_some isCut) isAbove isBelow
      (Binary64.less_of_divide notReached isQuotient positive) isQuotient

theorem positive_standardFrameRate :
    Binary64.less 0 standardFrameRate = true := by
  decide +kernel

theorem positive_positiveRate (rate : Option Binary64) :
    Binary64.less 0 (positiveRate rate) = true := by
  cases rate with
  | none => exact positive_standardFrameRate
  | some value =>
      rw [positiveRate]
      split
      · assumption
      · exact positive_standardFrameRate

/-- A rate other than thirty was told. -/
theorem toldRate_of_ne_standard
    {value : Json}
    (written :
      ∀ number, value = .integer number → number.natAbs < 10 ^ digitLimit)
    (notStandard : frameRate value ≠ 30) :
    ToldRate value (frameRate value) := by
  rw [frameRate_eq written] at notStandard ⊢
  cases isText : rateText? value with
  | none =>
      rw [isText] at notStandard
      exact absurd rfl notStandard
  | some text =>
      rw [isText, Option.bind_some] at notStandard
      cases isRate : rateOfText? text with
      | none =>
          rw [isRate] at notStandard
          exact absurd rfl notStandard
      | some rate =>
          rw [isRate, positiveRate] at notStandard
          rw [Option.bind_some, isRate, positiveRate]
          cases above : Binary64.less 0 rate with
          | false =>
              rw [above] at notStandard
              exact absurd rfl notStandard
          | true => exact ⟨text, isText, tellsRate_of_rateOfText? isRate above⟩

/-- With an infinite rate the frames of a zoom are not counted. -/
theorem zoomStages_of_infinite
    (effect : ZoomEffect)
    {duration : Binary64}
    (isFinite : duration.isFinite = true)
    (width height : Json) :
    zoomStages effect duration width height (.infinite false) =
      .error (.arithmetic
        (if duration.isZero then .nanToInteger else .infinityToInteger)) := by
  have notZero : (Binary64.infinite false).isZero = false := rfl
  rw [zoomStages, notZero, if_neg Bool.false_ne_true, ZoomPlan.ofEffect,
    Binary64.round_multiply_infinite isFinite]
  rfl

/--
The rate of a value is above zero: the rate that the value tells if that is
above zero, and thirty in every other case. It is infinite exactly if the
infinity is told, as it is by decimals and quotients that are too large. A zoom
of a clip with such a rate cannot be made, whatever the clip's duration. With
every other rate its frames are counted unless there are too many.
-/
theorem frameRate_is_told_or_standard
    {value : Json}
    (written :
      ∀ number, value = .integer number → number.natAbs < 10 ^ digitLimit) :
    Binary64.less 0 (frameRate value) = true ∧
    (∀ rate,
      ToldRate value rate →
        frameRate value = if Binary64.less 0 rate then rate else 30) ∧
    ((∀ rate, ¬ ToldRate value rate) → frameRate value = 30) ∧
    ((frameRate value).isFinite = false ↔ ToldRate value (.infinite false)) ∧
    ∀ effect duration width height,
      duration.isFinite = true →
        ((frameRate value).isFinite = false →
          zoomStages effect duration width height (frameRate value) =
            .error (.arithmetic
              (if duration.isZero then .nanToInteger
                else .infinityToInteger))) ∧
        ((duration * frameRate value).isFinite = true →
          ∃ frames, (duration * frameRate value).round = .ok frames) := by
  have positive : Binary64.less 0 (frameRate value) = true := by
    rw [frameRate_eq written]
    exact positive_positiveRate _
  have ofTold :
      ∀ rate,
        ToldRate value rate →
          frameRate value = if Binary64.less 0 rate then rate else 30 := by
    rintro rate ⟨text, isText, tells⟩
    rw [frameRate_eq written, isText, Option.bind_some, tells.rateOfText?_eq]
    rfl
  have infinite_iff :=
    Binary64.isFinite_eq_false_iff_of_positive positive
  refine ⟨positive, ofTold, ?_, ⟨?_, ?_⟩, ?_⟩
  · intro untold
    by_contra notStandard
    exact untold _ (toldRate_of_ne_standard written notStandard)
  · intro isInfinite
    have isRate := infinite_iff.mp isInfinite
    rw [← isRate]
    -- Thirty is finite, so the rate was told.
    refine toldRate_of_ne_standard written fun isStandard => ?_
    rw [isStandard] at isInfinite
    exact absurd isInfinite (by decide +kernel)
  · intro isTold
    have isTaken := ofTold _ isTold
    rw [if_pos Binary64.positive_infinite] at isTaken
    exact infinite_iff.mpr isTaken
  · intro effect duration width height isFinite
    refine ⟨fun isInfinite => ?_, Binary64.round_eq_ok⟩
    rw [infinite_iff.mp isInfinite]
    exact zoomStages_of_infinite effect isFinite width height

/-- A rate that is told to be infinite is taken, and no zoom is made. -/
theorem infinite_rate_is_taken :
    ToldRate (.text "inf") (.infinite false) ∧
    frameRate (.text "inf") = .infinite false ∧
    ∀ effect width height,
      zoomStages effect 10 width height (frameRate (.text "inf")) =
        .error (.arithmetic .infinityToInteger) := by
  have isTold : ToldRate (.text "inf") (.infinite false) :=
    ⟨"inf".toList, by rfl, .decimal (by decide) (by rfl)⟩
  obtain ⟨-, ofTold, -, infinite_iff, zooms⟩ :=
    frameRate_is_told_or_standard
      (show ∀ number, Json.text "inf" = .integer number →
        number.natAbs < 10 ^ digitLimit from nofun)
  have isTaken := ofTold _ isTold
  rw [if_pos Binary64.positive_infinite] at isTaken
  refine ⟨isTold, isTaken, fun effect width height => ?_⟩
  have fails :=
    (zooms effect 10 width height (by decide +kernel)).1
      (infinite_iff.mpr isTold)
  rwa [(by decide +kernel : (10 : Binary64).isZero = false),
    if_neg Bool.false_ne_true] at fails

end Montage
