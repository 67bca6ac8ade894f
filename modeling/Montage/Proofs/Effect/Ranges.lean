import Montage.Effect.Basic
import Montage.Proofs.Number.Order
import Montage.Proofs.Request.Timeline

namespace Montage

/-!
# Accepted effects

What is sure about all effects that were read: parameters are in their ranges,
whatever number was sent, and an aspect ratio is of the accepted form.
-/

/-! ## Ranges -/

/-- A number is in a range; NaN is in none. -/
structure Range.Holds
    (range : Range Binary64)
    (value : Binary64) :
    Prop where
  low : range.low.atMost value = true
  high : value.atMost range.high = true

instance (range : Range Binary64) (value : Binary64) :
    Decidable (range.Holds value) :=
  decidable_of_iff
    (range.low.atMost value = true ∧ value.atMost range.high = true)
    ⟨fun holds => ⟨holds.1, holds.2⟩, fun holds => ⟨holds.low, holds.high⟩⟩

/-- Every number is moved into the range, even NaN. -/
theorem Binary64.clamp_holds
    {range : Range Binary64}
    (ordered : range.low.atMost range.high = true)
    (value : Binary64) :
    range.Holds (clamp range value) := by
  obtain ⟨low, high, isLow, isHigh, lowHigh⟩ := atMost_iff.mp ordered
  have between
      {number : Binary64}
      {place : Int}
      (isPlace : number.position = some place)
      (above : low ≤ place)
      (below : place ≤ high) :
      range.Holds number :=
    ⟨atMost_iff.mpr ⟨low, place, isLow, isPlace, above⟩,
      atMost_iff.mpr ⟨place, high, isPlace, isHigh, below⟩⟩
  obtain ⟨least, isLeast, belowHigh⟩ :
      ∃ place,
        (minimum range.high value).position = some place ∧ place ≤ high := by
    unfold minimum less
    cases isPlace : value.position with
    | none => exact ⟨high, by simp [isHigh], le_rfl⟩
    | some place =>
        by_cases smaller : place < high
        · exact ⟨place, by simp [isHigh, isPlace, smaller], le_of_lt smaller⟩
        · exact ⟨high, by simp [isHigh, smaller], le_rfl⟩
  unfold clamp maximum less
  rw [isLow, isLeast]
  by_cases greater : low < least
  · simpa [greater] using between isLeast (le_of_lt greater) belowHigh
  · simpa [greater] using between isLow le_rfl lowHigh

theorem Binary64.atMost_trans
    {first second third : Binary64}
    (lower : first.atMost second = true)
    (upper : second.atMost third = true) :
    first.atMost third = true := by
  obtain ⟨low, middle, isLow, isMiddle, lowMiddle⟩ := atMost_iff.mp lower
  obtain ⟨other, high, isOther, isHigh, otherHigh⟩ := atMost_iff.mp upper
  rw [isMiddle] at isOther
  obtain rfl : middle = other := Option.some.inj isOther
  exact atMost_iff.mpr ⟨low, high, isLow, isHigh, lowMiddle.trans otherHigh⟩

/-- A number in a range from zero to one is at most one. -/
theorem Range.Holds.within_one
    {range : Range Binary64}
    {value : Binary64}
    (holds : range.Holds value)
    (nonnegative : Binary64.atMost 0 range.low = true)
    (bounded : range.high.atMost 1 = true) :
    value.Within 1 := by
  exact .of_atMost (Binary64.atMost_trans nonnegative holds.low)
    (Binary64.atMost_trans holds.high bounded)
    (Binary64.position_natural 1 (by decide))
    (lt_powerOfTwo_of_short (by decide) (by decide))

namespace Parameter

/-- A parameter is in its range if its default is. -/
theorem holds_of_read
    {parameter : Parameter Binary64}
    {fields : Fields}
    {value : Binary64}
    (isDefault : parameter.range.Holds parameter.default)
    (ordered : parameter.range.low.atMost parameter.range.high = true)
    (isRead : parameter.read fields = .valid value) :
    parameter.range.Holds value := by
  rcases Fields.withDefault_eq_valid isRead with same | ⟨sent, isSent⟩
  · rw [same]
    exact isDefault
  · obtain ⟨number, _, isClamped⟩ := Checked.map_eq_valid isSent
    rw [← isClamped]
    exact Binary64.clamp_holds ordered number

theorem between_of_read
    {parameter : Parameter Int}
    {fields : Fields}
    {value : Int}
    (isDefault :
      parameter.range.low ≤ parameter.default ∧
        parameter.default ≤ parameter.range.high)
    (isRead : parameter.read fields = .valid value) :
    parameter.range.low ≤ value ∧ value ≤ parameter.range.high := by
  rcases Fields.withDefault_eq_valid isRead with same | ⟨sent, isSent⟩
  · rw [same]
    exact isDefault
  · obtain ⟨number, _, isClamped⟩ := Checked.map_eq_valid isSent
    have clamped : clampInteger parameter.range number = value := isClamped
    unfold clampInteger at clamped
    omega

end Parameter

/-! ## Effects -/

/-- An object was read from its fields. -/
theorem readObject_eq_valid_iff
    {α : Type}
    {name : String}
    {read : Fields → Checked α}
    {sent : Json}
    {result : α} :
    readObject name read sent = .valid result ↔
      ∃ fields, sent = .object fields ∧ read fields = .valid result := by
  constructor
  · intro isRead
    unfold readObject at isRead
    split at isRead
    · exact ⟨_, rfl, isRead⟩
    · cases isRead
  · rintro ⟨fields, rfl, isRead⟩
    exact isRead

theorem readObject_eq_valid
    {α : Type}
    {name : String}
    {read : Fields → Checked α}
    {value : Json}
    {result : α}
    (isRead : readObject name read value = .valid result) :
    ∃ fields, read fields = .valid result := by
  obtain ⟨fields, _, isFields⟩ := readObject_eq_valid_iff.mp isRead
  exact ⟨fields, isFields⟩

theorem readMatching_eq_valid
    {satisfies : List Char → Bool}
    {pattern text : String}
    {value : Json}
    (isRead : readMatching satisfies pattern value = .valid text) :
    satisfies text.toList = true := by
  obtain ⟨sent, _, isDenoted⟩ := Checked.andThen_eq_valid isRead
  unfold readDenoting at isDenoted
  split at isDenoted
  · cases isDenoted
  · dsimp only at isDenoted
    split at isDenoted
    · rename_i isMatch
      cases isDenoted
      exact isMatch
    · cases isDenoted

theorem CropEffect.isAspectRatio_of_read
    {value : Json}
    {effect : CropEffect}
    (isRead : read value = .valid effect)
    {text : String}
    (isRatio : effect.aspectRatio = some text) :
    isAspectRatio text.toList = true := by
  obtain ⟨fields, isRest⟩ := readObject_eq_valid isRead
  obtain ⟨_, _, isRest, _, byHeight⟩ := Checked.seq_eq_valid isRest
  obtain ⟨_, _, isRest, _, byWidth⟩ := Checked.seq_eq_valid isRest
  obtain ⟨_, _, isRest, _, byPosition⟩ := Checked.seq_eq_valid isRest
  obtain ⟨_, isText, byRatio⟩ := Checked.map_eq_valid isRest
  subst byRatio byPosition byWidth byHeight
  simp only at isRatio
  rw [isRatio] at isText
  obtain ⟨_, isMatch⟩ := Fields.optional_eq_valid isText
  exact readMatching_eq_valid isMatch

theorem ZoomEffect.holds_of_read
    {value : Json}
    {effect : ZoomEffect}
    (isRead : read value = .valid effect) :
    intensityParameter.range.Holds effect.intensity := by
  obtain ⟨fields, isRest⟩ := readObject_eq_valid isRead
  obtain ⟨_, _, isRest, isIntensity, byIntensity⟩ :=
    Checked.seq_eq_valid isRest
  obtain ⟨_, _, byKind⟩ := Checked.map_eq_valid isRest
  subst byKind byIntensity
  exact Parameter.holds_of_read (by decide +kernel) (by decide +kernel)
    isIntensity

theorem SpeedEffect.holds_of_read
    {value : Json}
    {effect : SpeedEffect}
    (isRead : read value = .valid effect) :
    valueParameter.range.Holds effect.value := by
  obtain ⟨fields, isRest⟩ := readObject_eq_valid isRead
  obtain ⟨_, isValue, byValue⟩ := Checked.map_eq_valid isRest
  subst byValue
  exact Parameter.holds_of_read (by decide +kernel) (by decide +kernel) isValue

theorem WatermarkEffect.holds_of_read
    {value : Json}
    {effect : WatermarkEffect}
    (isRead : read value = .valid effect) :
    scaleParameter.range.Holds effect.scale := by
  obtain ⟨fields, isRest⟩ := readObject_eq_valid isRead
  obtain ⟨_, _, isRest, _, byOpacity⟩ := Checked.seq_eq_valid isRest
  obtain ⟨_, _, isRest, isScale, byScale⟩ := Checked.seq_eq_valid isRest
  obtain ⟨_, _, isRest, _, byPosition⟩ := Checked.seq_eq_valid isRest
  obtain ⟨_, _, byAddress⟩ := Checked.map_eq_valid isRest
  subst byAddress byPosition byScale byOpacity
  exact Parameter.holds_of_read (by decide +kernel) (by decide +kernel) isScale

theorem SubtitleStyle.between_of_read
    {value : Json}
    {style : SubtitleStyle}
    (isRead : read value = .valid style) :
    10 ≤ style.fontSize ∧ style.fontSize ≤ 100 := by
  obtain ⟨fields, isRest⟩ := readObject_eq_valid isRead
  obtain ⟨_, _, isRest, _, byAnimation⟩ := Checked.seq_eq_valid isRest
  obtain ⟨_, _, isRest, _, byStroke⟩ := Checked.seq_eq_valid isRest
  obtain ⟨_, _, isRest, _, byColor⟩ := Checked.seq_eq_valid isRest
  obtain ⟨_, _, isRest, isSize, bySize⟩ := Checked.seq_eq_valid isRest
  obtain ⟨_, _, byFamily⟩ := Checked.map_eq_valid isRest
  subst byFamily bySize byColor byStroke byAnimation
  exact Parameter.between_of_read (by decide) isSize

namespace Effects

/-- What stages are computed from, in all effects that are read. -/
structure IsRanged (effects : Effects) : Prop where
  crop :
    ∀ crop ∈ effects.crop, ∀ text ∈ crop.aspectRatio,
      CropEffect.isAspectRatio text.toList = true
  zoom :
    ∀ zoom ∈ effects.zoom,
      ZoomEffect.intensityParameter.range.Holds zoom.intensity
  speed :
    ∀ speed ∈ effects.speed,
      SpeedEffect.valueParameter.range.Holds speed.value
  watermark :
    ∀ watermark ∈ effects.watermark,
      WatermarkEffect.scaleParameter.range.Holds watermark.scale
  subtitles :
    ∀ style ∈ effects.subtitles, 10 ≤ style.fontSize ∧ style.fontSize ≤ 100

/-- An effect that is there was read from what was sent. -/
theorem exists_read
    {α : Type}
    {fields : Fields}
    {name : String}
    {read : Json → Checked α}
    {category : Option α}
    (isRead : fields.optional name read = .valid category) :
    ∀ effect ∈ category, ∃ value, read value = .valid effect := by
  intro effect isEffect
  rw [Option.mem_def.mp isEffect] at isRead
  exact Fields.optional_eq_valid isRead

theorem isRanged_of_read
    {value : Json}
    {effects : Effects}
    (isRead : read value = .valid effects) :
    effects.IsRanged := by
  obtain ⟨fields, isRest⟩ := readObject_eq_valid isRead
  obtain ⟨_, _, isRest, _, byOutput⟩ := Checked.seq_eq_valid isRest
  obtain ⟨_, _, isRest, _, byAudio⟩ := Checked.seq_eq_valid isRest
  obtain ⟨_, _, isRest, _, byText⟩ := Checked.seq_eq_valid isRest
  obtain ⟨_, _, isRest, isSubtitles, bySubtitles⟩ :=
    Checked.seq_eq_valid isRest
  obtain ⟨_, _, isRest, isWatermark, byWatermark⟩ :=
    Checked.seq_eq_valid isRest
  obtain ⟨_, _, isRest, _, byFade⟩ := Checked.seq_eq_valid isRest
  obtain ⟨_, _, isRest, isSpeed, bySpeed⟩ := Checked.seq_eq_valid isRest
  obtain ⟨_, _, isRest, isZoom, byZoom⟩ := Checked.seq_eq_valid isRest
  obtain ⟨_, _, isRest, isCrop, byCrop⟩ := Checked.seq_eq_valid isRest
  obtain ⟨_, _, byColor⟩ := Checked.map_eq_valid isRest
  subst byColor byCrop byZoom bySpeed byFade byWatermark bySubtitles byText
    byAudio byOutput
  exact {
    crop := fun crop isEffect text isText => by
      obtain ⟨_, isRead⟩ := exists_read isCrop crop isEffect
      exact CropEffect.isAspectRatio_of_read isRead isText
    zoom := fun zoom isEffect => by
      obtain ⟨_, isRead⟩ := exists_read isZoom zoom isEffect
      exact ZoomEffect.holds_of_read isRead
    speed := fun speed isEffect => by
      obtain ⟨_, isRead⟩ := exists_read isSpeed speed isEffect
      exact SpeedEffect.holds_of_read isRead
    watermark := fun watermark isEffect => by
      obtain ⟨_, isRead⟩ := exists_read isWatermark watermark isEffect
      exact WatermarkEffect.holds_of_read isRead
    subtitles := fun style isEffect => by
      obtain ⟨_, isRead⟩ := exists_read isSubtitles style isEffect
      exact SubtitleStyle.between_of_read isRead }

/-- The speed is in its range, also if none is given. -/
theorem IsRanged.playbackSpeed
    {effects : Effects}
    (ranged : effects.IsRanged) :
    SpeedEffect.valueParameter.range.Holds effects.playbackSpeed := by
  unfold Effects.playbackSpeed
  cases speed : effects.speed with
  | some effect => exact ranged.speed effect speed
  | none => decide +kernel

end Effects

end Montage
