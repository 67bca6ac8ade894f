import Montage.Proofs.Schema.Clamping

namespace Montage

/-!
# Settled effects

Whatever was sent, every parameter of the effects that were read is in its
range, a number that was sent inside the range keeps its place, and effects are
read again as they are written.
-/

/-! ## Colour -/

namespace ColorEffect

theorem readFields_eq_valid_iff
    {fields : Fields}
    {effect : ColorEffect} :
    readFields fields = .valid effect ↔
      fields.optional "preset" readText = .valid effect.preset ∧
      brightnessParameter.read fields = .valid effect.brightness ∧
      contrastParameter.read fields = .valid effect.contrast ∧
      saturationParameter.read fields = .valid effect.saturation ∧
      gammaParameter.read fields = .valid effect.gamma := by
  cases effect
  simp only [readFields, Checked.seq_eq_valid_iff, Checked.map_eq_valid_iff]
  aesop

/-- What the parameters became of the fields that were sent. -/
structure IsSettled
    (effect : ColorEffect)
    (fields : Fields) :
    Prop where
  brightness : brightnessParameter.Settles fields effect.brightness
  contrast : contrastParameter.Settles fields effect.contrast
  saturation : saturationParameter.Settles fields effect.saturation
  gamma : gammaParameter.Settles fields effect.gamma

theorem brightness_clamps : brightnessParameter.range.Clamps :=
  Range.IsShort.clamps (by decide +kernel)

theorem contrast_clamps : contrastParameter.range.Clamps :=
  Range.IsShort.clamps (by decide +kernel)

theorem saturation_clamps : saturationParameter.range.Clamps :=
  Range.IsShort.clamps (by decide +kernel)

theorem gamma_clamps : gammaParameter.range.Clamps :=
  Range.IsShort.clamps (by decide +kernel)

theorem isSettled_of_read
    {fields : Fields}
    {effect : ColorEffect}
    (isRead : readFields fields = .valid effect) :
    effect.IsSettled fields := by
  obtain ⟨_, brightness, contrast, saturation, gamma⟩ :=
    readFields_eq_valid_iff.mp isRead
  exact {
    brightness := OptionalParameter.settles brightness_clamps brightness
    contrast := OptionalParameter.settles contrast_clamps contrast
    saturation := OptionalParameter.settles saturation_clamps saturation
    gamma := OptionalParameter.settles gamma_clamps gamma }

theorem readsBack : ReadsBack read toJson where
  again := by
    intro sent effect isRead
    obtain ⟨fields, _, isFields⟩ := readObject_eq_valid_iff.mp isRead
    obtain ⟨preset, brightness, contrast, saturation, gamma⟩ :=
      readFields_eq_valid_iff.mp isFields
    refine readFields_eq_valid_iff.mpr ⟨
      readText_readsBack.optional preset ?_,
      brightness_clamps.readsBack.optional brightness ?_,
      contrast_clamps.readsBack.optional contrast ?_,
      saturation_clamps.readsBack.optional saturation ?_,
      gamma_clamps.readsBack.optional gamma ?_⟩
    all_goals simp [getField?, brightnessParameter, contrastParameter,
      saturationParameter, gammaParameter, Json.ofText?_eq, Json.ofNumber?_eq]
  notNull := fun _ => Json.noConfusion

end ColorEffect

/-! ## Crop -/

namespace CropEffect

theorem readFields_eq_valid_iff
    {fields : Fields}
    {effect : CropEffect} :
    readFields fields = .valid effect ↔
      fields.optional "aspect_ratio"
          (readMatching isAspectRatio aspectRatioPattern) =
        .valid effect.aspectRatio ∧
      Choice.readField fields "position" .center = .valid effect.position ∧
      fields.optional "width" readPositive = .valid effect.width ∧
      fields.optional "height" readPositive = .valid effect.height := by
  cases effect
  simp only [readFields, Checked.seq_eq_valid_iff, Checked.map_eq_valid_iff]
  aesop

theorem position_legible
    (position : CropPosition) :
    Choice.read (Choice.toJson position) = .valid position := by
  cases position <;> rfl

theorem readsBack : ReadsBack read toJson where
  again := by
    intro sent effect isRead
    obtain ⟨fields, _, isFields⟩ := readObject_eq_valid_iff.mp isRead
    obtain ⟨ratio, position, width, height⟩ :=
      readFields_eq_valid_iff.mp isFields
    refine readFields_eq_valid_iff.mpr ⟨
      readMatching_readsBack.optional ratio ?_,
      Choice.readField_readsBack position_legible position ?_,
      readPositive_readsBack.optional width ?_,
      readPositive_readsBack.optional height ?_⟩
    all_goals simp [getField?, Json.ofText?_eq, Json.ofInteger?_eq]
  notNull := fun _ => Json.noConfusion

end CropEffect

/-! ## Zoom -/

namespace ZoomEffect

theorem readFields_eq_valid_iff
    {fields : Fields}
    {effect : ZoomEffect} :
    readFields fields = .valid effect ↔
      Choice.readField fields "type" .zoomIn = .valid effect.kind ∧
      intensityParameter.read fields = .valid effect.intensity := by
  cases effect
  simp only [readFields, Checked.seq_eq_valid_iff, Checked.map_eq_valid_iff]
  aesop

/-- What the parameter became of the fields that were sent. -/
structure IsSettled
    (effect : ZoomEffect)
    (fields : Fields) :
    Prop where
  intensity : intensityParameter.Settles fields effect.intensity

theorem intensity_isRegular : intensityParameter.IsRegular where
  clamps := Range.IsShort.clamps (by decide +kernel)
  default := by decide +kernel

theorem isSettled_of_read
    {fields : Fields}
    {effect : ZoomEffect}
    (isRead : readFields fields = .valid effect) :
    effect.IsSettled fields := by
  obtain ⟨_, intensity⟩ := readFields_eq_valid_iff.mp isRead
  exact { intensity := intensity_isRegular.settles intensity }

theorem kind_legible
    (kind : ZoomKind) :
    Choice.read (Choice.toJson kind) = .valid kind := by
  cases kind <;> rfl

theorem readsBack : ReadsBack read toJson where
  again := by
    intro sent effect isRead
    obtain ⟨fields, _, isFields⟩ := readObject_eq_valid_iff.mp isRead
    obtain ⟨kind, intensity⟩ := readFields_eq_valid_iff.mp isFields
    refine readFields_eq_valid_iff.mpr ⟨
      Choice.readField_readsBack kind_legible kind ?_,
      intensity_isRegular.readsBack intensity ?_⟩
    all_goals simp [getField?, intensityParameter, Numeric.toJson]
  notNull := fun _ => Json.noConfusion

end ZoomEffect

/-! ## Speed -/

namespace SpeedEffect

/-- The fields that were sent; a bare number is the value. -/
def sentFields : Json → Fields
  | .object fields => fields
  | bare => [("value", bare)]

theorem readFields_eq_valid_iff
    {fields : Fields}
    {effect : SpeedEffect} :
    readFields fields = .valid effect ↔
      valueParameter.read fields = .valid effect.value := by
  cases effect
  simp only [readFields, Checked.map_eq_valid_iff]
  aesop

theorem readFields_of_read
    {sent : Json}
    {effect : SpeedEffect}
    (isRead : read sent = .valid effect) :
    readFields (sentFields sent) = .valid effect := by
  cases sent with
  | integer number => exact isRead
  | number number => exact isRead
  | object fields => exact isRead
  | null => cases isRead
  | bool value => cases isRead
  | text value => cases isRead
  | array items => cases isRead

/-- What the parameter became of the fields that were sent. -/
structure IsSettled
    (effect : SpeedEffect)
    (fields : Fields) :
    Prop where
  value : valueParameter.Settles fields effect.value

theorem value_isRegular : valueParameter.IsRegular where
  clamps := Range.IsShort.clamps (by decide +kernel)
  default := by decide +kernel

theorem isSettled_of_read
    {sent : Json}
    {effect : SpeedEffect}
    (isRead : read sent = .valid effect) :
    effect.IsSettled (sentFields sent) := by
  have value := readFields_eq_valid_iff.mp (readFields_of_read isRead)
  exact { value := value_isRegular.settles value }

theorem readsBack : ReadsBack read toJson where
  again := by
    intro sent effect isRead
    have value := readFields_eq_valid_iff.mp (readFields_of_read isRead)
    refine readFields_eq_valid_iff.mpr (value_isRegular.readsBack value ?_)
    simp [getField?, valueParameter, Numeric.toJson]
  notNull := fun _ => Json.noConfusion

end SpeedEffect

/-! ## Fade -/

namespace FadeEffect

theorem readFields_eq_valid_iff
    {fields : Fields}
    {effect : FadeEffect} :
    readFields fields = .valid effect ↔
      (underLongName fadeInParameter "fade_in" fields).read fields =
        .valid effect.fadeIn ∧
      (underLongName fadeOutParameter "fade_out" fields).read fields =
        .valid effect.fadeOut := by
  cases effect
  simp only [readFields, Checked.seq_eq_valid_iff, Checked.map_eq_valid_iff]
  aesop

/-- What the parameters became of the fields that were sent, by the short name
if it is used. -/
structure IsSettled
    (effect : FadeEffect)
    (fields : Fields) :
    Prop where
  fadeIn :
    (underLongName fadeInParameter "fade_in" fields).Settles fields
      effect.fadeIn
  fadeOut :
    (underLongName fadeOutParameter "fade_out" fields).Settles fields
      effect.fadeOut

theorem fadeIn_isRegular : fadeInParameter.IsRegular where
  clamps := Range.IsShort.clamps (by decide +kernel)
  default := by decide +kernel

theorem fadeOut_isRegular : fadeOutParameter.IsRegular where
  clamps := Range.IsShort.clamps (by decide +kernel)
  default := by decide +kernel

theorem range_underLongName
    (parameter : Parameter Binary64)
    (longName : String)
    (fields : Fields) :
    (underLongName parameter longName fields).range = parameter.range := by
  unfold underLongName
  split <;> rfl

theorem underLongName_isRegular
    {parameter : Parameter Binary64}
    (regular : parameter.IsRegular)
    (longName : String)
    (fields : Fields) :
    (underLongName parameter longName fields).IsRegular := by
  unfold underLongName
  split
  · exact regular
  · exact { clamps := regular.clamps, default := regular.default }

theorem isSettled_of_read
    {fields : Fields}
    {effect : FadeEffect}
    (isRead : readFields fields = .valid effect) :
    effect.IsSettled fields := by
  obtain ⟨fadeIn, fadeOut⟩ := readFields_eq_valid_iff.mp isRead
  exact {
    fadeIn := (underLongName_isRegular fadeIn_isRegular _ _).settles fadeIn
    fadeOut := (underLongName_isRegular fadeOut_isRegular _ _).settles fadeOut }

/-- A parameter that was read by either name is read again by its long one. -/
theorem read_underLongName
    {parameter : Parameter Binary64}
    (regular : parameter.IsRegular)
    {longName : String}
    {fields written : Fields}
    {value : Binary64}
    (isRead :
      (underLongName parameter longName fields).read fields = .valid value)
    (notShort : getField? parameter.name written = none)
    (isWritten : getField? longName written = some (.number value)) :
    (underLongName parameter longName written).read written =
      .valid value := by
  have isKept : Numeric.clamp parameter.range value = value := by
    have isAgain :=
      (underLongName_isRegular regular longName fields).again isRead
    rwa [range_underLongName] at isAgain
  unfold underLongName
  rw [notShort]
  exact Parameter.read_of_written isKept isWritten

theorem readsBack : ReadsBack read toJson where
  again := by
    intro sent effect isRead
    obtain ⟨fields, _, isFields⟩ := readObject_eq_valid_iff.mp isRead
    obtain ⟨fadeIn, fadeOut⟩ := readFields_eq_valid_iff.mp isFields
    refine readFields_eq_valid_iff.mpr ⟨
      read_underLongName fadeIn_isRegular fadeIn ?_ ?_,
      read_underLongName fadeOut_isRegular fadeOut ?_ ?_⟩
    all_goals simp [getField?, fadeInParameter, fadeOutParameter]
  notNull := fun _ => Json.noConfusion

end FadeEffect

/-! ## Watermark -/

namespace WatermarkEffect

theorem readFields_eq_valid_iff
    {fields : Fields}
    {effect : WatermarkEffect} :
    readFields fields = .valid effect ↔
      fields.required "url" readText = .valid effect.url ∧
      Choice.readField fields "position" .bottomRight =
        .valid effect.position ∧
      scaleParameter.read fields = .valid effect.scale ∧
      opacityParameter.read fields = .valid effect.opacity := by
  cases effect
  simp only [readFields, Checked.seq_eq_valid_iff, Checked.map_eq_valid_iff]
  aesop

/-- What the parameters became of the fields that were sent. -/
structure IsSettled
    (effect : WatermarkEffect)
    (fields : Fields) :
    Prop where
  scale : scaleParameter.Settles fields effect.scale
  opacity : opacityParameter.Settles fields effect.opacity

theorem scale_isRegular : scaleParameter.IsRegular where
  clamps := Range.IsShort.clamps (by decide +kernel)
  default := by decide +kernel

theorem opacity_isRegular : opacityParameter.IsRegular where
  clamps := Range.IsShort.clamps (by decide +kernel)
  default := by decide +kernel

theorem isSettled_of_read
    {fields : Fields}
    {effect : WatermarkEffect}
    (isRead : readFields fields = .valid effect) :
    effect.IsSettled fields := by
  obtain ⟨_, _, scale, opacity⟩ := readFields_eq_valid_iff.mp isRead
  exact {
    scale := scale_isRegular.settles scale
    opacity := opacity_isRegular.settles opacity }

theorem position_legible
    (position : WatermarkPosition) :
    Choice.read (Choice.toJson position) = .valid position := by
  cases position <;> rfl

theorem readsBack : ReadsBack read toJson where
  again := by
    intro sent effect isRead
    obtain ⟨fields, _, isFields⟩ := readObject_eq_valid_iff.mp isRead
    obtain ⟨url, position, scale, opacity⟩ :=
      readFields_eq_valid_iff.mp isFields
    refine readFields_eq_valid_iff.mpr ⟨
      readText_readsBack.required url ?_,
      Choice.readField_readsBack position_legible position ?_,
      scale_isRegular.readsBack scale ?_,
      opacity_isRegular.readsBack opacity ?_⟩
    all_goals simp [getField?, scaleParameter, opacityParameter,
      Numeric.toJson]
  notNull := fun _ => Json.noConfusion

end WatermarkEffect

/-! ## Subtitles -/

namespace SubtitleStyle

theorem readFields_eq_valid_iff
    {fields : Fields}
    {style : SubtitleStyle} :
    readFields fields = .valid style ↔
      fields.withDefault "font_family" standard.fontFamily readText =
        .valid style.fontFamily ∧
      fontSizeParameter.read fields = .valid style.fontSize ∧
      fields.withDefault "font_color" standard.fontColor readText =
        .valid style.fontColor ∧
      fields.withDefault "stroke_color" standard.strokeColor readText =
        .valid style.strokeColor ∧
      Choice.readField fields "animation" standard.animation =
        .valid style.animation := by
  cases style
  simp only [readFields, Checked.seq_eq_valid_iff, Checked.map_eq_valid_iff]
  aesop

/-- What the parameter became of the fields that were sent. -/
structure IsSettled
    (style : SubtitleStyle)
    (fields : Fields) :
    Prop where
  fontSize : fontSizeParameter.Settles fields style.fontSize

theorem fontSize_isRegular : fontSizeParameter.IsRegular where
  clamps := Range.clamps_of_le (by decide)
  default := by decide

theorem isSettled_of_read
    {fields : Fields}
    {style : SubtitleStyle}
    (isRead : readFields fields = .valid style) :
    style.IsSettled fields := by
  obtain ⟨_, fontSize, _⟩ := readFields_eq_valid_iff.mp isRead
  exact { fontSize := fontSize_isRegular.settles fontSize }

theorem animation_legible
    (animation : SubtitleAnimation) :
    Choice.read (Choice.toJson animation) = .valid animation := by
  cases animation <;> rfl

theorem readsBack : ReadsBack read toJson where
  again := by
    intro sent style isRead
    obtain ⟨fields, _, isFields⟩ := readObject_eq_valid_iff.mp isRead
    obtain ⟨family, fontSize, fontColor, strokeColor, animation⟩ :=
      readFields_eq_valid_iff.mp isFields
    refine readFields_eq_valid_iff.mpr ⟨
      readText_readsBack.withDefault rfl family ?_,
      fontSize_isRegular.readsBack fontSize ?_,
      readText_readsBack.withDefault rfl fontColor ?_,
      readText_readsBack.withDefault rfl strokeColor ?_,
      Choice.readField_readsBack animation_legible animation ?_⟩
    all_goals simp [getField?, fontSizeParameter, Numeric.toJson]
  notNull := fun _ => Json.noConfusion

end SubtitleStyle

/-! ## Text -/

namespace TextOverlay

theorem readFields_eq_valid_iff
    {fields : Fields}
    {overlay : TextOverlay} :
    readFields fields = .valid overlay ↔
      fields.withDefault "text" standard.text readText =
        .valid overlay.text ∧
      fields.withDefault "font_family" standard.fontFamily readText =
        .valid overlay.fontFamily ∧
      fontSizeParameter.read fields = .valid overlay.fontSize ∧
      fields.withDefault "font_color" standard.fontColor ColorName.read =
        .valid overlay.fontColor ∧
      fields.withDefault "stroke_color" standard.strokeColor ColorName.read =
        .valid overlay.strokeColor ∧
      strokeWidthParameter.read fields = .valid overlay.strokeWidth ∧
      Choice.readField fields "position" standard.position =
        .valid overlay.position ∧
      fields.optional "bg_color" ColorName.read =
        .valid overlay.backgroundColor ∧
      backgroundOpacityParameter.read fields =
        .valid overlay.backgroundOpacity ∧
      backgroundPaddingParameter.read fields =
        .valid overlay.backgroundPadding ∧
      fields.optional "shadow_color" ColorName.read =
        .valid overlay.shadowColor ∧
      shadowXParameter.read fields = .valid overlay.shadowX ∧
      shadowYParameter.read fields = .valid overlay.shadowY ∧
      lineSpacingParameter.read fields = .valid overlay.lineSpacing ∧
      Choice.readField fields "animation" standard.animation =
        .valid overlay.animation := by
  cases overlay
  simp only [readFields, Checked.seq_eq_valid_iff, Checked.map_eq_valid_iff]
  aesop

/-- What the parameters became of the fields that were sent. -/
structure IsSettled
    (overlay : TextOverlay)
    (fields : Fields) :
    Prop where
  fontSize : fontSizeParameter.Settles fields overlay.fontSize
  strokeWidth : strokeWidthParameter.Settles fields overlay.strokeWidth
  backgroundOpacity :
    backgroundOpacityParameter.Settles fields overlay.backgroundOpacity
  backgroundPadding :
    backgroundPaddingParameter.Settles fields overlay.backgroundPadding
  shadowX : shadowXParameter.Settles fields overlay.shadowX
  shadowY : shadowYParameter.Settles fields overlay.shadowY
  lineSpacing : lineSpacingParameter.Settles fields overlay.lineSpacing

theorem fontSize_isRegular : fontSizeParameter.IsRegular where
  clamps := Range.clamps_of_le (by decide)
  default := by decide

theorem strokeWidth_isRegular : strokeWidthParameter.IsRegular where
  clamps := Range.clamps_of_le (by decide)
  default := by decide

theorem backgroundOpacity_isRegular :
    backgroundOpacityParameter.IsRegular where
  clamps := Range.IsShort.clamps (by decide +kernel)
  default := by decide +kernel

theorem backgroundPadding_isRegular :
    backgroundPaddingParameter.IsRegular where
  clamps := Range.clamps_of_le (by decide)
  default := by decide

theorem shadowX_isRegular : shadowXParameter.IsRegular where
  clamps := Range.clamps_of_le (by decide)
  default := by decide

theorem shadowY_isRegular : shadowYParameter.IsRegular where
  clamps := Range.clamps_of_le (by decide)
  default := by decide

theorem lineSpacing_clamps : lineSpacingParameter.range.Clamps :=
  Range.clamps_of_le (by decide)

theorem isSettled_of_read
    {fields : Fields}
    {overlay : TextOverlay}
    (isRead : readFields fields = .valid overlay) :
    overlay.IsSettled fields := by
  obtain ⟨_, _, fontSize, _, _, strokeWidth, _, _, opacity, padding, _,
    shadowX, shadowY, lineSpacing, _⟩ := readFields_eq_valid_iff.mp isRead
  exact {
    fontSize := fontSize_isRegular.settles fontSize
    strokeWidth := strokeWidth_isRegular.settles strokeWidth
    backgroundOpacity := backgroundOpacity_isRegular.settles opacity
    backgroundPadding := backgroundPadding_isRegular.settles padding
    shadowX := shadowX_isRegular.settles shadowX
    shadowY := shadowY_isRegular.settles shadowY
    lineSpacing := OptionalParameter.settles lineSpacing_clamps lineSpacing }

theorem position_legible
    (position : TextPosition) :
    Choice.read (Choice.toJson position) = .valid position := by
  cases position <;> rfl

theorem animation_legible
    (animation : TextAnimation) :
    Choice.read (Choice.toJson animation) = .valid animation := by
  cases animation <;> rfl

theorem color_readsBack : ReadsBack ColorName.read .text :=
  readMatching_readsBack

theorem readsBack : ReadsBack read toJson where
  again := by
    intro sent overlay isRead
    obtain ⟨fields, _, isFields⟩ := readObject_eq_valid_iff.mp isRead
    obtain ⟨text, family, fontSize, fontColor, strokeColor, strokeWidth,
      position, background, opacity, padding, shadow, shadowX, shadowY,
      lineSpacing, animation⟩ := readFields_eq_valid_iff.mp isFields
    refine readFields_eq_valid_iff.mpr ⟨
      readText_readsBack.withDefault rfl text ?_,
      readText_readsBack.withDefault rfl family ?_,
      fontSize_isRegular.readsBack fontSize ?_,
      color_readsBack.withDefault rfl fontColor ?_,
      color_readsBack.withDefault rfl strokeColor ?_,
      strokeWidth_isRegular.readsBack strokeWidth ?_,
      Choice.readField_readsBack position_legible position ?_,
      color_readsBack.optional background ?_,
      backgroundOpacity_isRegular.readsBack opacity ?_,
      backgroundPadding_isRegular.readsBack padding ?_,
      color_readsBack.optional shadow ?_,
      shadowX_isRegular.readsBack shadowX ?_,
      shadowY_isRegular.readsBack shadowY ?_,
      lineSpacing_clamps.readsBack.optional lineSpacing ?_,
      Choice.readField_readsBack animation_legible animation ?_⟩
    all_goals simp [getField?, fontSizeParameter, strokeWidthParameter,
      backgroundOpacityParameter, backgroundPaddingParameter,
      shadowXParameter, shadowYParameter, lineSpacingParameter,
      Numeric.toJson, Json.ofText?_eq, Json.ofInteger?_eq]
  notNull := fun _ => Json.noConfusion

end TextOverlay

/-! ## Sound -/

namespace AudioEffect

theorem readFields_eq_valid_iff
    {fields : Fields}
    {effect : AudioEffect} :
    readFields fields = .valid effect ↔
      volumeParameter.read fields = .valid effect.volume ∧
      fadeInParameter.read fields = .valid effect.fadeIn ∧
      fadeOutParameter.read fields = .valid effect.fadeOut ∧
      fields.withDefault "normalize" false readBoolean =
        .valid effect.normalize := by
  cases effect
  simp only [readFields, Checked.seq_eq_valid_iff, Checked.map_eq_valid_iff]
  aesop

/-- What the parameters became of the fields that were sent. -/
structure IsSettled
    (effect : AudioEffect)
    (fields : Fields) :
    Prop where
  volume : volumeParameter.Settles fields effect.volume
  fadeIn : fadeInParameter.Settles fields effect.fadeIn
  fadeOut : fadeOutParameter.Settles fields effect.fadeOut

theorem volume_isRegular : volumeParameter.IsRegular where
  clamps := Range.IsShort.clamps (by decide +kernel)
  default := by decide +kernel

theorem fadeIn_isRegular : fadeInParameter.IsRegular where
  clamps := Range.IsShort.clamps (by decide +kernel)
  default := by decide +kernel

theorem fadeOut_isRegular : fadeOutParameter.IsRegular where
  clamps := Range.IsShort.clamps (by decide +kernel)
  default := by decide +kernel

theorem isSettled_of_read
    {fields : Fields}
    {effect : AudioEffect}
    (isRead : readFields fields = .valid effect) :
    effect.IsSettled fields := by
  obtain ⟨volume, fadeIn, fadeOut, _⟩ := readFields_eq_valid_iff.mp isRead
  exact {
    volume := volume_isRegular.settles volume
    fadeIn := fadeIn_isRegular.settles fadeIn
    fadeOut := fadeOut_isRegular.settles fadeOut }

theorem readsBack : ReadsBack read toJson where
  again := by
    intro sent effect isRead
    obtain ⟨fields, _, isFields⟩ := readObject_eq_valid_iff.mp isRead
    obtain ⟨volume, fadeIn, fadeOut, normalize⟩ :=
      readFields_eq_valid_iff.mp isFields
    refine readFields_eq_valid_iff.mpr ⟨
      volume_isRegular.readsBack volume ?_,
      fadeIn_isRegular.readsBack fadeIn ?_,
      fadeOut_isRegular.readsBack fadeOut ?_,
      readBoolean_readsBack.withDefault rfl normalize ?_⟩
    all_goals simp [getField?, volumeParameter, fadeInParameter,
      fadeOutParameter, Numeric.toJson]
  notNull := fun _ => Json.noConfusion

end AudioEffect

/-! ## Output -/

namespace OutputOptions

theorem readFields_eq_valid_iff
    {fields : Fields}
    {options : OutputOptions} :
    readFields fields = .valid options ↔
      Choice.readField fields "quality" .medium = .valid options.quality ∧
      maxDurationParameter.read fields = .valid options.longestDuration := by
  cases options
  simp only [readFields, Checked.seq_eq_valid_iff, Checked.map_eq_valid_iff]
  aesop

/-- What the parameter became of the fields that were sent. -/
structure IsSettled
    (options : OutputOptions)
    (fields : Fields) :
    Prop where
  longestDuration :
    maxDurationParameter.Settles fields options.longestDuration

theorem maxDuration_clamps : maxDurationParameter.range.Clamps :=
  Range.IsShort.clamps (by decide +kernel)

theorem isSettled_of_read
    {fields : Fields}
    {options : OutputOptions}
    (isRead : readFields fields = .valid options) :
    options.IsSettled fields := by
  obtain ⟨_, duration⟩ := readFields_eq_valid_iff.mp isRead
  exact {
    longestDuration := OptionalParameter.settles maxDuration_clamps duration }

theorem quality_legible
    (quality : Quality) :
    Choice.read (Choice.toJson quality) = .valid quality := by
  cases quality <;> rfl

theorem readsBack : ReadsBack read toJson where
  again := by
    intro sent options isRead
    obtain ⟨fields, _, isFields⟩ := readObject_eq_valid_iff.mp isRead
    obtain ⟨quality, duration⟩ := readFields_eq_valid_iff.mp isFields
    refine readFields_eq_valid_iff.mpr ⟨
      Choice.readField_readsBack quality_legible quality ?_,
      maxDuration_clamps.readsBack.optional duration ?_⟩
    all_goals simp [getField?, maxDurationParameter, Json.ofNumber?_eq]
  notNull := fun _ => Json.noConfusion

end OutputOptions

/-! ## All effects -/

namespace Effects

theorem readFields_eq_valid_iff
    {fields : Fields}
    {effects : Effects} :
    readFields fields = .valid effects ↔
      fields.optional "color" ColorEffect.read = .valid effects.color ∧
      fields.optional "crop" CropEffect.read = .valid effects.crop ∧
      fields.optional "zoom" ZoomEffect.read = .valid effects.zoom ∧
      fields.optional "speed" SpeedEffect.read = .valid effects.speed ∧
      fields.optional "fade" FadeEffect.read = .valid effects.fade ∧
      fields.optional "watermark" WatermarkEffect.read =
        .valid effects.watermark ∧
      fields.optional "subtitles" SubtitleStyle.read =
        .valid effects.subtitles ∧
      fields.optional "text" TextOverlay.read = .valid effects.text ∧
      fields.optional "audio" AudioEffect.read = .valid effects.audio ∧
      fields.optional "output" OutputOptions.read =
        .valid effects.output := by
  cases effects
  simp only [readFields, Checked.seq_eq_valid_iff, Checked.map_eq_valid_iff]
  aesop

/-- A category is settled for the object that was sent under its name. -/
def Settles
    {α : Type}
    (isSettled : α → Fields → Prop)
    (name : String)
    (fields : Fields)
    (category : Option α) :
    Prop :=
  ∀ effect ∈ category, ∃ sent,
    getField? name fields = some (.object sent) ∧ isSettled effect sent

theorem settles_of_read
    {α : Type}
    {isSettled : α → Fields → Prop}
    {readFields : Fields → Checked α}
    (settled :
      ∀ {fields effect},
        readFields fields = .valid effect → isSettled effect fields)
    {objectName name : String}
    {fields : Fields}
    {category : Option α}
    (isRead :
      fields.optional name (readObject objectName readFields) =
        .valid category) :
    Settles isSettled name fields category := by
  intro effect isEffect
  rcases Fields.optional_cases isRead with
    ⟨_, isNone⟩ | ⟨sent, value, found, isSent, isSome⟩
  · rw [isNone] at isEffect
    cases isEffect
  · obtain ⟨inner, rfl, isInner⟩ := readObject_eq_valid_iff.mp isSent
    rw [isSome] at isEffect
    obtain rfl : value = effect := Option.some.inj isEffect
    exact ⟨inner, found, settled isInner⟩

/-- What all parameters became of the fields that were sent. -/
structure IsSettled
    (effects : Effects)
    (fields : Fields) :
    Prop where
  color : Settles ColorEffect.IsSettled "color" fields effects.color
  zoom : Settles ZoomEffect.IsSettled "zoom" fields effects.zoom
  speed :
    ∀ effect ∈ effects.speed, ∃ sent,
      getField? "speed" fields = some sent ∧
      effect.IsSettled (SpeedEffect.sentFields sent)
  fade : Settles FadeEffect.IsSettled "fade" fields effects.fade
  watermark :
    Settles WatermarkEffect.IsSettled "watermark" fields effects.watermark
  subtitles :
    Settles SubtitleStyle.IsSettled "subtitles" fields effects.subtitles
  text : Settles TextOverlay.IsSettled "text" fields effects.text
  audio : Settles AudioEffect.IsSettled "audio" fields effects.audio
  output : Settles OutputOptions.IsSettled "output" fields effects.output

theorem isSettled_of_read
    {fields : Fields}
    {effects : Effects}
    (isRead : readFields fields = .valid effects) :
    effects.IsSettled fields := by
  obtain ⟨color, _, zoom, speed, fade, watermark, subtitles, text, audio,
    output⟩ := readFields_eq_valid_iff.mp isRead
  exact {
    color := settles_of_read ColorEffect.isSettled_of_read color
    zoom := settles_of_read ZoomEffect.isSettled_of_read zoom
    speed := by
      intro effect isEffect
      rcases Fields.optional_cases speed with
        ⟨_, isNone⟩ | ⟨sent, value, found, isSent, isSome⟩
      · rw [isNone] at isEffect
        cases isEffect
      · rw [isSome] at isEffect
        obtain rfl : value = effect := Option.some.inj isEffect
        exact ⟨sent, found, SpeedEffect.isSettled_of_read isSent⟩
    fade := settles_of_read FadeEffect.isSettled_of_read fade
    watermark := settles_of_read WatermarkEffect.isSettled_of_read watermark
    subtitles := settles_of_read SubtitleStyle.isSettled_of_read subtitles
    text := settles_of_read TextOverlay.isSettled_of_read text
    audio := settles_of_read AudioEffect.isSettled_of_read audio
    output := settles_of_read OutputOptions.isSettled_of_read output }

theorem categoryJson_eq
    {α : Type}
    (toJson : α → Json)
    (category : Option α) :
    categoryJson toJson category = Json.ofOption toJson category := by
  cases category <;> rfl

theorem readsBack : ReadsBack read toJson where
  again := by
    intro sent effects isRead
    obtain ⟨fields, _, isFields⟩ := readObject_eq_valid_iff.mp isRead
    obtain ⟨color, crop, zoom, speed, fade, watermark, subtitles, text, audio,
      output⟩ := readFields_eq_valid_iff.mp isFields
    refine readFields_eq_valid_iff.mpr ⟨
      ColorEffect.readsBack.optional color ?_,
      CropEffect.readsBack.optional crop ?_,
      ZoomEffect.readsBack.optional zoom ?_,
      SpeedEffect.readsBack.optional speed ?_,
      FadeEffect.readsBack.optional fade ?_,
      WatermarkEffect.readsBack.optional watermark ?_,
      SubtitleStyle.readsBack.optional subtitles ?_,
      TextOverlay.readsBack.optional text ?_,
      AudioEffect.readsBack.optional audio ?_,
      OutputOptions.readsBack.optional output ?_⟩
    all_goals simp [getField?, categoryJson_eq]
  notNull := fun _ => Json.noConfusion

/-- Whatever object was sent: every parameter of the effects that were read is
in its range, every number that was sent inside the range keeps its place, and
the effects are read again as they are written. -/
theorem settled_and_read_again
    {fields : Fields}
    {effects : Effects}
    (isRead : read (.object fields) = .valid effects) :
    effects.IsSettled fields ∧ read effects.toJson = .valid effects :=
  ⟨isSettled_of_read isRead, readsBack.again isRead⟩

/-- Numbers on all sides of their ranges, under both names, bare and as other
values. -/
def oddRequest : Fields := [
  ("color", .object [
    ("brightness", .integer 7),
    ("contrast", .number .nan),
    ("saturation", .text "2.5"),
    ("gamma", .number (.infinite true))]),
  ("speed", .number 1.5),
  ("fade", .object [
    ("fade_in", .integer 1),
    ("in", .integer 30),
    ("fade_out", .bool true)]),
  ("subtitles", .object [("font_size", .number 12)]),
  ("output", .object [("max_duration", .integer (10 ^ 30))])]

/-- What the odd request is read as. -/
def oddEffects : Effects where
  color := some {
    preset := none
    brightness := some 1
    contrast := some 3
    saturation := some 2.5
    gamma := some 0.1 }
  speed := some { value := 1.5 }
  fade := some { fadeIn := 5, fadeOut := 1 }
  subtitles := some { fontSize := 12 }
  output := some { longestDuration := some 3600 }

theorem oddRequest_settled :
    read (.object oddRequest) = .valid oddEffects ∧
    oddEffects.IsSettled oddRequest ∧
    read oddEffects.toJson = .valid oddEffects := by
  have isRead : read (.object oddRequest) = .valid oddEffects :=
    Checked.eq_valid_of_toOption (by decide +kernel)
  exact ⟨isRead, settled_and_read_again isRead⟩

end Effects

end Montage
