import Mathlib.Tactic.NormNum
import Montage.Effect.Basic
import Montage.Proofs.Schema.Taking

namespace Montage

/-!
# Numbers in effects

Which fields of effects hold numbers, and of which kind. Numbers are not refused
for their size, but whole fields refuse fractions, and the width and height of a
crop refuse what is not above zero.
-/

/-! ## Fields with two names -/

/-- A parameter with a short name is read from the field with this name, or
else from the one with its long name. -/
theorem underLongName_isValid_iff
    (parameter : Parameter Binary64)
    (longName : String)
    (fields : Fields) :
    ((FadeEffect.underLongName parameter longName fields).read
        fields).IsValid ↔
      ∀ sent ∈
          (getField? parameter.name fields).or (getField? longName fields),
        (parameter.readValue sent).IsValid := by
  unfold FadeEffect.underLongName
  cases isShort : getField? parameter.name fields with
  | none =>
      rw [Option.isSome_none, if_neg Bool.false_ne_true, Option.none_or]
      exact Fields.withDefault_isValid_iff
  | some sent =>
      rw [Option.isSome_some, if_pos rfl, Option.some_or, ← isShort]
      exact Fields.withDefault_isValid_iff

/-- The check of a parameter that is a real number with a short and a long
name. -/
def FieldCheck.twoNames
    (parameter : Parameter Binary64)
    (longName : String)
    (different : parameter.name ≠ longName) :
    FieldCheck where
  names := [parameter.name, longName]
  passes fields :=
    ((FadeEffect.underLongName parameter longName fields).read fields).IsValid
  kind? := some .real
  keeps := by
    intro name notName sent fields
    rw [List.mem_cons, List.mem_singleton, not_or] at notName
    rw [underLongName_isValid_iff, underLongName_isValid_iff,
      getField?_setField_of_ne (Ne.symm notName.1),
      getField?_setField_of_ne (Ne.symm notName.2)]
  takes := by
    intro kind isKind name isName fields passes sent quantity isQuantity reaches
    obtain rfl : NumberKind.real = kind := Option.some.inj isKind
    refine iff_of_true ?_ trivial
    have isRead : (parameter.readValue sent).IsValid :=
      (readNumber_isReadBy.map _ sent quantity isQuantity reaches).mpr trivial
    rw [underLongName_isValid_iff] at passes ⊢
    rcases List.mem_cons.mp isName with rfl | isLong
    · rw [getField?_setField_self, Option.some_or]
      exact fun other isSent => Option.some.inj isSent ▸ isRead
    · rw [List.mem_singleton.mp isLong,
        getField?_setField_of_ne different, getField?_setField_self]
      cases isShort : getField? parameter.name fields with
      | none =>
          rw [Option.none_or]
          exact fun other isSent => Option.some.inj isSent ▸ isRead
      | some other =>
          rw [isShort, Option.some_or] at passes
          rwa [Option.some_or]

/-! ## Categories -/

/-- A category of effects: its name, how it is read, and the checks of all of
its fields. -/
structure Category where
  {Effect : Type}
  name : String
  read : Json → Checked Effect
  checks : List FieldCheck
  distinct : (checks.flatMap FieldCheck.names).Nodup
  read_isValid_iff :
    ∀ fields : Fields, (read (.object fields)).IsValid ↔ fields.Pass checks

namespace ColorEffect

/-- The fields of a colour effect. -/
def checks : List FieldCheck := [
  .nullable "preset" readText,
  brightnessParameter.check,
  contrastParameter.check,
  saturationParameter.check,
  gammaParameter.check]

theorem readFields_isValid_iff
    (fields : Fields) :
    (readFields fields).IsValid ↔ fields.Pass checks := by
  simp only [readFields, Checked.seq_isValid_iff, Checked.map_isValid_iff,
    checks, Fields.pass_cons, Fields.pass_nil, and_true, and_assoc]
  rfl

/-- The category of colours. -/
def category : Category where
  name := "color"
  read
  checks
  distinct := by decide
  read_isValid_iff := readFields_isValid_iff

end ColorEffect

namespace CropEffect

/-- The fields of a crop effect. -/
def checks : List FieldCheck := [
  .nullable "aspect_ratio" (readMatching isAspectRatio aspectRatioPattern),
  .plain "position" CropPosition.center Choice.read,
  .positive "width",
  .positive "height"]

theorem readFields_isValid_iff
    (fields : Fields) :
    (readFields fields).IsValid ↔ fields.Pass checks := by
  simp only [readFields, Checked.seq_isValid_iff, Checked.map_isValid_iff,
    checks, Fields.pass_cons, Fields.pass_nil, and_true, and_assoc]
  rfl

/-- The category of crops. -/
def category : Category where
  name := "crop"
  read
  checks
  distinct := by decide
  read_isValid_iff := readFields_isValid_iff

end CropEffect

namespace ZoomEffect

/-- The fields of a zoom effect. -/
def checks : List FieldCheck := [
  .plain "type" ZoomKind.zoomIn Choice.read,
  intensityParameter.check]

theorem readFields_isValid_iff
    (fields : Fields) :
    (readFields fields).IsValid ↔ fields.Pass checks := by
  simp only [readFields, Checked.seq_isValid_iff, Checked.map_isValid_iff,
    checks, Fields.pass_cons, Fields.pass_nil, and_true]
  rfl

/-- The category of zooms. -/
def category : Category where
  name := "zoom"
  read
  checks
  distinct := by decide
  read_isValid_iff := readFields_isValid_iff

end ZoomEffect

namespace SpeedEffect

/-- The field of a speed effect. -/
def checks : List FieldCheck := [
  valueParameter.check]

theorem readFields_isValid_iff
    (fields : Fields) :
    (readFields fields).IsValid ↔ fields.Pass checks := by
  simp only [readFields, Checked.map_isValid_iff, checks, Fields.pass_cons,
    Fields.pass_nil, and_true]
  rfl

/-- A speed may be sent as a number itself. -/
theorem read_isValid_of_quantity
    {sent : Json}
    {quantity : ℚ}
    (isQuantity : sent.quantity? = some quantity)
    (reaches : NumberKind.real.Reaches sent quantity) :
    (read sent).IsValid := by
  have isRead : (valueParameter.readValue sent).IsValid :=
    (readNumber_isReadBy.map _ sent quantity isQuantity reaches).mpr trivial
  have passes : (readFields [("value", sent)]).IsValid := by
    rw [readFields_isValid_iff, checks, Fields.pass_cons, Fields.pass_nil,
      and_true]
    exact Checked.within_isValid_iff.mpr isRead
  rcases Json.cases_of_quantity? isQuantity with
    ⟨number, rfl, _⟩ | ⟨number, rfl, _⟩ <;>
  exact passes

/-- The category of speeds. -/
def category : Category where
  name := "speed"
  read
  checks
  distinct := by decide
  read_isValid_iff := readFields_isValid_iff

end SpeedEffect

namespace FadeEffect

/-- The fields of a fade effect. -/
def checks : List FieldCheck := [
  .twoNames fadeInParameter "fade_in" (by decide),
  .twoNames fadeOutParameter "fade_out" (by decide)]

theorem readFields_isValid_iff
    (fields : Fields) :
    (readFields fields).IsValid ↔ fields.Pass checks := by
  simp only [readFields, Checked.seq_isValid_iff, Checked.map_isValid_iff,
    checks, Fields.pass_cons, Fields.pass_nil, and_true]
  rfl

/-- The category of fades. -/
def category : Category where
  name := "fade"
  read
  checks
  distinct := by decide
  read_isValid_iff := readFields_isValid_iff

end FadeEffect

namespace WatermarkEffect

/-- The fields of a watermark. -/
def checks : List FieldCheck := [
  .required "url" readText,
  .plain "position" WatermarkPosition.bottomRight Choice.read,
  scaleParameter.check,
  opacityParameter.check]

theorem readFields_isValid_iff
    (fields : Fields) :
    (readFields fields).IsValid ↔ fields.Pass checks := by
  simp only [readFields, Checked.seq_isValid_iff, Checked.map_isValid_iff,
    checks, Fields.pass_cons, Fields.pass_nil, and_true, and_assoc]
  rfl

/-- The category of watermarks. -/
def category : Category where
  name := "watermark"
  read
  checks
  distinct := by decide
  read_isValid_iff := readFields_isValid_iff

end WatermarkEffect

namespace SubtitleStyle

/-- The fields of a subtitle style. -/
def checks : List FieldCheck := [
  .plain "font_family" standard.fontFamily readText,
  fontSizeParameter.wholeCheck,
  .plain "font_color" standard.fontColor readText,
  .plain "stroke_color" standard.strokeColor readText,
  .plain "animation" standard.animation Choice.read]

theorem readFields_isValid_iff
    (fields : Fields) :
    (readFields fields).IsValid ↔ fields.Pass checks := by
  simp only [readFields, Checked.seq_isValid_iff, Checked.map_isValid_iff,
    checks, Fields.pass_cons, Fields.pass_nil, and_true, and_assoc]
  rfl

/-- The category of subtitles. -/
def category : Category where
  name := "subtitles"
  read
  checks
  distinct := by decide
  read_isValid_iff := readFields_isValid_iff

end SubtitleStyle

namespace TextOverlay

/-- The fields of a text. -/
def checks : List FieldCheck := [
  .plain "text" standard.text readText,
  .plain "font_family" standard.fontFamily readText,
  fontSizeParameter.wholeCheck,
  .plain "font_color" standard.fontColor ColorName.read,
  .plain "stroke_color" standard.strokeColor ColorName.read,
  strokeWidthParameter.wholeCheck,
  .plain "position" standard.position Choice.read,
  .nullable "bg_color" ColorName.read,
  backgroundOpacityParameter.check,
  backgroundPaddingParameter.wholeCheck,
  .nullable "shadow_color" ColorName.read,
  shadowXParameter.wholeCheck,
  shadowYParameter.wholeCheck,
  lineSpacingParameter.wholeCheck,
  .plain "animation" standard.animation Choice.read]

theorem readFields_isValid_iff
    (fields : Fields) :
    (readFields fields).IsValid ↔ fields.Pass checks := by
  simp only [readFields, Checked.seq_isValid_iff, Checked.map_isValid_iff,
    checks, Fields.pass_cons, Fields.pass_nil, and_true, and_assoc]
  rfl

/-- The category of texts. -/
def category : Category where
  name := "text"
  read
  checks
  distinct := by decide
  read_isValid_iff := readFields_isValid_iff

end TextOverlay

namespace AudioEffect

/-- The fields of an audio effect. -/
def checks : List FieldCheck := [
  volumeParameter.check,
  fadeInParameter.check,
  fadeOutParameter.check,
  .plain "normalize" false readBoolean]

theorem readFields_isValid_iff
    (fields : Fields) :
    (readFields fields).IsValid ↔ fields.Pass checks := by
  simp only [readFields, Checked.seq_isValid_iff, Checked.map_isValid_iff,
    checks, Fields.pass_cons, Fields.pass_nil, and_true, and_assoc]
  rfl

/-- The category of sounds. -/
def category : Category where
  name := "audio"
  read
  checks
  distinct := by decide
  read_isValid_iff := readFields_isValid_iff

end AudioEffect

namespace OutputOptions

/-- The fields of output options. -/
def checks : List FieldCheck := [
  .plain "quality" Quality.medium Choice.read,
  maxDurationParameter.check]

theorem readFields_isValid_iff
    (fields : Fields) :
    (readFields fields).IsValid ↔ fields.Pass checks := by
  simp only [readFields, Checked.seq_isValid_iff, Checked.map_isValid_iff,
    checks, Fields.pass_cons, Fields.pass_nil, and_true]
  rfl

/-- The category of outputs. -/
def category : Category where
  name := "output"
  read
  checks
  distinct := by decide
  read_isValid_iff := readFields_isValid_iff

end OutputOptions

/-! ## All categories -/

namespace Effects

/-- The categories of effects. -/
def categories : List Category := [
  ColorEffect.category,
  CropEffect.category,
  ZoomEffect.category,
  SpeedEffect.category,
  FadeEffect.category,
  WatermarkEffect.category,
  SubtitleStyle.category,
  TextOverlay.category,
  AudioEffect.category,
  OutputOptions.category]

/-- A category may be absent or null. -/
def checks : List FieldCheck :=
  categories.map fun category => .nullable category.name category.read

theorem readFields_isValid_iff
    (fields : Fields) :
    (readFields fields).IsValid ↔ fields.Pass checks := by
  simp only [readFields, Checked.seq_isValid_iff, Checked.map_isValid_iff,
    checks, categories, List.map_cons, List.map_nil, Fields.pass_cons,
    Fields.pass_nil, and_true, and_assoc]
  rfl

theorem distinct : (checks.flatMap FieldCheck.names).Nodup := by
  decide

/-- Effects that can be read still can if what is set for a category can be. -/
theorem read_setField_isValid_iff
    {category : Category}
    (member : category ∈ categories)
    {fields : Fields}
    (isValid : (read (.object fields)).IsValid)
    {sent : Json}
    (notNull : sent ≠ .null) :
    (read (.object (setField category.name sent fields))).IsValid ↔
      (category.read sent).IsValid := by
  have isCheck :
      FieldCheck.nullable category.name category.read ∈ checks :=
    List.mem_map_of_mem member
  have pass := (readFields_isValid_iff fields).mp isValid
  refine (readFields_isValid_iff _).trans ?_
  refine (Fields.pass_setField_iff distinct pass isCheck
    (List.mem_singleton.mpr rfl)).trans ?_
  refine Fields.withDefault_isValid_iff.trans ?_
  rw [getField?_setField_self, ← readNullable_isValid_iff notNull]
  simp

end Effects

/-! ## All fields with numbers -/

/-- A field that holds numbers of a kind. -/
structure NumberField where
  category : String
  name : String
  kind : NumberKind
deriving DecidableEq

/-- The fields of a category that hold numbers. -/
def Category.numberFields (category : Category) : List NumberField :=
  category.checks.flatMap fun check =>
    check.kind?.elim [] fun kind =>
      check.names.map fun name => ⟨category.name, name, kind⟩

theorem Category.exists_check
    {category : Category}
    {field : NumberField}
    (member : field ∈ category.numberFields) :
    field.category = category.name ∧
      ∃ check ∈ category.checks,
        field.kind ∈ check.kind? ∧ field.name ∈ check.names := by
  obtain ⟨check, isCheck, isField⟩ := List.mem_flatMap.mp member
  cases isKind : check.kind? with
  | none =>
      rw [isKind] at isField
      cases isField
  | some kind =>
      rw [isKind] at isField
      obtain ⟨name, isName, rfl⟩ := List.mem_map.mp isField
      exact ⟨rfl, check, isCheck, isKind, isName⟩

namespace Effects

/-- The fields of effects that hold numbers, a fade by its short and its long
names. -/
def numberFields : List NumberField := [
  ⟨"color", "brightness", .real⟩,
  ⟨"color", "contrast", .real⟩,
  ⟨"color", "saturation", .real⟩,
  ⟨"color", "gamma", .real⟩,
  ⟨"crop", "width", .positive⟩,
  ⟨"crop", "height", .positive⟩,
  ⟨"zoom", "intensity", .real⟩,
  ⟨"speed", "value", .real⟩,
  ⟨"fade", "in", .real⟩,
  ⟨"fade", "fade_in", .real⟩,
  ⟨"fade", "out", .real⟩,
  ⟨"fade", "fade_out", .real⟩,
  ⟨"watermark", "scale", .real⟩,
  ⟨"watermark", "opacity", .real⟩,
  ⟨"subtitles", "font_size", .whole⟩,
  ⟨"text", "font_size", .whole⟩,
  ⟨"text", "stroke_width", .whole⟩,
  ⟨"text", "bg_opacity", .real⟩,
  ⟨"text", "bg_padding", .whole⟩,
  ⟨"text", "shadow_x", .whole⟩,
  ⟨"text", "shadow_y", .whole⟩,
  ⟨"text", "line_spacing", .whole⟩,
  ⟨"audio", "volume", .real⟩,
  ⟨"audio", "fade_in", .real⟩,
  ⟨"audio", "fade_out", .real⟩,
  ⟨"output", "max_duration", .real⟩]

/-- The fields with numbers are those of the categories. -/
theorem numberFields_eq :
    numberFields = categories.flatMap Category.numberFields := by
  decide

/--
In an object of effects that can be read, a field is set to a number: it can
still be read exactly if the number is of the kind of the field. Fields with
real numbers take all numbers, and other fields the whole ones, but for the
width and height of a crop, which take those above zero. A speed may also be
sent as a number itself.
-/
theorem numbers_are_taken_by_kind :
    (∀ field ∈ numberFields, ∀ (fields inner : Fields),
      (read
        (.object (setField field.category (.object inner) fields))).IsValid →
      ∀ sent quantity,
        sent.quantity? = some quantity →
        field.kind.Reaches sent quantity →
        ((read
          (.object
            (setField field.category (.object (setField field.name sent inner))
              fields))).IsValid ↔
          field.kind.Takes quantity)) ∧
    ∀ (fields : Fields),
      (read (.object fields)).IsValid →
      ∀ sent quantity,
        sent.quantity? = some quantity →
        NumberKind.real.Reaches sent quantity →
        (read (.object (setField "speed" sent fields))).IsValid := by
  constructor
  · intro field member fields inner isValid sent quantity isQuantity reaches
    rw [numberFields_eq] at member
    obtain ⟨category, isCategory, isField⟩ := List.mem_flatMap.mp member
    obtain ⟨isName, check, isCheck, isKind, isIn⟩ :=
      Category.exists_check isField
    rw [isName] at isValid ⊢
    have isRead : (category.read (.object inner)).IsValid := by
      rw [← read_setField_isValid_iff isCategory isValid Json.noConfusion,
        setField_setField]
      exact isValid
    rw [← setField_setField category.name (.object inner),
      read_setField_isValid_iff isCategory isValid Json.noConfusion,
      category.read_isValid_iff]
    exact Fields.pass_setField_iff_takes category.distinct
      ((category.read_isValid_iff inner).mp isRead) isCheck isIn isKind
      isQuantity reaches
  · intro fields isValid sent quantity isQuantity reaches
    have isCategory : SpeedEffect.category ∈ categories := by
      simp [categories]
    have notNull : sent ≠ .null := by
      rintro rfl
      cases isQuantity
    refine (read_setField_isValid_iff isCategory isValid notNull).mpr ?_
    exact SpeedEffect.read_isValid_of_quantity isQuantity reaches

/-- A size of letters that no picture has is taken, and a speed that is too
high. -/
theorem great_numbers_are_taken :
    (⟨"text", "font_size", .whole⟩ : NumberField) ∈ numberFields ∧
    (read (.object (setField "text" (.object []) []))).IsValid ∧
    NumberKind.whole.Reaches (.integer (10 ^ 400)) ((10 ^ 400 : Int) : ℚ) ∧
    (read
      (.object
        (setField "text"
          (.object (setField "font_size" (.integer (10 ^ 400)) []))
          []))).IsValid ∧
    (read (.object [])).IsValid ∧
    NumberKind.real.Reaches (.integer 100) ((100 : Int) : ℚ) ∧
    (read (.object (setField "speed" (.integer 100) []))).IsValid := by
  have isField :
      (⟨"text", "font_size", .whole⟩ : NumberField) ∈ numberFields := by
    decide
  have isText :
      (read (.object (setField "text" (.object []) []))).IsValid := by
    decide +kernel
  have isEmpty : (read (.object [])).IsValid := by
    decide +kernel
  have reaches :
      NumberKind.real.Reaches (.integer 100) ((100 : Int) : ℚ) := by
    have far : 100 + powerOfTwo 970 < powerOfTwo 1024 := by
      decide +kernel
    have cast : (100 : ℚ) + powerOfTwo 970 < powerOfTwo 1024 := by
      exact_mod_cast far
    change |((100 : Int) : ℚ)| < _
    rw [Int.cast_ofNat, abs_of_pos (by norm_num), lt_sub_iff_add_lt]
    exact cast
  exact ⟨isField, isText, trivial,
    (numbers_are_taken_by_kind.1 _ isField [] [] isText
      (.integer (10 ^ 400)) _ rfl trivial).mpr ⟨_, rfl⟩,
    isEmpty, reaches,
    numbers_are_taken_by_kind.2 [] isEmpty _ _ rfl reaches⟩

/-- Even though all else is accepted, these are refused: a fraction as a size of
letters, a size beyond a word that is not written as an integer, a crop without
a width, and an integer for a brightness that is beyond all numbers. -/
theorem some_numbers_are_refused :
    (Json.number 150.5).quantity?.isSome = true ∧
    (Json.number 1e19).quantity?.isSome = true ∧
    (read (.object (setField "subtitles" (.object []) []))).IsValid ∧
    ¬ (read
      (.object
        (setField "subtitles"
          (.object (setField "font_size" (.number 150.5) []))
          []))).IsValid ∧
    ¬ (read
      (.object
        (setField "subtitles"
          (.object (setField "font_size" (.number 1e19) []))
          []))).IsValid ∧
    (Json.integer 0).quantity?.isSome = true ∧
    (read (.object (setField "crop" (.object []) []))).IsValid ∧
    ¬ (read
      (.object
        (setField "crop" (.object (setField "width" (.integer 0) []))
          []))).IsValid ∧
    (Json.integer (10 ^ 400)).quantity?.isSome = true ∧
    (read (.object (setField "color" (.object []) []))).IsValid ∧
    ¬ (read
      (.object
        (setField "color"
          (.object (setField "brightness" (.integer (10 ^ 400)) []))
          []))).IsValid := by
  decide +kernel

end Effects

end Montage
