import Montage.Proofs.Graph.Reading
import Montage.Proofs.Work.Values
import Montage.Render.Composition
import Montage.Render.Flat

namespace Montage

/-!
# Stages that can be read

The names and keys of all stages are plain words, and no expression has a quote
in it, whatever the effects, the media and the texts are.
-/

/-- A list of filters each of which can be read. -/
def AllLegible (filters : List Filter) : Prop :=
  ∀ filter ∈ filters, filter.IsLegible

namespace AllLegible

variable {filters others : List Filter}

theorem nil : AllLegible [] := by
  simp [AllLegible]

theorem cons
    {filter : Filter}
    (first : filter.IsLegible)
    (rest : AllLegible filters) :
    AllLegible (filter :: filters) :=
  List.forall_mem_cons.mpr ⟨first, rest⟩

theorem singleton
    {filter : Filter}
    (legible : filter.IsLegible) :
    AllLegible [filter] :=
  nil.cons legible

theorem append
    (first : AllLegible filters)
    (second : AllLegible others) :
    AllLegible (filters ++ others) := by
  intro filter member
  rcases List.mem_append.mp member with inFirst | inSecond
  · exact first filter inFirst
  · exact second filter inSecond

/-- Stages of an effect that may be absent. -/
theorem elim
    {α : Type}
    (effect : Option α)
    {stages : α → List Filter}
    (legible : ∀ value, AllLegible (stages value)) :
    AllLegible (effect.elim [] stages) := by
  cases effect with
  | none => exact nil
  | some value => exact legible value

/-- A filter whose values are no expressions. -/
theorem of_arguments
    {name : String}
    (isName : IsFilterName name)
    {arguments : List OptionValue}
    (legible : ∀ value ∈ arguments, value.IsLegible) :
    AllLegible [{ name, arguments }] :=
  singleton (Filter.legible_of_arguments isName legible)

theorem of_options
    {name : String}
    (isName : IsFilterName name)
    {options : List (String × OptionValue)}
    (keys : ∀ option ∈ options, IsClear option.1)
    (values : ∀ option ∈ options, option.2.IsLegible) :
    AllLegible [{ name, options }] :=
  singleton (Filter.legible_of_options isName keys values)

end AllLegible

/-! ## Texts without quotes -/

theorem quote_not_mem_append
    {text other : String}
    (first : '\'' ∉ text.toList)
    (second : '\'' ∉ other.toList) :
    '\'' ∉ (text ++ other).toList := by
  rw [String.toList_append, List.mem_append, not_or]
  exact ⟨first, second⟩

theorem IsNumeric.quote_not_mem
    {text : List Char}
    (numeric : IsNumeric text) :
    '\'' ∉ (String.ofList text).toList := by
  rw [String.toList_ofList]
  intro member
  exact absurd (numeric _ member) (by decide)

/-! ## Stages of the picture -/

theorem pictureSpeedStages_legible
    (speed : Binary64) :
    AllLegible (pictureSpeedStages speed) := by
  unfold pictureSpeedStages
  split
  · exact .nil
  · exact .of_arguments (by decide) (by simp [OptionValue.IsLegible])

theorem resizeFilters_legible
    (width height : Option Int) :
    AllLegible (resizeFilters width height) := by
  have scale : IsFilterName "scale" := by decide
  have key : IsClear "force_original_aspect_ratio" := by decide
  unfold resizeFilters
  split
  · refine .cons ⟨scale, ?_, by simpa using key, ?_⟩
      (.of_arguments (by decide) ?_) <;>
        simp [OptionValue.IsLegible]
  · exact .of_arguments (by decide) (by simp [OptionValue.IsLegible])
  · exact .of_arguments (by decide) (by simp [OptionValue.IsLegible])
  · exact .nil

theorem cropToRatio_legible
    (effect : CropEffect)
    (width height : Json) :
    Outcome.Yields AllLegible (cropToRatio effect width height) := by
  unfold cropToRatio
  split
  · exact .ok .nil
  · split
    · exact .ok .nil
    · refine .after fun ratio => .after fun isWide => .ok ?_
      cases isWide with
      | true => exact .of_arguments (by decide) (by simp [OptionValue.IsLegible])
      | false =>
          exact .of_arguments (by decide) (by simp [OptionValue.IsLegible])

theorem cropStages_legible
    (effect : CropEffect)
    (width height : Json) :
    Outcome.Yields AllLegible (cropStages effect width height) := by
  unfold cropStages
  refine (cropToRatio_legible effect width height).bind ?_
  intro crop legible
  exact .ok (legible.append (resizeFilters_legible _ _))

/-- The numbers of a movement are number texts. -/
structure ZoomPlan.IsNumeric (plan : ZoomPlan) : Prop where
  greatestZoom : '\'' ∉ plan.greatestZoom.toList
  step : '\'' ∉ plan.step.toList

theorem ZoomPlan.ofEffect_isNumeric
    (effect : ZoomEffect)
    (duration frameRate : Binary64) :
    Outcome.Yields ZoomPlan.IsNumeric
      (ZoomPlan.ofEffect effect duration frameRate) := by
  refine .after fun rounded => .after fun count => .after fun step => .ok ?_
  exact {
    greatestZoom := (Montage.IsNumeric.sixDigitText _).quote_not_mem
    step := (Montage.IsNumeric.fixedText 6 step).quote_not_mem }

theorem ZoomPlan.quote_not_mem_zoomExpression
    {plan : ZoomPlan}
    (numeric : plan.IsNumeric) :
    '\'' ∉ plan.zoomExpression.toList := by
  obtain ⟨greatestZoom, step⟩ := numeric
  unfold zoomExpression
  cases plan.kind with
  | zoomIn =>
      exact quote_not_mem_append
        (quote_not_mem_append
          (quote_not_mem_append
            (quote_not_mem_append (by decide) step) (by decide))
          greatestZoom)
        (by decide)
  | zoomOut =>
      exact quote_not_mem_append
        (quote_not_mem_append
          (quote_not_mem_append
            (quote_not_mem_append (by decide) greatestZoom) (by decide))
          step)
        (by decide)
  | panLeft => exact greatestZoom
  | panRight => exact greatestZoom

theorem ZoomPlan.quote_not_mem_leftExpression
    {plan : ZoomPlan}
    (numeric : plan.IsNumeric) :
    '\'' ∉ plan.leftExpression.toList := by
  have greatestZoom := numeric.greatestZoom
  have frames := (Montage.IsNumeric.integerText plan.frames).quote_not_mem
  have moved :
      '\'' ∉
        ("iw/" ++ plan.greatestZoom ++ "/zoom*on/" ++
          showInteger plan.frames).toList :=
    quote_not_mem_append
      (quote_not_mem_append
        (quote_not_mem_append (by decide) greatestZoom) (by decide))
      frames
  have centered : '\'' ∉ centeredX.toList := by decide
  unfold leftExpression
  cases plan.kind with
  | zoomIn => exact centered
  | zoomOut => exact centered
  | panLeft =>
      exact quote_not_mem_append
        (quote_not_mem_append
          (quote_not_mem_append (by decide) greatestZoom) (by decide))
        moved
  | panRight => exact moved

theorem zoomStages_legible
    (effect : ZoomEffect)
    (duration : Binary64)
    (width height : Json)
    (frameRate : Binary64) :
    Outcome.Yields AllLegible
      (zoomStages effect duration width height frameRate) := by
  unfold zoomStages
  refine (ZoomPlan.ofEffect_isNumeric effect duration _).bind ?_
  intro plan numeric
  have zoom := ZoomPlan.quote_not_mem_zoomExpression numeric
  have left := ZoomPlan.quote_not_mem_leftExpression numeric
  have top : '\'' ∉ ZoomPlan.centeredY.toList := by decide
  refine .ok (.of_options (by decide) (by simp +decide) ?_)
  simp [OptionValue.IsLegible, zoom, left, top]

theorem gradeStages_legible
    (effect : ColorEffect) :
    AllLegible (gradeStages effect) := by
  have eachOption
      (neutral value : Binary64)
      {name : String}
      (clear : IsClear name) :
      ∀ option ∈ Grade.optionUnless neutral name value,
        IsClear option.1 ∧ option.2.IsLegible := by
    unfold Grade.optionUnless
    split
    · simp
    · simpa [OptionValue.IsLegible] using clear
  have options :
      ∀ option ∈ (Grade.ofEffect effect).options,
        IsClear option.1 ∧ option.2.IsLegible := by
    unfold Grade.options
    simp only [List.forall_mem_append]
    exact ⟨⟨⟨eachOption _ _ (by decide), eachOption _ _ (by decide)⟩,
      eachOption _ _ (by decide)⟩, eachOption _ _ (by decide)⟩
  unfold gradeStages
  dsimp only
  split
  · exact .nil
  · exact .of_options (by decide) (fun option member =>
      (options option member).1) (fun option member =>
        (options option member).2)

/-! ## Fades and sound -/

theorem fadeStages_legible
    {name : String}
    (isName : IsFilterName name)
    (fadeIn fadeOut duration speed : Binary64) :
    AllLegible (fadeStages name fadeIn fadeOut duration speed) := by
  have keys : IsClear "t" ∧ IsClear "st" ∧ IsClear "d" := by decide
  apply AllLegible.append
  · unfold fadeInStages
    split
    · exact .nil
    · exact .of_options isName (by simpa using keys)
        (by simp [OptionValue.IsLegible])
  · unfold fadeOutStages
    split
    · exact .nil
    · exact .of_options isName (by simpa using keys)
        (by simp [OptionValue.IsLegible])

theorem soundSpeedStages_legible
    (speed : Binary64) :
    AllLegible (soundSpeedStages speed) := by
  have tempo (factor : Binary64) : (tempoStage factor).IsLegible :=
    Filter.legible_of_arguments (by decide) (by simp [OptionValue.IsLegible])
  unfold soundSpeedStages
  split
  · exact .nil
  · split
    · exact .cons (tempo _) (.singleton (tempo _))
    · split
      · exact .singleton (tempo _)
      · exact .singleton (tempo _)

theorem soundStages_legible
    (effect : AudioEffect)
    (duration speed : Binary64)
    (fadesTogether : Bool) :
    AllLegible (soundStages effect duration speed fadesTogether) := by
  have keys : IsClear "I" ∧ IsClear "TP" ∧ IsClear "LRA" := by decide
  unfold soundStages
  refine .append (.append ?_ ?_) ?_
  · split
    · exact .nil
    · exact .of_arguments (by decide) (by simp [OptionValue.IsLegible])
  · split
    · exact .nil
    · exact fadeStages_legible (by decide) _ _ _ _
  · split
    · exact .of_options (by decide) (by simpa using keys)
        (by simp [OptionValue.IsLegible])
    · exact .nil

/-! ## Stages with files -/

theorem subtitleFilter_legible
    (documentFile fontDirectory : String) :
    (subtitleFilter documentFile fontDirectory).IsLegible := by
  have name : IsFilterName "subtitles" := by decide
  have key : IsClear "fontsdir" := by decide
  exact ⟨name, by simp [subtitleFilter, OptionValue.IsLegible],
    by simpa [subtitleFilter] using key,
    by simp [subtitleFilter, OptionValue.IsLegible]⟩

/-- There is one stage for all subtitles, or none. -/
theorem subtitleStages_yields
    (plan : SubtitlePlan)
    (cues : List Cue) :
    (subtitleStages plan cues).Yields fun stages =>
      ∀ filter ∈ stages,
        ∃ file, filter = subtitleFilter file plan.fontDirectory := by
  unfold subtitleStages
  split
  · exact .pure (by simp)
  · refine .after fun file => .after fun family => ?_
    unfold burnStages
    split
    · exact .pure (by simp)
    · refine .after fun document => .after fun _ => .pure ?_
      rw [List.forall_mem_singleton]
      exact ⟨file.toText, rfl⟩

theorem subtitleStages_legible
    (plan : SubtitlePlan)
    (cues : List Cue) :
    (subtitleStages plan cues).Yields AllLegible := by
  refine (subtitleStages_yields plan cues).imp ?_
  intro stages areSubtitles filter member
  obtain ⟨file, rfl⟩ := areSubtitles filter member
  exact subtitleFilter_legible file _

/-- An option whose key and value can be read. -/
def IsLegibleOption (option : String × OptionValue) : Prop :=
  IsClear option.1 ∧ option.2.IsLegible

theorem Filter.legible_of_legibleOptions
    {name : String}
    (isName : IsFilterName name)
    {options : List (String × OptionValue)}
    (legible : ∀ option ∈ options, IsLegibleOption option) :
    ({ name, options } : Filter).IsLegible :=
  legible_of_options isName
    (fun option member => (legible option member).1)
    (fun option member => (legible option member).2)

theorem verticalPlace_legible
    (overlay : TextOverlay) :
    overlay.verticalPlace.IsLegible := by
  have resting : '\'' ∉ overlay.restingPlace.toList := by
    unfold TextOverlay.restingPlace
    split <;> decide
  unfold TextOverlay.verticalPlace
  split
  · exact quote_not_mem_append
      (quote_not_mem_append
        (quote_not_mem_append
          (quote_not_mem_append (by decide) resting) (by decide))
        resting)
      (by decide)
  · trivial

theorem drawingFilter_legible
    (overlay : TextOverlay)
    (fontFile textFile : String) :
    (overlay.drawingFilter fontFile textFile).IsLegible := by
  have name : IsFilterName "drawtext" := by decide
  have files :
      ∀ option ∈ [
          ("fontfile", OptionValue.path fontFile),
          ("textfile", OptionValue.path textFile)],
        IsLegibleOption option := by
    simp +decide [IsLegibleOption, OptionValue.IsLegible]
  have letters : ∀ option ∈ overlay.letterOptions, IsLegibleOption option := by
    unfold TextOverlay.letterOptions
    split <;> simp +decide [IsLegibleOption, OptionValue.IsLegible]
  have place : ∀ option ∈ overlay.placeOptions, IsLegibleOption option := by
    have x : IsClear "x" := by decide
    have y : IsClear "y" := by decide
    exact List.forall_mem_cons.mpr ⟨⟨x, trivial⟩,
      List.forall_mem_singleton.mpr ⟨y, verticalPlace_legible overlay⟩⟩
  have box : ∀ option ∈ overlay.boxOptions, IsLegibleOption option := by
    unfold TextOverlay.boxOptions
    split <;> simp +decide [IsLegibleOption, OptionValue.IsLegible]
  have shadow : ∀ option ∈ overlay.shadowOptions, IsLegibleOption option := by
    unfold TextOverlay.shadowOptions
    split <;> simp +decide [IsLegibleOption, OptionValue.IsLegible]
  have spacing :
      ∀ option ∈ overlay.spacingOptions, IsLegibleOption option := by
    unfold TextOverlay.spacingOptions
    split <;> simp +decide [IsLegibleOption, OptionValue.IsLegible]
  have fade : ∀ option ∈ overlay.fadeOptions, IsLegibleOption option := by
    unfold TextOverlay.fadeOptions
    split <;> simp +decide [IsLegibleOption, OptionValue.IsLegible]
  have options :
      ∀ option ∈ (overlay.drawingFilter fontFile textFile).options,
        IsLegibleOption option := by
    simp only [TextOverlay.drawingFilter, List.forall_mem_append]
    exact ⟨⟨⟨⟨⟨⟨files, letters⟩, place⟩, box⟩, shadow⟩, spacing⟩, fade⟩
  exact ⟨name, by simp [TextOverlay.drawingFilter],
    fun option member => (options option member).1,
    fun option member => (options option member).2⟩

theorem textStages_legible
    (overlay : Option TextOverlay) :
    (textStages overlay).Yields AllLegible := by
  unfold textStages
  split
  · exact .pure .nil
  · split
    · exact .pure .nil
    · refine .after fun fontFile => .after fun file => ?_
      unfold drawnStages
      split
      · exact .pure .nil
      · refine .after fun _ => .pure ?_
        exact .singleton (drawingFilter_legible _ _ _)

/-! ## Graphs of jobs -/

theorem effectStages_legible
    (effects : Effects)
    (geometry : ClipGeometry) :
    Outcome.Yields
      (fun stages => AllLegible stages.picture ∧ AllLegible stages.sound)
      (effectStages effects geometry) := by
  have absent
      {α : Type}
      (effect : Option α)
      {stages : α → Outcome (List Filter)}
      (legible : ∀ value, Outcome.Yields AllLegible (stages value)) :
      Outcome.Yields AllLegible (stagesOf effect stages) := by
    cases effect with
    | none => exact .ok .nil
    | some value => exact legible value
  unfold effectStages
  refine (absent _ fun crop => cropStages_legible crop _ _).bind ?_
  intro crop cropLegible
  refine (absent _ fun zoom => zoomStages_legible zoom _ _ _ _).bind ?_
  intro zoom zoomLegible
  refine .ok ⟨?_, ?_⟩
  · exact (((((pictureSpeedStages_legible _).append cropLegible).append
      zoomLegible).append (.elim _ gradeStages_legible)).append
        (.elim _ fun fade => fadeStages_legible (by decide) _ _ _ _))
  · exact ((soundSpeedStages_legible _).append
      (.elim _ fun fade => fadeStages_legible (by decide) _ _ _ _)).append
        (.elim _ fun audio => soundStages_legible audio _ _ _)

end Montage
