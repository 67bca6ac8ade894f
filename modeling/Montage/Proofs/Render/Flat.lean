import Montage.Proofs.Effect.Ranges
import Montage.Proofs.Effect.Ratio
import Montage.Proofs.Render.Composition
import Montage.Proofs.Stage.DrawnText
import Montage.Proofs.Subtitle.Cues
import Montage.Render.Flat

namespace Montage

/-!
# Flat renders of accepted effects

Which flat renders are made. Parameters in their ranges and a measured frame
leave nothing that cannot be computed but one quotient: that of the two numbers
of an aspect ratio, which are accepted by a pattern. And a subtitle can hold
what no document can.
-/

variable {State : Type} {surroundings : Surroundings State}

/-! ## Measured frames -/

/-- A duration or a rate: above zero and not more than some. -/
structure IsMeasure (number : Binary64) : Prop where
  positive : Binary64.less 0 number = true
  bounded : number.atMost 1000000000 = true

/-- Facts about a file whose frame size, duration and rate are known. -/
structure MediaFacts.IsMeasured (facts : MediaFacts) : Prop where
  width : IsSide facts.width
  height : IsSide facts.height
  duration : IsMeasure facts.duration
  frameRate : IsMeasure facts.frameRate

namespace IsMeasure

variable {number : Binary64}

theorem within
    (measure : IsMeasure number) :
    number.Within 1000000000 :=
  TimelineEntry.within_of_atMost (Binary64.reached_of_less measure.positive)
    measure.bounded

theorem isZero_eq_false
    (measure : IsMeasure number) :
    number.isZero = false :=
  Binary64.isZero_eq_false_of_positive measure.positive

end IsMeasure

namespace ClipGeometry

/-- A geometry that stages can be computed from. -/
structure IsMeasured (geometry : ClipGeometry) : Prop where
  width : IsSide geometry.width
  height : IsSide geometry.height
  duration : IsMeasure geometry.duration
  frameRate : IsMeasure geometry.frameRate

theorem sideOr_eq
    {default side : Json}
    (isSide : IsSide side) :
    sideOr default side = side := by
  obtain ⟨pixels, rfl, positive, _⟩ := isSide
  have notZero : pixels ≠ 0 := by omega
  simp [sideOr, Json.isGiven, notZero]

/-- A clip is measured if its file is, or if nothing is known about it. -/
theorem isMeasured_ofMedia
    {media : Option MediaFacts}
    (measured : ∀ facts ∈ media, facts.IsMeasured) :
    (ofMedia media).IsMeasured := by
  cases media with
  | none =>
      exact {
        width := ⟨1080, rfl, by decide, by decide⟩
        height := ⟨1920, rfl, by decide, by decide⟩
        duration := ⟨by decide +kernel, by decide +kernel⟩
        frameRate := ⟨by decide +kernel, by decide +kernel⟩ }
  | some facts =>
      obtain ⟨width, height, duration, frameRate⟩ := measured facts rfl
      simp only [ofMedia, numberOr, sideOr_eq width, sideOr_eq height,
        duration.isZero_eq_false, frameRate.isZero_eq_false,
        Bool.false_eq_true, ↓reduceIte]
      exact ⟨width, height, duration, frameRate⟩

end ClipGeometry

/-! ## Stages of effects -/

/-- An aspect ratio can be computed with: its digits are known, and the second
number is not zero. -/
def CropEffect.IsComputable (effect : CropEffect) : Prop :=
  ∀ text ∈ effect.aspectRatio,
    HasKnownDigits text.toList ∧
    ∀ ratio, AspectRatio.read text = .ok ratio → ratio.vertical.isZero = false

/-- Integers are divided as such. -/
theorem Json.dividedBy_integers
    {dividend divisor : Int}
    {quotient : Binary64}
    (isQuotient : Binary64.divideIntegers dividend divisor = .ok quotient) :
    (Json.integer dividend).dividedBy (.integer divisor) = .ok quotient := by
  simp only [Json.dividedBy, Json.amount?, Amount.divide, Amount.integer?,
    isQuotient]
  rfl

/-- Whether a frame exceeds a ratio can be told unless the second number of the
ratio is zero. -/
theorem AspectRatio.isExceeded_isOk_iff
    (ratio : AspectRatio)
    {width height : Json}
    (isWidth : IsSide width)
    (isHeight : IsSide height) :
    (∃ exceeded, ratio.isExceeded width height = .ok exceeded) ↔
      ratio.vertical.isZero = false := by
  obtain ⟨wide, rfl, wideAbove, wideBelow⟩ := isWidth
  obtain ⟨high, rfl, highAbove, _⟩ := isHeight
  have small : 1000000000 < powerOfTwo 1023 :=
    lt_powerOfTwo_of_short (by decide) (by decide)
  have wideBound : wide.natAbs < powerOfTwo 1023 := by omega
  obtain ⟨frame, isFrame⟩ :=
    Binary64.divideIntegers_eq_ok (ne_of_gt highAbove) wideBound
  rw [← Binary64.divide_isOk_iff ratio.horizontal]
  unfold isExceeded
  rw [Json.dividedBy_integers isFrame]
  exact Outcome.bind_pure_eq_ok_iff.trans Outcome.mapError_eq_ok_iff

theorem cropStages_isOk_iff
    {effect : CropEffect}
    (accepted :
      ∀ text ∈ effect.aspectRatio,
        CropEffect.isAspectRatio text.toList = true)
    {width height : Json}
    (isWidth : IsSide width)
    (isHeight : IsSide height) :
    (∃ stages, cropStages effect width height = .ok stages) ↔
      effect.IsComputable := by
  have resized :
      (∃ stages, cropStages effect width height = .ok stages) ↔
        ∃ stages, cropToRatio effect width height = .ok stages :=
    Outcome.bind_pure_eq_ok_iff
  rw [resized, CropEffect.IsComputable, cropToRatio]
  cases isText : effect.aspectRatio with
  | none => exact iff_of_true ⟨_, rfl⟩ (by simp)
  | some text =>
      have isRatio := accepted text isText
      have nonempty : text.isEmpty = false := by
        by_contra isEmpty
        rw [Bool.not_eq_false, String.isEmpty_iff] at isEmpty
        rw [isEmpty] at isRatio
        cases isRatio
      have cut (ratio : AspectRatio) :
          (∃ stages,
            (do
              let isWide ← ratio.isExceeded width height
              pure
                [if isWide then
                  cropSides ratio effect.position
                else
                  cropEnds ratio effect.position] : Outcome (List Filter)) =
              .ok stages) ↔
            ratio.vertical.isZero = false :=
        Outcome.bind_pure_eq_ok_iff.trans
          (ratio.isExceeded_isOk_iff isWidth isHeight)
      simp only [nonempty, Bool.false_eq_true, ↓reduceIte, Option.mem_def,
        Option.some.injEq, forall_eq']
      rw [← AspectRatio.read_isOk_iff isRatio, Outcome.bind_eq_ok_iff]
      simp only [cut]
      constructor
      · rintro ⟨ratio, isRead, notZero⟩
        refine ⟨⟨ratio, isRead⟩, fun other isOther => ?_⟩
        rw [Except.ok.inj (isOther.symm.trans isRead)]
        exact notZero
      · rintro ⟨⟨ratio, isRead⟩, notZero⟩
        exact ⟨ratio, isRead, notZero ratio isRead⟩

/-- A zoom is always computed: the number of frames is at least one. -/
theorem zoomStages_succeeds
    (effect : ZoomEffect)
    {duration frameRate : Binary64}
    (isDuration : IsMeasure duration)
    (isRate : IsMeasure frameRate)
    (width height : Json) :
    (zoomStages effect duration width height frameRate).Succeeds
      fun _ => True := by
  have product :=
    isDuration.within.multiply isRate.within
      (lt_powerOfTwo_of_short (by decide) (by decide))
  obtain ⟨rounded, isRounded, bounded⟩ := product.round
  have small : 2000000000000000010 < powerOfTwo 1023 :=
    lt_powerOfTwo_of_short (by decide) (by decide)
  have frames : (max 1 rounded).natAbs < powerOfTwo 1023 := by omega
  obtain ⟨count, isCount, _⟩ := Binary64.ofInteger_eq_ok frames
  have notZero : count.isZero = false :=
    Binary64.isZero_of_ofInteger isCount (by omega)
  have plan :
      (ZoomPlan.ofEffect effect duration frameRate).Succeeds fun _ => True := by
    have roundedOff :
        (ofArithmetic (duration * frameRate).round).Succeeds
          fun value => value = rounded :=
      ⟨rounded, by rw [isRounded]; rfl, rfl⟩
    have counted :
        (ofArithmetic (Binary64.ofInteger (max 1 rounded))).Succeeds
          fun count => count.isZero = false :=
      ⟨count, by rw [isCount]; rfl, notZero⟩
    refine roundedOff.bind ?_
    rintro _ rfl
    refine counted.bind fun divisor notZero => ?_
    refine (Outcome.Succeeds.ofArithmetic
      ((Binary64.divide_isOk_iff effect.intensity divisor).mpr notZero)).bind ?_
    exact fun step _ => .ok trivial
  unfold zoomStages
  rw [isRate.isZero_eq_false]
  exact plan.bind fun plan _ => .ok trivial

/-- The width of a watermark can be computed. -/
theorem placeWatermark_succeeds
    {effect : WatermarkEffect}
    (holds : WatermarkEffect.scaleParameter.range.Holds effect.scale)
    {width : Json}
    (isWidth : IsSide width)
    (index : Int) :
    (placeWatermark effect width index).Succeeds fun _ => True := by
  obtain ⟨pixels, rfl, above, below⟩ := isWidth
  have far : 1000000000 < powerOfTwo 1023 :=
    lt_powerOfTwo_of_short (by decide) (by decide)
  obtain ⟨converted, isConverted, _⟩ :=
    @Binary64.ofInteger_eq_ok pixels (by omega)
  have width : converted.Within (2 * 1000000000 + 1) :=
    Binary64.within_of_ofInteger isConverted (by omega)
      (lt_powerOfTwo_of_short (by decide) (by decide))
  have scale : effect.scale.Within 1 :=
    holds.within_one (by decide +kernel) (by decide +kernel)
  have scaled :
      ((Json.integer pixels).scaled effect.scale).Succeeds fun value =>
        value.isFinite = true := by
    refine ⟨converted * effect.scale, ?_,
      (width.multiply scale
        (lt_powerOfTwo_of_short (by decide) (by decide))).isFinite⟩
    simp only [Json.scaled, Json.amount?, Amount.toBinary64, isConverted]
    rfl
  refine scaled.bind fun share isFinite => ?_
  refine (Outcome.Succeeds.ofArithmetic
    (Binary64.round_eq_ok isFinite)).bind ?_
  exact fun _ _ => .ok trivial

/-- The stages of effects are made exactly if their aspect ratio, if they have
one, can be computed with. -/
theorem effectStages_isOk_iff
    {effects : Effects}
    (ranged : effects.IsRanged)
    {geometry : ClipGeometry}
    (measured : geometry.IsMeasured) :
    (∃ stages, effectStages effects geometry = .ok stages) ↔
      ∀ crop ∈ effects.crop, crop.IsComputable := by
  have zoomed :
      ∃ stages,
        (stagesOf effects.zoom fun zoom =>
          zoomStages zoom geometry.duration geometry.width geometry.height
            geometry.frameRate) = .ok stages := by
    cases effects.zoom with
    | none => exact ⟨_, rfl⟩
    | some zoom =>
        obtain ⟨stages, isStages, _⟩ :=
          zoomStages_succeeds zoom measured.duration measured.frameRate
            geometry.width geometry.height
        exact ⟨stages, isStages⟩
  obtain ⟨zoom, isZoom⟩ := zoomed
  have cropped :
      (∃ stages,
        (stagesOf effects.crop fun crop =>
          cropStages crop geometry.width geometry.height) = .ok stages) ↔
        ∀ crop ∈ effects.crop, crop.IsComputable := by
    cases isCrop : effects.crop with
    | none => exact iff_of_true ⟨_, rfl⟩ (by simp)
    | some crop =>
        have made :=
          cropStages_isOk_iff (ranged.crop crop isCrop) measured.width
            measured.height
        simpa [stagesOf] using made
  rw [← cropped]
  unfold effectStages
  rw [isZoom]
  exact Outcome.bind_pure_eq_ok_iff

/-! ## Drawn text -/

/-- A text is always drawn. -/
theorem textStages_ends
    {shelf : FontShelf}
    (serves : surroundings.Serves shelf)
    (overlay : Option TextOverlay) :
    (textStages overlay).EndsIn surroundings
      (Outcome.Succeeds fun _ => True) := by
  cases overlay with
  | none => exact .ofOutcome (.ok trivial)
  | some overlay =>
      unfold textStages
      dsimp only
      split
      · exact .ofOutcome (.ok trivial)
      · refine (JobProgram.EndsIn.perform _).bind fun fontFile _ => ?_
        refine (JobProgram.EndsIn.reserve "_text.txt").bind fun file _ => ?_
        unfold drawnStages TextOverlay.drawnText?
        dsimp only
        split
        · exact .ofOutcome (.ok trivial)
        · rename_i drawn isDrawn
          have writable : IsWritable drawn.toList := by
            split at isDrawn
            · cases isDrawn
            · rw [← Option.some.inj isDrawn]
              exact drawingText_writable overlay.text
          have written :=
            (JobProgram.EndsIn.writeText serves file drawn).imp
              fun outcome isOk_iff =>
                Outcome.Succeeds.of_isOk (isOk_iff.mpr writable)
          exact written.bind fun _ _ => .ofOutcome (.ok trivial)

/-! ## Graphs -/

namespace FlatSource

/-- A source of accepted effects, cues of a subtitle file and an accepted text,
with a file that is measured, or of which nothing is known. -/
structure IsAccepted (source : FlatSource) : Prop where
  effects : ∃ value, Effects.read value = .valid source.effects
  cues : ∃ text, source.cues = readSubtitles text
  overlay :
    ∀ overlay ∈ source.overlay, ∃ value, TextOverlay.read value = .valid overlay
  media : ∀ facts ∈ source.media, facts.IsMeasured

variable {source : FlatSource}

namespace IsAccepted

theorem ranged
    (accepted : source.IsAccepted) :
    source.effects.IsRanged := by
  obtain ⟨value, isRead⟩ := accepted.effects
  exact Effects.isRanged_of_read isRead

theorem measured
    (accepted : source.IsAccepted) :
    source.geometry.IsMeasured :=
  ClipGeometry.isMeasured_ofMedia accepted.media

/-- The subtitles are made for a measured frame in letters of an accepted
size. -/
theorem setting_isRegular
    (accepted : source.IsAccepted)
    (fontDirectory : String)
    {family : String}
    (isFamily : IsWritable family.toList) :
    ((source.subtitlePlan fontDirectory).setting family).IsRegular := by
  obtain ⟨width, isWidth, above, below⟩ := accepted.measured.width
  obtain ⟨height, isHeight, _⟩ := accepted.measured.height
  have far : 1000000000 < powerOfTwo 1023 :=
    lt_powerOfTwo_of_short (by decide) (by decide)
  obtain ⟨converted, isConverted, _⟩ :=
    @Binary64.ofInteger_eq_ok width (by omega)
  have size :
      10 ≤ (source.effects.subtitles.getD {}).fontSize ∧
        (source.effects.subtitles.getD {}).fontSize ≤ 100 := by
    cases isStyle : source.effects.subtitles with
    | none => decide
    | some style => exact accepted.ranged.subtitles style isStyle
  exact {
    width := ⟨width, converted, isWidth, isConverted⟩
    height := ⟨height, isHeight⟩
    least := size.1
    greatest := size.2
    family := isFamily }

theorem timeScale_within
    (accepted : source.IsAccepted)
    (fontDirectory : String) :
    ((source.subtitlePlan fontDirectory).setting "").timeScale.Within 9 :=
  DocumentSetting.timeScale_within accepted.ranged.playbackSpeed.low
    accepted.ranged.playbackSpeed.high

/-- A graph is completed by its watermark, if there is one. -/
theorem graph_succeeds
    (accepted : source.IsAccepted)
    (stages : StageLists) :
    (source.graph stages).Succeeds fun _ => True := by
  unfold graph
  split
  · exact .ok trivial
  · rename_i effect file isWatermark
    have isEffect : effect ∈ source.effects.watermark := by
      unfold watermark? at isWatermark
      split at isWatermark
      · rename_i isEffect _
        cases isWatermark
        exact isEffect
      · cases isWatermark
    exact (placeWatermark_succeeds
      (accepted.ranged.watermark effect isEffect) accepted.measured.width
      _).bind fun _ _ => .ok trivial

end IsAccepted

/--
A flat render of accepted effects is made exactly if its aspect ratio, if it
has one, can be computed with, and the texts of its cues can be written.
-/
theorem compile_isOk_iff
    (accepted : source.IsAccepted)
    {shelf : FontShelf}
    (serves : surroundings.Serves shelf)
    (fontDirectory : String)
    {state final : State}
    {events : List (Event State)}
    {files after : JobFiles}
    {outcome : Outcome Graph}
    (run :
      Run surroundings state ((source.compile fontDirectory).start files)
        events (outcome, after) final) :
    outcome.isOk = true ↔
      (∀ crop ∈ source.effects.crop, crop.IsComputable) ∧
      ∀ cue ∈ source.cues, IsWritable cue.text.toList := by
  obtain ⟨text, isText⟩ := accepted.cues
  have timed :
      (∀ cue ∈ source.cues,
          cue.IsTimed
              ((source.subtitlePlan fontDirectory).setting "").timeScale ∧
            IsWritable cue.text.toList) ↔
        ∀ cue ∈ source.cues, IsWritable cue.text.toList := by
    refine forall₂_congr fun cue member => and_iff_right ?_
    rw [isText] at member
    exact (isShort_of_readSubtitles text cue member).isTimed
      (accepted.timeScale_within fontDirectory)
  have stages :
      (JobProgram.ofOutcome
        (effectStages source.effects source.geometry)).EndsIn surroundings
          fun outcome =>
            (outcome.isOk = true ↔
              ∀ crop ∈ source.effects.crop, crop.IsComputable) := by
    refine .ofOutcome ?_
    rw [← effectStages_isOk_iff accepted.ranged accepted.measured]
    cases effectStages source.effects source.geometry with
    | error failure => exact iff_of_false Bool.false_ne_true (by simp)
    | ok stages => exact iff_of_true rfl ⟨_, rfl⟩
  have subtitles :=
    JobProgram.EndsIn.subtitleStages serves
      (fun _ isFamily => accepted.setting_isRegular fontDirectory isFamily)
      source.cues
  rw [timed] at subtitles
  have ends :
      (source.compile fontDirectory).EndsIn surroundings fun outcome =>
        (outcome.isOk = true ↔
          (∀ crop ∈ source.effects.crop, crop.IsComputable) ∧
          ∀ cue ∈ source.cues, IsWritable cue.text.toList) := by
    unfold compile
    refine stages.bind_iff fun made => ?_
    refine subtitles.bindSucceeding fun burnt => ?_
    refine (textStages_ends serves source.overlay).bind fun drawn _ => ?_
    exact .ofOutcome (accepted.graph_succeeds _)
  exact ends.of_run run

/-- A video that is cut to an aspect ratio. -/
def cropped (ratio : String) : FlatSource where
  effects := {
    crop := some {
      aspectRatio := some ratio
      position := .center
      width := none
      height := none } }
  videoFile := "/in/v.mp4"
  audioFile := "/in/s.mp3"

/-- The aspect ratio as it is sent. -/
def cropRequest (ratio : String) : Json :=
  .object [("crop", .object [("aspect_ratio", .text ratio)])]

theorem cropped_isAccepted
    {ratio : String}
    (isRead :
      (Effects.read (cropRequest ratio)).toOption =
        some (cropped ratio).effects) :
    (cropped ratio).IsAccepted where
  effects := by
    refine ⟨cropRequest ratio, ?_⟩
    cases read : Effects.read (cropRequest ratio) with
    | valid effects =>
        rw [read] at isRead
        rw [Option.some.inj isRead]
    | invalid issues =>
        rw [read] at isRead
        cases isRead
  cues := ⟨"", rfl⟩
  overlay := by simp [cropped]
  media := by simp [cropped]

/-- An aspect ratio whose second number is zero is accepted, and yet no graph
is made. -/
theorem cropped_fails_at_zero :
    (cropped "16:0").IsAccepted ∧
    (Surroundings.ofShelf .bare).Serves .bare ∧
    ∃ events failure after,
      Run (Surroundings.ofShelf .bare) ()
        (((cropped "16:0").compile "/fonts").start noFiles) events
        (.error failure, after) () := by
  have accepted : (cropped "16:0").IsAccepted :=
    cropped_isAccepted (by decide +kernel)
  have serves := Surroundings.ofShelf_serves .bare
  refine ⟨accepted, serves, ?_⟩
  obtain ⟨events, ⟨outcome, after⟩, run⟩ :=
    Surroundings.exists_run_ofShelf .bare
      (((cropped "16:0").compile "/fonts").start noFiles)
  have isOk_iff := compile_isOk_iff accepted serves "/fonts" run
  cases outcome with
  | error failure => exact ⟨events, failure, after, run⟩
  | ok graph =>
      have computable := (isOk_iff.mp rfl).1 _ rfl "16:0" rfl
      have zero :
          ((AspectRatio.read "16:0").toOption.any
            fun ratio => ratio.vertical.isZero) = true := by
        decide +kernel
      cases read : AspectRatio.read "16:0" with
      | error failure =>
          rw [read] at zero
          cases zero
      | ok ratio =>
          rw [read] at zero
          have notZero := computable.2 ratio read
          rw [show ratio.vertical.isZero = true from zero] at notZero
          cases notZero

end FlatSource

end Montage
