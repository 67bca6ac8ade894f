import Montage.Effect.Basic
import Montage.Graph.Filter

namespace Montage

/-!
# Speed and fades

Stages that change how long a clip is, and how it begins and ends.
-/

/-! ## Playback speed

Stages that change the speed of picture and sound, and the duration that
remains. The picture takes any speed. One sound stage takes factors from one
half to two, so a higher speed needs two stages and a lower one is cut off.
-/

/-- Whether a speed changes nothing. -/
def isPlainSpeed (speed : Binary64) : Bool :=
  speed.isZero || speed.equals 1

/-- The picture stages of a speed. -/
def pictureSpeedStages (speed : Binary64) : List Filter :=
  if isPlainSpeed speed then
    []
  else
    [{ name := "setpts"
       arguments := [.text ("PTS/" ++ String.ofList speed.sixDigitText)] }]

/-- Least factor of one sound stage. -/
def tempoMinimum : Binary64 :=
  0.5

/-- Greatest factor of one sound stage. -/
def tempoMaximum : Binary64 :=
  2

/-- One sound stage. -/
def tempoStage (factor : Binary64) : Filter where
  name := "atempo"
  arguments := [.number factor]

/-- The sound stages of a speed. -/
def soundSpeedStages (speed : Binary64) : List Filter :=
  if isPlainSpeed speed then
    []
  else if tempoMaximum.less speed then
    [tempoStage tempoMaximum, tempoStage (speed * 0.5)]
  else if tempoMinimum.less speed then
    [tempoStage speed]
  else
    [tempoStage (Binary64.maximum tempoMinimum speed)]

/-- How long a clip lasts at a speed; speed zero leaves it as it is. -/
def playedDuration
    (duration speed : Binary64) :
    Binary64 :=
  match duration.divide speed with
  | .ok scaled => scaled
  | .error _ => duration

/-! ## Fades and sound

Fades at both ends of a clip, and the further stages of the sound. When picture
and sound fade together, fades of the sound alone are left out.
-/

/-- A fade at the start of a clip, if it has a length. -/
def fadeInStages
    (name : String)
    (length : Binary64) :
    List Filter :=
  if length.isZero then
    []
  else
    [{ name
       options := [
         ("t", .text "in"), ("st", .integer 0), ("d", .number length)] }]

/-- Where a fade at the end starts, in seconds with two places. -/
def fadeOutStart (duration length : Binary64) : String :=
  String.ofList ((Binary64.maximum 0 (duration - length)).fixedText 2)

/-- A fade at the end of a clip, if it has a length. -/
def fadeOutStages
    (name : String)
    (duration length : Binary64) :
    List Filter :=
  if length.isZero then
    []
  else
    [{ name
       options := [
        ("t", .text "out"), ("st", .text (fadeOutStart duration length)),
        ("d", .number length)] }]

/-- The fades of one stream of a clip that is played at a speed. -/
def fadeStages
    (name : String)
    (fadeIn fadeOut duration speed : Binary64) :
    List Filter :=
  fadeInStages name fadeIn ++
    fadeOutStages name (playedDuration duration speed) fadeOut

/-- The picture stages of a fade. -/
def pictureFades
    (effect : FadeEffect)
    (duration speed : Binary64) :
    List Filter :=
  fadeStages "fade" effect.fadeIn effect.fadeOut duration speed

/-- The sound stages of a fade. -/
def soundFades
    (effect : FadeEffect)
    (duration speed : Binary64) :
    List Filter :=
  fadeStages "afade" effect.fadeIn effect.fadeOut duration speed

/-- The loudness that normalization aims at. -/
def loudnessStage : Filter where
  name := "loudnorm"
  options := [
    ("I", .integer (-14)), ("TP", .integer (-1)), ("LRA", .integer 11)]

/-- Volume, fades of the sound alone unless both fade, and normalization. -/
def soundStages
    (effect : AudioEffect)
    (duration speed : Binary64)
    (fadesTogether : Bool) :
    List Filter :=
  (if effect.volume.equals 1 then
    []
  else
    [{ name := "volume", arguments := [.number effect.volume] }]) ++
  (if fadesTogether then
    []
  else
    fadeStages "afade" effect.fadeIn effect.fadeOut duration speed) ++
  (if effect.normalize then [loudnessStage] else [])

end Montage
