import Montage.Effect.Picture
import Montage.Failure
import Montage.Graph.Filter
import Montage.Json.Shown

namespace Montage

/-!
# Zoom and pan

A slow movement of the view over the whole clip. The expressions are evaluated
for each frame; their constants are the greatest zoom, the step from frame to
frame and the number of frames.
-/

/-- Frame rate of a clip that tells none. -/
def defaultFrameRate : Binary64 :=
  30

/-- The constants of a movement. -/
structure ZoomPlan where
  kind : ZoomKind
  greatestZoom : String
  step : String
  frames : Int

namespace ZoomPlan

/-- The horizontal place that keeps the centre. -/
def centeredX : String :=
  "iw/2-(iw/zoom/2)"

/-- The vertical place that keeps the centre. -/
def centeredY : String :=
  "ih/2-(ih/zoom/2)"

/-- The zoom of a frame. -/
def zoomExpression (plan : ZoomPlan) : String :=
  match plan.kind with
  | .zoomIn => "min(zoom+" ++ plan.step ++ "," ++ plan.greatestZoom ++ ")"
  | .zoomOut =>
      "if(eq(on,1)," ++ plan.greatestZoom ++ ",max(zoom-" ++ plan.step ++
        ",1))"
  | .panLeft => plan.greatestZoom
  | .panRight => plan.greatestZoom

/-- The left edge of the view. -/
def leftExpression (plan : ZoomPlan) : String :=
  let moved :=
    "iw/" ++ plan.greatestZoom ++ "/zoom*on/" ++ showInteger plan.frames
  match plan.kind with
  | .zoomIn => centeredX
  | .zoomOut => centeredX
  | .panLeft => "iw/" ++ plan.greatestZoom ++ "-" ++ moved
  | .panRight => moved

/-- The movement of an effect over a clip. -/
def ofEffect
    (effect : ZoomEffect)
    (duration frameRate : Binary64) :
    Outcome ZoomPlan := do
  let rounded ← ofArithmetic (duration * frameRate).round
  let frames := max 1 rounded
  let count ← ofArithmetic (Binary64.ofInteger frames)
  let step ← ofArithmetic (effect.intensity.divide count)
  pure {
    kind := effect.kind
    greatestZoom := String.ofList (1 + effect.intensity).sixDigitText
    step := String.ofList (step.fixedText 6)
    frames }

end ZoomPlan

/-- The stage of a zoom; a frame rate of zero counts as the default. -/
def zoomStages
    (effect : ZoomEffect)
    (duration : Binary64)
    (width height : Json)
    (frameRate : Binary64) :
    Outcome (List Filter) := do
  let rate := if frameRate.isZero then defaultFrameRate else frameRate
  let plan ← ZoomPlan.ofEffect effect duration rate
  pure
    [{ name := "zoompan"
       options := [
        ("z", .expression plan.zoomExpression),
        ("x", .expression plan.leftExpression),
        ("y", .expression ZoomPlan.centeredY),
        ("d", .integer plan.frames),
        ("s", .text (width.plainText ++ "x" ++ height.plainText)),
        ("fps", .text (String.ofList rate.sixDigitText))] }]

end Montage
