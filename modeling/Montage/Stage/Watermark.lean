import Montage.Effect.Picture
import Montage.Graph.Basic
import Montage.Json.Operand

namespace Montage

/-!
# Watermark placement

Where an image stands on the picture and how wide it is.
-/

/-- Where a watermark stands, as expressions of both sizes. -/
def WatermarkPosition.coordinates : WatermarkPosition → String × String
  | topLeft => ("20", "20")
  | topRight => ("W-w-20", "20")
  | bottomLeft => ("20", "H-h-20")
  | bottomRight => ("W-w-20", "H-h-20")
  | center => ("(W-w)/2", "(H-h)/2")

/-- The overlay of a watermark; its width is a share of the video width. -/
def placeWatermark
    (effect : WatermarkEffect)
    (videoWidth : Json)
    (inputIndex : Int) :
    Outcome ImageOverlay := do
  let scaled ← videoWidth.scaled effect.scale
  let share ← ofArithmetic scaled.round
  pure {
    inputIndex
    width := max 1 share
    opacity := effect.opacity
    x := effect.position.coordinates.1
    y := effect.position.coordinates.2 }

end Montage
