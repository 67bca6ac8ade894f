import Montage.Effect.Picture
import Montage.Graph.Filter
import Montage.Json.Operand

namespace Montage

/-!
# Crop and resize

The largest part of the frame with a given aspect ratio, and the resize to a
given width, height or both. A resize to both keeps the shape of the picture
and fills the rest with black.
-/

/-- An aspect ratio: its two numbers. -/
structure AspectRatio where
  horizontal : Binary64
  vertical : Binary64

namespace AspectRatio

/-- Read two numbers with a colon between them. -/
def read (text : String) : Outcome AspectRatio :=
  match splitAtChar ':' text.toList with
  | [horizontal, vertical] => do
      let first ← ofNumeral (floatOfText (String.ofList horizontal))
      let second ← ofNumeral (floatOfText (String.ofList vertical))
      pure { horizontal := first, vertical := second }
  | parts => .error (.partCount 2 parts.length)

/-- The horizontal number as it stands in expressions. -/
def horizontalText (ratio : AspectRatio) : String :=
  String.ofList ratio.horizontal.sixDigitText

/-- The vertical number as it stands in expressions. -/
def verticalText (ratio : AspectRatio) : String :=
  String.ofList ratio.vertical.sixDigitText

/-- Whether a frame is wider than the ratio. -/
def isExceeded
    (ratio : AspectRatio)
    (width height : Json) :
    Outcome Bool := do
  let frame ← width.dividedBy height
  let wanted ← ofArithmetic (ratio.horizontal.divide ratio.vertical)
  pure (wanted.less frame)

end AspectRatio

/-- Cut a frame that is too wide at its sides. -/
def cropSides
    (ratio : AspectRatio)
    (position : CropPosition) :
    Filter :=
  let width := "ih*" ++ ratio.horizontalText ++ "/" ++ ratio.verticalText
  let left :=
    match position with
    | .center => "(iw-" ++ width ++ ")/2"
    | _ => "0"
  { name := "crop"
    arguments := [.text width, .text "ih", .text left, .text "0"] }

/-- Cut a frame that is too high at its top and bottom. -/
def cropEnds
    (ratio : AspectRatio)
    (position : CropPosition) :
    Filter :=
  let height := "iw*" ++ ratio.verticalText ++ "/" ++ ratio.horizontalText
  let top :=
    match position with
    | .center => "(ih-" ++ height ++ ")/2"
    | .bottom => "ih-" ++ height
    | .top => "0"
  { name := "crop"
    arguments := [.text "iw", .text height, .text "0", .text top] }

/-- The stage that cuts a frame to an aspect ratio, if one is given. -/
def cropToRatio
    (effect : CropEffect)
    (width height : Json) :
    Outcome (List Filter) :=
  match effect.aspectRatio with
  | none => .ok []
  | some text =>
      if text.isEmpty then
        .ok []
      else do
        let ratio ← AspectRatio.read text
        let isWide ← ratio.isExceeded width height
        pure
          [if isWide then
            cropSides ratio effect.position
          else
            cropEnds ratio effect.position]

/-- The resize stages for a wanted width and height. -/
def resizeFilters (width height : Option Int) : List Filter :=
  match width.filter (· ≠ 0), height.filter (· ≠ 0) with
  | some wide, some high => [
      { name := "scale"
        arguments := [.integer wide, .integer high]
        options := [("force_original_aspect_ratio", .text "decrease")] },
      { name := "pad"
        arguments := [
          .integer wide, .integer high, .text "(ow-iw)/2", .text "(oh-ih)/2",
          .text "black"] }]
  | some wide, none =>
      [{ name := "scale", arguments := [.integer wide, .integer (-2)] }]
  | none, some high =>
      [{ name := "scale", arguments := [.integer (-2), .integer high] }]
  | none, none => []

/-- Crop stages and then resize stages. -/
def cropStages
    (effect : CropEffect)
    (width height : Json) :
    Outcome (List Filter) := do
  let crop ← cropToRatio effect width height
  pure (crop ++ resizeFilters effect.width effect.height)

end Montage
