import Montage.Effect.Lettering
import Montage.Graph.Filter

namespace Montage

/-!
# Text over the picture

The text is handed to the drawing filter in a file, where a backslash and a
percent sign have a meaning of their own. It holds only characters that the
fonts can draw.
-/

/-- Characters that the fonts can draw: printable ASCII and Latin letters. -/
def isDrawable (character : Char) : Bool :=
  let code := character.toNat
  (0x20 ≤ code && code ≤ 0x7E) || (0xC0 ≤ code && code ≤ 0x24F)

/-- Line ends become spaces. -/
def withoutLineEnds (text : List Char) : List Char :=
  replaceChar '\n' [' '] (replacePair '\r' '\n' [' '] text)

/-- The characters that remain of a text, before blanks at the ends go. -/
def drawableText (text : List Char) : List Char :=
  (withoutLineEnds text).filter fun character =>
    isDrawable character && character ≠ '"'

/-- Write a backslash and a percent sign twice. -/
def escapeDrawing (text : List Char) : List Char :=
  text.flatMap fun character =>
    if character = '\\' ∨ character = '%' then
      [character, character]
    else
      [character]

/-- A text as it is written for the drawing filter. -/
def drawingText (text : String) : String :=
  String.ofList (trim (escapeDrawing (drawableText text.toList)))

/-- Where a text stands, as expressions of both sizes. -/
def TextPosition.coordinates : TextPosition → String × String
  | bottomCenter => ("(w-text_w)/2", "h-text_h-30")
  | topCenter => ("(w-text_w)/2", "30")
  | center => ("(w-text_w)/2", "(h-text_h)/2")
  | bottomLeft => ("30", "h-text_h-30")
  | bottomRight => ("w-text_w-30", "h-text_h-30")
  | topLeft => ("30", "30")
  | topRight => ("w-text_w-30", "30")

namespace TextOverlay

/-- Where a text that slides up comes to rest. -/
def restingPlace (overlay : TextOverlay) : String :=
  match overlay.position with
  | .center => "(h-text_h)/2"
  | _ => "h-text_h-30"

/-- The vertical place; it depends on time while the text slides up. -/
def verticalPlace (overlay : TextOverlay) : OptionValue :=
  match overlay.animation with
  | .slideUp =>
      .expression
        ("if(lt(t,1),h-(h-" ++ overlay.restingPlace ++ ")*t," ++
          overlay.restingPlace ++ ")")
  | _ => .text overlay.position.coordinates.2

/-- Options of the letters and their outline. -/
def letterOptions (overlay : TextOverlay) : List (String × OptionValue) := [
    ("fontsize", .integer overlay.fontSize),
    ("fontcolor", .text overlay.fontColor),
    ("borderw", .integer overlay.strokeWidth)] ++
  if 0 < overlay.strokeWidth then
    [("bordercolor", .text overlay.strokeColor)]
  else
    []

/-- Options of the place. -/
def placeOptions (overlay : TextOverlay) : List (String × OptionValue) := [
  ("x", .text overlay.position.coordinates.1),
  ("y", overlay.verticalPlace)]

/-- Options of the box behind the text, if it has a colour. -/
def boxOptions (overlay : TextOverlay) : List (String × OptionValue) :=
  match overlay.backgroundColor.filter (! ·.isEmpty) with
  | none => []
  | some color => [
      ("box", .integer 1),
      ("boxcolor",
        .text
          (color ++ "@" ++
            String.ofList overlay.backgroundOpacity.sixDigitText)),
      ("boxborderw", .integer overlay.backgroundPadding)]

/-- Options of the shadow, if it has a colour. -/
def shadowOptions (overlay : TextOverlay) : List (String × OptionValue) :=
  match overlay.shadowColor.filter (! ·.isEmpty) with
  | none => []
  | some color => [
      ("shadowcolor", .text color),
      ("shadowx", .integer overlay.shadowX),
      ("shadowy", .integer overlay.shadowY)]

/-- Option of the space between lines, if it is not zero. -/
def spacingOptions (overlay : TextOverlay) : List (String × OptionValue) :=
  match overlay.lineSpacing.filter (· ≠ 0) with
  | none => []
  | some spacing => [("line_spacing", .integer spacing)]

/-- Option of a text that fades in. -/
def fadeOptions (overlay : TextOverlay) : List (String × OptionValue) :=
  match overlay.animation with
  | .fadeIn => [("alpha", .expression "if(lt(t,1),t,1)")]
  | _ => []

/-- What is written into the text file; nothing if no character remains. -/
def drawnText? (overlay : TextOverlay) : Option String :=
  let text := drawingText overlay.text
  if text.isEmpty then none else some text

/-- The stage that draws the text of a file with a font. -/
def drawingFilter
    (overlay : TextOverlay)
    (fontFile textFile : String) :
    Filter where
  name := "drawtext"
  options := [
      ("fontfile", .path fontFile),
      ("textfile", .path textFile)] ++
    overlay.letterOptions ++
    overlay.placeOptions ++
    overlay.boxOptions ++
    overlay.shadowOptions ++
    overlay.spacingOptions ++
    overlay.fadeOptions

end TextOverlay

end Montage
