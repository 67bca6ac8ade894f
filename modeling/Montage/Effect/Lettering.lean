import Montage.Schema.Field

namespace Montage

/-!
# Lettering

The style of burned-in subtitles and the text drawn over the picture.
-/

/-- How a subtitle appears. -/
inductive SubtitleAnimation
  | pop
  | slideUp
  | karaoke
  | fade
  | none
deriving DecidableEq, Repr

instance : Choice SubtitleAnimation where
  all := [.pop, .slideUp, .karaoke, .fade, .none]
  name
    | .pop => "pop"
    | .slideUp => "slide_up"
    | .karaoke => "karaoke"
    | .fade => "fade"
    | .none => "none"

/-- Font, colours and animation of subtitles. -/
structure SubtitleStyle where
  fontFamily : String := "poppins_bold"
  fontSize : Int := 24
  fontColor : String := "#FFFFFF"
  strokeColor : String := "#000000"
  animation : SubtitleAnimation := .pop
deriving DecidableEq

namespace SubtitleStyle

/-- The style used when none is given. -/
def standard : SubtitleStyle := {}

def fontSizeParameter : Parameter Int where
  name := "font_size"
  default := standard.fontSize
  range := { low := 10, high := 100 }

/-- Read the fields of a subtitle style. -/
def readFields (fields : Fields) : Checked SubtitleStyle :=
  mk
    <$> fields.withDefault "font_family" standard.fontFamily readText
    <*> fontSizeParameter.read fields
    <*> fields.withDefault "font_color" standard.fontColor readText
    <*> fields.withDefault "stroke_color" standard.strokeColor readText
    <*> Choice.readField fields "animation" standard.animation

/-- Read a subtitle style. -/
def read : Json → Checked SubtitleStyle :=
  readObject "SubtitleStyle" readFields

/-- A subtitle style as JSON. -/
def toJson (style : SubtitleStyle) : Json :=
  .object [
    ("font_family", .text style.fontFamily),
    ("font_size", .integer style.fontSize),
    ("font_color", .text style.fontColor),
    ("stroke_color", .text style.strokeColor),
    ("animation", Choice.toJson style.animation)]

/-- The fields of a subtitle style with their ranges. -/
def description : Fields := [
  describeDefault "font_family" (.text standard.fontFamily),
  fontSizeParameter.describe,
  describeDefault "font_color" (.text standard.fontColor),
  describeDefault "stroke_color" (.text standard.strokeColor),
  Choice.describe "animation" standard.animation]

end SubtitleStyle

/-- Where a text stands. -/
inductive TextPosition
  | bottomCenter
  | topCenter
  | center
  | bottomLeft
  | bottomRight
  | topLeft
  | topRight
deriving DecidableEq, Repr

instance : Choice TextPosition where
  all := [
    .bottomCenter, .topCenter, .center, .bottomLeft, .bottomRight, .topLeft,
    .topRight]
  name
    | .bottomCenter => "bottom_center"
    | .topCenter => "top_center"
    | .center => "center"
    | .bottomLeft => "bottom_left"
    | .bottomRight => "bottom_right"
    | .topLeft => "top_left"
    | .topRight => "top_right"

/-- How a text appears. -/
inductive TextAnimation
  | none
  | fadeIn
  | slideUp
deriving DecidableEq, Repr

instance : Choice TextAnimation where
  all := [.none, .fadeIn, .slideUp]
  name
    | .none => "none"
    | .fadeIn => "fade_in"
    | .slideUp => "slide_up"

/-- The letters of the English alphabet in both cases. -/
def isAsciiLetter (character : Char) : Bool :=
  ('A' ≤ character && character ≤ 'Z') ||
    ('a' ≤ character && character ≤ 'z')

/-- Hexadecimal digits of both cases. -/
def isHexDigit (character : Char) : Bool :=
  isAsciiDigit character || ('A' ≤ character && character ≤ 'F') ||
    ('a' ≤ character && character ≤ 'f')

namespace ColorName

/-- Six or eight hexadecimal digits. -/
def isHexColor (digits : List Char) : Bool :=
  (digits.length == 6 || digits.length == 8) && digits.all isHexDigit

/-- A name made of letters, or hexadecimal digits after `#` or `0x`. -/
def isBase : List Char → Bool
  | '#' :: digits => isHexColor digits
  | '0' :: 'x' :: digits => isHexColor digits
  | name => !name.isEmpty && name.all isAsciiLetter

/-- A share between zero and one: `0`, `1`, a fraction, or one and zeros. -/
def isAlpha : List Char → Bool
  | ['0'] => true
  | ['1'] => true
  | '1' :: '.' :: zeros => !zeros.isEmpty && zeros.all (· == '0')
  | '0' :: '.' :: digits => !digits.isEmpty && digits.all isPatternDigit
  | '.' :: digits => !digits.isEmpty && digits.all isPatternDigit
  | _ => false

/-- A colour with an opacity after `@` or without one. -/
def isColor (text : List Char) : Bool :=
  match cutAtChar? '@' text with
  | some (base, alpha) => isBase base && isAlpha alpha
  | none => isBase text

/-- How a colour is described when a text is none. -/
def pattern : String :=
  "^(?:[A-Za-z]+|(?:#|0x)[0-9A-Fa-f]\x7b6\x7d(?:[0-9A-Fa-f]\x7b2\x7d)?)" ++
    "(?:@(?:0|1|0?\\.\\d+|1\\.0+))?$"

/-- Read a colour. -/
def read : Json → Checked String :=
  readMatching isColor pattern

end ColorName

/-- A text drawn over the picture. -/
structure TextOverlay where
  text : String := ""
  fontFamily : String := "poppins_regular"
  fontSize : Int := 28
  fontColor : String := "white"
  strokeColor : String := "black"
  strokeWidth : Int := 2
  position : TextPosition := .bottomCenter
  backgroundColor : Option String := .none
  backgroundOpacity : Binary64 := 0.6
  backgroundPadding : Int := 10
  shadowColor : Option String := .none
  shadowX : Int := 2
  shadowY : Int := 2
  lineSpacing : Option Int := .none
  animation : TextAnimation := .none
deriving DecidableEq

namespace TextOverlay

/-- An empty text in the standard style. -/
def standard : TextOverlay := {}

def fontSizeParameter : Parameter Int where
  name := "font_size"
  default := standard.fontSize
  range := { low := 10, high := 120 }

def strokeWidthParameter : Parameter Int where
  name := "stroke_width"
  default := standard.strokeWidth
  range := { low := 0, high := 10 }

def backgroundOpacityParameter : Parameter Binary64 where
  name := "bg_opacity"
  default := standard.backgroundOpacity
  range := { low := 0, high := 1 }

def backgroundPaddingParameter : Parameter Int where
  name := "bg_padding"
  default := standard.backgroundPadding
  range := { low := 0, high := 30 }

def shadowXParameter : Parameter Int where
  name := "shadow_x"
  default := standard.shadowX
  range := { low := 0, high := 20 }

def shadowYParameter : Parameter Int where
  name := "shadow_y"
  default := standard.shadowY
  range := { low := 0, high := 20 }

def lineSpacingParameter : OptionalParameter Int where
  name := "line_spacing"
  range := { low := 0, high := 30 }

/-- Read the fields of a text. -/
def readFields (fields : Fields) : Checked TextOverlay :=
  mk
    <$> fields.withDefault "text" standard.text readText
    <*> fields.withDefault "font_family" standard.fontFamily readText
    <*> fontSizeParameter.read fields
    <*> fields.withDefault "font_color" standard.fontColor ColorName.read
    <*> fields.withDefault "stroke_color" standard.strokeColor ColorName.read
    <*> strokeWidthParameter.read fields
    <*> Choice.readField fields "position" standard.position
    <*> fields.optional "bg_color" ColorName.read
    <*> backgroundOpacityParameter.read fields
    <*> backgroundPaddingParameter.read fields
    <*> fields.optional "shadow_color" ColorName.read
    <*> shadowXParameter.read fields
    <*> shadowYParameter.read fields
    <*> lineSpacingParameter.read fields
    <*> Choice.readField fields "animation" standard.animation

/-- Read a text. -/
def read : Json → Checked TextOverlay :=
  readObject "TextOverlay" readFields

/-- A text as JSON. -/
def toJson (overlay : TextOverlay) : Json :=
  .object [
    ("text", .text overlay.text),
    ("font_family", .text overlay.fontFamily),
    ("font_size", .integer overlay.fontSize),
    ("font_color", .text overlay.fontColor),
    ("stroke_color", .text overlay.strokeColor),
    ("stroke_width", .integer overlay.strokeWidth),
    ("position", Choice.toJson overlay.position),
    ("bg_color", .ofText? overlay.backgroundColor),
    ("bg_opacity", .number overlay.backgroundOpacity),
    ("bg_padding", .integer overlay.backgroundPadding),
    ("shadow_color", .ofText? overlay.shadowColor),
    ("shadow_x", .integer overlay.shadowX),
    ("shadow_y", .integer overlay.shadowY),
    ("line_spacing", .ofInteger? overlay.lineSpacing),
    ("animation", Choice.toJson overlay.animation)]

/-- The fields of a text with their ranges. -/
def description : Fields := [
  describeDefault "text" (.text standard.text),
  describeDefault "font_family" (.text standard.fontFamily),
  fontSizeParameter.describe,
  describeDefault "font_color" (.text standard.fontColor),
  describeDefault "stroke_color" (.text standard.strokeColor),
  strokeWidthParameter.describe,
  Choice.describe "position" standard.position,
  describeDefault "bg_color" .null,
  backgroundOpacityParameter.describe,
  backgroundPaddingParameter.describe,
  describeDefault "shadow_color" .null,
  shadowXParameter.describe,
  shadowYParameter.describe,
  lineSpacingParameter.describe,
  Choice.describe "animation" standard.animation]

end TextOverlay

end Montage
