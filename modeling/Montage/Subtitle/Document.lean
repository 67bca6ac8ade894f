import Montage.Effect.Lettering
import Montage.Failure
import Montage.Graph.Filter
import Montage.Json.Operand
import Montage.Json.Shown
import Montage.Number.Digits
import Montage.Subtitle.Cue
import Montage.Text.Blank
import Montage.Text.Split

namespace Montage

/-!
# Subtitle documents

A document has a fixed head, which tells the frame size and the style, and one
line per cue: its times, an animation, and its wrapped text. Braces in a text
become parentheses, because they would start an animation.
-/

/-! ## Wrapping

Words are put on a line as long as they fit; a word is never divided. How many
characters fit follows from the frame width and the font size.
-/

/-- Fill lines with words; the first argument is the line that is open. -/
def fillLines
    (limit : Nat)
    (line : List Char) :
    List (List Char) → List (List Char)
  | [] => [line]
  | word :: rest =>
      if line.length + 1 + word.length ≤ limit then
        fillLines limit (line ++ ' ' :: word) rest
      else
        line :: fillLines limit word rest

/-- The lines of a text. -/
def wrappedLines
    (limit : Nat)
    (text : List Char) :
    List (List Char) :=
  match words text with
  | [] => []
  | word :: rest => fillLines limit word rest

/-- The lines of a text with hard line breaks between them. -/
def breakLines
    (limit : Nat)
    (text : List Char) :
    List Char :=
  joinWith ['\\', 'N'] (wrappedLines limit text)

/-- The greatest whole number of characters that an amount allows, up to a
number that is enough. -/
def wholeLimit (enough : Nat) (amount : Amount) : Nat :=
  match amount with
  | .flag value => if value then 1 else 0
  | .whole value => value.toNat
  | .fraction .nan => 0
  | .fraction (.infinite negative) => if negative then 0 else enough
  | .fraction value => (value.floor.toOption.getD 0).toNat

/-- The lines of a text for a limit of any type, with hard line breaks between
them; only a number limits them, if there is more than one word. -/
def breakLinesAt
    (limit : Json)
    (text : List Char) :
    Outcome (List Char) :=
  match words text, limit.amount? with
  | _ :: _ :: _, none =>
      .error (.shape (.noLimit .integer (.of limit)))
  | _, amount =>
      .ok <| breakLines
        ((amount.map (wholeLimit text.length)).getD 0) text

/-- Width of a character as a share of the font size. -/
def characterShare : Binary64 :=
  0.6

/-- Greatest number of characters on a line. -/
def lineLimit : Int :=
  50

/-- How many characters fit on a line: at least one, at most the limit. -/
def charactersPerLine (width fontSize : Json) : Outcome Nat := do
  let share ← fontSize.scaled characterShare
  let quotient ← width.dividedBy (.number share)
  let fitting ← ofArithmetic quotient.floor
  pure (max 1 (min fitting lineLimit)).toNat

/-! ## Colours in subtitle documents

A document writes a colour as `&H00BBGGRR`. What is no colour is white.
-/

/-- The colours that have names. -/
def colorNames : List (String × String) := [
  ("white", "#FFFFFF"),
  ("black", "#000000"),
  ("yellow", "#FFFF00"),
  ("red", "#FF0000"),
  ("green", "#00FF00"),
  ("blue", "#0000FF"),
  ("cyan", "#00FFFF"),
  ("magenta", "#FF00FF"),
  ("orange", "#FFA500"),
  ("gray", "#808080")]

/-- Lower case of letters that have an English lower case letter. -/
def lowerLetter (character : Char) : Char :=
  if character = '\u212A' then 'k' else character.toLower

/-- The value of a named colour; other texts stand for themselves. -/
def colorValue (color : String) : List Char :=
  let name := String.ofList ((trim color.toList).map lowerLetter)
  ((colorNames.lookup name).getD color).toList.dropWhile (· == '#')

/-- White, as a document writes it. -/
def whiteColor : List Char :=
  "&H00FFFFFF".toList

/-- A colour as a document writes it. -/
def documentColor (color : String) : List Char :=
  match colorValue color with
  | [red, red', green, green', blue, blue'] =>
      let digits := [blue, blue', green, green', red, red']
      if digits.all isHexDigit then
        "&H00".toList ++ digits.map Char.toUpper
      else
        whiteColor
  | _ => whiteColor

/-- A colour of any type as a document writes it; if one is given, it has to be
a text. -/
def documentColorOf (color : Json) : Outcome (List Char) :=
  match color with
  | .text value => .ok (documentColor value)
  | value =>
      if value.isGiven then
        .error (.shape (.noText (.of value)))
      else
        .ok whiteColor

/-! ## Times in subtitle documents

A document writes times as `H:MM:SS.cc`, in whole hundredths of a second.
-/

/-- The nearest hundredth of a second, at least zero; halves go to even. -/
def centiseconds (seconds : Binary64) : Outcome Nat :=
  (ofArithmetic (seconds * 100).round).map Int.toNat

/-- A number with two digits. -/
def twoDigits (number : Nat) : List Char :=
  padZeros 2 (decimalDigits number)

/-- Hundredths of a second as `H:MM:SS.cc`. -/
def centisecondsText (total : Nat) : List Char :=
  decimalDigits (total / 360000) ++ ':' ::
    twoDigits (total % 360000 / 6000) ++ ':' ::
    twoDigits (total % 6000 / 100) ++ '.' ::
    twoDigits (total % 100)

/-- A time as a document writes it. -/
def writeTime (seconds : Binary64) : Outcome String :=
  (centiseconds seconds).map fun total => String.ofList (centisecondsText total)

/-- Read a time: hours and minutes as integers, the rest as a number. -/
def readTime (text : String) : Outcome Binary64 :=
  match splitAtChar ':' text.toList with
  | [hours, minutes, rest] => do
      let wholeHours ← ofNumeral (integerOfText (String.ofList hours))
      let wholeMinutes ← ofNumeral (integerOfText (String.ofList minutes))
      let seconds ← ofNumeral (floatOfText (String.ofList rest))
      let whole ←
        ofArithmetic
          (Binary64.ofInteger (wholeHours * 3600 + wholeMinutes * 60))
      pure (whole + seconds)
  | parts => .error (.partCount 3 parts.length)

/-! ## Documents -/

/-- Open an animation block; a brace cannot be written in any other way. -/
def animationBlock (commands : String) : String :=
  "\x7b" ++ commands ++ "\x7d"

/-- An amount as it is written into a document. -/
def amountText (amount : Amount) : String :=
  amount.toJson.plainText

/-- The movement of a line that slides up into the frame at its middle. -/
def slidingBlock (width height : Json) : Outcome String := do
  let middle ← width.halved
  let start ← height.plus 50
  let stop ← height.plus (-50)
  pure <|
    animationBlock
      ("\\move(" ++ amountText middle ++ "," ++ amountText start ++ "," ++
        amountText middle ++ "," ++ amountText stop ++ ",0,300)")

/-- The animation of each line, for a colour and a frame size. -/
def animationBlocks
    (animation : SubtitleAnimation)
    (primary : String)
    (width height : Json) :
    Outcome String :=
  match animation with
  | .pop =>
      .ok <|
        animationBlock "\\fad(50,50)" ++
          animationBlock "\\fscx0\\fscy0" ++
          animationBlock "\\t(0,150,\\fscx100\\fscy100)"
  | .slideUp =>
      (slidingBlock width height).map (animationBlock "\\fad(100,0)" ++ ·)
  | .karaoke =>
      .ok <|
        animationBlock "\\1c&HFFFF00&" ++
          animationBlock
            ("\\t(0,200,\\1c" ++ replaceIn primary "&H00" "&H" ++ ")")
  | .fade => .ok (animationBlock "\\fad(200,200)")
  | .none => .ok ""

/-- Braces become parentheses. -/
def withoutBraces (text : List Char) : List Char :=
  text.map fun character =>
    if character = '\x7b' then '('
    else if character = '\x7d' then ')'
    else character

/-- What a document is made for. -/
structure DocumentSetting where
  style : SubtitleStyle
  width : Json
  height : Json
  speed : Binary64 := 1
  fontName : String := "Arial"

namespace DocumentSetting

/-- The names of the fields of a style line. -/
def styleFormat : String :=
  "Format: Name, Fontname, Fontsize, PrimaryColour, SecondaryColour, " ++
    "OutlineColour, BackColour, Bold, Italic, Underline, StrikeOut, ScaleX, " ++
    "ScaleY, Spacing, Angle, BorderStyle, Outline, Shadow, Alignment, " ++
    "MarginL, MarginR, MarginV, Encoding"

/-- The names of the fields of a cue line. -/
def cueFormat : String :=
  "Format: Layer, Start, End, Style, Name, MarginL, MarginR, MarginV, Effect, "
    ++ "Text"

/-- The colour of the letters. -/
def primary (setting : DocumentSetting) : String :=
  String.ofList (documentColor setting.style.fontColor)

/-- The colour of the outline. -/
def outline (setting : DocumentSetting) : String :=
  String.ofList (documentColor setting.style.strokeColor)

/-- The line of the style. -/
def styleLine (setting : DocumentSetting) : String :=
  "Style: Default," ++ setting.fontName ++ "," ++
    showInteger setting.style.fontSize ++ "," ++ setting.primary ++
    ",&H000000FF," ++ setting.outline ++
    ",&H60000000,1,0,0,0,100,100,0,0,1,2,0,2,10,10,50,1"

/-- The lines before the cues. -/
def headLines (setting : DocumentSetting) : List String := [
  "[Script Info]",
  "ScriptType: v4.00+",
  "PlayResX: " ++ setting.width.plainText,
  "PlayResY: " ++ setting.height.plainText,
  "WrapStyle: 1",
  "",
  "[V4+ Styles]",
  styleFormat,
  setting.styleLine,
  "",
  "[Events]",
  cueFormat]

/-- The factor from times of the clip to times of the output. -/
def timeScale (setting : DocumentSetting) : Binary64 :=
  match Binary64.divide 1 setting.speed with
  | .ok scale => scale
  | .error _ => 1

/-- The animation of every line. -/
def markup (setting : DocumentSetting) : Outcome String :=
  animationBlocks setting.style.animation setting.primary setting.width
    setting.height

/-- The line of a cue with an animation, when so many characters fit on a
displayed line. -/
def cueLine
    (setting : DocumentSetting)
    (limit : Nat)
    (markup : String)
    (cue : Cue) :
    Outcome String := do
  let start ← writeTime (cue.start * setting.timeScale)
  let stop ← writeTime (cue.stop * setting.timeScale)
  let text := breakLines limit (withoutBraces cue.text.toList)
  pure
    ("Dialogue: 0," ++ start ++ "," ++ stop ++ ",Default,,0,0,0,," ++
      markup ++ String.ofList text)

/-- The whole document; every line ends with a newline. -/
def document
    (setting : DocumentSetting)
    (cues : List Cue) :
    Outcome String := do
  let limit ←
    charactersPerLine setting.width (.integer setting.style.fontSize)
  let markup ← setting.markup
  let lines ← cues.mapM (setting.cueLine limit markup)
  pure (String.join ((setting.headLines ++ lines).map (· ++ "\n")))

end DocumentSetting

/-- The stage that burns a document into the picture. -/
def subtitleFilter (documentFile fontDirectory : String) : Filter where
  name := "subtitles"
  arguments := [.path documentFile]
  options := [("fontsdir", .path fontDirectory)]

end Montage
