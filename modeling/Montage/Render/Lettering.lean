import Montage.Effect.Lettering
import Montage.Stage.Text
import Montage.Subtitle.Document
import Montage.Work.Job

namespace Montage

/-!
# Stages with files of their own

Subtitles and drawn text are handed to the encoder in files of the job's
workspace. Each file is reserved before it is written.
-/

/-- Write a text into a file, which stays empty if the text cannot be written
in bytes. -/
def writeText
    (path : Path)
    (text : String) :
    JobProgram Unit :=
  match firstSurrogates? text.toList with
  | none => JobProgram.attempt (Program.perform (.writeFile path (bytesOf text)))
  | some run => do
      JobProgram.attempt (Program.perform (.writeFile path []))
      JobProgram.ofOutcome (.error (.loneSurrogates run))

/-- What subtitles are made for, but for the family of their font. -/
structure SubtitlePlan where
  fontDirectory : String
  style : SubtitleStyle
  width : Json
  height : Json
  speed : Binary64

/-- The setting of a document with a font. -/
def SubtitlePlan.setting
    (plan : SubtitlePlan)
    (family : String) :
    DocumentSetting where
  style := plan.style
  width := plan.width
  height := plan.height
  speed := plan.speed
  fontName := family

/-- The stage that burns cues into the picture by a document in a file; no cues
need no stage. -/
def burnStages
    (setting : DocumentSetting)
    (fontDirectory : String)
    (file : Path)
    (cues : List Cue) :
    JobProgram (List Filter) :=
  if cues.isEmpty then
    pure []
  else do
    let document ← JobProgram.ofOutcome (setting.document cues)
    writeText file document
    pure [subtitleFilter file.toText fontDirectory]

/-- The stage that burns cues into the picture by a document of the job. -/
def subtitleStages
    (plan : SubtitlePlan)
    (cues : List Cue) :
    JobProgram (List Filter) :=
  if cues.isEmpty then
    pure []
  else do
    let file ← JobProgram.reserve "_subs.ass"
    let family ←
      JobProgram.ofProgram
        (Program.perform (.fontFamily plan.style.fontFamily))
    burnStages (plan.setting family) plan.fontDirectory file cues

/-- The stage that draws the text of a file, if any character remains. -/
def drawnStages
    (overlay : TextOverlay)
    (fontFile : String)
    (file : Path) :
    JobProgram (List Filter) :=
  match overlay.drawnText? with
  | none => pure []
  | some text => do
      writeText file text
      pure [overlay.drawingFilter fontFile file.toText]

/-- The stage that draws a text over the picture; an empty one needs none. -/
def textStages : Option TextOverlay → JobProgram (List Filter)
  | none => pure []
  | some overlay =>
      if overlay.text.isEmpty then
        pure []
      else do
        let fontFile ←
          JobProgram.ofProgram (Program.perform (.fontFile overlay.fontFamily))
        let file ← JobProgram.reserve "_text.txt"
        drawnStages overlay fontFile file

end Montage
