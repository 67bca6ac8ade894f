import Montage.Effect.Lettering

namespace Montage

/-!
# Timeline entries

One segment of a composition: a part of a video, a sound that starts at some
time, or a subtitle.
-/

/-- What a segment holds. -/
inductive EntryKind
  | video
  | audio
  | subtitle
deriving DecidableEq, Repr

instance : Choice EntryKind where
  all := [.video, .audio, .subtitle]
  name
    | .video => "video"
    | .audio => "audio"
    | .subtitle => "subtitle"

/-- A segment of a composition. -/
structure TimelineEntry where
  kind : EntryKind
  url : Option String
  start : Binary64
  stop : Option Binary64
  text : Option String
  style : Option SubtitleAnimation
deriving DecidableEq

namespace TimelineEntry

/-- Read the fields of a segment. -/
def readFields (fields : Fields) : Checked TimelineEntry :=
  mk
    <$> fields.required "type" Choice.read
    <*> fields.optional "url" readText
    <*> fields.withDefault "start" 0 readNonnegative
    <*> fields.optional "end" readNonnegative
    <*> fields.optional "text" readText
    <*> fields.optional "style" Choice.read

/-- Whether the end, if there is one, is after the start. -/
def endsAfterStart (entry : TimelineEntry) : Bool :=
  match entry.stop with
  | some stop => !stop.atMost entry.start
  | none => true

/-- What a segment lacks, if it lacks anything. -/
def refusal? (entry : TimelineEntry) : Option String :=
  if entry.kind ≠ .subtitle ∧ (nonempty? entry.url).isNone then
    some (Choice.name entry.kind ++ " entry requires a url")
  else if entry.kind = .video ∧ entry.stop.isNone then
    some "video entry requires an end time"
  else if !entry.endsAfterStart then
    some "end must be greater than start"
  else
    none

/-- Read a segment and check that it is complete. -/
def read (value : Json) : Checked TimelineEntry :=
  (readObject "TimelineEntry" readFields value).andThen fun entry =>
    match entry.refusal? with
    | some reason => .refuse (.refused reason)
    | none => .valid entry

/-- A segment as JSON. -/
def toJson (entry : TimelineEntry) : Json :=
  .object [
    ("type", Choice.toJson entry.kind),
    ("url", .ofText? entry.url),
    ("start", .number entry.start),
    ("end", .ofNumber? entry.stop),
    ("text", .ofText? entry.text),
    ("style", .ofText? (entry.style.map Choice.name))]

end TimelineEntry

end Montage
