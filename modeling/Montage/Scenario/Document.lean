import Montage.Json.Writer
import Montage.Render.Job
import Montage.Scenario.Files
import Montage.Scenario.World
import Montage.Text.Quoted

namespace Montage

/-!
# Scenarios as JSON

A scenario describes a world before anything happens: scripts for what lies
outside, settings, stored objects, fonts and free space.
-/

/-- The failure that a name and a text stand for. -/
abbrev FailureNames := String → String → Failure

/-- The bytes of hexadecimal digits, two for each. -/
def bytesOfHex : List Char → Bytes
  | first :: second :: rest =>
      match hexValue? first, hexValue? second with
      | some high, some low => UInt8.ofNat (16 * high + low) :: bytesOfHex rest
      | _, _ => []
  | _ => []

/-- Bytes that are told as a text or as hexadecimal digits. -/
def bytesAt
    (description : Json)
    (name : String) :
    Bytes :=
  match description.textAt? (name ++ "_hex") with
  | some digits => bytesOfHex digits.toList
  | none => bytesOf (description.textOr name "")

namespace FailureNames

/-- The failure of a name with the usual text. -/
def named
    (names : FailureNames)
    (name : String) :
    Failure :=
  names name "scripted"

/-- A described value, unless the description tells a failure. -/
def unlessRaised
    {α : Type}
    (names : FailureNames)
    (description : Json)
    (value : α) :
    Outcome α :=
  match description.textAt? "raise" with
  | some name => .error (names name (description.textOr "text" "scripted"))
  | none => .ok value

/-- What a run of the encoder leaves. -/
def encoderScript
    (names : FailureNames)
    (description : Json) :
    EncoderScript where
  result := names.unlessRaised description {
    code := description.integerOr "code" 0
    output := bytesAt description "stdout"
    errorOutput := bytesAt description "stderr" }
  written :=
    match description.textAt? "raise" with
    | some _ => none
    | none => (description.textAt? "write").map bytesOf

/-- What a probe prints: a JSON value or a text. -/
def probeOutput (description : Json) : Bytes :=
  match description.field? "json" with
  | some value => bytesOf value.write
  | none => bytesOf (description.textOr "stdout" "")

/-- The end of a probe. -/
def probeScript
    (names : FailureNames)
    (description : Json) :
    Outcome ProcessResult :=
  names.unlessRaised description {
    code := description.integerOr "code" 0
    output := probeOutput description
    errorOutput := bytesOf (description.textOr "stderr" "") }

/-- The answer of a remote address; it may break off. -/
def reply
    (names : FailureNames)
    (description : Json) :
    Outcome Reply :=
  names.unlessRaised description <|
    if description.isTrueAt "break" then
      { status := 200
        body := bytesOf "partial"
        broken := some (.reported .reading "connection reset by peer") }
    else
      { status := (description.integerOr "status" 200).toNat
        body := bytesOf (description.textOr "body" "")
        location := description.textAt? "location" }

/-- The answer of the address of a font. -/
def fontReply
    (names : FailureNames)
    (description : Json) :
    Outcome Reply :=
  names.unlessRaised description {
    status := (description.integerOr "status" 200).toNat
    body := Disk.zeros (description.integerOr "size" 2048) }

/-- The answers of the addresses of fonts, told by their names; a star stands
for all others. -/
def fontReplies
    (names : FailureNames)
    (description : Json) :
    List (String × Outcome Reply) :=
  (description.entries.filterMap fun entry =>
    (CatalogFont.find? entry.1).map fun font =>
      (font.address, names.fontReply entry.2)) ++
  (description.field? "*").toList.flatMap fun others =>
    CatalogFont.catalog.map fun font => (font.address, names.fontReply others)

/-- How a callback ends: by a status, or by a failure of a name. -/
def hookOutcome
    (names : FailureNames) :
    Json → Outcome Nat
  | .text name => .error (names.named name)
  | value => .ok (value.integer?.getD 200).toNat

/-- The free space: an amount, or a failure of a name. -/
def freeSpace
    (names : FailureNames) :
    Json → Outcome Amount
  | .text name => .error (names.named name)
  | value => .ok (value.amount?.getD Script.usualSpace)

/-- The script of a scenario. -/
def script
    (names : FailureNames)
    (scenario : Json) :
    Script where
  web :=
    ((scenario.member "web").items.map fun page =>
      (page.textOr "url" "", names.reply page)) ++
    names.fontReplies (scenario.member "downloads")
  probes := (scenario.member "probe").entries.map fun entry =>
    (entry.1, names.probeScript entry.2)
  encoder := names.encoderScript (scenario.member "ffmpeg")
  version := names.encoderScript (scenario.member "ffmpeg_version")
  sizes := (scenario.member "sizes").entries.filterMap fun entry =>
    entry.2.integer?.map fun size => (entry.1, size)
  freeSpace := names.freeSpace (scenario.member "disk_free")
  uploadFailure := (scenario.textAt? "storage_raises").map fun name =>
    names name "bucket unavailable"

end FailureNames

namespace Settings

/-- The storage that settings choose, with objects if it is a bucket. -/
def objectStorage
    (settings : Settings)
    (objects : Json) :
    ObjectStorage :=
  if settings.usesLocalStorage then
    .directory
      (.ofServer (.ofText settings.localStoragePath) settings.publicBaseUrl)
  else
    .remote {
      name := settings.bucketName
      project := settings.bucketProject
      publicBase :=
        Bucket.baseFor settings.bucketName settings.storagePublicBaseUrl
      objects := objects.entries.map fun object =>
        (object.1, bytesOf (object.2.text?.getD "")) }

/-- How long a record is not old. -/
def lifetime (settings : Settings) : Binary64 :=
  settings.jobLifetime.toBinary64.toOption.getD 0

/-- A registry without records. -/
def registry (settings : Settings) : Registry where
  limit := settings.maxConcurrentJobs
  highWater := settings.jobRegistryHighWater
  lifetime := settings.lifetime

/-- Where fonts are kept. -/
def fontShelf (settings : Settings) : FontShelf where
  directory := .ofText settings.fontsDirectory
  systemFont := settings.defaultFontPath

/-- Put stored objects on a disk, if they are kept there. -/
def withObjects
    (settings : Settings)
    (objects : Json)
    (disk : Disk) :
    Outcome Disk :=
  if settings.usesLocalStorage then
    let root := Path.ofText settings.localStoragePath
    (disk.withDirectory root).withFiles root objects
  else
    .ok disk

end Settings

/-- The clock of every scenario at its start. -/
def scenarioStart : Binary64 :=
  1000

/-- The world of a scenario with a disk, if its stored objects have room. -/
def scenarioWorld
    (names : FailureNames)
    (settings : Settings)
    (disk : Disk)
    (scenario : Json) :
    Outcome World := do
  let filled ← settings.withObjects (scenario.member "store") disk
  pure {
    script := names.script scenario
    shelf := settings.fontShelf
    storage := settings.objectStorage (scenario.member "store")
    disk :=
      filled.withFonts settings.fontShelf.directory (scenario.member "fonts")
    registry := settings.registry
    now := scenarioStart
    hooks := (scenario.member "hooks").items.map names.hookOutcome }

end Montage
