import Montage.Disk.Basic
import Montage.Json.Access

namespace Montage

/-!
# Files of a scenario

How the disk of a scenario is filled before it starts, and what is told of the
files below a directory.
-/

/-- Texts in their order. -/
def sortedTexts (texts : List String) : Json :=
  .ofTexts (texts.mergeSort fun left right => decide (left ≤ right))

namespace Disk

/-- Make a directory that is sure to be possible. -/
def withDirectory
    (disk : Disk)
    (path : Path) :
    Disk :=
  (disk.makeDirectories path).2

/-- Write a file after making the directories above it. -/
def writeBelow
    (disk : Disk)
    (path : Path)
    (content : Bytes) :
    Outcome Unit × Disk :=
  match disk.makeDirectories path.parent with
  | (.error failure, made) => (.error failure, made)
  | (.ok _, made) =>
      match made.write path content with
      | .ok written => (.ok (), written)
      | .error failure => (.error failure, made)

/-- Put a file in its place, with the directories above it. -/
def withFile
    (disk : Disk)
    (path : Path)
    (content : Bytes) :
    Disk :=
  (disk.writeBelow path content).2

/-- Put files below a directory; an object tells their texts by name, and two
files may stand in each other's way. -/
def withFiles
    (disk : Disk)
    (directory : Path)
    (files : Json) :
    Outcome Disk :=
  files.entries.foldlM
    (fun current file =>
      let written :=
        current.writeBelow (directory.join file.1)
          (bytesOf (file.2.text?.getD ""))
      written.1.map fun _ => written.2)
    disk

/-- A file of zeros. -/
def zeros (size : Int) : Bytes :=
  List.replicate size.toNat 0

/-- Put font files below a directory; an object tells their sizes by name. -/
def withFonts
    (disk : Disk)
    (directory : Path)
    (fonts : Json) :
    Disk :=
  fonts.entries.foldl
    (fun current font =>
      current.withFile (directory.join (font.1 ++ ".ttf"))
        (zeros (font.2.integer?.getD 0)))
    disk

/-- What stands below a path by relative names; a directory that is empty has
a slash at the end of its name. -/
def below
    (disk : Disk)
    (path : Path) :
    List (String × Option Bytes) :=
  match disk.locate path with
  | .error _ => []
  | .ok place =>
      (disk.listing place).map fun item =>
        let name := "/".intercalate item.1
        (if item.2.isSome then name else name ++ "/", item.2)

/-- The texts of all files below a path. -/
def fileMap
    (disk : Disk)
    (path : Path) :
    Json :=
  .object <| (disk.below path).map fun item =>
    (item.1, .ofText? (item.2.map textOf))

/-- The names of all files below a path. -/
def fileNames
    (disk : Disk)
    (path : Path) :
    Json :=
  sortedTexts ((disk.below path).map Prod.fst)

end Disk

end Montage
