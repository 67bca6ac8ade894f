import Montage.Disk.Basic
import Montage.Storage.Key

namespace Montage

/-!
# Storage in a directory

Objects are files below a directory. A key is the path of its file from there;
a key that would lead out of the directory is refused before anything is
touched.
-/

/-- A path without double dots, as far as it can be told without the disk. -/
def Path.plainParts (path : Path) : List String :=
  path.parts.foldl
    (fun parts part => if part = ".." then parts.dropLast else parts ++ [part])
    []

/-- Whether a path leads to a directory or below it. -/
def Path.isWithin (path directory : Path) : Bool :=
  directory.plainParts.isPrefixOf path.plainParts

/-- A path as messages about copies show it. -/
def Path.shown (path : Path) : String :=
  "PosixPath(" ++ quoted path.toText ++ ")"

/-- A directory of objects, and the base of their public addresses. -/
structure LocalStorage where
  root : Path
  publicBase : String

namespace LocalStorage

/-- The storage of a directory whose server has an address. -/
def ofServer
    (root : Path)
    (serverAddress : String) :
    LocalStorage where
  root := root
  publicBase := withoutFinalSlashes serverAddress ++ "/storage"

/-- The file of a key. -/
def file
    (storage : LocalStorage)
    (key : String) :
    Path :=
  storage.root.join key

/-- Check a key and make the directories above its file. -/
def prepare
    (storage : LocalStorage)
    (disk : Disk)
    (key : String) :
    Outcome Path × Disk :=
  let file := storage.file key
  match file.refusal? with
  | some failure => (.error failure, disk)
  | none =>
      if !file.isWithin storage.root then
        (.error (.keyOutsideStorage key), disk)
      else
        match disk.makeDirectories file.parent with
        | (.ok _, made) => (.ok file, made)
        | (.error failure, made) => (.error failure, made)

/-- Go on with the disk of a copy, or with the disk before it. -/
def copied
    (copy : Outcome Disk)
    (before : Disk) :
    Outcome Unit × Disk :=
  match copy with
  | .ok after => (.ok (), after)
  | .error failure => (.error failure, before)

/-- Copy an object into a file. -/
def download
    (storage : LocalStorage)
    (disk : Disk)
    (key : String)
    (destination : Path) :
    Outcome Unit × Disk :=
  match storage.prepare disk key with
  | (.error failure, made) => (.error failure, made)
  | (.ok file, made) =>
      copied
        (made.copy file destination
          (.sameFile file.shown (quoted destination.toText)))
        made

/-- Store a file under a key and tell the public address. -/
def upload
    (storage : LocalStorage)
    (disk : Disk)
    (source : Path)
    (key : String) :
    Outcome String × Disk :=
  match storage.prepare disk key with
  | (.error failure, made) => (.error failure, made)
  | (.ok file, made) =>
      let result :=
        copied
          (made.copy source file
            (.sameFile (quoted source.toText) file.shown))
          made
      (result.1.map fun _ => publicAddress storage.publicBase key, result.2)

/-- Whether there is an object of a key. -/
def holds
    (storage : LocalStorage)
    (disk : Disk)
    (key : String) :
    Outcome Bool × Disk :=
  match storage.prepare disk key with
  | (.error failure, made) => (.error failure, made)
  | (.ok file, made) => (made.holds file, made)

end LocalStorage

end Montage
